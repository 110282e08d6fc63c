import EntityForge.Text.CharacterName.Run

/-! # Names of letters of Asia

The names of the letters of Armenian, the Semitic scripts, and the scripts from Devanagari to
Burmese.
-/

namespace EntityForge.NameRun

/-- The names from 531 on, in runs. -/
def asianFrom531 : List NameRun := [
  ⟨0x0531, ["ARMENIAN CAPITAL LETTER"], "AYB;BEN;GIM;DA;ECH;ZA;EH;ET;TO;ZHE;INI;LIWN;XEH;CA;KEN;" ++
    "HO;JA;GHAD;CHEH;MEN;YI;NOW;SHA;VO;CHA;PEH;JHEH;RA;SEH;VEW;TIWN;REH;CO;YIWN;PIWR;KEH;OH;FEH"⟩,
  ⟨0x0559, ["ARMENIAN"], "MODIFIER LETTER LEFT HALF RING;APOSTROPHE;EMPHASIS MARK;" ++
    "EXCLAMATION MARK;COMMA;QUESTION MARK;ABBREVIATION MARK"⟩,
  ⟨0x0560, ["ARMENIAN SMALL LETTER"], "TURNED AYB;AYB;BEN;GIM;DA;ECH;ZA;EH;ET;TO;ZHE;INI;LIWN;" ++
    "XEH;CA;KEN;HO;JA;GHAD;CHEH;MEN;YI;NOW;SHA;VO;CHA;PEH;JHEH;RA;SEH;VEW;TIWN;REH;CO;YIWN;PIWR;" ++
    "KEH;OH;FEH"⟩,
  ⟨0x0587, ["ARMENIAN"], "SMALL LIGATURE ECH YIWN;SMALL LETTER YI WITH STROKE;FULL STOP;HYPHEN"⟩,
  ⟨0x058D, ["RIGHT-FACING", "LEFT-FACING"], "ARMENIAN ETERNITY SIGN"⟩,
  ⟨0x058F, ["ARMENIAN DRAM"], "SIGN"⟩,
  ⟨0x0591, ["HEBREW ACCENT"], "ETNAHTA;SEGOL;SHALSHELET;ZAQEF QATAN;ZAQEF GADOL;TIPEHA;REVIA;" ++
    "ZARQA;PASHTA;YETIV;TEVIR;GERESH;GERESH MUQDAM;GERSHAYIM;QARNEY PARA;TELISHA GEDOLA;PAZER;" ++
    "ATNAH HAFUKH;MUNAH;MAHAPAKH;MERKHA;MERKHA KEFULA;DARGA;QADMA;TELISHA QETANA;YERAH BEN YOMO;" ++
    "OLE;ILUY;DEHI;ZINOR"⟩, ⟨0x05AF, ["HEBREW MARK MASORA"], "CIRCLE"⟩,
  ⟨0x05B0, ["HEBREW POINT"], "SHEVA;HATAF SEGOL;HATAF PATAH;HATAF QAMATS;HIRIQ;TSERE;SEGOL;" ++
    "PATAH;QAMATS;HOLAM;HOLAM HASER FOR VAV;QUBUTS;DAGESH OR MAPIQ;METEG"⟩,
  ⟨0x05BE, ["HEBREW"], "PUNCTUATION MAQAF;POINT RAFE;PUNCTUATION PASEQ;POINT SHIN DOT;" ++
    "POINT SIN DOT;PUNCTUATION SOF PASUQ;MARK UPPER DOT;MARK LOWER DOT;PUNCTUATION NUN HAFUKHA;" ++
    "POINT QAMATS QATAN"⟩, ⟨0x05EF, ["HEBREW YOD"], "TRIANGLE"⟩,
  ⟨0x05F0, ["HEBREW LIGATURE YIDDISH"], "DOUBLE VAV;VAV YOD;DOUBLE YOD"⟩,
  ⟨0x05F3, ["HEBREW PUNCTUATION"], "GERESH;GERSHAYIM"⟩,
  ⟨0x0600, ["ARABIC"], "NUMBER SIGN;SIGN SANAH;FOOTNOTE MARKER;SIGN SAFHA;SIGN SAMVAT;" ++
    "NUMBER MARK ABOVE"⟩,
  ⟨0x0606, [""], "ARABIC-INDIC CUBE ROOT;ARABIC-INDIC FOURTH ROOT;ARABIC RAY;" ++
    "ARABIC-INDIC PER MILLE SIGN;ARABIC-INDIC PER TEN THOUSAND SIGN;AFGHANI SIGN"⟩,
  ⟨0x060C, ["ARABIC"], "COMMA;DATE SEPARATOR;POETIC VERSE SIGN;SIGN MISRA;" ++
    "SIGN SALLALLAHOU ALAYHE WASSALLAM;SIGN ALAYHE ASSALLAM;SIGN RAHMATULLAH ALAYHE;" ++
    "SIGN RADI ALLAHOU ANHU;SIGN TAKHALLUS;SMALL HIGH TAH;" ++
    "SMALL HIGH LIGATURE ALEF WITH LAM WITH YEH;SMALL HIGH ZAIN;SMALL FATHA;SMALL DAMMA;" ++
    "SMALL KASRA;SEMICOLON;LETTER MARK;END OF TEXT MARK;TRIPLE DOT PUNCTUATION MARK;" ++
    "QUESTION MARK;LETTER KASHMIRI YEH"⟩,
  ⟨0x064B, ["ARABIC"], "FATHATAN;DAMMATAN;KASRATAN;FATHA;DAMMA;KASRA;SHADDA;SUKUN;MADDAH ABOVE;" ++
    "HAMZA ABOVE;HAMZA BELOW;SUBSCRIPT ALEF;INVERTED DAMMA;MARK NOON GHUNNA;ZWARAKAY;" ++
    "VOWEL SIGN SMALL V ABOVE;VOWEL SIGN INVERTED SMALL V ABOVE;VOWEL SIGN DOT BELOW;" ++
    "REVERSED DAMMA;FATHA WITH TWO DOTS;WAVY HAMZA BELOW"⟩,
  ⟨0x0660, ["ARABIC-INDIC DIGIT"], "ZERO;ONE;TWO;THREE;FOUR;FIVE;SIX;SEVEN;EIGHT;NINE"⟩,
  ⟨0x066A, ["ARABIC"], "PERCENT SIGN;DECIMAL SEPARATOR;THOUSANDS SEPARATOR;FIVE POINTED STAR"⟩,
  ⟨0x066E, ["ARABIC LETTER"], "DOTLESS BEH;DOTLESS QAF;SUPERSCRIPT ALEF;ALEF WASLA;" ++
    "ALEF WITH WAVY HAMZA ABOVE;ALEF WITH WAVY HAMZA BELOW;HIGH HAMZA;HIGH HAMZA ALEF;" ++
    "HIGH HAMZA WAW;U WITH HAMZA ABOVE;HIGH HAMZA YEH;TTEH;TTEHEH;BEEH;TEH WITH RING;" ++
    "TEH WITH THREE DOTS ABOVE DOWNWARDS;PEH;TEHEH;BEHEH;HAH WITH HAMZA ABOVE;" ++
    "HAH WITH TWO DOTS VERTICAL ABOVE;NYEH;DYEH;HAH WITH THREE DOTS ABOVE;TCHEH;TCHEHEH;DDAL;" ++
    "DAL WITH RING;DAL WITH DOT BELOW;DAL WITH DOT BELOW AND SMALL TAH;DAHAL;DDAHAL;DUL;" ++
    "DAL WITH THREE DOTS ABOVE DOWNWARDS;DAL WITH FOUR DOTS ABOVE;RREH;REH WITH SMALL V;" ++
    "REH WITH RING;REH WITH DOT BELOW;REH WITH SMALL V BELOW;REH WITH DOT BELOW AND DOT ABOVE;" ++
    "REH WITH TWO DOTS ABOVE;JEH;REH WITH FOUR DOTS ABOVE;SEEN WITH DOT BELOW AND DOT ABOVE;" ++
    "SEEN WITH THREE DOTS BELOW;SEEN WITH THREE DOTS BELOW AND THREE DOTS ABOVE;" ++
    "SAD WITH TWO DOTS BELOW;SAD WITH THREE DOTS ABOVE;TAH WITH THREE DOTS ABOVE;" ++
    "AIN WITH THREE DOTS ABOVE;DOTLESS FEH;FEH WITH DOT MOVED BELOW;FEH WITH DOT BELOW;VEH;" ++
    "FEH WITH THREE DOTS BELOW;PEHEH;QAF WITH DOT ABOVE;QAF WITH THREE DOTS ABOVE;KEHEH;" ++
    "SWASH KAF;KAF WITH RING;KAF WITH DOT ABOVE;NG;KAF WITH THREE DOTS BELOW;GAF;GAF WITH RING;" ++
    "NGOEH;GAF WITH TWO DOTS BELOW;GUEH;GAF WITH THREE DOTS ABOVE;LAM WITH SMALL V;" ++
    "LAM WITH DOT ABOVE;LAM WITH THREE DOTS ABOVE;LAM WITH THREE DOTS BELOW;NOON WITH DOT BELOW;" ++
    "NOON GHUNNA;RNOON;NOON WITH RING;NOON WITH THREE DOTS ABOVE;HEH DOACHASHMEE;" ++
    "TCHEH WITH DOT ABOVE;HEH WITH YEH ABOVE;HEH GOAL;HEH GOAL WITH HAMZA ABOVE;" ++
    "TEH MARBUTA GOAL;WAW WITH RING;KIRGHIZ OE;OE;U;YU;KIRGHIZ YU;WAW WITH TWO DOTS ABOVE;VE;" ++
    "FARSI YEH;YEH WITH TAIL;YEH WITH SMALL V;WAW WITH DOT ABOVE;E;YEH WITH THREE DOTS BELOW;" ++
    "YEH BARREE;YEH BARREE WITH HAMZA ABOVE"⟩, ⟨0x06D4, ["ARABIC"], "FULL STOP;LETTER AE"⟩,
  ⟨0x06D6, ["ARABIC SMALL HIGH"], "LIGATURE SAD WITH LAM WITH ALEF MAKSURA;" ++
    "LIGATURE QAF WITH LAM WITH ALEF MAKSURA;MEEM INITIAL FORM;LAM ALEF;JEEM;THREE DOTS;SEEN"⟩,
  ⟨0x06DD, ["ARABIC"], "END OF AYAH;START OF RUB EL HIZB"⟩,
  ⟨0x06DF, ["ARABIC SMALL"], "HIGH ROUNDED ZERO;HIGH UPRIGHT RECTANGULAR ZERO;" ++
    "HIGH DOTLESS HEAD OF KHAH;HIGH MEEM ISOLATED FORM;LOW SEEN;HIGH MADDA;WAW;YEH;HIGH YEH;" ++
    "HIGH NOON"⟩,
  ⟨0x06E9, ["ARABIC"], "PLACE OF SAJDAH;EMPTY CENTRE LOW STOP;EMPTY CENTRE HIGH STOP;" ++
    "ROUNDED HIGH STOP WITH FILLED CENTRE;SMALL LOW MEEM;LETTER DAL WITH INVERTED V;" ++
    "LETTER REH WITH INVERTED V"⟩,
  ⟨0x06F0, ["EXTENDED ARABIC-INDIC DIGIT"], "ZERO;ONE;TWO;THREE;FOUR;FIVE;SIX;SEVEN;EIGHT;NINE"⟩,
  ⟨0x06FA, ["ARABIC"], "LETTER SHEEN WITH DOT BELOW;LETTER DAD WITH DOT BELOW;" ++
    "LETTER GHAIN WITH DOT BELOW;SIGN SINDHI AMPERSAND;SIGN SINDHI POSTPOSITION MEN;" ++
    "LETTER HEH WITH INVERTED V"⟩,
  ⟨0x0700, ["SYRIAC"], "END OF PARAGRAPH;SUPRALINEAR FULL STOP;SUBLINEAR FULL STOP;" ++
    "SUPRALINEAR COLON;SUBLINEAR COLON;HORIZONTAL COLON;COLON SKEWED LEFT;COLON SKEWED RIGHT;" ++
    "SUPRALINEAR COLON SKEWED LEFT;SUBLINEAR COLON SKEWED RIGHT;CONTRACTION;HARKLEAN OBELUS;" ++
    "HARKLEAN METOBELUS;HARKLEAN ASTERISCUS"⟩, ⟨0x070F, ["SYRIAC ABBREVIATION"], "MARK"⟩,
  ⟨0x0710, ["SYRIAC LETTER"], "ALAPH;SUPERSCRIPT ALAPH;BETH;GAMAL;GAMAL GARSHUNI;DALATH;" ++
    "DOTLESS DALATH RISH;HE;WAW;ZAIN;HETH;TETH;TETH GARSHUNI;YUDH;YUDH HE;KAPH;LAMADH;MIM;NUN;" ++
    "SEMKATH;FINAL SEMKATH;E;PE;REVERSED PE;SADHE;QAPH;RISH;SHIN;TAW;PERSIAN BHETH;" ++
    "PERSIAN GHAMAL;PERSIAN DHALATH"⟩,
  ⟨0x0730, ["SYRIAC"], "PTHAHA ABOVE;PTHAHA BELOW;PTHAHA DOTTED;ZQAPHA ABOVE;ZQAPHA BELOW;" ++
    "ZQAPHA DOTTED;RBASA ABOVE;RBASA BELOW;DOTTED ZLAMA HORIZONTAL;DOTTED ZLAMA ANGULAR;" ++
    "HBASA ABOVE;HBASA BELOW;HBASA-ESASA DOTTED;ESASA ABOVE;ESASA BELOW;RWAHA;FEMININE DOT;" ++
    "QUSHSHAYA;RUKKAKHA;TWO VERTICAL DOTS ABOVE;TWO VERTICAL DOTS BELOW;THREE DOTS ABOVE;" ++
    "THREE DOTS BELOW;OBLIQUE LINE ABOVE;OBLIQUE LINE BELOW;MUSIC;BARREKH"⟩,
  ⟨0x074D, ["SYRIAC LETTER SOGDIAN"], "ZHAIN;KHAPH;FE"⟩,
  ⟨0x0750, ["ARABIC LETTER BEH WITH"], "THREE DOTS HORIZONTALLY BELOW;" ++
    "DOT BELOW AND THREE DOTS ABOVE;THREE DOTS POINTING UPWARDS BELOW;" ++
    "THREE DOTS POINTING UPWARDS BELOW AND TWO DOTS ABOVE;TWO DOTS BELOW AND DOT ABOVE;" ++
    "INVERTED SMALL V BELOW;SMALL V"⟩,
  ⟨0x0757, ["ARABIC LETTER"], "HAH WITH TWO DOTS ABOVE;" ++
    "HAH WITH THREE DOTS POINTING UPWARDS BELOW;" ++
    "DAL WITH TWO DOTS VERTICALLY BELOW AND SMALL TAH;DAL WITH INVERTED SMALL V BELOW;" ++
    "REH WITH STROKE;SEEN WITH FOUR DOTS ABOVE;AIN WITH TWO DOTS ABOVE;" ++
    "AIN WITH THREE DOTS POINTING DOWNWARDS ABOVE;AIN WITH TWO DOTS VERTICALLY ABOVE;" ++
    "FEH WITH TWO DOTS BELOW;FEH WITH THREE DOTS POINTING UPWARDS BELOW;KEHEH WITH DOT ABOVE;" ++
    "KEHEH WITH THREE DOTS ABOVE;KEHEH WITH THREE DOTS POINTING UPWARDS BELOW;" ++
    "MEEM WITH DOT ABOVE;MEEM WITH DOT BELOW;NOON WITH TWO DOTS BELOW;NOON WITH SMALL TAH;" ++
    "NOON WITH SMALL V;LAM WITH BAR;REH WITH TWO DOTS VERTICALLY ABOVE;REH WITH HAMZA ABOVE;" ++
    "SEEN WITH TWO DOTS VERTICALLY ABOVE;HAH WITH SMALL ARABIC LETTER TAH BELOW;" ++
    "HAH WITH SMALL ARABIC LETTER TAH AND TWO DOTS;" ++
    "SEEN WITH SMALL ARABIC LETTER TAH AND TWO DOTS;" ++
    "REH WITH SMALL ARABIC LETTER TAH AND TWO DOTS;HAH WITH SMALL ARABIC LETTER TAH ABOVE"⟩,
  ⟨0x0773, ["ARABIC LETTER ALEF WITH EXTENDED ARABIC-INDIC DIGIT"], "TWO ABOVE;THREE ABOVE"⟩,
  ⟨0x0775, ["ARABIC LETTER FARSI YEH WITH EXTENDED ARABIC-INDIC DIGIT"], "TWO ABOVE;THREE ABOVE;" ++
    "FOUR BELOW"⟩,
  ⟨0x0778, ["ARABIC LETTER WAW WITH EXTENDED ARABIC-INDIC DIGIT"], "TWO ABOVE;THREE ABOVE"⟩,
  ⟨0x077A, ["ARABIC LETTER YEH BARREE WITH EXTENDED ARABIC-INDIC DIGIT"], "TWO ABOVE;THREE ABOVE"⟩,
  ⟨0x077C, ["ARABIC LETTER"], "HAH WITH EXTENDED ARABIC-INDIC DIGIT FOUR BELOW;" ++
    "SEEN WITH EXTENDED ARABIC-INDIC DIGIT FOUR ABOVE;SEEN WITH INVERTED V;" ++
    "KAF WITH TWO DOTS ABOVE"⟩,
  ⟨0x0780, ["THAANA LETTER"], "HAA;SHAVIYANI;NOONU;RAA;BAA;LHAVIYANI;KAAFU;ALIFU;VAAVU;MEEMU;" ++
    "FAAFU;DHAALU;THAA;LAAMU;GAAFU;GNAVIYANI;SEENU;DAVIYANI;ZAVIYANI;TAVIYANI;YAA;PAVIYANI;" ++
    "JAVIYANI;CHAVIYANI;TTAA;HHAA;KHAA;THAALU;ZAA;SHEENU;SAADHU;DAADHU;TO;ZO;AINU;GHAINU;QAAFU;" ++
    "WAAVU"⟩,
  ⟨0x07A6, ["THAANA"], "ABAFILI;AABAAFILI;IBIFILI;EEBEEFILI;UBUFILI;OOBOOFILI;EBEFILI;EYBEYFILI;" ++
    "OBOFILI;OABOAFILI;SUKUN;LETTER NAA"⟩,
  ⟨0x07C0, ["NKO DIGIT"], "ZERO;ONE;TWO;THREE;FOUR;FIVE;SIX;SEVEN;EIGHT;NINE"⟩,
  ⟨0x07CA, ["NKO LETTER"], "A;EE;I;E;U;OO;O;DAGBASINNA;N;BA;PA;TA;JA;CHA;DA;RA;RRA;SA;GBA;FA;KA;" ++
    "LA;NA WOLOSO;MA;NYA;NA;HA;WA;YA;NYA WOLOSO;JONA JA;JONA CHA;JONA RA"⟩,
  ⟨0x07EB, ["NKO COMBINING"], "SHORT HIGH TONE;SHORT LOW TONE;SHORT RISING TONE;" ++
    "LONG DESCENDING TONE;LONG HIGH TONE;LONG LOW TONE;LONG RISING TONE;NASALIZATION MARK;" ++
    "DOUBLE DOT ABOVE"⟩,
  ⟨0x07F4, ["NKO"], "HIGH TONE APOSTROPHE;LOW TONE APOSTROPHE;SYMBOL OO DENNEN;" ++
    "SYMBOL GBAKURUNEN;COMMA;EXCLAMATION MARK;LAJANYALAN"⟩,
  ⟨0x07FD, ["NKO"], "DANTAYALAN;DOROME SIGN;TAMAN SIGN"⟩,
  ⟨0x0800, ["SAMARITAN LETTER"], "ALAF;BIT;GAMAN;DALAT;IY;BAA;ZEN;IT;TIT;YUT;KAAF;LABAT;MIM;NUN;" ++
    "SINGAAT;IN;FI;TSAADIY;QUF;RISH;SHAN;TAAF"⟩,
  ⟨0x0816, ["SAMARITAN"], "MARK IN;MARK IN-ALAF;MARK OCCLUSION;MARK DAGESH;" ++
    "MODIFIER LETTER EPENTHETIC YUT;MARK EPENTHETIC YUT"⟩,
  ⟨0x081C, ["SAMARITAN VOWEL SIGN"], "LONG E;E;OVERLONG AA;LONG AA;AA;OVERLONG A;LONG A;A"⟩,
  ⟨0x0824, ["SAMARITAN"], "MODIFIER LETTER SHORT A;VOWEL SIGN SHORT A;VOWEL SIGN LONG U;" ++
    "VOWEL SIGN U;MODIFIER LETTER I;VOWEL SIGN LONG I;VOWEL SIGN I;VOWEL SIGN O;" ++
    "VOWEL SIGN SUKUN;MARK NEQUDAA"⟩,
  ⟨0x0830, ["SAMARITAN PUNCTUATION"], "NEQUDAA;AFSAAQ;ANGED;BAU;ATMAAU;SHIYYAALAA"⟩,
  ⟨0x0836, ["SAMARITAN ABBREVIATION"], "MARK"⟩,
  ⟨0x0837, ["SAMARITAN PUNCTUATION"], "MELODIC QITSA;ZIQAA;QITSA;ZAEF;TURU;ARKAANU;SOF MASHFAAT;" ++
    "ANNAAU"⟩,
  ⟨0x0840, ["MANDAIC LETTER"], "HALQA;AB;AG;AD;AH;USHENNA;AZ;IT;ATT;AKSA;AK;AL;AM;AN;AS;IN;AP;" ++
    "ASZ;AQ;AR;ASH;AT;DUSHENNA;KAD;AIN"⟩,
  ⟨0x0859, ["MANDAIC"], "AFFRICATION MARK;VOCALIZATION MARK;GEMINATION MARK"⟩,
  ⟨0x085E, ["MANDAIC"], "PUNCTUATION"⟩,
  ⟨0x0860, ["SYRIAC LETTER MALAYALAM"], "NGA;JA;NYA;TTA;NNA;NNNA;BHA;RA;LLA;LLLA;SSA"⟩,
  ⟨0x0870, ["ARABIC LETTER ALEF WITH"], "ATTACHED FATHA;ATTACHED TOP RIGHT FATHA;" ++
    "RIGHT MIDDLE STROKE;LEFT MIDDLE STROKE;ATTACHED KASRA;ATTACHED BOTTOM RIGHT KASRA;" ++
    "ATTACHED ROUND DOT ABOVE;ATTACHED RIGHT ROUND DOT;ATTACHED LEFT ROUND DOT;" ++
    "ATTACHED ROUND DOT BELOW;DOT ABOVE;ATTACHED TOP RIGHT FATHA AND DOT ABOVE;" ++
    "RIGHT MIDDLE STROKE AND DOT ABOVE;ATTACHED BOTTOM RIGHT KASRA AND DOT ABOVE;" ++
    "ATTACHED TOP RIGHT FATHA AND LEFT RING;RIGHT MIDDLE STROKE AND LEFT RING;" ++
    "ATTACHED BOTTOM RIGHT KASRA AND LEFT RING;ATTACHED RIGHT HAMZA;ATTACHED LEFT HAMZA"⟩,
  ⟨0x0883, ["ARABIC TATWEEL WITH"], "OVERSTRUCK HAMZA;OVERSTRUCK WAW;TWO DOTS BELOW"⟩,
  ⟨0x0886, ["ARABIC"], "LETTER THIN YEH;BASELINE ROUND DOT;RAISED ROUND DOT;" ++
    "LETTER NOON WITH INVERTED SMALL V;LETTER HAH WITH INVERTED SMALL V BELOW;" ++
    "LETTER TAH WITH DOT BELOW;LETTER TAH WITH THREE DOTS BELOW;" ++
    "LETTER KEHEH WITH TWO DOTS VERTICALLY BELOW;VERTICAL TAIL"⟩,
  ⟨0x0890, ["ARABIC POUND", "ARABIC PIASTRE"], "MARK ABOVE"⟩,
  ⟨0x0898, ["ARABIC"], "SMALL HIGH WORD AL-JUZ;SMALL LOW WORD ISHMAAM;SMALL LOW WORD IMAALA;" ++
    "SMALL LOW WORD TASHEEL;MADDA WAAJIB;SUPERSCRIPT ALEF MOKHASSAS;DOUBLED MADDA;" ++
    "HALF MADDA OVER MADDA"⟩,
  ⟨0x08A0, ["ARABIC LETTER"], "BEH WITH SMALL V BELOW;BEH WITH HAMZA ABOVE;" ++
    "JEEM WITH TWO DOTS ABOVE;TAH WITH TWO DOTS ABOVE;FEH WITH DOT BELOW AND THREE DOTS ABOVE;" ++
    "QAF WITH DOT BELOW;LAM WITH DOUBLE BAR;MEEM WITH THREE DOTS ABOVE;" ++
    "YEH WITH TWO DOTS BELOW AND HAMZA ABOVE;YEH WITH TWO DOTS BELOW AND DOT ABOVE;" ++
    "REH WITH LOOP;WAW WITH DOT WITHIN;ROHINGYA YEH;LOW ALEF;DAL WITH THREE DOTS BELOW;" ++
    "SAD WITH THREE DOTS BELOW;GAF WITH INVERTED STROKE;STRAIGHT WAW;ZAIN WITH INVERTED V ABOVE;" ++
    "AIN WITH THREE DOTS BELOW;KAF WITH DOT BELOW;QAF WITH DOT BELOW AND NO DOTS ABOVE;" ++
    "BEH WITH SMALL MEEM ABOVE;PEH WITH SMALL MEEM ABOVE;TEH WITH SMALL TEH ABOVE;" ++
    "REH WITH SMALL NOON ABOVE;YEH WITH TWO DOTS BELOW AND SMALL NOON ABOVE;AFRICAN FEH;" ++
    "AFRICAN QAF;AFRICAN NOON;PEH WITH SMALL V;TEH WITH SMALL V;TTEH WITH SMALL V;" ++
    "TCHEH WITH SMALL V;KEHEH WITH SMALL V;GHAIN WITH THREE DOTS ABOVE;" ++
    "AFRICAN QAF WITH THREE DOTS ABOVE;JEEM WITH THREE DOTS ABOVE;JEEM WITH THREE DOTS BELOW;" ++
    "LAM WITH SMALL ARABIC LETTER TAH ABOVE;GRAF"⟩,
  ⟨0x08C9, ["ARABIC SMALL"], "FARSI YEH;HIGH FARSI YEH;HIGH YEH BARREE WITH TWO DOTS BELOW;" ++
    "HIGH WORD SAH;HIGH ZAH"⟩,
  ⟨0x08CE, ["ARABIC"], "LARGE ROUND DOT ABOVE;LARGE ROUND DOT BELOW;SUKUN BELOW;" ++
    "LARGE CIRCLE BELOW;LARGE ROUND DOT INSIDE CIRCLE BELOW"⟩,
  ⟨0x08D3, ["ARABIC SMALL"], "LOW WAW;HIGH WORD AR-RUB;HIGH SAD;HIGH AIN;HIGH QAF;" ++
    "HIGH NOON WITH KASRA;LOW NOON WITH KASRA"⟩,
  ⟨0x08DA, ["ARABIC SMALL HIGH WORD"], "ATH-THALATHA;AS-SAJDA;AN-NISF;SAKTA;QIF;WAQFA"⟩,
  ⟨0x08E0, ["ARABIC"], "SMALL HIGH FOOTNOTE MARKER;SMALL HIGH SIGN SAFHA;DISPUTED END OF AYAH;" ++
    "TURNED DAMMA BELOW;CURLY FATHA;CURLY DAMMA;CURLY KASRA;CURLY FATHATAN;CURLY DAMMATAN;" ++
    "CURLY KASRATAN;TONE ONE DOT ABOVE;TONE TWO DOTS ABOVE;TONE LOOP ABOVE;TONE ONE DOT BELOW;" ++
    "TONE TWO DOTS BELOW;TONE LOOP BELOW;OPEN FATHATAN;OPEN DAMMATAN;OPEN KASRATAN;" ++
    "SMALL HIGH WAW;FATHA WITH RING;FATHA WITH DOT ABOVE;KASRA WITH DOT BELOW;" ++
    "LEFT ARROWHEAD ABOVE;RIGHT ARROWHEAD ABOVE;LEFT ARROWHEAD BELOW;RIGHT ARROWHEAD BELOW;" ++
    "DOUBLE RIGHT ARROWHEAD ABOVE;DOUBLE RIGHT ARROWHEAD ABOVE WITH DOT;" ++
    "RIGHT ARROWHEAD ABOVE WITH DOT;DAMMA WITH DOT;MARK SIDEWAYS NOON GHUNNA"⟩,
  ⟨0x0900, ["DEVANAGARI SIGN"], "INVERTED CANDRABINDU;CANDRABINDU;ANUSVARA;VISARGA"⟩,
  ⟨0x0904, ["DEVANAGARI LETTER"], "SHORT A;A;AA;I;II;U;UU;VOCALIC R;VOCALIC L;CANDRA E;SHORT E;" ++
    "E;AI;CANDRA O;SHORT O;O;AU;KA;KHA;GA;GHA;NGA;CA;CHA;JA;JHA;NYA;TTA;TTHA;DDA;DDHA;NNA;TA;" ++
    "THA;DA;DHA;NA;NNNA;PA;PHA;BA;BHA;MA;YA;RA;RRA;LA;LLA;LLLA;VA;SHA;SSA;SA;HA"⟩,
  ⟨0x093A, ["DEVANAGARI"], "VOWEL SIGN OE;VOWEL SIGN OOE;SIGN NUKTA;SIGN AVAGRAHA"⟩,
  ⟨0x093E, ["DEVANAGARI VOWEL SIGN"], "AA;I;II;U;UU;VOCALIC R;VOCALIC RR;CANDRA E;SHORT E;E;AI;" ++
    "CANDRA O;SHORT O;O;AU"⟩,
  ⟨0x094D, ["DEVANAGARI"], "SIGN VIRAMA;VOWEL SIGN PRISHTHAMATRA E;VOWEL SIGN AW;OM;" ++
    "STRESS SIGN UDATTA;STRESS SIGN ANUDATTA;GRAVE ACCENT;ACUTE ACCENT;VOWEL SIGN CANDRA LONG E;" ++
    "VOWEL SIGN UE;VOWEL SIGN UUE"⟩,
  ⟨0x0958, ["DEVANAGARI LETTER"], "QA;KHHA;GHHA;ZA;DDDHA;RHA;FA;YYA;VOCALIC RR;VOCALIC LL"⟩,
  ⟨0x0962, ["DEVANAGARI"], "VOWEL SIGN VOCALIC L;VOWEL SIGN VOCALIC LL;DANDA;DOUBLE DANDA"⟩,
  ⟨0x0966, ["DEVANAGARI DIGIT"], "ZERO;ONE;TWO;THREE;FOUR;FIVE;SIX;SEVEN;EIGHT;NINE"⟩,
  ⟨0x0970, ["DEVANAGARI"], "ABBREVIATION SIGN;SIGN HIGH SPACING DOT"⟩,
  ⟨0x0972, ["DEVANAGARI LETTER"], "CANDRA A;OE;OOE;AW;UE;UUE;MARWARI DDA;ZHA;HEAVY YA;GGA;JJA;" ++
    "GLOTTAL STOP;DDDA;BBA"⟩,
  ⟨0x0980, ["BENGALI"], "ANJI;SIGN CANDRABINDU;SIGN ANUSVARA;SIGN VISARGA"⟩,
  ⟨0x0985, ["BENGALI LETTER"], "A;AA;I;II;U;UU;VOCALIC R;VOCALIC L"⟩,
  ⟨0x098F, ["BENGALI LETTER"], "E;AI"⟩,
  ⟨0x0993, ["BENGALI LETTER"], "O;AU;KA;KHA;GA;GHA;NGA;CA;CHA;JA;JHA;NYA;TTA;TTHA;DDA;DDHA;NNA;" ++
    "TA;THA;DA;DHA;NA"⟩, ⟨0x09AA, ["BENGALI LETTER"], "PA;PHA;BA;BHA;MA;YA;RA"⟩,
  ⟨0x09B2, ["BENGALI LETTER"], "LA"⟩, ⟨0x09B6, ["BENGALI LETTER"], "SHA;SSA;SA;HA"⟩,
  ⟨0x09BC, ["BENGALI SIGN"], "NUKTA;AVAGRAHA"⟩,
  ⟨0x09BE, ["BENGALI VOWEL SIGN"], "AA;I;II;U;UU;VOCALIC R;VOCALIC RR"⟩,
  ⟨0x09C7, ["BENGALI VOWEL SIGN"], "E;AI"⟩,
  ⟨0x09CB, ["BENGALI"], "VOWEL SIGN O;VOWEL SIGN AU;SIGN VIRAMA;LETTER KHANDA TA"⟩,
  ⟨0x09D7, ["BENGALI AU LENGTH"], "MARK"⟩, ⟨0x09DC, ["BENGALI LETTER"], "RRA;RHA"⟩,
  ⟨0x09DF, ["BENGALI LETTER"], "YYA;VOCALIC RR;VOCALIC LL"⟩,
  ⟨0x09E2, ["BENGALI VOWEL SIGN VOCALIC"], "L;LL"⟩,
  ⟨0x09E6, ["BENGALI DIGIT"], "ZERO;ONE;TWO;THREE;FOUR;FIVE;SIX;SEVEN;EIGHT;NINE"⟩,
  ⟨0x09F0, ["BENGALI"], "LETTER RA WITH MIDDLE DIAGONAL;LETTER RA WITH LOWER DIAGONAL;" ++
    "RUPEE MARK;RUPEE SIGN"⟩,
  ⟨0x09F4, ["BENGALI CURRENCY NUMERATOR"], "ONE;TWO;THREE;FOUR;ONE LESS THAN THE DENOMINATOR"⟩,
  ⟨0x09F9, ["BENGALI"], "CURRENCY DENOMINATOR SIXTEEN;ISSHAR;GANDA MARK;LETTER VEDIC ANUSVARA;" ++
    "ABBREVIATION SIGN;SANDHI MARK"⟩, ⟨0x0A01, ["GURMUKHI SIGN"], "ADAK BINDI;BINDI;VISARGA"⟩,
  ⟨0x0A05, ["GURMUKHI LETTER"], "A;AA;I;II;U;UU"⟩, ⟨0x0A0F, ["GURMUKHI LETTER"], "EE;AI"⟩,
  ⟨0x0A13, ["GURMUKHI LETTER"], "OO;AU;KA;KHA;GA;GHA;NGA;CA;CHA;JA;JHA;NYA;TTA;TTHA;DDA;DDHA;" ++
    "NNA;TA;THA;DA;DHA;NA"⟩, ⟨0x0A2A, ["GURMUKHI LETTER"], "PA;PHA;BA;BHA;MA;YA;RA"⟩,
  ⟨0x0A32, ["GURMUKHI LETTER"], "LA;LLA"⟩, ⟨0x0A35, ["GURMUKHI LETTER"], "VA;SHA"⟩,
  ⟨0x0A38, ["GURMUKHI LETTER"], "SA;HA"⟩, ⟨0x0A3C, ["GURMUKHI SIGN"], "NUKTA"⟩,
  ⟨0x0A3E, ["GURMUKHI VOWEL SIGN"], "AA;I;II;U;UU"⟩, ⟨0x0A47, ["GURMUKHI VOWEL SIGN"], "EE;AI"⟩,
  ⟨0x0A4B, ["GURMUKHI"], "VOWEL SIGN OO;VOWEL SIGN AU;SIGN VIRAMA"⟩,
  ⟨0x0A51, ["GURMUKHI SIGN"], "UDAAT"⟩, ⟨0x0A59, ["GURMUKHI LETTER"], "KHHA;GHHA;ZA;RRA"⟩,
  ⟨0x0A5E, ["GURMUKHI LETTER"], "FA"⟩,
  ⟨0x0A66, ["GURMUKHI DIGIT"], "ZERO;ONE;TWO;THREE;FOUR;FIVE;SIX;SEVEN;EIGHT;NINE"⟩,
  ⟨0x0A70, ["GURMUKHI"], "TIPPI;ADDAK;IRI;URA;EK ONKAR;SIGN YAKASH;ABBREVIATION SIGN"⟩,
  ⟨0x0A81, ["GUJARATI SIGN"], "CANDRABINDU;ANUSVARA;VISARGA"⟩,
  ⟨0x0A85, ["GUJARATI LETTER"], "A;AA;I;II;U;UU;VOCALIC R;VOCALIC L"⟩,
  ⟨0x0A8D, ["GUJARATI VOWEL CANDRA"], "E"⟩,
  ⟨0x0A8F, ["GUJARATI"], "LETTER E;LETTER AI;VOWEL CANDRA O"⟩,
  ⟨0x0A93, ["GUJARATI LETTER"], "O;AU;KA;KHA;GA;GHA;NGA;CA;CHA;JA;JHA;NYA;TTA;TTHA;DDA;DDHA;NNA;" ++
    "TA;THA;DA;DHA;NA"⟩, ⟨0x0AAA, ["GUJARATI LETTER"], "PA;PHA;BA;BHA;MA;YA;RA"⟩]

/-- The names from AB2 on, in runs. -/
def asianFromAB2 : List NameRun := [
  ⟨0x0AB2, ["GUJARATI LETTER"], "LA;LLA"⟩, ⟨0x0AB5, ["GUJARATI LETTER"], "VA;SHA;SSA;SA;HA"⟩,
  ⟨0x0ABC, ["GUJARATI SIGN"], "NUKTA;AVAGRAHA"⟩,
  ⟨0x0ABE, ["GUJARATI VOWEL SIGN"], "AA;I;II;U;UU;VOCALIC R;VOCALIC RR;CANDRA E"⟩,
  ⟨0x0AC7, ["GUJARATI VOWEL SIGN"], "E;AI;CANDRA O"⟩,
  ⟨0x0ACB, ["GUJARATI"], "VOWEL SIGN O;VOWEL SIGN AU;SIGN VIRAMA"⟩, ⟨0x0AD0, ["GUJARATI"], "OM"⟩,
  ⟨0x0AE0, ["GUJARATI LETTER VOCALIC"], "RR;LL"⟩, ⟨0x0AE2, ["GUJARATI VOWEL SIGN VOCALIC"], "L;LL"⟩,
  ⟨0x0AE6, ["GUJARATI DIGIT"], "ZERO;ONE;TWO;THREE;FOUR;FIVE;SIX;SEVEN;EIGHT;NINE"⟩,
  ⟨0x0AF0, ["GUJARATI"], "ABBREVIATION SIGN;RUPEE SIGN"⟩, ⟨0x0AF9, ["GUJARATI LETTER"], "ZHA"⟩,
  ⟨0x0AFA, ["GUJARATI SIGN"], "SUKUN;SHADDA;MADDAH;THREE-DOT NUKTA ABOVE;CIRCLE NUKTA ABOVE;" ++
    "TWO-CIRCLE NUKTA ABOVE"⟩, ⟨0x0B01, ["ORIYA SIGN"], "CANDRABINDU;ANUSVARA;VISARGA"⟩,
  ⟨0x0B05, ["ORIYA LETTER"], "A;AA;I;II;U;UU;VOCALIC R;VOCALIC L"⟩,
  ⟨0x0B0F, ["ORIYA LETTER"], "E;AI"⟩,
  ⟨0x0B13, ["ORIYA LETTER"], "O;AU;KA;KHA;GA;GHA;NGA;CA;CHA;JA;JHA;NYA;TTA;TTHA;DDA;DDHA;NNA;TA;" ++
    "THA;DA;DHA;NA"⟩, ⟨0x0B2A, ["ORIYA LETTER"], "PA;PHA;BA;BHA;MA;YA;RA"⟩,
  ⟨0x0B32, ["ORIYA LETTER"], "LA;LLA"⟩, ⟨0x0B35, ["ORIYA LETTER"], "VA;SHA;SSA;SA;HA"⟩,
  ⟨0x0B3C, ["ORIYA SIGN"], "NUKTA;AVAGRAHA"⟩,
  ⟨0x0B3E, ["ORIYA VOWEL SIGN"], "AA;I;II;U;UU;VOCALIC R;VOCALIC RR"⟩,
  ⟨0x0B47, ["ORIYA VOWEL SIGN"], "E;AI"⟩,
  ⟨0x0B4B, ["ORIYA"], "VOWEL SIGN O;VOWEL SIGN AU;SIGN VIRAMA"⟩,
  ⟨0x0B55, ["ORIYA"], "SIGN OVERLINE;AI LENGTH MARK;AU LENGTH MARK"⟩,
  ⟨0x0B5C, ["ORIYA LETTER"], "RRA;RHA"⟩, ⟨0x0B5F, ["ORIYA LETTER"], "YYA;VOCALIC RR;VOCALIC LL"⟩,
  ⟨0x0B62, ["ORIYA VOWEL SIGN VOCALIC"], "L;LL"⟩,
  ⟨0x0B66, ["ORIYA DIGIT"], "ZERO;ONE;TWO;THREE;FOUR;FIVE;SIX;SEVEN;EIGHT;NINE"⟩,
  ⟨0x0B70, ["ORIYA"], "ISSHAR;LETTER WA"⟩,
  ⟨0x0B72, ["ORIYA FRACTION"], "ONE QUARTER;ONE HALF;THREE QUARTERS;ONE SIXTEENTH;ONE EIGHTH;" ++
    "THREE SIXTEENTHS"⟩, ⟨0x0B82, ["TAMIL SIGN"], "ANUSVARA;VISARGA"⟩,
  ⟨0x0B85, ["TAMIL LETTER"], "A;AA;I;II;U;UU"⟩, ⟨0x0B8E, ["TAMIL LETTER"], "E;EE;AI"⟩,
  ⟨0x0B92, ["TAMIL LETTER"], "O;OO;AU;KA"⟩, ⟨0x0B99, ["TAMIL LETTER"], "NGA;CA"⟩,
  ⟨0x0B9C, ["TAMIL LETTER"], "JA"⟩, ⟨0x0B9E, ["TAMIL LETTER"], "NYA;TTA"⟩,
  ⟨0x0BA3, ["TAMIL LETTER"], "NNA;TA"⟩, ⟨0x0BA8, ["TAMIL LETTER"], "NA;NNNA;PA"⟩,
  ⟨0x0BAE, ["TAMIL LETTER"], "MA;YA;RA;RRA;LA;LLA;LLLA;VA;SHA;SSA;SA;HA"⟩,
  ⟨0x0BBE, ["TAMIL VOWEL SIGN"], "AA;I;II;U;UU"⟩, ⟨0x0BC6, ["TAMIL VOWEL SIGN"], "E;EE;AI"⟩,
  ⟨0x0BCA, ["TAMIL VOWEL SIGN"], "O;OO;AU"⟩, ⟨0x0BCD, ["TAMIL SIGN"], "VIRAMA"⟩,
  ⟨0x0BD0, ["TAMIL"], "OM"⟩, ⟨0x0BD7, ["TAMIL AU LENGTH"], "MARK"⟩,
  ⟨0x0BE6, ["TAMIL DIGIT"], "ZERO;ONE;TWO;THREE;FOUR;FIVE;SIX;SEVEN;EIGHT;NINE"⟩,
  ⟨0x0BF0, ["TAMIL"], "NUMBER TEN;NUMBER ONE HUNDRED;NUMBER ONE THOUSAND;DAY SIGN;MONTH SIGN;" ++
    "YEAR SIGN;DEBIT SIGN;CREDIT SIGN;AS ABOVE SIGN;RUPEE SIGN;NUMBER SIGN"⟩,
  ⟨0x0C00, ["TELUGU SIGN"], "COMBINING CANDRABINDU ABOVE;CANDRABINDU;ANUSVARA;VISARGA;" ++
    "COMBINING ANUSVARA ABOVE"⟩, ⟨0x0C05, ["TELUGU LETTER"], "A;AA;I;II;U;UU;VOCALIC R;VOCALIC L"⟩,
  ⟨0x0C0E, ["TELUGU LETTER"], "E;EE;AI"⟩,
  ⟨0x0C12, ["TELUGU LETTER"], "O;OO;AU;KA;KHA;GA;GHA;NGA;CA;CHA;JA;JHA;NYA;TTA;TTHA;DDA;DDHA;" ++
    "NNA;TA;THA;DA;DHA;NA"⟩,
  ⟨0x0C2A, ["TELUGU LETTER"], "PA;PHA;BA;BHA;MA;YA;RA;RRA;LA;LLA;LLLA;VA;SHA;SSA;SA;HA"⟩,
  ⟨0x0C3C, ["TELUGU SIGN"], "NUKTA;AVAGRAHA"⟩,
  ⟨0x0C3E, ["TELUGU VOWEL SIGN"], "AA;I;II;U;UU;VOCALIC R;VOCALIC RR"⟩,
  ⟨0x0C46, ["TELUGU VOWEL SIGN"], "E;EE;AI"⟩, ⟨0x0C4A, ["TELUGU VOWEL SIGN"], "O;OO;AU"⟩,
  ⟨0x0C4D, ["TELUGU SIGN"], "VIRAMA"⟩, ⟨0x0C55, ["TELUGU", "TELUGU AI"], "LENGTH MARK"⟩,
  ⟨0x0C58, ["TELUGU LETTER"], "TSA;DZA;RRRA"⟩, ⟨0x0C5D, ["TELUGU LETTER NAKAARA"], "POLLU"⟩,
  ⟨0x0C60, ["TELUGU LETTER VOCALIC"], "RR;LL"⟩, ⟨0x0C62, ["TELUGU VOWEL SIGN VOCALIC"], "L;LL"⟩,
  ⟨0x0C66, ["TELUGU DIGIT"], "ZERO;ONE;TWO;THREE;FOUR;FIVE;SIX;SEVEN;EIGHT;NINE"⟩,
  ⟨0x0C77, ["TELUGU SIGN"], "SIDDHAM"⟩,
  ⟨0x0C78, ["TELUGU FRACTION DIGIT"], "ZERO FOR ODD POWERS OF FOUR;ONE FOR ODD POWERS OF FOUR;" ++
    "TWO FOR ODD POWERS OF FOUR;THREE FOR ODD POWERS OF FOUR;ONE FOR EVEN POWERS OF FOUR;" ++
    "TWO FOR EVEN POWERS OF FOUR;THREE FOR EVEN POWERS OF FOUR"⟩,
  ⟨0x0C7F, ["TELUGU SIGN"], "TUUMU"⟩,
  ⟨0x0C80, ["KANNADA SIGN"], "SPACING CANDRABINDU;CANDRABINDU;ANUSVARA;VISARGA;SIDDHAM"⟩,
  ⟨0x0C85, ["KANNADA LETTER"], "A;AA;I;II;U;UU;VOCALIC R;VOCALIC L"⟩,
  ⟨0x0C8E, ["KANNADA LETTER"], "E;EE;AI"⟩,
  ⟨0x0C92, ["KANNADA LETTER"], "O;OO;AU;KA;KHA;GA;GHA;NGA;CA;CHA;JA;JHA;NYA;TTA;TTHA;DDA;DDHA;" ++
    "NNA;TA;THA;DA;DHA;NA"⟩, ⟨0x0CAA, ["KANNADA LETTER"], "PA;PHA;BA;BHA;MA;YA;RA;RRA;LA;LLA"⟩,
  ⟨0x0CB5, ["KANNADA LETTER"], "VA;SHA;SSA;SA;HA"⟩, ⟨0x0CBC, ["KANNADA SIGN"], "NUKTA;AVAGRAHA"⟩,
  ⟨0x0CBE, ["KANNADA VOWEL SIGN"], "AA;I;II;U;UU;VOCALIC R;VOCALIC RR"⟩,
  ⟨0x0CC6, ["KANNADA VOWEL SIGN"], "E;EE;AI"⟩,
  ⟨0x0CCA, ["KANNADA"], "VOWEL SIGN O;VOWEL SIGN OO;VOWEL SIGN AU;SIGN VIRAMA"⟩,
  ⟨0x0CD5, ["KANNADA", "KANNADA AI"], "LENGTH MARK"⟩,
  ⟨0x0CDD, ["KANNADA LETTER"], "NAKAARA POLLU;FA"⟩, ⟨0x0CE0, ["KANNADA LETTER VOCALIC"], "RR;LL"⟩,
  ⟨0x0CE2, ["KANNADA VOWEL SIGN VOCALIC"], "L;LL"⟩,
  ⟨0x0CE6, ["KANNADA DIGIT"], "ZERO;ONE;TWO;THREE;FOUR;FIVE;SIX;SEVEN;EIGHT;NINE"⟩,
  ⟨0x0CF1, ["KANNADA SIGN"], "JIHVAMULIYA;UPADHMANIYA"⟩,
  ⟨0x0D00, ["MALAYALAM SIGN"], "COMBINING ANUSVARA ABOVE;CANDRABINDU;ANUSVARA;VISARGA"⟩,
  ⟨0x0D04, ["MALAYALAM LETTER"], "VEDIC ANUSVARA;A;AA;I;II;U;UU;VOCALIC R;VOCALIC L"⟩,
  ⟨0x0D0E, ["MALAYALAM LETTER"], "E;EE;AI"⟩,
  ⟨0x0D12, ["MALAYALAM LETTER"], "O;OO;AU;KA;KHA;GA;GHA;NGA;CA;CHA;JA;JHA;NYA;TTA;TTHA;DDA;DDHA;" ++
    "NNA;TA;THA;DA;DHA;NA;NNNA;PA;PHA;BA;BHA;MA;YA;RA;RRA;LA;LLA;LLLA;VA;SHA;SSA;SA;HA;TTTA"⟩,
  ⟨0x0D3B, ["MALAYALAM SIGN"], "VERTICAL BAR VIRAMA;CIRCULAR VIRAMA;AVAGRAHA"⟩,
  ⟨0x0D3E, ["MALAYALAM VOWEL SIGN"], "AA;I;II;U;UU;VOCALIC R;VOCALIC RR"⟩,
  ⟨0x0D46, ["MALAYALAM VOWEL SIGN"], "E;EE;AI"⟩,
  ⟨0x0D4A, ["MALAYALAM"], "VOWEL SIGN O;VOWEL SIGN OO;VOWEL SIGN AU;SIGN VIRAMA;LETTER DOT REPH;" ++
    "SIGN PARA"⟩, ⟨0x0D54, ["MALAYALAM LETTER CHILLU"], "M;Y;LLL"⟩,
  ⟨0x0D57, ["MALAYALAM AU LENGTH"], "MARK"⟩,
  ⟨0x0D58, ["MALAYALAM FRACTION"], "ONE ONE-HUNDRED-AND-SIXTIETH;ONE FORTIETH;THREE EIGHTIETHS;" ++
    "ONE TWENTIETH;ONE TENTH;THREE TWENTIETHS;ONE FIFTH"⟩,
  ⟨0x0D5F, ["MALAYALAM LETTER"], "ARCHAIC II;VOCALIC RR;VOCALIC LL"⟩,
  ⟨0x0D62, ["MALAYALAM VOWEL SIGN VOCALIC"], "L;LL"⟩,
  ⟨0x0D66, ["MALAYALAM DIGIT"], "ZERO;ONE;TWO;THREE;FOUR;FIVE;SIX;SEVEN;EIGHT;NINE"⟩,
  ⟨0x0D70, ["MALAYALAM NUMBER"], "TEN;ONE HUNDRED;ONE THOUSAND"⟩,
  ⟨0x0D73, ["MALAYALAM FRACTION"], "ONE QUARTER;ONE HALF;THREE QUARTERS;ONE SIXTEENTH;" ++
    "ONE EIGHTH;THREE SIXTEENTHS"⟩, ⟨0x0D79, ["MALAYALAM DATE"], "MARK"⟩,
  ⟨0x0D7A, ["MALAYALAM LETTER CHILLU"], "NN;N;RR;L;LL;K"⟩,
  ⟨0x0D81, ["SINHALA SIGN"], "CANDRABINDU;ANUSVARAYA;VISARGAYA"⟩,
  ⟨0x0D85, ["SINHALA LETTER"], "AYANNA;AAYANNA;AEYANNA;AEEYANNA;IYANNA;IIYANNA;UYANNA;UUYANNA;" ++
    "IRUYANNA;IRUUYANNA;ILUYANNA;ILUUYANNA;EYANNA;EEYANNA;AIYANNA;OYANNA;OOYANNA;AUYANNA"⟩,
  ⟨0x0D9A, ["SINHALA LETTER"], "ALPAPRAANA KAYANNA;MAHAAPRAANA KAYANNA;ALPAPRAANA GAYANNA;" ++
    "MAHAAPRAANA GAYANNA;KANTAJA NAASIKYAYA;SANYAKA GAYANNA;ALPAPRAANA CAYANNA;" ++
    "MAHAAPRAANA CAYANNA;ALPAPRAANA JAYANNA;MAHAAPRAANA JAYANNA;TAALUJA NAASIKYAYA;" ++
    "TAALUJA SANYOOGA NAAKSIKYAYA;SANYAKA JAYANNA;ALPAPRAANA TTAYANNA;MAHAAPRAANA TTAYANNA;" ++
    "ALPAPRAANA DDAYANNA;MAHAAPRAANA DDAYANNA;MUURDHAJA NAYANNA;SANYAKA DDAYANNA;" ++
    "ALPAPRAANA TAYANNA;MAHAAPRAANA TAYANNA;ALPAPRAANA DAYANNA;MAHAAPRAANA DAYANNA;" ++
    "DANTAJA NAYANNA"⟩,
  ⟨0x0DB3, ["SINHALA LETTER"], "SANYAKA DAYANNA;ALPAPRAANA PAYANNA;MAHAAPRAANA PAYANNA;" ++
    "ALPAPRAANA BAYANNA;MAHAAPRAANA BAYANNA;MAYANNA;AMBA BAYANNA;YAYANNA;RAYANNA"⟩,
  ⟨0x0DBD, ["SINHALA LETTER DANTAJA"], "LAYANNA"⟩,
  ⟨0x0DC0, ["SINHALA LETTER"], "VAYANNA;TAALUJA SAYANNA;MUURDHAJA SAYANNA;DANTAJA SAYANNA;" ++
    "HAYANNA;MUURDHAJA LAYANNA;FAYANNA"⟩, ⟨0x0DCA, ["SINHALA SIGN"], "AL-LAKUNA"⟩,
  ⟨0x0DCF, ["SINHALA VOWEL SIGN"], "AELA-PILLA;KETTI AEDA-PILLA;DIGA AEDA-PILLA;KETTI IS-PILLA;" ++
    "DIGA IS-PILLA;KETTI PAA-PILLA"⟩, ⟨0x0DD6, ["SINHALA VOWEL SIGN DIGA"], "PAA-PILLA"⟩,
  ⟨0x0DD8, ["SINHALA VOWEL SIGN"], "GAETTA-PILLA;KOMBUVA;DIGA KOMBUVA;KOMBU DEKA;" ++
    "KOMBUVA HAA AELA-PILLA;KOMBUVA HAA DIGA AELA-PILLA;KOMBUVA HAA GAYANUKITTA;GAYANUKITTA"⟩,
  ⟨0x0DE6, ["SINHALA LITH DIGIT"], "ZERO;ONE;TWO;THREE;FOUR;FIVE;SIX;SEVEN;EIGHT;NINE"⟩,
  ⟨0x0DF2, ["SINHALA"], "VOWEL SIGN DIGA GAETTA-PILLA;VOWEL SIGN DIGA GAYANUKITTA;" ++
    "PUNCTUATION KUNDDALIYA"⟩, ⟨0x0E81, ["LAO LETTER"], "KO;KHO SUNG"⟩,
  ⟨0x0E84, ["LAO LETTER KHO"], "TAM"⟩, ⟨0x0E86, ["LAO LETTER"], "PALI GHA;NGO;CO;PALI CHA;SO TAM"⟩,
  ⟨0x0E8C, ["LAO LETTER"], "PALI JHA;NYO;PALI NYA;PALI TTA;PALI TTHA;PALI DDA;PALI DDHA;" ++
    "PALI NNA;DO;TO;THO SUNG;THO TAM;PALI DHA;NO;BO;PO;PHO SUNG;FO TAM;PHO TAM;FO SUNG;PALI BHA;" ++
    "MO;YO;LO LING"⟩, ⟨0x0EA5, ["LAO LETTER LO"], "LOOT"⟩,
  ⟨0x0EA7, ["LAO LETTER"], "WO;SANSKRIT SHA;SANSKRIT SSA;SO SUNG;HO SUNG;PALI LLA;O;HO TAM"⟩]

/-- The names from EAF on, in runs. -/
def asianFromEAF : List NameRun := [
  ⟨0x0EAF, ["LAO"], "ELLIPSIS"⟩, ⟨0x0EB0, ["LAO VOWEL SIGN"], "A;MAI KAN;AA;AM;I;II;Y;YY;U;UU"⟩,
  ⟨0x0EBA, ["LAO"], "SIGN PALI VIRAMA;VOWEL SIGN MAI KON;SEMIVOWEL SIGN LO;SEMIVOWEL SIGN NYO"⟩,
  ⟨0x0EC0, ["LAO VOWEL SIGN"], "E;EI;O;AY;AI"⟩, ⟨0x0EC6, ["LAO KO"], "LA"⟩,
  ⟨0x0EC8, ["LAO TONE MAI"], "EK;THO;TI;CATAWA"⟩, ⟨0x0ECC, ["LAO"], "CANCELLATION MARK;NIGGAHITA"⟩,
  ⟨0x0ED0, ["LAO DIGIT"], "ZERO;ONE;TWO;THREE;FOUR;FIVE;SIX;SEVEN;EIGHT;NINE"⟩,
  ⟨0x0EDC, ["LAO"], "HO NO;HO MO;LETTER KHMU GO;LETTER KHMU NYO"⟩,
  ⟨0x0F00, ["TIBETAN SYLLABLE"], "OM"⟩,
  ⟨0x0F01, ["TIBETAN MARK"], "GTER YIG MGO TRUNCATED A;GTER YIG MGO -UM RNAM BCAD MA;" ++
    "GTER YIG MGO -UM GTER TSHEG MA;INITIAL YIG MGO MDUN MA;CLOSING YIG MGO SGAB MA;" ++
    "CARET YIG MGO PHUR SHAD MA;YIG MGO TSHEG SHAD MA;SBRUL SHAD;BSKUR YIG MGO;" ++
    "BKA- SHOG YIG MGO;INTERSYLLABIC TSHEG;DELIMITER TSHEG BSTAR;SHAD;NYIS SHAD;TSHEG SHAD;" ++
    "NYIS TSHEG SHAD;RIN CHEN SPUNGS SHAD;RGYA GRAM SHAD;CARET -DZUD RTAGS ME LONG CAN;GTER TSHEG"⟩,
  ⟨0x0F15, ["TIBETAN LOGOTYPE SIGN"], "CHAD RTAGS;LHAG RTAGS"⟩,
  ⟨0x0F17, ["TIBETAN ASTROLOGICAL SIGN"], "SGRA GCAN -CHAR RTAGS;-KHYUD PA;SDONG TSHUGS"⟩,
  ⟨0x0F1A, ["TIBETAN SIGN RDEL"], "DKAR GCIG;DKAR GNYIS;DKAR GSUM;NAG GCIG;NAG GNYIS;" ++
    "DKAR RDEL NAG"⟩,
  ⟨0x0F20, ["TIBETAN DIGIT"], "ZERO;ONE;TWO;THREE;FOUR;FIVE;SIX;SEVEN;EIGHT;NINE"⟩,
  ⟨0x0F2A, ["TIBETAN DIGIT HALF"], "ONE;TWO;THREE;FOUR;FIVE;SIX;SEVEN;EIGHT;NINE;ZERO"⟩,
  ⟨0x0F34, ["TIBETAN MARK"], "BSDUS RTAGS;NGAS BZUNG NYI ZLA;CARET -DZUD RTAGS BZHI MIG CAN;" ++
    "NGAS BZUNG SGOR RTAGS;CHE MGO;TSA -PHRU;GUG RTAGS GYON;GUG RTAGS GYAS;ANG KHANG GYON;" ++
    "ANG KHANG GYAS"⟩, ⟨0x0F3E, ["TIBETAN SIGN"], "YAR TSHES;MAR TSHES"⟩,
  ⟨0x0F40, ["TIBETAN LETTER"], "KA;KHA;GA;GHA;NGA;CA;CHA;JA"⟩,
  ⟨0x0F49, ["TIBETAN LETTER"], "NYA;TTA;TTHA;DDA;DDHA;NNA;TA;THA;DA;DHA;NA;PA;PHA;BA;BHA;MA;TSA;" ++
    "TSHA;DZA;DZHA;WA;ZHA;ZA;-A;YA;RA;LA;SHA;SSA;SA;HA;A;KSSA;FIXED-FORM RA;KKA;RRA"⟩,
  ⟨0x0F71, ["TIBETAN VOWEL SIGN"], "AA;I;II;U;UU;VOCALIC R;VOCALIC RR;VOCALIC L;VOCALIC LL;E;EE;" ++
    "O;OO"⟩,
  ⟨0x0F7E, ["TIBETAN"], "SIGN RJES SU NGA RO;SIGN RNAM BCAD;VOWEL SIGN REVERSED I;" ++
    "VOWEL SIGN REVERSED II;SIGN NYI ZLA NAA DA;SIGN SNA LDAN;MARK HALANTA;MARK PALUTA"⟩,
  ⟨0x0F86, ["TIBETAN SIGN"], "LCI RTAGS;YANG RTAGS;LCE TSA CAN;MCHU CAN;GRU CAN RGYINGS;" ++
    "GRU MED RGYINGS;INVERTED MCHU CAN"⟩,
  ⟨0x0F8D, ["TIBETAN SUBJOINED SIGN"], "LCE TSA CAN;MCHU CAN;INVERTED MCHU CAN"⟩,
  ⟨0x0F90, ["TIBETAN SUBJOINED LETTER"], "KA;KHA;GA;GHA;NGA;CA;CHA;JA"⟩,
  ⟨0x0F99, ["TIBETAN SUBJOINED LETTER"], "NYA;TTA;TTHA;DDA;DDHA;NNA;TA;THA;DA;DHA;NA;PA;PHA;BA;" ++
    "BHA;MA;TSA;TSHA;DZA;DZHA;WA;ZHA;ZA;-A;YA;RA;LA;SHA;SSA;SA;HA;A;KSSA;FIXED-FORM WA;" ++
    "FIXED-FORM YA;FIXED-FORM RA"⟩, ⟨0x0FBE, ["TIBETAN KU RU"], "KHA;KHA BZHI MIG CAN"⟩,
  ⟨0x0FC0, ["TIBETAN CANTILLATION SIGN"], "HEAVY BEAT;LIGHT BEAT;CANG TE-U;SBUB -CHAL"⟩,
  ⟨0x0FC4, ["TIBETAN SYMBOL"], "DRIL BU;RDO RJE;PADMA GDAN;RDO RJE RGYA GRAM;PHUR PA;NOR BU;" ++
    "NOR BU NYIS -KHYIL;NOR BU GSUM -KHYIL;NOR BU BZHI -KHYIL"⟩,
  ⟨0x0FCE, ["TIBETAN SIGN RDEL NAG"], "RDEL DKAR;GSUM"⟩,
  ⟨0x0FD0, ["TIBETAN MARK"], "BSKA- SHOG GI MGO RGYAN;MNYAM YIG GI MGO RGYAN;NYIS TSHEG;" ++
    "INITIAL BRDA RNYING YIG MGO MDUN MA;CLOSING BRDA RNYING YIG MGO SGAB MA"⟩,
  ⟨0x0FD5, ["RIGHT-FACING SVASTI", "LEFT-FACING SVASTI"], "SIGN;SIGN WITH DOTS"⟩,
  ⟨0x0FD9, ["TIBETAN MARK"], "LEADING MCHAN RTAGS;TRAILING MCHAN RTAGS"⟩,
  ⟨0x1000, ["MYANMAR LETTER"], "KA;KHA;GA;GHA;NGA;CA;CHA;JA;JHA;NYA;NNYA;TTA;TTHA;DDA;DDHA;NNA;" ++
    "TA;THA;DA;DHA;NA;PA;PHA;BA;BHA;MA;YA;RA;LA;WA;SA;HA;LLA;A;SHAN A;I;II;U;UU;E;MON E;O;AU"⟩,
  ⟨0x102B, ["MYANMAR VOWEL SIGN"], "TALL AA;AA;I;II;U;UU;E;AI;MON II;MON O;E ABOVE"⟩,
  ⟨0x1036, ["MYANMAR SIGN"], "ANUSVARA;DOT BELOW;VISARGA;VIRAMA;ASAT"⟩,
  ⟨0x103B, ["MYANMAR CONSONANT SIGN MEDIAL"], "YA;RA;WA;HA"⟩,
  ⟨0x103F, ["MYANMAR LETTER GREAT"], "SA"⟩,
  ⟨0x1040, ["MYANMAR DIGIT"], "ZERO;ONE;TWO;THREE;FOUR;FIVE;SIX;SEVEN;EIGHT;NINE"⟩,
  ⟨0x104A, ["MYANMAR"], "SIGN LITTLE SECTION;SIGN SECTION;SYMBOL LOCATIVE;SYMBOL COMPLETED;" ++
    "SYMBOL AFOREMENTIONED;SYMBOL GENITIVE;LETTER SHA;LETTER SSA"⟩,
  ⟨0x1052, ["MYANMAR LETTER VOCALIC"], "R;RR;L;LL"⟩,
  ⟨0x1056, ["MYANMAR VOWEL SIGN VOCALIC"], "R;RR;L;LL"⟩,
  ⟨0x105A, ["MYANMAR LETTER MON"], "NGA;JHA;BBA;BBE"⟩,
  ⟨0x105E, ["MYANMAR CONSONANT SIGN MON MEDIAL"], "NA;MA;LA"⟩,
  ⟨0x1061, ["MYANMAR"], "LETTER SGAW KAREN SHA;VOWEL SIGN SGAW KAREN EU;" ++
    "TONE MARK SGAW KAREN HATHI;TONE MARK SGAW KAREN KE PHO"⟩,
  ⟨0x1065, ["MYANMAR LETTER WESTERN PWO KAREN"], "THA;PWA"⟩,
  ⟨0x1067, ["MYANMAR VOWEL SIGN WESTERN PWO KAREN"], "EU;UE"⟩,
  ⟨0x1069, ["MYANMAR SIGN WESTERN PWO KAREN"], "TONE-1;TONE-2;TONE-3;TONE-4;TONE-5"⟩,
  ⟨0x106E, ["MYANMAR LETTER EASTERN PWO KAREN"], "NNA;YWA;GHWA"⟩,
  ⟨0x1071, ["MYANMAR VOWEL SIGN"], "GEBA KAREN I;KAYAH OE;KAYAH U;KAYAH EE"⟩,
  ⟨0x1075, ["MYANMAR LETTER SHAN"], "KA;KHA;GA;CA;ZA;NYA;DA;NA;PHA;FA;BA;THA;HA"⟩,
  ⟨0x1082, ["MYANMAR CONSONANT SIGN SHAN MEDIAL"], "WA"⟩,
  ⟨0x1083, ["MYANMAR VOWEL SIGN SHAN"], "AA;E;E ABOVE;FINAL Y"⟩,
  ⟨0x1087, ["MYANMAR SIGN SHAN"], "TONE-2;TONE-3;TONE-5;TONE-6;COUNCIL TONE-2;COUNCIL TONE-3;" ++
    "COUNCIL EMPHATIC TONE"⟩,
  ⟨0x108E, ["MYANMAR"], "LETTER RUMAI PALAUNG FA;SIGN RUMAI PALAUNG TONE-5"⟩,
  ⟨0x1090, ["MYANMAR SHAN DIGIT"], "ZERO;ONE;TWO;THREE;FOUR;FIVE;SIX;SEVEN;EIGHT;NINE"⟩,
  ⟨0x109A, ["MYANMAR"], "SIGN KHAMTI TONE-1;SIGN KHAMTI TONE-3;VOWEL SIGN AITON A;" ++
    "VOWEL SIGN AITON AI;SYMBOL SHAN ONE;SYMBOL SHAN EXCLAMATION"⟩]

/-- The names, in runs. -/
def asian : List NameRun :=
  asianFrom531 ++ asianFromAB2 ++ asianFromEAF

end EntityForge.NameRun
