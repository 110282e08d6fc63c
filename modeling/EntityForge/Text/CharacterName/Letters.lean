import EntityForge.Text.CharacterName.Run

/-! # Names of letters

The names of the letters and signs of the European alphabets, and of the letters of Hebrew, Arabic
and Thai.
-/

namespace EntityForge.NameRun

/-- The names, in runs. -/
def letters : List NameRun := [
  ⟨0x0020, [""], "SPACE;EXCLAMATION MARK;QUOTATION MARK;NUMBER SIGN;DOLLAR SIGN;PERCENT SIGN;" ++
    "AMPERSAND;APOSTROPHE;LEFT PARENTHESIS;RIGHT PARENTHESIS;ASTERISK;PLUS SIGN;COMMA;" ++
    "HYPHEN-MINUS;FULL STOP;SOLIDUS"⟩,
  ⟨0x0030, ["DIGIT"], "ZERO;ONE;TWO;THREE;FOUR;FIVE;SIX;SEVEN;EIGHT;NINE"⟩,
  ⟨0x003A, [""], "COLON;SEMICOLON;LESS-THAN SIGN;EQUALS SIGN;GREATER-THAN SIGN;QUESTION MARK;" ++
    "COMMERCIAL AT"⟩,
  ⟨0x0041, ["LATIN CAPITAL LETTER"], "A;B;C;D;E;F;G;H;I;J;K;L;M;N;O;P;Q;R;S;T;U;V;W;X;Y;Z"⟩,
  ⟨0x005B, [""], "LEFT SQUARE BRACKET;REVERSE SOLIDUS;RIGHT SQUARE BRACKET;CIRCUMFLEX ACCENT;" ++
    "LOW LINE;GRAVE ACCENT"⟩,
  ⟨0x0061, ["LATIN SMALL LETTER"], "A;B;C;D;E;F;G;H;I;J;K;L;M;N;O;P;Q;R;S;T;U;V;W;X;Y;Z"⟩,
  ⟨0x007B, [""], "LEFT CURLY BRACKET;VERTICAL LINE;RIGHT CURLY BRACKET;TILDE"⟩,
  ⟨0x00A0, [""], "NO-BREAK SPACE;INVERTED EXCLAMATION MARK;CENT SIGN;POUND SIGN;CURRENCY SIGN;" ++
    "YEN SIGN;BROKEN BAR;SECTION SIGN;DIAERESIS;COPYRIGHT SIGN;FEMININE ORDINAL INDICATOR;" ++
    "LEFT-POINTING DOUBLE ANGLE QUOTATION MARK;NOT SIGN;SOFT HYPHEN;REGISTERED SIGN;MACRON;" ++
    "DEGREE SIGN;PLUS-MINUS SIGN;SUPERSCRIPT TWO;SUPERSCRIPT THREE;ACUTE ACCENT;MICRO SIGN;" ++
    "PILCROW SIGN;MIDDLE DOT;CEDILLA;SUPERSCRIPT ONE;MASCULINE ORDINAL INDICATOR;" ++
    "RIGHT-POINTING DOUBLE ANGLE QUOTATION MARK"⟩,
  ⟨0x00BC, ["VULGAR FRACTION"], "ONE QUARTER;ONE HALF;THREE QUARTERS"⟩,
  ⟨0x00BF, ["INVERTED QUESTION"], "MARK"⟩,
  ⟨0x00C0, ["LATIN CAPITAL LETTER"], "A WITH GRAVE;A WITH ACUTE;A WITH CIRCUMFLEX;A WITH TILDE;" ++
    "A WITH DIAERESIS;A WITH RING ABOVE;AE;C WITH CEDILLA;E WITH GRAVE;E WITH ACUTE;" ++
    "E WITH CIRCUMFLEX;E WITH DIAERESIS;I WITH GRAVE;I WITH ACUTE;I WITH CIRCUMFLEX;" ++
    "I WITH DIAERESIS;ETH;N WITH TILDE;O WITH GRAVE;O WITH ACUTE;O WITH CIRCUMFLEX;O WITH TILDE;" ++
    "O WITH DIAERESIS"⟩, ⟨0x00D7, ["MULTIPLICATION"], "SIGN"⟩,
  ⟨0x00D8, ["LATIN CAPITAL LETTER"], "O WITH STROKE;U WITH GRAVE;U WITH ACUTE;U WITH CIRCUMFLEX;" ++
    "U WITH DIAERESIS;Y WITH ACUTE;THORN"⟩,
  ⟨0x00DF, ["LATIN SMALL LETTER"], "SHARP S;A WITH GRAVE;A WITH ACUTE;A WITH CIRCUMFLEX;" ++
    "A WITH TILDE;A WITH DIAERESIS;A WITH RING ABOVE;AE;C WITH CEDILLA;E WITH GRAVE;" ++
    "E WITH ACUTE;E WITH CIRCUMFLEX;E WITH DIAERESIS;I WITH GRAVE;I WITH ACUTE;" ++
    "I WITH CIRCUMFLEX;I WITH DIAERESIS;ETH;N WITH TILDE;O WITH GRAVE;O WITH ACUTE;" ++
    "O WITH CIRCUMFLEX;O WITH TILDE;O WITH DIAERESIS"⟩, ⟨0x00F7, ["DIVISION"], "SIGN"⟩,
  ⟨0x00F8, ["LATIN SMALL LETTER"], "O WITH STROKE;U WITH GRAVE;U WITH ACUTE;U WITH CIRCUMFLEX;" ++
    "U WITH DIAERESIS;Y WITH ACUTE;THORN;Y WITH DIAERESIS"⟩,
  ⟨0x0100, ["LATIN CAPITAL LETTER", "LATIN SMALL LETTER"], "A WITH MACRON;A WITH BREVE;" ++
    "A WITH OGONEK;C WITH ACUTE;C WITH CIRCUMFLEX;C WITH DOT ABOVE;C WITH CARON;D WITH CARON;" ++
    "D WITH STROKE;E WITH MACRON;E WITH BREVE;E WITH DOT ABOVE;E WITH OGONEK;E WITH CARON;" ++
    "G WITH CIRCUMFLEX;G WITH BREVE;G WITH DOT ABOVE;G WITH CEDILLA;H WITH CIRCUMFLEX;" ++
    "H WITH STROKE;I WITH TILDE;I WITH MACRON;I WITH BREVE;I WITH OGONEK"⟩,
  ⟨0x0130, ["LATIN"], "CAPITAL LETTER I WITH DOT ABOVE;SMALL LETTER DOTLESS I"⟩,
  ⟨0x0132, ["LATIN CAPITAL", "LATIN SMALL"], "LIGATURE IJ;LETTER J WITH CIRCUMFLEX;" ++
    "LETTER K WITH CEDILLA"⟩, ⟨0x0138, ["LATIN SMALL LETTER"], "KRA"⟩,
  ⟨0x0139, ["LATIN CAPITAL LETTER", "LATIN SMALL LETTER"], "L WITH ACUTE;L WITH CEDILLA;" ++
    "L WITH CARON;L WITH MIDDLE DOT;L WITH STROKE;N WITH ACUTE;N WITH CEDILLA;N WITH CARON"⟩,
  ⟨0x0149, ["LATIN SMALL LETTER N PRECEDED BY"], "APOSTROPHE"⟩,
  ⟨0x014A, ["LATIN CAPITAL", "LATIN SMALL"], "LETTER ENG;LETTER O WITH MACRON;" ++
    "LETTER O WITH BREVE;LETTER O WITH DOUBLE ACUTE;LIGATURE OE"⟩,
  ⟨0x0154, ["LATIN CAPITAL LETTER", "LATIN SMALL LETTER"], "R WITH ACUTE;R WITH CEDILLA;" ++
    "R WITH CARON;S WITH ACUTE;S WITH CIRCUMFLEX;S WITH CEDILLA;S WITH CARON;T WITH CEDILLA;" ++
    "T WITH CARON;T WITH STROKE;U WITH TILDE;U WITH MACRON;U WITH BREVE;U WITH RING ABOVE;" ++
    "U WITH DOUBLE ACUTE;U WITH OGONEK;W WITH CIRCUMFLEX;Y WITH CIRCUMFLEX"⟩,
  ⟨0x0178, ["LATIN CAPITAL LETTER Y WITH"], "DIAERESIS"⟩,
  ⟨0x0179, ["LATIN CAPITAL LETTER Z WITH", "LATIN SMALL LETTER Z WITH"], "ACUTE;DOT ABOVE;CARON"⟩,
  ⟨0x017F, ["LATIN"], "SMALL LETTER LONG S;SMALL LETTER B WITH STROKE;CAPITAL LETTER B WITH HOOK"⟩,
  ⟨0x0182, ["LATIN CAPITAL LETTER", "LATIN SMALL LETTER"], "B WITH TOPBAR;TONE SIX"⟩,
  ⟨0x0186, ["LATIN"], "CAPITAL LETTER OPEN O;CAPITAL LETTER C WITH HOOK;SMALL LETTER C WITH HOOK"⟩,
  ⟨0x0189, ["LATIN CAPITAL LETTER"], "AFRICAN D;D WITH HOOK;D WITH TOPBAR"⟩,
  ⟨0x018C, ["LATIN SMALL LETTER"], "D WITH TOPBAR;TURNED DELTA"⟩,
  ⟨0x018E, ["LATIN CAPITAL LETTER"], "REVERSED E;SCHWA;OPEN E;F WITH HOOK"⟩,
  ⟨0x0192, ["LATIN"], "SMALL LETTER F WITH HOOK;CAPITAL LETTER G WITH HOOK;CAPITAL LETTER GAMMA;" ++
    "SMALL LETTER HV;CAPITAL LETTER IOTA;CAPITAL LETTER I WITH STROKE;" ++
    "CAPITAL LETTER K WITH HOOK;SMALL LETTER K WITH HOOK;SMALL LETTER L WITH BAR;" ++
    "SMALL LETTER LAMBDA WITH STROKE;CAPITAL LETTER TURNED M;CAPITAL LETTER N WITH LEFT HOOK;" ++
    "SMALL LETTER N WITH LONG RIGHT LEG;CAPITAL LETTER O WITH MIDDLE TILDE"⟩,
  ⟨0x01A0, ["LATIN CAPITAL LETTER", "LATIN SMALL LETTER"], "O WITH HORN;OI;P WITH HOOK"⟩,
  ⟨0x01A6, ["LATIN"], "LETTER YR;CAPITAL LETTER TONE TWO;SMALL LETTER TONE TWO;" ++
    "CAPITAL LETTER ESH;LETTER REVERSED ESH LOOP;SMALL LETTER T WITH PALATAL HOOK;" ++
    "CAPITAL LETTER T WITH HOOK;SMALL LETTER T WITH HOOK;CAPITAL LETTER T WITH RETROFLEX HOOK;" ++
    "CAPITAL LETTER U WITH HORN;SMALL LETTER U WITH HORN;CAPITAL LETTER UPSILON;" ++
    "CAPITAL LETTER V WITH HOOK"⟩,
  ⟨0x01B3, ["LATIN CAPITAL LETTER", "LATIN SMALL LETTER"], "Y WITH HOOK;Z WITH STROKE"⟩,
  ⟨0x01B7, ["LATIN"], "CAPITAL LETTER EZH;CAPITAL LETTER EZH REVERSED;SMALL LETTER EZH REVERSED;" ++
    "SMALL LETTER EZH WITH TAIL;LETTER TWO WITH STROKE;CAPITAL LETTER TONE FIVE;" ++
    "SMALL LETTER TONE FIVE;LETTER INVERTED GLOTTAL STOP WITH STROKE;LETTER WYNN;" ++
    "LETTER DENTAL CLICK;LETTER LATERAL CLICK;LETTER ALVEOLAR CLICK;LETTER RETROFLEX CLICK;" ++
    "CAPITAL LETTER DZ WITH CARON;CAPITAL LETTER D WITH SMALL LETTER Z WITH CARON;" ++
    "SMALL LETTER DZ WITH CARON;CAPITAL LETTER LJ;CAPITAL LETTER L WITH SMALL LETTER J;" ++
    "SMALL LETTER LJ;CAPITAL LETTER NJ;CAPITAL LETTER N WITH SMALL LETTER J;SMALL LETTER NJ"⟩,
  ⟨0x01CD, ["LATIN CAPITAL LETTER", "LATIN SMALL LETTER"], "A WITH CARON;I WITH CARON;" ++
    "O WITH CARON;U WITH CARON;U WITH DIAERESIS AND MACRON;U WITH DIAERESIS AND ACUTE;" ++
    "U WITH DIAERESIS AND CARON;U WITH DIAERESIS AND GRAVE"⟩,
  ⟨0x01DD, ["LATIN SMALL LETTER TURNED"], "E"⟩,
  ⟨0x01DE, ["LATIN CAPITAL LETTER", "LATIN SMALL LETTER"], "A WITH DIAERESIS AND MACRON;" ++
    "A WITH DOT ABOVE AND MACRON;AE WITH MACRON;G WITH STROKE;G WITH CARON;K WITH CARON;" ++
    "O WITH OGONEK;O WITH OGONEK AND MACRON;EZH WITH CARON"⟩,
  ⟨0x01F0, ["LATIN"], "SMALL LETTER J WITH CARON;CAPITAL LETTER DZ;" ++
    "CAPITAL LETTER D WITH SMALL LETTER Z;SMALL LETTER DZ;CAPITAL LETTER G WITH ACUTE;" ++
    "SMALL LETTER G WITH ACUTE;CAPITAL LETTER HWAIR;CAPITAL LETTER WYNN"⟩,
  ⟨0x01F8, ["LATIN CAPITAL LETTER", "LATIN SMALL LETTER"], "N WITH GRAVE;" ++
    "A WITH RING ABOVE AND ACUTE;AE WITH ACUTE;O WITH STROKE AND ACUTE;A WITH DOUBLE GRAVE;" ++
    "A WITH INVERTED BREVE;E WITH DOUBLE GRAVE;E WITH INVERTED BREVE;I WITH DOUBLE GRAVE;" ++
    "I WITH INVERTED BREVE;O WITH DOUBLE GRAVE;O WITH INVERTED BREVE;R WITH DOUBLE GRAVE;" ++
    "R WITH INVERTED BREVE;U WITH DOUBLE GRAVE;U WITH INVERTED BREVE;S WITH COMMA BELOW;" ++
    "T WITH COMMA BELOW;YOGH;H WITH CARON"⟩,
  ⟨0x0220, ["LATIN"], "CAPITAL LETTER N WITH LONG RIGHT LEG;SMALL LETTER D WITH CURL"⟩,
  ⟨0x0222, ["LATIN CAPITAL LETTER", "LATIN SMALL LETTER"], "OU;Z WITH HOOK;A WITH DOT ABOVE;" ++
    "E WITH CEDILLA;O WITH DIAERESIS AND MACRON;O WITH TILDE AND MACRON;O WITH DOT ABOVE;" ++
    "O WITH DOT ABOVE AND MACRON;Y WITH MACRON"⟩,
  ⟨0x0234, ["LATIN SMALL LETTER"], "L WITH CURL;N WITH CURL;T WITH CURL;DOTLESS J;DB DIGRAPH;" ++
    "QP DIGRAPH"⟩,
  ⟨0x023A, ["LATIN"], "CAPITAL LETTER A WITH STROKE;CAPITAL LETTER C WITH STROKE;" ++
    "SMALL LETTER C WITH STROKE;CAPITAL LETTER L WITH BAR;CAPITAL LETTER T WITH DIAGONAL STROKE;" ++
    "SMALL LETTER S WITH SWASH TAIL;SMALL LETTER Z WITH SWASH TAIL;CAPITAL LETTER GLOTTAL STOP;" ++
    "SMALL LETTER GLOTTAL STOP"⟩,
  ⟨0x0243, ["LATIN CAPITAL LETTER"], "B WITH STROKE;U BAR;TURNED V"⟩,
  ⟨0x0246, ["LATIN CAPITAL LETTER", "LATIN SMALL LETTER"], "E WITH STROKE;J WITH STROKE"⟩,
  ⟨0x024A, ["LATIN CAPITAL LETTER SMALL", "LATIN SMALL LETTER"], "Q WITH HOOK TAIL"⟩,
  ⟨0x024C, ["LATIN CAPITAL LETTER", "LATIN SMALL LETTER"], "R WITH STROKE;Y WITH STROKE"⟩,
  ⟨0x0250, ["LATIN SMALL LETTER"], "TURNED A;ALPHA;TURNED ALPHA;B WITH HOOK;OPEN O;C WITH CURL;" ++
    "D WITH TAIL;D WITH HOOK;REVERSED E;SCHWA;SCHWA WITH HOOK;OPEN E;REVERSED OPEN E;" ++
    "REVERSED OPEN E WITH HOOK;CLOSED REVERSED OPEN E;DOTLESS J WITH STROKE;G WITH HOOK;SCRIPT G"⟩,
  ⟨0x0262, ["LATIN LETTER SMALL CAPITAL"], "G"⟩,
  ⟨0x0263, ["LATIN SMALL LETTER"], "GAMMA;RAMS HORN;TURNED H;H WITH HOOK;HENG WITH HOOK;" ++
    "I WITH STROKE;IOTA"⟩, ⟨0x026A, ["LATIN LETTER SMALL CAPITAL"], "I"⟩,
  ⟨0x026B, ["LATIN SMALL LETTER"], "L WITH MIDDLE TILDE;L WITH BELT;L WITH RETROFLEX HOOK;LEZH;" ++
    "TURNED M;TURNED M WITH LONG LEG;M WITH HOOK;N WITH LEFT HOOK;N WITH RETROFLEX HOOK"⟩,
  ⟨0x0274, ["LATIN"], "LETTER SMALL CAPITAL N;SMALL LETTER BARRED O;LETTER SMALL CAPITAL OE"⟩,
  ⟨0x0277, ["LATIN SMALL LETTER"], "CLOSED OMEGA;PHI;TURNED R;TURNED R WITH LONG LEG;" ++
    "TURNED R WITH HOOK;R WITH LONG LEG;R WITH TAIL;R WITH FISHHOOK;REVERSED R WITH FISHHOOK"⟩,
  ⟨0x0280, ["LATIN LETTER SMALL CAPITAL"], "R;INVERTED R"⟩,
  ⟨0x0282, ["LATIN SMALL LETTER"], "S WITH HOOK;ESH;DOTLESS J WITH STROKE AND HOOK;" ++
    "SQUAT REVERSED ESH;ESH WITH CURL;TURNED T;T WITH RETROFLEX HOOK;U BAR;UPSILON;V WITH HOOK;" ++
    "TURNED V;TURNED W;TURNED Y"⟩, ⟨0x028F, ["LATIN LETTER SMALL CAPITAL"], "Y"⟩,
  ⟨0x0290, ["LATIN SMALL LETTER"], "Z WITH RETROFLEX HOOK;Z WITH CURL;EZH;EZH WITH CURL"⟩,
  ⟨0x0294, ["LATIN LETTER"], "GLOTTAL STOP;PHARYNGEAL VOICED FRICATIVE;INVERTED GLOTTAL STOP;" ++
    "STRETCHED C;BILABIAL CLICK;SMALL CAPITAL B"⟩,
  ⟨0x029A, ["LATIN"], "SMALL LETTER CLOSED OPEN E;LETTER SMALL CAPITAL G WITH HOOK;" ++
    "LETTER SMALL CAPITAL H;SMALL LETTER J WITH CROSSED-TAIL;SMALL LETTER TURNED K;" ++
    "LETTER SMALL CAPITAL L;SMALL LETTER Q WITH HOOK;LETTER GLOTTAL STOP WITH STROKE;" ++
    "LETTER REVERSED GLOTTAL STOP WITH STROKE"⟩,
  ⟨0x02A3, ["LATIN SMALL LETTER"], "DZ DIGRAPH;DEZH DIGRAPH;DZ DIGRAPH WITH CURL;TS DIGRAPH;" ++
    "TESH DIGRAPH;TC DIGRAPH WITH CURL;FENG DIGRAPH;LS DIGRAPH;LZ DIGRAPH"⟩,
  ⟨0x02AC, ["LATIN LETTER"], "BILABIAL PERCUSSIVE;BIDENTAL PERCUSSIVE"⟩,
  ⟨0x02AE, ["LATIN SMALL LETTER TURNED H WITH"], "FISHHOOK;FISHHOOK AND TAIL"⟩,
  ⟨0x02B0, ["MODIFIER LETTER SMALL"], "H;H WITH HOOK;J;R;TURNED R;TURNED R WITH HOOK;" ++
    "CAPITAL INVERTED R;W;Y"⟩,
  ⟨0x02B9, ["MODIFIER LETTER"], "PRIME;DOUBLE PRIME;TURNED COMMA;APOSTROPHE;REVERSED COMMA;" ++
    "RIGHT HALF RING;LEFT HALF RING;GLOTTAL STOP;REVERSED GLOTTAL STOP;LEFT ARROWHEAD;" ++
    "RIGHT ARROWHEAD;UP ARROWHEAD;DOWN ARROWHEAD;CIRCUMFLEX ACCENT"⟩, ⟨0x02C7, [""], "CARON"⟩,
  ⟨0x02C8, ["MODIFIER LETTER"], "VERTICAL LINE;MACRON;ACUTE ACCENT;GRAVE ACCENT;" ++
    "LOW VERTICAL LINE;LOW MACRON;LOW GRAVE ACCENT;LOW ACUTE ACCENT;TRIANGULAR COLON;" ++
    "HALF TRIANGULAR COLON;CENTRED RIGHT HALF RING;CENTRED LEFT HALF RING;UP TACK;DOWN TACK;" ++
    "PLUS SIGN;MINUS SIGN"⟩,
  ⟨0x02D8, [""], "BREVE;DOT ABOVE;RING ABOVE;OGONEK;SMALL TILDE;DOUBLE ACUTE ACCENT"⟩,
  ⟨0x02DE, ["MODIFIER LETTER"], "RHOTIC HOOK;CROSS ACCENT;SMALL GAMMA;SMALL L;SMALL S;SMALL X;" ++
    "SMALL REVERSED GLOTTAL STOP;EXTRA-HIGH TONE BAR;HIGH TONE BAR;MID TONE BAR;LOW TONE BAR;" ++
    "EXTRA-LOW TONE BAR;YIN DEPARTING TONE MARK;YANG DEPARTING TONE MARK;VOICING;UNASPIRATED;" ++
    "DOUBLE APOSTROPHE;LOW DOWN ARROWHEAD;LOW UP ARROWHEAD;LOW LEFT ARROWHEAD;" ++
    "LOW RIGHT ARROWHEAD;LOW RING;MIDDLE GRAVE ACCENT;MIDDLE DOUBLE GRAVE ACCENT;" ++
    "MIDDLE DOUBLE ACUTE ACCENT;LOW TILDE;RAISED COLON;BEGIN HIGH TONE;END HIGH TONE;" ++
    "BEGIN LOW TONE;END LOW TONE;SHELF;OPEN SHELF;LOW LEFT ARROW"⟩,
  ⟨0x0300, ["COMBINING"], "GRAVE ACCENT;ACUTE ACCENT;CIRCUMFLEX ACCENT;TILDE;MACRON;OVERLINE;" ++
    "BREVE;DOT ABOVE;DIAERESIS;HOOK ABOVE;RING ABOVE;DOUBLE ACUTE ACCENT;CARON;" ++
    "VERTICAL LINE ABOVE;DOUBLE VERTICAL LINE ABOVE;DOUBLE GRAVE ACCENT;CANDRABINDU;" ++
    "INVERTED BREVE;TURNED COMMA ABOVE;COMMA ABOVE;REVERSED COMMA ABOVE;COMMA ABOVE RIGHT;" ++
    "GRAVE ACCENT BELOW;ACUTE ACCENT BELOW;LEFT TACK BELOW;RIGHT TACK BELOW;LEFT ANGLE ABOVE;" ++
    "HORN;LEFT HALF RING BELOW;UP TACK BELOW;DOWN TACK BELOW;PLUS SIGN BELOW;MINUS SIGN BELOW;" ++
    "PALATALIZED HOOK BELOW;RETROFLEX HOOK BELOW;DOT BELOW;DIAERESIS BELOW;RING BELOW;" ++
    "COMMA BELOW;CEDILLA;OGONEK;VERTICAL LINE BELOW;BRIDGE BELOW;INVERTED DOUBLE ARCH BELOW;" ++
    "CARON BELOW;CIRCUMFLEX ACCENT BELOW;BREVE BELOW;INVERTED BREVE BELOW;TILDE BELOW;" ++
    "MACRON BELOW;LOW LINE;DOUBLE LOW LINE;TILDE OVERLAY;SHORT STROKE OVERLAY;" ++
    "LONG STROKE OVERLAY;SHORT SOLIDUS OVERLAY;LONG SOLIDUS OVERLAY;RIGHT HALF RING BELOW;" ++
    "INVERTED BRIDGE BELOW;SQUARE BELOW;SEAGULL BELOW;X ABOVE;VERTICAL TILDE;DOUBLE OVERLINE;" ++
    "GRAVE TONE MARK;ACUTE TONE MARK;GREEK PERISPOMENI;GREEK KORONIS;GREEK DIALYTIKA TONOS;" ++
    "GREEK YPOGEGRAMMENI;BRIDGE ABOVE;EQUALS SIGN BELOW;DOUBLE VERTICAL LINE BELOW;" ++
    "LEFT ANGLE BELOW;NOT TILDE ABOVE;HOMOTHETIC ABOVE;ALMOST EQUAL TO ABOVE;" ++
    "LEFT RIGHT ARROW BELOW;UPWARDS ARROW BELOW;GRAPHEME JOINER;RIGHT ARROWHEAD ABOVE;" ++
    "LEFT HALF RING ABOVE;FERMATA;X BELOW;LEFT ARROWHEAD BELOW;RIGHT ARROWHEAD BELOW;" ++
    "RIGHT ARROWHEAD AND UP ARROWHEAD BELOW;RIGHT HALF RING ABOVE;DOT ABOVE RIGHT;" ++
    "ASTERISK BELOW;DOUBLE RING BELOW;ZIGZAG ABOVE"⟩,
  ⟨0x035C, ["COMBINING DOUBLE"], "BREVE BELOW;BREVE;MACRON;MACRON BELOW;TILDE;INVERTED BREVE;" ++
    "RIGHTWARDS ARROW BELOW"⟩,
  ⟨0x0363, ["COMBINING LATIN SMALL LETTER"], "A;E;I;O;U;C;D;H;M;R;T;V;X"⟩,
  ⟨0x0370, ["GREEK CAPITAL LETTER", "GREEK SMALL LETTER"], "HETA;ARCHAIC SAMPI"⟩,
  ⟨0x0374, ["GREEK", "GREEK LOWER"], "NUMERAL SIGN"⟩,
  ⟨0x0376, ["GREEK CAPITAL", "GREEK SMALL"], "LETTER PAMPHYLIAN DIGAMMA"⟩,
  ⟨0x037A, ["GREEK"], "YPOGEGRAMMENI;SMALL REVERSED LUNATE SIGMA SYMBOL;" ++
    "SMALL DOTTED LUNATE SIGMA SYMBOL;SMALL REVERSED DOTTED LUNATE SIGMA SYMBOL;QUESTION MARK;" ++
    "CAPITAL LETTER YOT"⟩,
  ⟨0x0384, ["GREEK"], "TONOS;DIALYTIKA TONOS;CAPITAL LETTER ALPHA WITH TONOS;ANO TELEIA"⟩,
  ⟨0x0388, ["GREEK CAPITAL LETTER"], "EPSILON WITH TONOS;ETA WITH TONOS;IOTA WITH TONOS"⟩,
  ⟨0x038C, ["GREEK CAPITAL LETTER OMICRON WITH"], "TONOS"⟩,
  ⟨0x038E, ["GREEK"], "CAPITAL LETTER UPSILON WITH TONOS;CAPITAL LETTER OMEGA WITH TONOS;" ++
    "SMALL LETTER IOTA WITH DIALYTIKA AND TONOS"⟩,
  ⟨0x0391, ["GREEK CAPITAL LETTER"], "ALPHA;BETA;GAMMA;DELTA;EPSILON;ZETA;ETA;THETA;IOTA;KAPPA;" ++
    "LAMDA;MU;NU;XI;OMICRON;PI;RHO"⟩,
  ⟨0x03A3, ["GREEK CAPITAL LETTER"], "SIGMA;TAU;UPSILON;PHI;CHI;PSI;OMEGA;IOTA WITH DIALYTIKA;" ++
    "UPSILON WITH DIALYTIKA"⟩,
  ⟨0x03AC, ["GREEK SMALL LETTER"], "ALPHA WITH TONOS;EPSILON WITH TONOS;ETA WITH TONOS;" ++
    "IOTA WITH TONOS;UPSILON WITH DIALYTIKA AND TONOS;ALPHA;BETA;GAMMA;DELTA;EPSILON;ZETA;ETA;" ++
    "THETA;IOTA;KAPPA;LAMDA;MU;NU;XI;OMICRON;PI;RHO;FINAL SIGMA;SIGMA;TAU;UPSILON;PHI;CHI;PSI;" ++
    "OMEGA;IOTA WITH DIALYTIKA;UPSILON WITH DIALYTIKA;OMICRON WITH TONOS;UPSILON WITH TONOS;" ++
    "OMEGA WITH TONOS"⟩,
  ⟨0x03CF, ["GREEK"], "CAPITAL KAI SYMBOL;BETA SYMBOL;THETA SYMBOL;UPSILON WITH HOOK SYMBOL;" ++
    "UPSILON WITH ACUTE AND HOOK SYMBOL;UPSILON WITH DIAERESIS AND HOOK SYMBOL;PHI SYMBOL;" ++
    "PI SYMBOL;KAI SYMBOL"⟩,
  ⟨0x03D8, ["GREEK LETTER", "GREEK SMALL LETTER"], "ARCHAIC KOPPA;STIGMA;DIGAMMA;KOPPA;SAMPI"⟩,
  ⟨0x03E2, ["COPTIC CAPITAL LETTER", "COPTIC SMALL LETTER"], "SHEI;FEI;KHEI;HORI;GANGIA;SHIMA;DEI"⟩,
  ⟨0x03F0, ["GREEK"], "KAPPA SYMBOL;RHO SYMBOL;LUNATE SIGMA SYMBOL;LETTER YOT;" ++
    "CAPITAL THETA SYMBOL;LUNATE EPSILON SYMBOL;REVERSED LUNATE EPSILON SYMBOL;" ++
    "CAPITAL LETTER SHO;SMALL LETTER SHO;CAPITAL LUNATE SIGMA SYMBOL;CAPITAL LETTER SAN;" ++
    "SMALL LETTER SAN;RHO WITH STROKE SYMBOL;CAPITAL REVERSED LUNATE SIGMA SYMBOL;" ++
    "CAPITAL DOTTED LUNATE SIGMA SYMBOL;CAPITAL REVERSED DOTTED LUNATE SIGMA SYMBOL"⟩,
  ⟨0x0400, ["CYRILLIC CAPITAL LETTER"], "IE WITH GRAVE;IO;DJE;GJE;UKRAINIAN IE;DZE;" ++
    "BYELORUSSIAN-UKRAINIAN I;YI;JE;LJE;NJE;TSHE;KJE;I WITH GRAVE;SHORT U;DZHE;A;BE;VE;GHE;DE;" ++
    "IE;ZHE;ZE;I;SHORT I;KA;EL;EM;EN;O;PE;ER;ES;TE;U;EF;HA;TSE;CHE;SHA;SHCHA;HARD SIGN;YERU;" ++
    "SOFT SIGN;E;YU;YA"⟩,
  ⟨0x0430, ["CYRILLIC SMALL LETTER"], "A;BE;VE;GHE;DE;IE;ZHE;ZE;I;SHORT I;KA;EL;EM;EN;O;PE;ER;" ++
    "ES;TE;U;EF;HA;TSE;CHE;SHA;SHCHA;HARD SIGN;YERU;SOFT SIGN;E;YU;YA;IE WITH GRAVE;IO;DJE;GJE;" ++
    "UKRAINIAN IE;DZE;BYELORUSSIAN-UKRAINIAN I;YI;JE;LJE;NJE;TSHE;KJE;I WITH GRAVE;SHORT U;DZHE"⟩,
  ⟨0x0460, ["CYRILLIC CAPITAL LETTER", "CYRILLIC SMALL LETTER"], "OMEGA;YAT;IOTIFIED E;" ++
    "LITTLE YUS;IOTIFIED LITTLE YUS;BIG YUS;IOTIFIED BIG YUS;KSI;PSI;FITA;IZHITSA;" ++
    "IZHITSA WITH DOUBLE GRAVE ACCENT;UK;ROUND OMEGA;OMEGA WITH TITLO;OT;KOPPA"⟩,
  ⟨0x0482, ["CYRILLIC THOUSANDS"], "SIGN"⟩,
  ⟨0x0483, ["COMBINING CYRILLIC"], "TITLO;PALATALIZATION;DASIA PNEUMATA;PSILI PNEUMATA;POKRYTIE;" ++
    "HUNDRED THOUSANDS SIGN;MILLIONS SIGN"⟩,
  ⟨0x048A, ["CYRILLIC CAPITAL LETTER", "CYRILLIC SMALL LETTER"], "SHORT I WITH TAIL;" ++
    "SEMISOFT SIGN;ER WITH TICK;GHE WITH UPTURN;GHE WITH STROKE;GHE WITH MIDDLE HOOK;" ++
    "ZHE WITH DESCENDER;ZE WITH DESCENDER;KA WITH DESCENDER;KA WITH VERTICAL STROKE;" ++
    "KA WITH STROKE;BASHKIR KA;EN WITH DESCENDER"⟩,
  ⟨0x04A4, ["CYRILLIC CAPITAL", "CYRILLIC SMALL"], "LIGATURE EN GHE;LETTER PE WITH MIDDLE HOOK;" ++
    "LETTER ABKHASIAN HA;LETTER ES WITH DESCENDER;LETTER TE WITH DESCENDER;LETTER STRAIGHT U;" ++
    "LETTER STRAIGHT U WITH STROKE;LETTER HA WITH DESCENDER;LIGATURE TE TSE;" ++
    "LETTER CHE WITH DESCENDER;LETTER CHE WITH VERTICAL STROKE;LETTER SHHA;LETTER ABKHASIAN CHE;" ++
    "LETTER ABKHASIAN CHE WITH DESCENDER"⟩, ⟨0x04C0, ["CYRILLIC LETTER"], "PALOCHKA"⟩,
  ⟨0x04C1, ["CYRILLIC CAPITAL LETTER", "CYRILLIC SMALL LETTER"], "ZHE WITH BREVE;KA WITH HOOK;" ++
    "EL WITH TAIL;EN WITH HOOK;EN WITH TAIL;KHAKASSIAN CHE;EM WITH TAIL"⟩,
  ⟨0x04CF, ["CYRILLIC SMALL LETTER"], "PALOCHKA"⟩,
  ⟨0x04D0, ["CYRILLIC CAPITAL", "CYRILLIC SMALL"], "LETTER A WITH BREVE;LETTER A WITH DIAERESIS;" ++
    "LIGATURE A IE"⟩,
  ⟨0x04D6, ["CYRILLIC CAPITAL LETTER", "CYRILLIC SMALL LETTER"], "IE WITH BREVE;SCHWA;" ++
    "SCHWA WITH DIAERESIS;ZHE WITH DIAERESIS;ZE WITH DIAERESIS;ABKHASIAN DZE;I WITH MACRON;" ++
    "I WITH DIAERESIS;O WITH DIAERESIS;BARRED O;BARRED O WITH DIAERESIS;E WITH DIAERESIS;" ++
    "U WITH MACRON;U WITH DIAERESIS;U WITH DOUBLE ACUTE;CHE WITH DIAERESIS;GHE WITH DESCENDER;" ++
    "YERU WITH DIAERESIS;GHE WITH STROKE AND HOOK;HA WITH HOOK;HA WITH STROKE;KOMI DE;KOMI DJE;" ++
    "KOMI ZJE;KOMI DZJE;KOMI LJE;KOMI NJE;KOMI SJE;KOMI TJE;REVERSED ZE;EL WITH HOOK;LHA;RHA;" ++
    "YAE;QA;WE;ALEUT KA;EL WITH MIDDLE HOOK;EN WITH MIDDLE HOOK;PE WITH DESCENDER;" ++
    "SHHA WITH DESCENDER;EN WITH LEFT HOOK;DZZHE;DCHE;EL WITH DESCENDER"⟩,
  ⟨0x05D0, ["HEBREW LETTER"], "ALEF;BET;GIMEL;DALET;HE;VAV;ZAYIN;HET;TET;YOD;FINAL KAF;KAF;" ++
    "LAMED;FINAL MEM;MEM;FINAL NUN;NUN;SAMEKH;AYIN;FINAL PE;PE;FINAL TSADI;TSADI;QOF;RESH;SHIN;" ++
    "TAV"⟩,
  ⟨0x0621, ["ARABIC LETTER"], "HAMZA;ALEF WITH MADDA ABOVE;ALEF WITH HAMZA ABOVE;" ++
    "WAW WITH HAMZA ABOVE;ALEF WITH HAMZA BELOW;YEH WITH HAMZA ABOVE;ALEF;BEH;TEH MARBUTA;TEH;" ++
    "THEH;JEEM;HAH;KHAH;DAL;THAL;REH;ZAIN;SEEN;SHEEN;SAD;DAD;TAH;ZAH;AIN;GHAIN;" ++
    "KEHEH WITH TWO DOTS ABOVE;KEHEH WITH THREE DOTS BELOW"⟩,
  ⟨0x063D, ["ARABIC LETTER FARSI YEH WITH"], "INVERTED V;TWO DOTS ABOVE;THREE DOTS ABOVE"⟩,
  ⟨0x0640, ["ARABIC"], "TATWEEL"⟩,
  ⟨0x0641, ["ARABIC LETTER"], "FEH;QAF;KAF;LAM;MEEM;NOON;HEH;WAW;ALEF MAKSURA;YEH"⟩,
  ⟨0x0E01, ["THAI CHARACTER"], "KO KAI;KHO KHAI;KHO KHUAT;KHO KHWAI;KHO KHON;KHO RAKHANG;" ++
    "NGO NGU;CHO CHAN;CHO CHING;CHO CHANG;SO SO;CHO CHOE;YO YING;DO CHADA;TO PATAK;THO THAN;" ++
    "THO NANGMONTHO;THO PHUTHAO;NO NEN;DO DEK;TO TAO;THO THUNG;THO THAHAN;THO THONG;NO NU;" ++
    "BO BAIMAI;PO PLA;PHO PHUNG;FO FA;PHO PHAN;FO FAN;PHO SAMPHAO;MO MA;YO YAK;RO RUA;RU;" ++
    "LO LING;LU;WO WAEN;SO SALA;SO RUSI;SO SUA;HO HIP;LO CHULA;O ANG;HO NOKHUK;PAIYANNOI;SARA A;" ++
    "MAI HAN-AKAT;SARA AA;SARA AM;SARA I;SARA II;SARA UE;SARA UEE;SARA U;SARA UU;PHINTHU"⟩,
  ⟨0x0E3F, ["THAI CURRENCY SYMBOL"], "BAHT"⟩,
  ⟨0x0E40, ["THAI CHARACTER"], "SARA E;SARA AE;SARA O;SARA AI MAIMUAN;SARA AI MAIMALAI;" ++
    "LAKKHANGYAO;MAIYAMOK;MAITAIKHU;MAI EK;MAI THO;MAI TRI;MAI CHATTAWA;THANTHAKHAT;NIKHAHIT;" ++
    "YAMAKKAN;FONGMAN"⟩,
  ⟨0x0E50, ["THAI DIGIT"], "ZERO;ONE;TWO;THREE;FOUR;FIVE;SIX;SEVEN;EIGHT;NINE"⟩,
  ⟨0x0E5A, ["THAI CHARACTER"], "ANGKHANKHU;KHOMUT"⟩,
  ⟨0x1E00, ["LATIN CAPITAL LETTER", "LATIN SMALL LETTER"], "A WITH RING BELOW;B WITH DOT ABOVE;" ++
    "B WITH DOT BELOW;B WITH LINE BELOW;C WITH CEDILLA AND ACUTE;D WITH DOT ABOVE;" ++
    "D WITH DOT BELOW;D WITH LINE BELOW;D WITH CEDILLA;D WITH CIRCUMFLEX BELOW;" ++
    "E WITH MACRON AND GRAVE;E WITH MACRON AND ACUTE;E WITH CIRCUMFLEX BELOW;E WITH TILDE BELOW;" ++
    "E WITH CEDILLA AND BREVE;F WITH DOT ABOVE;G WITH MACRON;H WITH DOT ABOVE;H WITH DOT BELOW;" ++
    "H WITH DIAERESIS;H WITH CEDILLA;H WITH BREVE BELOW;I WITH TILDE BELOW;" ++
    "I WITH DIAERESIS AND ACUTE;K WITH ACUTE;K WITH DOT BELOW;K WITH LINE BELOW;" ++
    "L WITH DOT BELOW;L WITH DOT BELOW AND MACRON;L WITH LINE BELOW;L WITH CIRCUMFLEX BELOW;" ++
    "M WITH ACUTE;M WITH DOT ABOVE;M WITH DOT BELOW;N WITH DOT ABOVE;N WITH DOT BELOW;" ++
    "N WITH LINE BELOW;N WITH CIRCUMFLEX BELOW;O WITH TILDE AND ACUTE;" ++
    "O WITH TILDE AND DIAERESIS;O WITH MACRON AND GRAVE;O WITH MACRON AND ACUTE;P WITH ACUTE;" ++
    "P WITH DOT ABOVE;R WITH DOT ABOVE;R WITH DOT BELOW;R WITH DOT BELOW AND MACRON;" ++
    "R WITH LINE BELOW;S WITH DOT ABOVE;S WITH DOT BELOW;S WITH ACUTE AND DOT ABOVE;" ++
    "S WITH CARON AND DOT ABOVE;S WITH DOT BELOW AND DOT ABOVE;T WITH DOT ABOVE;" ++
    "T WITH DOT BELOW;T WITH LINE BELOW;T WITH CIRCUMFLEX BELOW;U WITH DIAERESIS BELOW;" ++
    "U WITH TILDE BELOW;U WITH CIRCUMFLEX BELOW;U WITH TILDE AND ACUTE;" ++
    "U WITH MACRON AND DIAERESIS;V WITH TILDE;V WITH DOT BELOW;W WITH GRAVE;W WITH ACUTE;" ++
    "W WITH DIAERESIS;W WITH DOT ABOVE;W WITH DOT BELOW;X WITH DOT ABOVE;X WITH DIAERESIS;" ++
    "Y WITH DOT ABOVE;Z WITH CIRCUMFLEX;Z WITH DOT BELOW;Z WITH LINE BELOW"⟩,
  ⟨0x1E96, ["LATIN SMALL LETTER"], "H WITH LINE BELOW;T WITH DIAERESIS;W WITH RING ABOVE;" ++
    "Y WITH RING ABOVE;A WITH RIGHT HALF RING;LONG S WITH DOT ABOVE;LONG S WITH DIAGONAL STROKE;" ++
    "LONG S WITH HIGH STROKE"⟩, ⟨0x1E9E, ["LATIN"], "CAPITAL LETTER SHARP S;SMALL LETTER DELTA"⟩,
  ⟨0x1EA0, ["LATIN CAPITAL LETTER A WITH", "LATIN SMALL LETTER A WITH"], "DOT BELOW;HOOK ABOVE;" ++
    "CIRCUMFLEX AND ACUTE;CIRCUMFLEX AND GRAVE;CIRCUMFLEX AND HOOK ABOVE;CIRCUMFLEX AND TILDE;" ++
    "CIRCUMFLEX AND DOT BELOW;BREVE AND ACUTE;BREVE AND GRAVE;BREVE AND HOOK ABOVE;" ++
    "BREVE AND TILDE;BREVE AND DOT BELOW"⟩,
  ⟨0x1EB8, ["LATIN CAPITAL LETTER", "LATIN SMALL LETTER"], "E WITH DOT BELOW;E WITH HOOK ABOVE;" ++
    "E WITH TILDE;E WITH CIRCUMFLEX AND ACUTE;E WITH CIRCUMFLEX AND GRAVE;" ++
    "E WITH CIRCUMFLEX AND HOOK ABOVE;E WITH CIRCUMFLEX AND TILDE;" ++
    "E WITH CIRCUMFLEX AND DOT BELOW;I WITH HOOK ABOVE;I WITH DOT BELOW;O WITH DOT BELOW;" ++
    "O WITH HOOK ABOVE;O WITH CIRCUMFLEX AND ACUTE;O WITH CIRCUMFLEX AND GRAVE;" ++
    "O WITH CIRCUMFLEX AND HOOK ABOVE;O WITH CIRCUMFLEX AND TILDE;" ++
    "O WITH CIRCUMFLEX AND DOT BELOW;O WITH HORN AND ACUTE;O WITH HORN AND GRAVE;" ++
    "O WITH HORN AND HOOK ABOVE;O WITH HORN AND TILDE;O WITH HORN AND DOT BELOW;" ++
    "U WITH DOT BELOW;U WITH HOOK ABOVE;U WITH HORN AND ACUTE;U WITH HORN AND GRAVE;" ++
    "U WITH HORN AND HOOK ABOVE;U WITH HORN AND TILDE;U WITH HORN AND DOT BELOW;Y WITH GRAVE;" ++
    "Y WITH DOT BELOW;Y WITH HOOK ABOVE;Y WITH TILDE;MIDDLE-WELSH LL;MIDDLE-WELSH V;Y WITH LOOP"⟩]

end EntityForge.NameRun
