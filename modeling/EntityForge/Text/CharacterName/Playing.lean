import EntityForge.Text.CharacterName.Run

/-! # Names of tiles and cards

The names of tiles and cards, of enclosed and segmented signs, and of the letters and signs around
them.
-/

namespace EntityForge.NameRun

/-- The names from 1E000 on, in runs. -/
def playingFrom1E000 : List NameRun := [
  ⟨0x1E000, ["COMBINING GLAGOLITIC LETTER"], "AZU;BUKY;VEDE;GLAGOLI;DOBRO;YESTU;ZHIVETE"⟩,
  ⟨0x1E008, ["COMBINING GLAGOLITIC LETTER"], "ZEMLJA;IZHE;INITIAL IZHE;I;DJERVI;KAKO;LJUDIJE;" ++
    "MYSLITE;NASHI;ONU;POKOJI;RITSI;SLOVO;TVRIDO;UKU;FRITU;HERU"⟩,
  ⟨0x1E01B, ["COMBINING GLAGOLITIC LETTER"], "SHTA;TSI;CHRIVI;SHA;YERU;YERI;YATI"⟩,
  ⟨0x1E023, ["COMBINING GLAGOLITIC LETTER"], "YU;SMALL YUS"⟩,
  ⟨0x1E026, ["COMBINING GLAGOLITIC LETTER"], "YO;IOTATED SMALL YUS;BIG YUS;IOTATED BIG YUS;FITA"⟩,
  ⟨0x1E100, ["NYIAKENG PUACHUE HMONG LETTER"], "MA;TSA;NTA;TA;HA;NA;XA;NKA;CA;LA;SA;ZA;NCA;NTSA;" ++
    "KA;DA;NYA;NRA;VA;NTXA;TXA;FA;RA;QA;YA;NQA;PA;XYA;NPA;DLA;NPLA;HAH;MLA;PLA;GA;RRA;A;AA;I;U;" ++
    "O;OO;E;EE;W"⟩,
  ⟨0x1E130, ["NYIAKENG PUACHUE HMONG"], "TONE-B;TONE-M;TONE-J;TONE-V;TONE-S;TONE-G;TONE-D;" ++
    "SIGN FOR PERSON;SIGN FOR THING;SIGN FOR LOCATION;SIGN FOR ANIMAL;SIGN FOR INVERTEBRATE;" ++
    "SIGN XW XW;SYLLABLE LENGTHENER"⟩,
  ⟨0x1E140, ["NYIAKENG PUACHUE HMONG DIGIT"], "ZERO;ONE;TWO;THREE;FOUR;FIVE;SIX;SEVEN;EIGHT;NINE"⟩,
  ⟨0x1E14E, ["NYIAKENG PUACHUE HMONG"], "LOGOGRAM NYAJ;CIRCLED CA"⟩,
  ⟨0x1E290, ["TOTO LETTER"], "PA;BA;TA;DA;KA;GA;MA;NA;NGA;SA;CHA;YA;WA;JA;HA;RA;LA;I;BREATHY I;" ++
    "IU;BREATHY IU;U;E;BREATHY E;EO;BREATHY EO;O;AE;BREATHY AE;A"⟩,
  ⟨0x1E2AE, ["TOTO SIGN RISING"], "TONE"⟩,
  ⟨0x1E2C0, ["WANCHO LETTER"], "AA;A;BA;CA;DA;GA;YA;PHA;LA;NA;PA;TA;THA;FA;SA;SHA;JA;ZA;WA;VA;" ++
    "KA;O;AU;RA;MA;KHA;HA;E;I;NGA;U;LLHA;TSA;TRA;ONG;AANG;ANG;ING;ON;EN;AAN;NYA;UEN;YIH"⟩,
  ⟨0x1E2EC, ["WANCHO TONE"], "TUP;TUPNI;KOI;KOINI"⟩,
  ⟨0x1E2F0, ["WANCHO DIGIT"], "ZERO;ONE;TWO;THREE;FOUR;FIVE;SIX;SEVEN;EIGHT;NINE"⟩,
  ⟨0x1E2FF, ["WANCHO NGUN"], "SIGN"⟩,
  ⟨0x1E7E0, ["ETHIOPIC SYLLABLE"], "HHYA;HHYU;HHYI;HHYAA;HHYEE;HHYE;HHYO"⟩,
  ⟨0x1E7E8, ["ETHIOPIC SYLLABLE"], "GURAGE HHWA;HHWI;HHWEE;HHWE"⟩,
  ⟨0x1E7ED, ["ETHIOPIC SYLLABLE GURAGE"], "MWI;MWEE"⟩,
  ⟨0x1E7F0, ["ETHIOPIC SYLLABLE GURAGE"], "QWI;QWEE;QWE;BWI;BWEE;KWI;KWEE;KWE;GWI;GWEE;GWE;FWI;" ++
    "FWEE;PWI;PWEE"⟩,
  ⟨0x1E800, ["MENDE KIKAKUI SYLLABLE"], "M001 KI;M002 KA;M003 KU;M065 KEE;M095 KE;M076 KOO;" ++
    "M048 KO;M179 KUA;M004 WI;M005 WA;M006 WU;M126 WEE;M118 WE;M114 WOO;M045 WO;M194 WUI;" ++
    "M143 WEI;M061 WVI;M049 WVA;M139 WVE;M007 MIN;M008 MAN;M009 MUN;M059 MEN;M094 MON;M154 MUAN;" ++
    "M189 MUEN;M010 BI;M011 BA;M012 BU;M150 BEE;M097 BE;M103 BOO;M138 BO;M013 I;M014 A;M015 U;" ++
    "M163 EE;M100 E;M165 OO;M147 O;M137 EI;M131 IN;M135 IN;M195 AN;M178 EN;M019 SI;M020 SA;" ++
    "M021 SU;M162 SEE;M116 SE;M136 SOO;M079 SO;M196 SIA;M025 LI;M026 LA;M027 LU;M084 LEE;" ++
    "M073 LE;M054 LOO;M153 LO;M110 LONG LE;M016 DI;M017 DA;M018 DU;M089 DEE;M180 DOO;M181 DO;" ++
    "M022 TI;M023 TA;M024 TU;M091 TEE;M055 TE;M104 TOO;M069 TO;M028 JI;M029 JA;M030 JU;M157 JEE;" ++
    "M113 JE;M160 JOO;M063 JO;M175 LONG JO;M031 YI;M032 YA;M033 YU;M109 YEE;M080 YE;M141 YOO;" ++
    "M121 YO;M034 FI;M035 FA;M036 FU;M078 FEE;M075 FE;M133 FOO;M088 FO;M197 FUA;M101 FAN;" ++
    "M037 NIN;M038 NAN;M039 NUN;M117 NEN;M169 NON;M176 HI;M041 HA;M186 HU;M040 HEE;M096 HE;" ++
    "M042 HOO;M140 HO;M083 HEEI;M128 HOOU;M053 HIN;M130 HAN;M087 HUN;M052 HEN;M193 HON;" ++
    "M046 HUAN;M090 NGGI;M043 NGGA;M082 NGGU;M115 NGGEE;M146 NGGE;M156 NGGOO;M120 NGGO;" ++
    "M159 NGGAA;M127 NGGUA;M086 LONG NGGE;M106 LONG NGGOO;M183 LONG NGGO;M155 GI;M111 GA;" ++
    "M168 GU;M190 GEE;M166 GUEI;M167 GUAN;M184 NGEN;M057 NGON;M177 NGUAN;M068 PI;M099 PA;" ++
    "M050 PU;M081 PEE;M051 PE;M102 POO;M066 PO;M145 MBI;M062 MBA;M122 MBU;M047 MBEE;M188 MBEE;" ++
    "M072 MBE;M172 MBOO;M174 MBO;M187 MBUU;M161 LONG MBE;M105 LONG MBOO;M142 LONG MBO;M132 KPI;" ++
    "M092 KPA;M074 KPU;M044 KPEE;M108 KPE;M112 KPOO;M158 KPO;M124 GBI;M056 GBA;M148 GBU;" ++
    "M093 GBEE;M107 GBE;M071 GBOO;M070 GBO;M171 RA;M123 NDI;M129 NDA;M125 NDU;M191 NDEE;" ++
    "M119 NDE;M067 NDOO;M064 NDO;M152 NJA;M192 NJU;M149 NJEE;M134 NJOO;M182 VI;M185 VA;M151 VU;" ++
    "M173 VEE;M085 VE;M144 VOO;M077 VO;M164 NYIN;M058 NYAN;M170 NYUN;M098 NYEN;M060 NYON"⟩,
  ⟨0x1E8C7, ["MENDE KIKAKUI DIGIT"], "ONE;TWO;THREE;FOUR;FIVE;SIX;SEVEN;EIGHT;NINE"⟩,
  ⟨0x1E8D0, ["MENDE KIKAKUI COMBINING NUMBER"], "TEENS;TENS;HUNDREDS;THOUSANDS;TEN THOUSANDS;" ++
    "HUNDRED THOUSANDS;MILLIONS"⟩,
  ⟨0x1E900, ["ADLAM CAPITAL LETTER"], "ALIF;DAALI;LAAM;MIIM;BA;SINNYIIYHE;PE;BHE;RA;E;FA;I;O;" ++
    "DHA;YHE;WAW;NUN;KAF;YA;U;JIIM;CHI;HA;QAAF;GA;NYA;TU;NHA;VA;KHA;GBE;ZAL;KPO;SHA"⟩,
  ⟨0x1E922, ["ADLAM SMALL LETTER"], "ALIF;DAALI;LAAM;MIIM;BA;SINNYIIYHE;PE;BHE;RA;E;FA;I;O;DHA;" ++
    "YHE;WAW;NUN;KAF;YA;U;JIIM;CHI;HA;QAAF;GA;NYA;TU;NHA;VA;KHA;GBE;ZAL;KPO;SHA"⟩,
  ⟨0x1E944, ["ADLAM"], "ALIF LENGTHENER;VOWEL LENGTHENER;GEMINATION MARK;HAMZA;" ++
    "CONSONANT MODIFIER;GEMINATE CONSONANT MODIFIER;NUKTA;NASALIZATION MARK"⟩,
  ⟨0x1E950, ["ADLAM DIGIT"], "ZERO;ONE;TWO;THREE;FOUR;FIVE;SIX;SEVEN;EIGHT;NINE"⟩,
  ⟨0x1E95E, ["ADLAM INITIAL"], "EXCLAMATION MARK;QUESTION MARK"⟩,
  ⟨0x1EC71, ["INDIC SIYAQ NUMBER"], "ONE;TWO;THREE;FOUR;FIVE;SIX;SEVEN;EIGHT;NINE;TEN;TWENTY;" ++
    "THIRTY;FORTY;FIFTY;SIXTY;SEVENTY;EIGHTY;NINETY;ONE HUNDRED;TWO HUNDRED;THREE HUNDRED;" ++
    "FOUR HUNDRED;FIVE HUNDRED;SIX HUNDRED;SEVEN HUNDRED;EIGHT HUNDRED;NINE HUNDRED;" ++
    "ONE THOUSAND;TWO THOUSAND;THREE THOUSAND;FOUR THOUSAND;FIVE THOUSAND;SIX THOUSAND;" ++
    "SEVEN THOUSAND;EIGHT THOUSAND;NINE THOUSAND;TEN THOUSAND;TWENTY THOUSAND;THIRTY THOUSAND;" ++
    "FORTY THOUSAND;FIFTY THOUSAND;SIXTY THOUSAND;SEVENTY THOUSAND;EIGHTY THOUSAND;" ++
    "NINETY THOUSAND;LAKH;LAKHAN"⟩,
  ⟨0x1ECA0, ["INDIC SIYAQ"], "LAKH MARK;NUMBER KAROR;NUMBER KARORAN"⟩,
  ⟨0x1ECA3, ["INDIC SIYAQ NUMBER PREFIXED"], "ONE;TWO;THREE;FOUR;FIVE;SIX;SEVEN;EIGHT;NINE"⟩,
  ⟨0x1ECAC, ["INDIC SIYAQ"], "PLACEHOLDER;FRACTION ONE QUARTER;FRACTION ONE HALF;" ++
    "FRACTION THREE QUARTERS;RUPEE MARK;NUMBER ALTERNATE ONE;NUMBER ALTERNATE TWO;" ++
    "NUMBER ALTERNATE TEN THOUSAND;ALTERNATE LAKH MARK"⟩,
  ⟨0x1ED01, ["OTTOMAN SIYAQ NUMBER"], "ONE;TWO;THREE;FOUR;FIVE;SIX;SEVEN;EIGHT;NINE;TEN;TWENTY;" ++
    "THIRTY;FORTY;FIFTY;SIXTY;SEVENTY;EIGHTY;NINETY;ONE HUNDRED;TWO HUNDRED;THREE HUNDRED;" ++
    "FOUR HUNDRED;FIVE HUNDRED;SIX HUNDRED;SEVEN HUNDRED;EIGHT HUNDRED;NINE HUNDRED;" ++
    "ONE THOUSAND;TWO THOUSAND;THREE THOUSAND;FOUR THOUSAND;FIVE THOUSAND;SIX THOUSAND;" ++
    "SEVEN THOUSAND;EIGHT THOUSAND;NINE THOUSAND;TEN THOUSAND;TWENTY THOUSAND;THIRTY THOUSAND;" ++
    "FORTY THOUSAND;FIFTY THOUSAND;SIXTY THOUSAND;SEVENTY THOUSAND;EIGHTY THOUSAND;" ++
    "NINETY THOUSAND"⟩, ⟨0x1ED2E, ["OTTOMAN SIYAQ"], "MARRATAN"⟩,
  ⟨0x1ED2F, ["OTTOMAN SIYAQ ALTERNATE NUMBER"], "TWO;THREE;FOUR;FIVE;SIX;SEVEN;EIGHT;NINE;TEN;" ++
    "FOUR HUNDRED;SIX HUNDRED;TWO THOUSAND;TEN THOUSAND"⟩,
  ⟨0x1ED3C, ["OTTOMAN SIYAQ FRACTION ONE"], "HALF;SIXTH"⟩,
  ⟨0x1EE00, ["ARABIC MATHEMATICAL"], "ALEF;BEH;JEEM;DAL"⟩,
  ⟨0x1EE05, ["ARABIC MATHEMATICAL"], "WAW;ZAIN;HAH;TAH;YEH;KAF;LAM;MEEM;NOON;SEEN;AIN;FEH;SAD;" ++
    "QAF;REH;SHEEN;TEH;THEH;KHAH;THAL;DAD;ZAH;GHAIN;DOTLESS BEH;DOTLESS NOON;DOTLESS FEH;" ++
    "DOTLESS QAF"⟩, ⟨0x1EE21, ["ARABIC MATHEMATICAL INITIAL"], "BEH;JEEM"⟩,
  ⟨0x1EE24, ["ARABIC MATHEMATICAL INITIAL"], "HEH"⟩,
  ⟨0x1EE27, ["ARABIC MATHEMATICAL INITIAL"], "HAH"⟩,
  ⟨0x1EE29, ["ARABIC MATHEMATICAL INITIAL"], "YEH;KAF;LAM;MEEM;NOON;SEEN;AIN;FEH;SAD;QAF"⟩,
  ⟨0x1EE34, ["ARABIC MATHEMATICAL INITIAL"], "SHEEN;TEH;THEH;KHAH"⟩,
  ⟨0x1EE39, ["ARABIC MATHEMATICAL INITIAL"], "DAD"⟩,
  ⟨0x1EE3B, ["ARABIC MATHEMATICAL INITIAL"], "GHAIN"⟩,
  ⟨0x1EE42, ["ARABIC MATHEMATICAL TAILED"], "JEEM"⟩,
  ⟨0x1EE47, ["ARABIC MATHEMATICAL TAILED"], "HAH"⟩,
  ⟨0x1EE49, ["ARABIC MATHEMATICAL TAILED"], "YEH"⟩,
  ⟨0x1EE4B, ["ARABIC MATHEMATICAL TAILED"], "LAM"⟩,
  ⟨0x1EE4D, ["ARABIC MATHEMATICAL TAILED"], "NOON;SEEN;AIN"⟩,
  ⟨0x1EE51, ["ARABIC MATHEMATICAL TAILED"], "SAD;QAF"⟩,
  ⟨0x1EE54, ["ARABIC MATHEMATICAL TAILED"], "SHEEN"⟩,
  ⟨0x1EE57, ["ARABIC MATHEMATICAL TAILED"], "KHAH"⟩,
  ⟨0x1EE59, ["ARABIC MATHEMATICAL TAILED"], "DAD"⟩,
  ⟨0x1EE5B, ["ARABIC MATHEMATICAL TAILED"], "GHAIN"⟩,
  ⟨0x1EE5D, ["ARABIC MATHEMATICAL TAILED DOTLESS"], "NOON"⟩,
  ⟨0x1EE5F, ["ARABIC MATHEMATICAL TAILED DOTLESS"], "QAF"⟩,
  ⟨0x1EE61, ["ARABIC MATHEMATICAL STRETCHED"], "BEH;JEEM"⟩,
  ⟨0x1EE64, ["ARABIC MATHEMATICAL STRETCHED"], "HEH"⟩,
  ⟨0x1EE67, ["ARABIC MATHEMATICAL STRETCHED"], "HAH;TAH;YEH;KAF"⟩,
  ⟨0x1EE6C, ["ARABIC MATHEMATICAL STRETCHED"], "MEEM;NOON;SEEN;AIN;FEH;SAD;QAF"⟩,
  ⟨0x1EE74, ["ARABIC MATHEMATICAL STRETCHED"], "SHEEN;TEH;THEH;KHAH"⟩,
  ⟨0x1EE79, ["ARABIC MATHEMATICAL STRETCHED"], "DAD;ZAH;GHAIN;DOTLESS BEH"⟩,
  ⟨0x1EE7E, ["ARABIC MATHEMATICAL STRETCHED DOTLESS"], "FEH"⟩,
  ⟨0x1EE80, ["ARABIC MATHEMATICAL LOOPED"], "ALEF;BEH;JEEM;DAL;HEH;WAW;ZAIN;HAH;TAH;YEH"⟩,
  ⟨0x1EE8B, ["ARABIC MATHEMATICAL LOOPED"], "LAM;MEEM;NOON;SEEN;AIN;FEH;SAD;QAF;REH;SHEEN;TEH;" ++
    "THEH;KHAH;THAL;DAD;ZAH;GHAIN"⟩,
  ⟨0x1EEA1, ["ARABIC MATHEMATICAL DOUBLE-STRUCK"], "BEH;JEEM;DAL"⟩,
  ⟨0x1EEA5, ["ARABIC MATHEMATICAL DOUBLE-STRUCK"], "WAW;ZAIN;HAH;TAH;YEH"⟩,
  ⟨0x1EEAB, ["ARABIC MATHEMATICAL DOUBLE-STRUCK"], "LAM;MEEM;NOON;SEEN;AIN;FEH;SAD;QAF;REH;" ++
    "SHEEN;TEH;THEH;KHAH;THAL;DAD;ZAH;GHAIN"⟩,
  ⟨0x1EEF0, ["ARABIC MATHEMATICAL OPERATOR"], "MEEM WITH HAH WITH TATWEEL;HAH WITH DAL"⟩,
  ⟨0x1F000, ["MAHJONG TILE"], "EAST WIND;SOUTH WIND;WEST WIND;NORTH WIND;RED DRAGON;" ++
    "GREEN DRAGON;WHITE DRAGON;ONE OF CHARACTERS;TWO OF CHARACTERS;THREE OF CHARACTERS;" ++
    "FOUR OF CHARACTERS;FIVE OF CHARACTERS;SIX OF CHARACTERS;SEVEN OF CHARACTERS;" ++
    "EIGHT OF CHARACTERS;NINE OF CHARACTERS;ONE OF BAMBOOS;TWO OF BAMBOOS;THREE OF BAMBOOS;" ++
    "FOUR OF BAMBOOS;FIVE OF BAMBOOS;SIX OF BAMBOOS;SEVEN OF BAMBOOS;EIGHT OF BAMBOOS;" ++
    "NINE OF BAMBOOS;ONE OF CIRCLES;TWO OF CIRCLES;THREE OF CIRCLES;FOUR OF CIRCLES;" ++
    "FIVE OF CIRCLES;SIX OF CIRCLES;SEVEN OF CIRCLES;EIGHT OF CIRCLES;NINE OF CIRCLES;PLUM;" ++
    "ORCHID;BAMBOO;CHRYSANTHEMUM;SPRING;SUMMER;AUTUMN;WINTER;JOKER;BACK"⟩,
  ⟨0x1F030, ["DOMINO TILE"], "HORIZONTAL BACK;HORIZONTAL-00-00;HORIZONTAL-00-01;" ++
    "HORIZONTAL-00-02;HORIZONTAL-00-03;HORIZONTAL-00-04;HORIZONTAL-00-05;HORIZONTAL-00-06;" ++
    "HORIZONTAL-01-00;HORIZONTAL-01-01;HORIZONTAL-01-02;HORIZONTAL-01-03;HORIZONTAL-01-04;" ++
    "HORIZONTAL-01-05;HORIZONTAL-01-06;HORIZONTAL-02-00;HORIZONTAL-02-01;HORIZONTAL-02-02;" ++
    "HORIZONTAL-02-03;HORIZONTAL-02-04;HORIZONTAL-02-05;HORIZONTAL-02-06;HORIZONTAL-03-00;" ++
    "HORIZONTAL-03-01;HORIZONTAL-03-02;HORIZONTAL-03-03;HORIZONTAL-03-04;HORIZONTAL-03-05;" ++
    "HORIZONTAL-03-06;HORIZONTAL-04-00;HORIZONTAL-04-01;HORIZONTAL-04-02;HORIZONTAL-04-03;" ++
    "HORIZONTAL-04-04;HORIZONTAL-04-05;HORIZONTAL-04-06;HORIZONTAL-05-00;HORIZONTAL-05-01;" ++
    "HORIZONTAL-05-02;HORIZONTAL-05-03;HORIZONTAL-05-04;HORIZONTAL-05-05;HORIZONTAL-05-06;" ++
    "HORIZONTAL-06-00;HORIZONTAL-06-01;HORIZONTAL-06-02;HORIZONTAL-06-03;HORIZONTAL-06-04;" ++
    "HORIZONTAL-06-05;HORIZONTAL-06-06;VERTICAL BACK;VERTICAL-00-00;VERTICAL-00-01;" ++
    "VERTICAL-00-02;VERTICAL-00-03;VERTICAL-00-04;VERTICAL-00-05;VERTICAL-00-06;VERTICAL-01-00;" ++
    "VERTICAL-01-01;VERTICAL-01-02;VERTICAL-01-03;VERTICAL-01-04;VERTICAL-01-05;VERTICAL-01-06;" ++
    "VERTICAL-02-00;VERTICAL-02-01;VERTICAL-02-02;VERTICAL-02-03;VERTICAL-02-04;VERTICAL-02-05;" ++
    "VERTICAL-02-06;VERTICAL-03-00;VERTICAL-03-01;VERTICAL-03-02;VERTICAL-03-03;VERTICAL-03-04;" ++
    "VERTICAL-03-05;VERTICAL-03-06;VERTICAL-04-00;VERTICAL-04-01;VERTICAL-04-02;VERTICAL-04-03;" ++
    "VERTICAL-04-04;VERTICAL-04-05;VERTICAL-04-06;VERTICAL-05-00;VERTICAL-05-01;VERTICAL-05-02;" ++
    "VERTICAL-05-03;VERTICAL-05-04;VERTICAL-05-05;VERTICAL-05-06;VERTICAL-06-00;VERTICAL-06-01;" ++
    "VERTICAL-06-02;VERTICAL-06-03;VERTICAL-06-04;VERTICAL-06-05;VERTICAL-06-06"⟩,
  ⟨0x1F0A0, ["PLAYING CARD"], "BACK;ACE OF SPADES;TWO OF SPADES;THREE OF SPADES;FOUR OF SPADES;" ++
    "FIVE OF SPADES;SIX OF SPADES;SEVEN OF SPADES;EIGHT OF SPADES;NINE OF SPADES;TEN OF SPADES;" ++
    "JACK OF SPADES;KNIGHT OF SPADES;QUEEN OF SPADES;KING OF SPADES"⟩,
  ⟨0x1F0B1, ["PLAYING CARD"], "ACE OF HEARTS;TWO OF HEARTS;THREE OF HEARTS;FOUR OF HEARTS;" ++
    "FIVE OF HEARTS;SIX OF HEARTS;SEVEN OF HEARTS;EIGHT OF HEARTS;NINE OF HEARTS;TEN OF HEARTS;" ++
    "JACK OF HEARTS;KNIGHT OF HEARTS;QUEEN OF HEARTS;KING OF HEARTS;RED JOKER"⟩,
  ⟨0x1F0C1, ["PLAYING CARD"], "ACE OF DIAMONDS;TWO OF DIAMONDS;THREE OF DIAMONDS;" ++
    "FOUR OF DIAMONDS;FIVE OF DIAMONDS;SIX OF DIAMONDS;SEVEN OF DIAMONDS;EIGHT OF DIAMONDS;" ++
    "NINE OF DIAMONDS;TEN OF DIAMONDS;JACK OF DIAMONDS;KNIGHT OF DIAMONDS;QUEEN OF DIAMONDS;" ++
    "KING OF DIAMONDS;BLACK JOKER"⟩,
  ⟨0x1F0D1, ["PLAYING CARD"], "ACE OF CLUBS;TWO OF CLUBS;THREE OF CLUBS;FOUR OF CLUBS;" ++
    "FIVE OF CLUBS;SIX OF CLUBS;SEVEN OF CLUBS;EIGHT OF CLUBS;NINE OF CLUBS;TEN OF CLUBS;" ++
    "JACK OF CLUBS;KNIGHT OF CLUBS;QUEEN OF CLUBS;KING OF CLUBS;WHITE JOKER;FOOL;TRUMP-1;" ++
    "TRUMP-2;TRUMP-3;TRUMP-4;TRUMP-5;TRUMP-6;TRUMP-7;TRUMP-8;TRUMP-9;TRUMP-10;TRUMP-11;TRUMP-12;" ++
    "TRUMP-13;TRUMP-14;TRUMP-15;TRUMP-16;TRUMP-17;TRUMP-18;TRUMP-19;TRUMP-20;TRUMP-21"⟩,
  ⟨0x1F200, ["SQUARE HIRAGANA"], "HOKA"⟩, ⟨0x1F201, ["SQUARED KATAKANA"], "KOKO;SA"⟩,
  ⟨0x1F210, ["SQUARED CJK UNIFIED"], "IDEOGRAPH-624B;IDEOGRAPH-5B57;IDEOGRAPH-53CC"⟩,
  ⟨0x1F213, ["SQUARED KATAKANA"], "DE"⟩,
  ⟨0x1F214, ["SQUARED CJK UNIFIED"], "IDEOGRAPH-4E8C;IDEOGRAPH-591A;IDEOGRAPH-89E3;" ++
    "IDEOGRAPH-5929;IDEOGRAPH-4EA4;IDEOGRAPH-6620;IDEOGRAPH-7121;IDEOGRAPH-6599;IDEOGRAPH-524D;" ++
    "IDEOGRAPH-5F8C;IDEOGRAPH-518D;IDEOGRAPH-65B0;IDEOGRAPH-521D;IDEOGRAPH-7D42;IDEOGRAPH-751F;" ++
    "IDEOGRAPH-8CA9;IDEOGRAPH-58F0;IDEOGRAPH-5439;IDEOGRAPH-6F14;IDEOGRAPH-6295;IDEOGRAPH-6355;" ++
    "IDEOGRAPH-4E00;IDEOGRAPH-4E09;IDEOGRAPH-904A;IDEOGRAPH-5DE6;IDEOGRAPH-4E2D;IDEOGRAPH-53F3;" ++
    "IDEOGRAPH-6307;IDEOGRAPH-8D70;IDEOGRAPH-6253;IDEOGRAPH-7981;IDEOGRAPH-7A7A;IDEOGRAPH-5408;" ++
    "IDEOGRAPH-6E80;IDEOGRAPH-6709;IDEOGRAPH-6708;IDEOGRAPH-7533;IDEOGRAPH-5272;IDEOGRAPH-55B6;" ++
    "IDEOGRAPH-914D"⟩,
  ⟨0x1F240, ["TORTOISE SHELL BRACKETED CJK UNIFIED"], "IDEOGRAPH-672C;IDEOGRAPH-4E09;" ++
    "IDEOGRAPH-4E8C;IDEOGRAPH-5B89;IDEOGRAPH-70B9;IDEOGRAPH-6253;IDEOGRAPH-76D7;IDEOGRAPH-52DD;" ++
    "IDEOGRAPH-6557"⟩, ⟨0x1F250, ["CIRCLED IDEOGRAPH"], "ADVANTAGE;ACCEPT"⟩,
  ⟨0x1F260, ["ROUNDED SYMBOL FOR"], "FU;LU;SHOU;XI;SHUANGXI;CAI"⟩,
  ⟨0x1F650, ["NORTH", "SOUTH"], "WEST POINTING LEAF;EAST POINTING LEAF"⟩,
  ⟨0x1F654, ["TURNED NORTH", "TURNED SOUTH"], "WEST POINTING LEAF;EAST POINTING LEAF"⟩,
  ⟨0x1F658, ["NORTH", "SOUTH"], "WEST POINTING VINE LEAF;EAST POINTING VINE LEAF"⟩,
  ⟨0x1F65C, ["HEAVY NORTH", "HEAVY SOUTH"], "WEST POINTING VINE LEAF;EAST POINTING VINE LEAF"⟩,
  ⟨0x1F660, ["NORTH", "SOUTH"], "WEST POINTING BUD;EAST POINTING BUD"⟩,
  ⟨0x1F664, ["HEAVY NORTH", "HEAVY SOUTH"], "WEST POINTING BUD;EAST POINTING BUD"⟩,
  ⟨0x1F668, ["HOLLOW QUILT SQUARE"], "ORNAMENT;ORNAMENT IN BLACK SQUARE"⟩,
  ⟨0x1F66A, ["SOLID QUILT SQUARE"], "ORNAMENT;ORNAMENT IN BLACK SQUARE"⟩,
  ⟨0x1F66C, [""], "LEFTWARDS ROCKET;UPWARDS ROCKET;RIGHTWARDS ROCKET;DOWNWARDS ROCKET"⟩,
  ⟨0x1F670, ["SCRIPT", "HEAVY SCRIPT"], "LIGATURE ET ORNAMENT"⟩,
  ⟨0x1F672, ["LIGATURE", "HEAVY LIGATURE"], "OPEN ET ORNAMENT"⟩,
  ⟨0x1F674, ["HEAVY", "SWASH"], "AMPERSAND ORNAMENT"⟩,
  ⟨0x1F676, ["SANS-SERIF HEAVY"], "DOUBLE TURNED COMMA QUOTATION MARK ORNAMENT;" ++
    "DOUBLE COMMA QUOTATION MARK ORNAMENT;LOW DOUBLE COMMA QUOTATION MARK ORNAMENT"⟩,
  ⟨0x1F679, ["HEAVY", "SANS-SERIF"], "INTERROBANG ORNAMENT"⟩,
  ⟨0x1F67B, [""], "HEAVY SANS-SERIF INTERROBANG ORNAMENT;VERY HEAVY SOLIDUS;" ++
    "VERY HEAVY REVERSE SOLIDUS;CHECKER BOARD;REVERSE CHECKER BOARD"⟩,
  ⟨0x1F700, ["ALCHEMICAL SYMBOL FOR"], "QUINTESSENCE;AIR;FIRE;EARTH;WATER;AQUAFORTIS;AQUA REGIA;" ++
    "AQUA REGIA-2;AQUA VITAE;AQUA VITAE-2;VINEGAR;VINEGAR-2;VINEGAR-3;SULFUR;" ++
    "PHILOSOPHERS SULFUR;BLACK SULFUR;MERCURY SUBLIMATE;MERCURY SUBLIMATE-2;MERCURY SUBLIMATE-3;" ++
    "CINNABAR;SALT;NITRE;VITRIOL;VITRIOL-2;ROCK SALT;ROCK SALT-2;GOLD;SILVER;IRON ORE;" ++
    "IRON ORE-2;CROCUS OF IRON;REGULUS OF IRON;COPPER ORE;IRON-COPPER ORE;SUBLIMATE OF COPPER;" ++
    "CROCUS OF COPPER;CROCUS OF COPPER-2;COPPER ANTIMONIATE;SALT OF COPPER ANTIMONIATE;" ++
    "SUBLIMATE OF SALT OF COPPER;VERDIGRIS;TIN ORE;LEAD ORE;ANTIMONY ORE;SUBLIMATE OF ANTIMONY;" ++
    "SALT OF ANTIMONY;SUBLIMATE OF SALT OF ANTIMONY;VINEGAR OF ANTIMONY;REGULUS OF ANTIMONY;" ++
    "REGULUS OF ANTIMONY-2;REGULUS;REGULUS-2;REGULUS-3;REGULUS-4;ALKALI;ALKALI-2;MARCASITE;" ++
    "SAL-AMMONIAC;ARSENIC;REALGAR;REALGAR-2;AURIPIGMENT;BISMUTH ORE;TARTAR;TARTAR-2;QUICK LIME;" ++
    "BORAX;BORAX-2;BORAX-3;ALUM;OIL;SPIRIT;TINCTURE;GUM;WAX;POWDER;CALX;TUTTY;CAPUT MORTUUM;" ++
    "SCEPTER OF JOVE;CADUCEUS;TRIDENT;STARRED TRIDENT;LODESTONE;SOAP;URINE;HORSE DUNG;ASHES;" ++
    "POT ASHES;BRICK;POWDERED BRICK;AMALGAM;STRATUM SUPER STRATUM;STRATUM SUPER STRATUM-2;" ++
    "SUBLIMATION;PRECIPITATE;DISTILL;DISSOLVE;DISSOLVE-2;PURIFY;PUTREFACTION;CRUCIBLE;" ++
    "CRUCIBLE-2;CRUCIBLE-3;CRUCIBLE-4;CRUCIBLE-5;ALEMBIC;BATH OF MARY;BATH OF VAPOURS;RETORT;" ++
    "HOUR;NIGHT;DAY-NIGHT;MONTH;HALF DRAM;HALF OUNCE"⟩,
  ⟨0x1F780, ["BLACK LEFT-POINTING", "BLACK UP-POINTING"], "ISOSCELES RIGHT TRIANGLE"⟩,
  ⟨0x1F782, ["BLACK RIGHT-POINTING", "BLACK DOWN-POINTING"], "ISOSCELES RIGHT TRIANGLE"⟩,
  ⟨0x1F784, [""], "BLACK SLIGHTLY SMALL CIRCLE;MEDIUM BOLD WHITE CIRCLE;BOLD WHITE CIRCLE;" ++
    "HEAVY WHITE CIRCLE;VERY HEAVY WHITE CIRCLE;EXTREMELY HEAVY WHITE CIRCLE;" ++
    "WHITE CIRCLE CONTAINING BLACK SMALL CIRCLE;ROUND TARGET;BLACK TINY SQUARE;" ++
    "BLACK SLIGHTLY SMALL SQUARE;LIGHT WHITE SQUARE;MEDIUM WHITE SQUARE;BOLD WHITE SQUARE;" ++
    "HEAVY WHITE SQUARE"⟩, ⟨0x1F792, ["VERY", "EXTREMELY"], "HEAVY WHITE SQUARE"⟩,
  ⟨0x1F794, ["WHITE SQUARE CONTAINING BLACK"], "VERY SMALL SQUARE;MEDIUM SQUARE"⟩,
  ⟨0x1F796, [""], "SQUARE TARGET;BLACK TINY DIAMOND;BLACK VERY SMALL DIAMOND;" ++
    "BLACK MEDIUM SMALL DIAMOND"⟩,
  ⟨0x1F79A, ["WHITE DIAMOND CONTAINING BLACK"], "VERY SMALL DIAMOND;MEDIUM DIAMOND"⟩,
  ⟨0x1F79C, [""], "DIAMOND TARGET;BLACK TINY LOZENGE;BLACK VERY SMALL LOZENGE;" ++
    "BLACK MEDIUM SMALL LOZENGE;WHITE LOZENGE CONTAINING BLACK SMALL LOZENGE;THIN GREEK CROSS;" ++
    "LIGHT GREEK CROSS;MEDIUM GREEK CROSS;BOLD GREEK CROSS;VERY BOLD GREEK CROSS;" ++
    "VERY HEAVY GREEK CROSS;EXTREMELY HEAVY GREEK CROSS;THIN SALTIRE;LIGHT SALTIRE;" ++
    "MEDIUM SALTIRE;BOLD SALTIRE;HEAVY SALTIRE;VERY HEAVY SALTIRE;EXTREMELY HEAVY SALTIRE"⟩,
  ⟨0x1F7AF, ["LIGHT", "MEDIUM"], "FIVE SPOKED ASTERISK"⟩,
  ⟨0x1F7B1, ["BOLD", "HEAVY"], "FIVE SPOKED ASTERISK"⟩,
  ⟨0x1F7B3, ["VERY", "EXTREMELY"], "HEAVY FIVE SPOKED ASTERISK"⟩,
  ⟨0x1F7B5, ["LIGHT", "MEDIUM"], "SIX SPOKED ASTERISK"⟩,
  ⟨0x1F7B7, ["BOLD", "HEAVY"], "SIX SPOKED ASTERISK"⟩,
  ⟨0x1F7B9, ["VERY", "EXTREMELY"], "HEAVY SIX SPOKED ASTERISK"⟩,
  ⟨0x1F7BB, ["LIGHT", "MEDIUM"], "EIGHT SPOKED ASTERISK"⟩,
  ⟨0x1F7BD, ["BOLD", "HEAVY"], "EIGHT SPOKED ASTERISK"⟩,
  ⟨0x1F7BF, [""], "VERY HEAVY EIGHT SPOKED ASTERISK;LIGHT THREE POINTED BLACK STAR;" ++
    "MEDIUM THREE POINTED BLACK STAR;THREE POINTED BLACK STAR;" ++
    "MEDIUM THREE POINTED PINWHEEL STAR;LIGHT FOUR POINTED BLACK STAR"⟩,
  ⟨0x1F7C5, ["MEDIUM FOUR", "FOUR"], "POINTED BLACK STAR"⟩,
  ⟨0x1F7C7, ["MEDIUM", "REVERSE LIGHT"], "FOUR POINTED PINWHEEL STAR"⟩,
  ⟨0x1F7C9, ["LIGHT", "HEAVY"], "FIVE POINTED BLACK STAR"⟩,
  ⟨0x1F7CB, ["MEDIUM", "HEAVY"], "SIX POINTED BLACK STAR"⟩]

/-- The names from 1F7CD on, in runs. -/
def playingFrom1F7CD : List NameRun := [
  ⟨0x1F7CD, ["SIX POINTED PINWHEEL", "MEDIUM EIGHT POINTED BLACK"], "STAR"⟩,
  ⟨0x1F7CF, ["HEAVY", "VERY HEAVY"], "EIGHT POINTED BLACK STAR"⟩,
  ⟨0x1F7D1, ["HEAVY EIGHT POINTED PINWHEEL", "LIGHT TWELVE POINTED BLACK"], "STAR"⟩,
  ⟨0x1F7D3, ["HEAVY TWELVE POINTED"], "BLACK STAR;PINWHEEL STAR"⟩,
  ⟨0x1F7D5, ["CIRCLED", "NEGATIVE CIRCLED"], "TRIANGLE;SQUARE"⟩,
  ⟨0x1F7F0, ["HEAVY EQUALS"], "SIGN"⟩,
  ⟨0x1F800, ["LEFTWARDS", "UPWARDS"], "ARROW WITH SMALL TRIANGLE ARROWHEAD"⟩,
  ⟨0x1F802, ["RIGHTWARDS", "DOWNWARDS"], "ARROW WITH SMALL TRIANGLE ARROWHEAD"⟩,
  ⟨0x1F804, ["LEFTWARDS", "UPWARDS"], "ARROW WITH MEDIUM TRIANGLE ARROWHEAD"⟩,
  ⟨0x1F806, ["RIGHTWARDS", "DOWNWARDS"], "ARROW WITH MEDIUM TRIANGLE ARROWHEAD"⟩,
  ⟨0x1F808, ["LEFTWARDS", "UPWARDS"], "ARROW WITH LARGE TRIANGLE ARROWHEAD"⟩,
  ⟨0x1F80A, ["RIGHTWARDS", "DOWNWARDS"], "ARROW WITH LARGE TRIANGLE ARROWHEAD"⟩,
  ⟨0x1F810, ["LEFTWARDS", "UPWARDS"], "ARROW WITH SMALL EQUILATERAL ARROWHEAD"⟩,
  ⟨0x1F812, ["RIGHTWARDS", "DOWNWARDS"], "ARROW WITH SMALL EQUILATERAL ARROWHEAD"⟩,
  ⟨0x1F814, ["LEFTWARDS", "UPWARDS"], "ARROW WITH EQUILATERAL ARROWHEAD"⟩,
  ⟨0x1F816, ["RIGHTWARDS", "DOWNWARDS"], "ARROW WITH EQUILATERAL ARROWHEAD"⟩,
  ⟨0x1F818, ["HEAVY LEFTWARDS", "HEAVY UPWARDS"], "ARROW WITH EQUILATERAL ARROWHEAD"⟩,
  ⟨0x1F81A, ["HEAVY RIGHTWARDS", "HEAVY DOWNWARDS"], "ARROW WITH EQUILATERAL ARROWHEAD"⟩,
  ⟨0x1F81C, ["HEAVY LEFTWARDS", "HEAVY UPWARDS"], "ARROW WITH LARGE EQUILATERAL ARROWHEAD"⟩,
  ⟨0x1F81E, ["HEAVY RIGHTWARDS", "HEAVY DOWNWARDS"], "ARROW WITH LARGE EQUILATERAL ARROWHEAD"⟩,
  ⟨0x1F820, ["LEFTWARDS", "UPWARDS"], "TRIANGLE-HEADED ARROW WITH NARROW SHAFT"⟩,
  ⟨0x1F822, ["RIGHTWARDS", "DOWNWARDS"], "TRIANGLE-HEADED ARROW WITH NARROW SHAFT"⟩,
  ⟨0x1F824, ["LEFTWARDS", "UPWARDS"], "TRIANGLE-HEADED ARROW WITH MEDIUM SHAFT"⟩,
  ⟨0x1F826, ["RIGHTWARDS", "DOWNWARDS"], "TRIANGLE-HEADED ARROW WITH MEDIUM SHAFT"⟩,
  ⟨0x1F828, ["LEFTWARDS", "UPWARDS"], "TRIANGLE-HEADED ARROW WITH BOLD SHAFT"⟩,
  ⟨0x1F82A, ["RIGHTWARDS", "DOWNWARDS"], "TRIANGLE-HEADED ARROW WITH BOLD SHAFT"⟩,
  ⟨0x1F82C, ["LEFTWARDS", "UPWARDS"], "TRIANGLE-HEADED ARROW WITH HEAVY SHAFT"⟩,
  ⟨0x1F82E, ["RIGHTWARDS", "DOWNWARDS"], "TRIANGLE-HEADED ARROW WITH HEAVY SHAFT"⟩,
  ⟨0x1F830, ["LEFTWARDS", "UPWARDS"], "TRIANGLE-HEADED ARROW WITH VERY HEAVY SHAFT"⟩,
  ⟨0x1F832, ["RIGHTWARDS", "DOWNWARDS"], "TRIANGLE-HEADED ARROW WITH VERY HEAVY SHAFT"⟩,
  ⟨0x1F834, ["LEFTWARDS", "UPWARDS"], "FINGER-POST ARROW"⟩,
  ⟨0x1F836, ["RIGHTWARDS", "DOWNWARDS"], "FINGER-POST ARROW"⟩,
  ⟨0x1F838, ["LEFTWARDS", "UPWARDS"], "SQUARED ARROW"⟩,
  ⟨0x1F83A, ["RIGHTWARDS", "DOWNWARDS"], "SQUARED ARROW"⟩,
  ⟨0x1F83C, ["LEFTWARDS", "UPWARDS"], "COMPRESSED ARROW"⟩,
  ⟨0x1F83E, ["RIGHTWARDS", "DOWNWARDS"], "COMPRESSED ARROW"⟩,
  ⟨0x1F840, ["LEFTWARDS", "UPWARDS"], "HEAVY COMPRESSED ARROW"⟩,
  ⟨0x1F842, ["RIGHTWARDS", "DOWNWARDS"], "HEAVY COMPRESSED ARROW"⟩,
  ⟨0x1F844, ["LEFTWARDS", "UPWARDS"], "HEAVY ARROW"⟩,
  ⟨0x1F846, ["RIGHTWARDS", "DOWNWARDS"], "HEAVY ARROW"⟩,
  ⟨0x1F850, ["LEFTWARDS", "UPWARDS"], "SANS-SERIF ARROW"⟩,
  ⟨0x1F852, ["RIGHTWARDS", "DOWNWARDS"], "SANS-SERIF ARROW"⟩,
  ⟨0x1F854, ["NORTH WEST", "NORTH EAST"], "SANS-SERIF ARROW"⟩,
  ⟨0x1F856, ["SOUTH EAST", "SOUTH WEST"], "SANS-SERIF ARROW"⟩,
  ⟨0x1F858, ["LEFT RIGHT", "UP DOWN"], "SANS-SERIF ARROW"⟩,
  ⟨0x1F860, ["WIDE-HEADED"], "LEFTWARDS LIGHT BARB ARROW;UPWARDS LIGHT BARB ARROW;" ++
    "RIGHTWARDS LIGHT BARB ARROW;DOWNWARDS LIGHT BARB ARROW;NORTH WEST LIGHT BARB ARROW;" ++
    "NORTH EAST LIGHT BARB ARROW;SOUTH EAST LIGHT BARB ARROW;SOUTH WEST LIGHT BARB ARROW;" ++
    "LEFTWARDS BARB ARROW;UPWARDS BARB ARROW;RIGHTWARDS BARB ARROW;DOWNWARDS BARB ARROW;" ++
    "NORTH WEST BARB ARROW;NORTH EAST BARB ARROW;SOUTH EAST BARB ARROW;SOUTH WEST BARB ARROW;" ++
    "LEFTWARDS MEDIUM BARB ARROW;UPWARDS MEDIUM BARB ARROW;RIGHTWARDS MEDIUM BARB ARROW;" ++
    "DOWNWARDS MEDIUM BARB ARROW;NORTH WEST MEDIUM BARB ARROW;NORTH EAST MEDIUM BARB ARROW;" ++
    "SOUTH EAST MEDIUM BARB ARROW;SOUTH WEST MEDIUM BARB ARROW;LEFTWARDS HEAVY BARB ARROW;" ++
    "UPWARDS HEAVY BARB ARROW;RIGHTWARDS HEAVY BARB ARROW;DOWNWARDS HEAVY BARB ARROW;" ++
    "NORTH WEST HEAVY BARB ARROW;NORTH EAST HEAVY BARB ARROW;SOUTH EAST HEAVY BARB ARROW;" ++
    "SOUTH WEST HEAVY BARB ARROW;LEFTWARDS VERY HEAVY BARB ARROW;UPWARDS VERY HEAVY BARB ARROW;" ++
    "RIGHTWARDS VERY HEAVY BARB ARROW;DOWNWARDS VERY HEAVY BARB ARROW;" ++
    "NORTH WEST VERY HEAVY BARB ARROW;NORTH EAST VERY HEAVY BARB ARROW;" ++
    "SOUTH EAST VERY HEAVY BARB ARROW;SOUTH WEST VERY HEAVY BARB ARROW"⟩,
  ⟨0x1F890, ["LEFTWARDS", "UPWARDS"], "TRIANGLE ARROWHEAD"⟩,
  ⟨0x1F892, ["RIGHTWARDS", "DOWNWARDS"], "TRIANGLE ARROWHEAD"⟩,
  ⟨0x1F894, ["LEFTWARDS", "UPWARDS"], "WHITE ARROW WITHIN TRIANGLE ARROWHEAD"⟩,
  ⟨0x1F896, ["RIGHTWARDS", "DOWNWARDS"], "WHITE ARROW WITHIN TRIANGLE ARROWHEAD"⟩,
  ⟨0x1F898, ["LEFTWARDS", "UPWARDS"], "ARROW WITH NOTCHED TAIL"⟩,
  ⟨0x1F89A, ["RIGHTWARDS", "DOWNWARDS"], "ARROW WITH NOTCHED TAIL"⟩,
  ⟨0x1F89C, ["HEAVY ARROW SHAFT WIDTH"], "ONE;TWO THIRDS;ONE HALF;ONE THIRD"⟩,
  ⟨0x1F8A0, ["LEFTWARDS BOTTOM-SHADED", "RIGHTWARDS BOTTOM SHADED"], "WHITE ARROW"⟩,
  ⟨0x1F8A2, ["LEFTWARDS", "RIGHTWARDS"], "TOP SHADED WHITE ARROW"⟩,
  ⟨0x1F8A4, ["LEFTWARDS LEFT-SHADED", "RIGHTWARDS RIGHT-SHADED"], "WHITE ARROW"⟩,
  ⟨0x1F8A6, ["LEFTWARDS RIGHT-SHADED", "RIGHTWARDS LEFT-SHADED"], "WHITE ARROW"⟩,
  ⟨0x1F8A8, ["LEFTWARDS", "RIGHTWARDS"], "BACK-TILTED SHADOWED WHITE ARROW;" ++
    "FRONT-TILTED SHADOWED WHITE ARROW"⟩, ⟨0x1F8AC, ["WHITE ARROW SHAFT WIDTH"], "ONE;TWO THIRDS"⟩,
  ⟨0x1F8B0, ["ARROW POINTING"], "UPWARDS THEN NORTH WEST;RIGHTWARDS THEN CURVING SOUTH WEST"⟩,
  ⟨0x1FB00, ["BLOCK"], "SEXTANT-1;SEXTANT-2;SEXTANT-12;SEXTANT-3;SEXTANT-13;SEXTANT-23;" ++
    "SEXTANT-123;SEXTANT-4;SEXTANT-14;SEXTANT-24;SEXTANT-124;SEXTANT-34;SEXTANT-134;SEXTANT-234;" ++
    "SEXTANT-1234;SEXTANT-5;SEXTANT-15;SEXTANT-25;SEXTANT-125;SEXTANT-35;SEXTANT-235;" ++
    "SEXTANT-1235;SEXTANT-45;SEXTANT-145;SEXTANT-245;SEXTANT-1245;SEXTANT-345;SEXTANT-1345;" ++
    "SEXTANT-2345;SEXTANT-12345;SEXTANT-6;SEXTANT-16;SEXTANT-26;SEXTANT-126;SEXTANT-36;" ++
    "SEXTANT-136;SEXTANT-236;SEXTANT-1236;SEXTANT-46;SEXTANT-146;SEXTANT-1246;SEXTANT-346;" ++
    "SEXTANT-1346;SEXTANT-2346;SEXTANT-12346;SEXTANT-56;SEXTANT-156;SEXTANT-256;SEXTANT-1256;" ++
    "SEXTANT-356;SEXTANT-1356;SEXTANT-2356;SEXTANT-12356;SEXTANT-456;SEXTANT-1456;SEXTANT-2456;" ++
    "SEXTANT-12456;SEXTANT-3456;SEXTANT-13456;SEXTANT-23456"⟩,
  ⟨0x1FB3C, ["LOWER LEFT BLOCK DIAGONAL"], "LOWER MIDDLE LEFT TO LOWER CENTRE;" ++
    "LOWER MIDDLE LEFT TO LOWER RIGHT;UPPER MIDDLE LEFT TO LOWER CENTRE;" ++
    "UPPER MIDDLE LEFT TO LOWER RIGHT;UPPER LEFT TO LOWER CENTRE"⟩,
  ⟨0x1FB41, ["LOWER RIGHT BLOCK DIAGONAL UPPER MIDDLE LEFT TO UPPER"], "CENTRE;RIGHT"⟩,
  ⟨0x1FB43, ["LOWER RIGHT BLOCK DIAGONAL LOWER"], "MIDDLE LEFT TO UPPER CENTRE;" ++
    "MIDDLE LEFT TO UPPER RIGHT;LEFT TO UPPER CENTRE;MIDDLE LEFT TO UPPER MIDDLE RIGHT;" ++
    "CENTRE TO LOWER MIDDLE RIGHT;LEFT TO LOWER MIDDLE RIGHT;CENTRE TO UPPER MIDDLE RIGHT;" ++
    "LEFT TO UPPER MIDDLE RIGHT;CENTRE TO UPPER RIGHT"⟩,
  ⟨0x1FB4C, ["LOWER LEFT BLOCK DIAGONAL UPPER"], "CENTRE TO UPPER MIDDLE RIGHT;" ++
    "LEFT TO UPPER MIDDLE RIGHT;CENTRE TO LOWER MIDDLE RIGHT;LEFT TO LOWER MIDDLE RIGHT;" ++
    "CENTRE TO LOWER RIGHT;MIDDLE LEFT TO LOWER MIDDLE RIGHT"⟩,
  ⟨0x1FB52, ["UPPER RIGHT BLOCK DIAGONAL"], "LOWER MIDDLE LEFT TO LOWER CENTRE;" ++
    "LOWER MIDDLE LEFT TO LOWER RIGHT;UPPER MIDDLE LEFT TO LOWER CENTRE;" ++
    "UPPER MIDDLE LEFT TO LOWER RIGHT;UPPER LEFT TO LOWER CENTRE"⟩,
  ⟨0x1FB57, ["UPPER LEFT BLOCK DIAGONAL UPPER MIDDLE LEFT TO UPPER"], "CENTRE;RIGHT"⟩,
  ⟨0x1FB59, ["UPPER LEFT BLOCK DIAGONAL LOWER"], "MIDDLE LEFT TO UPPER CENTRE;" ++
    "MIDDLE LEFT TO UPPER RIGHT;LEFT TO UPPER CENTRE;MIDDLE LEFT TO UPPER MIDDLE RIGHT;" ++
    "CENTRE TO LOWER MIDDLE RIGHT;LEFT TO LOWER MIDDLE RIGHT;CENTRE TO UPPER MIDDLE RIGHT;" ++
    "LEFT TO UPPER MIDDLE RIGHT;CENTRE TO UPPER RIGHT"⟩,
  ⟨0x1FB62, ["UPPER RIGHT BLOCK DIAGONAL UPPER"], "CENTRE TO UPPER MIDDLE RIGHT;" ++
    "LEFT TO UPPER MIDDLE RIGHT;CENTRE TO LOWER MIDDLE RIGHT;LEFT TO LOWER MIDDLE RIGHT;" ++
    "CENTRE TO LOWER RIGHT;MIDDLE LEFT TO LOWER MIDDLE RIGHT"⟩,
  ⟨0x1FB68, ["UPPER AND RIGHT AND LOWER", "LEFT AND LOWER AND RIGHT"],
    "TRIANGULAR THREE QUARTERS BLOCK"⟩,
  ⟨0x1FB6A, ["UPPER AND LEFT AND LOWER", "LEFT AND UPPER AND RIGHT"],
    "TRIANGULAR THREE QUARTERS BLOCK"⟩,
  ⟨0x1FB6C, ["LEFT", "UPPER"], "TRIANGULAR ONE QUARTER BLOCK"⟩,
  ⟨0x1FB6E, ["RIGHT", "LOWER"], "TRIANGULAR ONE QUARTER BLOCK"⟩,
  ⟨0x1FB70, ["VERTICAL ONE EIGHTH"], "BLOCK-2;BLOCK-3;BLOCK-4;BLOCK-5;BLOCK-6;BLOCK-7"⟩,
  ⟨0x1FB76, ["HORIZONTAL ONE EIGHTH"], "BLOCK-2;BLOCK-3;BLOCK-4;BLOCK-5;BLOCK-6;BLOCK-7"⟩,
  ⟨0x1FB7C, ["LEFT AND LOWER ONE EIGHTH"], "BLOCK"⟩,
  ⟨0x1FB7D, ["LEFT", "RIGHT"], "AND UPPER ONE EIGHTH BLOCK"⟩,
  ⟨0x1FB7F, ["RIGHT", "UPPER"], "AND LOWER ONE EIGHTH BLOCK"⟩,
  ⟨0x1FB81, ["HORIZONTAL ONE EIGHTH"], "BLOCK-1358"⟩,
  ⟨0x1FB82, ["UPPER"], "ONE QUARTER BLOCK;THREE EIGHTHS BLOCK;FIVE EIGHTHS BLOCK;" ++
    "THREE QUARTERS BLOCK;SEVEN EIGHTHS BLOCK"⟩,
  ⟨0x1FB87, ["RIGHT"], "ONE QUARTER BLOCK;THREE EIGHTHS BLOCK;FIVE EIGHTHS BLOCK;" ++
    "THREE QUARTERS BLOCK;SEVEN EIGHTHS BLOCK"⟩, ⟨0x1FB8C, ["LEFT", "RIGHT"], "HALF MEDIUM SHADE"⟩,
  ⟨0x1FB8E, ["UPPER", "LOWER"], "HALF MEDIUM SHADE"⟩,
  ⟨0x1FB90, [""], "INVERSE MEDIUM SHADE;UPPER HALF BLOCK AND LOWER HALF INVERSE MEDIUM SHADE;" ++
    "UPPER HALF INVERSE MEDIUM SHADE AND LOWER HALF BLOCK"⟩,
  ⟨0x1FB94, [""], "LEFT HALF INVERSE MEDIUM SHADE AND RIGHT HALF BLOCK;CHECKER BOARD FILL;" ++
    "INVERSE CHECKER BOARD FILL;HEAVY HORIZONTAL FILL;UPPER LEFT TO LOWER RIGHT FILL;" ++
    "UPPER RIGHT TO LOWER LEFT FILL"⟩,
  ⟨0x1FB9A, ["UPPER AND LOWER", "LEFT AND RIGHT"], "TRIANGULAR HALF BLOCK"⟩,
  ⟨0x1FB9C, ["UPPER LEFT", "UPPER RIGHT"], "TRIANGULAR MEDIUM SHADE"⟩,
  ⟨0x1FB9E, ["LOWER RIGHT", "LOWER LEFT"], "TRIANGULAR MEDIUM SHADE"⟩,
  ⟨0x1FBA0, ["BOX DRAWINGS LIGHT DIAGONAL"], "UPPER CENTRE TO MIDDLE LEFT;" ++
    "UPPER CENTRE TO MIDDLE RIGHT;MIDDLE LEFT TO LOWER CENTRE;MIDDLE RIGHT TO LOWER CENTRE;" ++
    "UPPER CENTRE TO MIDDLE LEFT TO LOWER CENTRE;UPPER CENTRE TO MIDDLE RIGHT TO LOWER CENTRE;" ++
    "MIDDLE LEFT TO LOWER CENTRE TO MIDDLE RIGHT;MIDDLE LEFT TO UPPER CENTRE TO MIDDLE RIGHT;" ++
    "UPPER CENTRE TO MIDDLE LEFT AND MIDDLE RIGHT TO LOWER CENTRE;" ++
    "UPPER CENTRE TO MIDDLE RIGHT AND MIDDLE LEFT TO LOWER CENTRE;" ++
    "UPPER CENTRE TO MIDDLE RIGHT TO LOWER CENTRE TO MIDDLE LEFT;" ++
    "UPPER CENTRE TO MIDDLE LEFT TO LOWER CENTRE TO MIDDLE RIGHT;" ++
    "MIDDLE LEFT TO UPPER CENTRE TO MIDDLE RIGHT TO LOWER CENTRE;" ++
    "MIDDLE RIGHT TO UPPER CENTRE TO MIDDLE LEFT TO LOWER CENTRE;DIAMOND"⟩,
  ⟨0x1FBAF, [""], "BOX DRAWINGS LIGHT HORIZONTAL WITH VERTICAL STROKE;ARROWHEAD-SHAPED POINTER;" ++
    "INVERSE CHECK MARK;LEFT HALF RUNNING MAN;RIGHT HALF RUNNING MAN;" ++
    "INVERSE DOWNWARDS ARROW WITH TIP LEFTWARDS"⟩,
  ⟨0x1FBB5, ["LEFTWARDS", "RIGHTWARDS"], "ARROW AND UPPER AND LOWER ONE EIGHTH BLOCK"⟩,
  ⟨0x1FBB7, ["DOWNWARDS", "UPWARDS"], "ARROW AND RIGHT ONE EIGHTH BLOCK"⟩,
  ⟨0x1FBB9, [""], "LEFT HALF FOLDER;RIGHT HALF FOLDER;VOIDED GREEK CROSS;RIGHT OPEN SQUARED DOT"⟩,
  ⟨0x1FBBD, ["NEGATIVE DIAGONAL"], "CROSS;MIDDLE RIGHT TO LOWER CENTRE;DIAMOND"⟩,
  ⟨0x1FBC0, ["WHITE HEAVY SALTIRE WITH ROUNDED"], "CORNERS"⟩,
  ⟨0x1FBC1, ["LEFT", "MIDDLE"], "THIRD WHITE RIGHT POINTING INDEX"⟩,
  ⟨0x1FBC3, [""], "RIGHT THIRD WHITE RIGHT POINTING INDEX;NEGATIVE SQUARED QUESTION MARK;" ++
    "STICK FIGURE"⟩,
  ⟨0x1FBC6, ["STICK FIGURE"], "WITH ARMS RAISED;LEANING LEFT;LEANING RIGHT;WITH DRESS"⟩,
  ⟨0x1FBCA, ["WHITE UP-POINTING"], "CHEVRON"⟩,
  ⟨0x1FBF0, ["SEGMENTED DIGIT"], "ZERO;ONE;TWO;THREE;FOUR;FIVE;SIX;SEVEN;EIGHT;NINE"⟩,
  ⟨0xE0001, ["LANGUAGE"], "TAG"⟩,
  ⟨0xE0020, ["TAG"], "SPACE;EXCLAMATION MARK;QUOTATION MARK;NUMBER SIGN;DOLLAR SIGN;" ++
    "PERCENT SIGN;AMPERSAND;APOSTROPHE;LEFT PARENTHESIS;RIGHT PARENTHESIS;ASTERISK;PLUS SIGN;" ++
    "COMMA;HYPHEN-MINUS;FULL STOP;SOLIDUS"⟩,
  ⟨0xE0030, ["TAG DIGIT"], "ZERO;ONE;TWO;THREE;FOUR;FIVE;SIX;SEVEN;EIGHT;NINE"⟩,
  ⟨0xE003A, ["TAG"], "COLON;SEMICOLON;LESS-THAN SIGN;EQUALS SIGN;GREATER-THAN SIGN;" ++
    "QUESTION MARK;COMMERCIAL AT"⟩,
  ⟨0xE0041, ["TAG LATIN CAPITAL LETTER"], "A;B;C;D;E;F;G;H;I;J;K;L;M;N;O;P;Q;R;S;T;U;V;W;X;Y;Z"⟩,
  ⟨0xE005B, ["TAG"], "LEFT SQUARE BRACKET;REVERSE SOLIDUS;RIGHT SQUARE BRACKET;" ++
    "CIRCUMFLEX ACCENT;LOW LINE;GRAVE ACCENT"⟩,
  ⟨0xE0061, ["TAG LATIN SMALL LETTER"], "A;B;C;D;E;F;G;H;I;J;K;L;M;N;O;P;Q;R;S;T;U;V;W;X;Y;Z"⟩,
  ⟨0xE007B, [""], "TAG LEFT CURLY BRACKET;TAG VERTICAL LINE;TAG RIGHT CURLY BRACKET;TAG TILDE;" ++
    "CANCEL TAG"⟩]

/-- The names, in runs. -/
def playing : List NameRun :=
  playingFrom1E000 ++ playingFrom1F7CD

end EntityForge.NameRun
