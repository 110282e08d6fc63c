import EntityForge.Text.CharacterName.Run

/-! # Names of radicals and syllables of East Asia

The names of radicals, strokes, hexagrams, squared words and Bopomofo, of the syllables of Yi and
Vai, and of their neighbours, Glagolitic and Coptic among them.
-/

namespace EntityForge.NameRun

/-- The names from 2C00 on, in runs. -/
def ideographicFrom2C00 : List NameRun := [
  ⟨0x2C00, ["GLAGOLITIC CAPITAL LETTER"], "AZU;BUKY;VEDE;GLAGOLI;DOBRO;YESTU;ZHIVETE;DZELO;" ++
    "ZEMLJA;IZHE;INITIAL IZHE;I;DJERVI;KAKO;LJUDIJE;MYSLITE;NASHI;ONU;POKOJI;RITSI;SLOVO;TVRIDO;" ++
    "UKU;FRITU;HERU;OTU;PE;SHTA;TSI;CHRIVI;SHA;YERU;YERI;YATI;SPIDERY HA;YU;SMALL YUS;" ++
    "SMALL YUS WITH TAIL;YO;IOTATED SMALL YUS;BIG YUS;IOTATED BIG YUS;FITA;IZHITSA;SHTAPIC;" ++
    "TROKUTASTI A;LATINATE MYSLITE;CAUDATE CHRIVI"⟩,
  ⟨0x2C30, ["GLAGOLITIC SMALL LETTER"], "AZU;BUKY;VEDE;GLAGOLI;DOBRO;YESTU;ZHIVETE;DZELO;ZEMLJA;" ++
    "IZHE;INITIAL IZHE;I;DJERVI;KAKO;LJUDIJE;MYSLITE;NASHI;ONU;POKOJI;RITSI;SLOVO;TVRIDO;UKU;" ++
    "FRITU;HERU;OTU;PE;SHTA;TSI;CHRIVI;SHA;YERU;YERI;YATI;SPIDERY HA;YU;SMALL YUS;" ++
    "SMALL YUS WITH TAIL;YO;IOTATED SMALL YUS;BIG YUS;IOTATED BIG YUS;FITA;IZHITSA;SHTAPIC;" ++
    "TROKUTASTI A;LATINATE MYSLITE;CAUDATE CHRIVI"⟩,
  ⟨0x2C60, ["LATIN CAPITAL", "LATIN SMALL"], "LETTER L WITH DOUBLE BAR"⟩,
  ⟨0x2C62, ["LATIN CAPITAL LETTER"], "L WITH MIDDLE TILDE;P WITH STROKE;R WITH TAIL"⟩,
  ⟨0x2C65, ["LATIN SMALL LETTER"], "A WITH STROKE;T WITH DIAGONAL STROKE"⟩,
  ⟨0x2C67, ["LATIN CAPITAL LETTER", "LATIN SMALL LETTER"], "H WITH DESCENDER;K WITH DESCENDER;" ++
    "Z WITH DESCENDER"⟩,
  ⟨0x2C6D, ["LATIN CAPITAL LETTER"], "ALPHA;M WITH HOOK;TURNED A;TURNED ALPHA"⟩,
  ⟨0x2C71, ["LATIN"], "SMALL LETTER V WITH RIGHT HOOK;CAPITAL LETTER W WITH HOOK;" ++
    "SMALL LETTER W WITH HOOK;SMALL LETTER V WITH CURL;CAPITAL LETTER HALF H"⟩,
  ⟨0x2C76, ["LATIN SMALL LETTER"], "HALF H;TAILLESS PHI;E WITH NOTCH;TURNED R WITH TAIL;" ++
    "O WITH LOW RING INSIDE"⟩,
  ⟨0x2C7B, [""], "LATIN LETTER SMALL CAPITAL TURNED E;LATIN SUBSCRIPT SMALL LETTER J;" ++
    "MODIFIER LETTER CAPITAL V"⟩,
  ⟨0x2C7E, ["LATIN CAPITAL LETTER"], "S WITH SWASH TAIL;Z WITH SWASH TAIL"⟩,
  ⟨0x2C80, ["COPTIC CAPITAL LETTER", "COPTIC SMALL LETTER"], "ALFA;VIDA;GAMMA;DALDA;EIE;SOU;" ++
    "ZATA;HATE;THETHE;IAUDA;KAPA;LAULA;MI;NI;KSI;O;PI;RO;SIMA;TAU;UA;FI;KHI;PSI;OOU;" ++
    "DIALECT-P ALEF;OLD COPTIC AIN;CRYPTOGRAMMIC EIE;DIALECT-P KAPA;DIALECT-P NI;" ++
    "CRYPTOGRAMMIC NI;OLD COPTIC OOU;SAMPI;CROSSED SHEI;OLD COPTIC SHEI;OLD COPTIC ESH;" ++
    "AKHMIMIC KHEI;DIALECT-P HORI;OLD COPTIC HORI;OLD COPTIC HA;L-SHAPED HA;OLD COPTIC HEI;" ++
    "OLD COPTIC HAT;OLD COPTIC GANGIA;OLD COPTIC DJA;OLD COPTIC SHIMA;OLD NUBIAN SHIMA;" ++
    "OLD NUBIAN NGI;OLD NUBIAN NYI;OLD NUBIAN WAU"⟩,
  ⟨0x2CE4, ["COPTIC SYMBOL"], "KAI;MI RO;PI RO;STAUROS;TAU RO;KHI RO;SHIMA SIMA"⟩,
  ⟨0x2CEB, ["COPTIC CAPITAL LETTER CRYPTOGRAMMIC", "COPTIC SMALL LETTER CRYPTOGRAMMIC"],
    "SHEI;GANGIA"⟩, ⟨0x2CEF, ["COPTIC COMBINING"], "NI ABOVE;SPIRITUS ASPER;SPIRITUS LENIS"⟩,
  ⟨0x2CF2, ["COPTIC CAPITAL", "COPTIC SMALL"], "LETTER BOHAIRIC KHEI"⟩,
  ⟨0x2CF9, ["COPTIC OLD NUBIAN"], "FULL STOP;DIRECT QUESTION MARK;INDIRECT QUESTION MARK;" ++
    "VERSE DIVIDER"⟩, ⟨0x2CFD, ["COPTIC"], "FRACTION ONE HALF;FULL STOP;MORPHOLOGICAL DIVIDER"⟩,
  ⟨0x2D00, ["GEORGIAN SMALL LETTER"], "AN;BAN;GAN;DON;EN;VIN;ZEN;TAN;IN;KAN;LAS;MAN;NAR;ON;PAR;" ++
    "ZHAR;RAE;SAN;TAR;UN;PHAR;KHAR;GHAN;QAR;SHIN;CHIN;CAN;JIL;CIL;CHAR;XAN;JHAN;HAE;HE;HIE;WE;" ++
    "HAR;HOE"⟩, ⟨0x2D27, ["GEORGIAN SMALL LETTER"], "YN"⟩,
  ⟨0x2D2D, ["GEORGIAN SMALL LETTER"], "AEN"⟩,
  ⟨0x2D30, ["TIFINAGH LETTER"], "YA;YAB;YABH;YAG;YAGHH;BERBER ACADEMY YAJ;YAJ;YAD;YADH;YADD;" ++
    "YADDH;YEY;YAF;YAK;TUAREG YAK;YAKHH;YAH;BERBER ACADEMY YAH;TUAREG YAH;YAHH;YAA;YAKH;" ++
    "TUAREG YAKH;YAQ;TUAREG YAQ;YI;YAZH;AHAGGAR YAZH;TUAREG YAZH;YAL;YAM;YAN;TUAREG YAGN;" ++
    "TUAREG YANG;YAP;YU;YAR;YARR;YAGH;TUAREG YAGH;AYER YAGH;YAS;YASS;YASH;YAT;YATH;YACH;YATT;" ++
    "YAV;YAW;YAY;YAZ;TAWELLEMET YAZ;YAZZ;YE;YO"⟩,
  ⟨0x2D6F, ["TIFINAGH"], "MODIFIER LETTER LABIALIZATION MARK;SEPARATOR MARK"⟩,
  ⟨0x2D7F, ["TIFINAGH CONSONANT"], "JOINER"⟩,
  ⟨0x2D80, ["ETHIOPIC SYLLABLE"], "LOA;MOA;ROA;SOA;SHOA;BOA;TOA;COA;NOA;NYOA;GLOTTAL OA;ZOA;DOA;" ++
    "DDOA;JOA;THOA;CHOA;PHOA;POA;GGWA;GGWI;GGWEE;GGWE"⟩,
  ⟨0x2DA0, ["ETHIOPIC SYLLABLE"], "SSA;SSU;SSI;SSAA;SSEE;SSE;SSO"⟩,
  ⟨0x2DA8, ["ETHIOPIC SYLLABLE"], "CCA;CCU;CCI;CCAA;CCEE;CCE;CCO"⟩,
  ⟨0x2DB0, ["ETHIOPIC SYLLABLE"], "ZZA;ZZU;ZZI;ZZAA;ZZEE;ZZE;ZZO"⟩,
  ⟨0x2DB8, ["ETHIOPIC SYLLABLE"], "CCHA;CCHU;CCHI;CCHAA;CCHEE;CCHE;CCHO"⟩,
  ⟨0x2DC0, ["ETHIOPIC SYLLABLE"], "QYA;QYU;QYI;QYAA;QYEE;QYE;QYO"⟩,
  ⟨0x2DC8, ["ETHIOPIC SYLLABLE"], "KYA;KYU;KYI;KYAA;KYEE;KYE;KYO"⟩,
  ⟨0x2DD0, ["ETHIOPIC SYLLABLE"], "XYA;XYU;XYI;XYAA;XYEE;XYE;XYO"⟩,
  ⟨0x2DD8, ["ETHIOPIC SYLLABLE"], "GYA;GYU;GYI;GYAA;GYEE;GYE;GYO"⟩,
  ⟨0x2DE0, ["COMBINING CYRILLIC LETTER"], "BE;VE;GHE;DE;ZHE;ZE;KA;EL;EM;EN;O;PE;ER;ES;TE;HA;TSE;" ++
    "CHE;SHA;SHCHA;FITA;ES-TE;A;IE;DJERV;MONOGRAPH UK;YAT;YU;IOTIFIED A;LITTLE YUS;BIG YUS;" ++
    "IOTIFIED BIG YUS"⟩, ⟨0x2E00, ["RIGHT ANGLE", "RIGHT ANGLE DOTTED"], "SUBSTITUTION MARKER"⟩,
  ⟨0x2E02, ["LEFT", "RIGHT"], "SUBSTITUTION BRACKET;DOTTED SUBSTITUTION BRACKET"⟩,
  ⟨0x2E06, ["RAISED", "RAISED DOTTED"], "INTERPOLATION MARKER"⟩,
  ⟨0x2E08, [""], "DOTTED TRANSPOSITION MARKER;LEFT TRANSPOSITION BRACKET;" ++
    "RIGHT TRANSPOSITION BRACKET;RAISED SQUARE;LEFT RAISED OMISSION BRACKET;" ++
    "RIGHT RAISED OMISSION BRACKET;EDITORIAL CORONIS;PARAGRAPHOS;FORKED PARAGRAPHOS;" ++
    "REVERSED FORKED PARAGRAPHOS;HYPODIASTOLE;DOTTED OBELOS;DOWNWARDS ANCORA;UPWARDS ANCORA;" ++
    "DOTTED RIGHT-POINTING ANGLE;DOUBLE OBLIQUE HYPHEN;INVERTED INTERROBANG;PALM BRANCH;" ++
    "HYPHEN WITH DIAERESIS;TILDE WITH RING ABOVE"⟩,
  ⟨0x2E1C, ["LEFT", "RIGHT"], "LOW PARAPHRASE BRACKET"⟩,
  ⟨0x2E1E, ["TILDE WITH DOT"], "ABOVE;BELOW"⟩,
  ⟨0x2E20, ["LEFT", "RIGHT"], "VERTICAL BAR WITH QUILL"⟩,
  ⟨0x2E22, ["TOP LEFT", "TOP RIGHT"], "HALF BRACKET"⟩,
  ⟨0x2E24, ["BOTTOM LEFT", "BOTTOM RIGHT"], "HALF BRACKET"⟩,
  ⟨0x2E26, ["LEFT", "RIGHT"], "SIDEWAYS U BRACKET;DOUBLE PARENTHESIS"⟩,
  ⟨0x2E2A, [""], "TWO DOTS OVER ONE DOT PUNCTUATION;ONE DOT OVER TWO DOTS PUNCTUATION;" ++
    "SQUARED FOUR DOT PUNCTUATION;FIVE DOT MARK;REVERSED QUESTION MARK;VERTICAL TILDE;" ++
    "RING POINT;WORD SEPARATOR MIDDLE DOT;TURNED COMMA;RAISED DOT;RAISED COMMA;TURNED SEMICOLON;" ++
    "DAGGER WITH LEFT GUARD;DAGGER WITH RIGHT GUARD;TURNED DAGGER;TOP HALF SECTION SIGN;" ++
    "TWO-EM DASH;THREE-EM DASH;STENOGRAPHIC FULL STOP;VERTICAL SIX DOTS;WIGGLY VERTICAL LINE;" ++
    "CAPITULUM;DOUBLE HYPHEN;REVERSED COMMA;DOUBLE LOW-REVERSED-9 QUOTATION MARK;" ++
    "DASH WITH LEFT UPTURN;DOUBLE SUSPENSION MARK;INVERTED LOW KAVYKA;" ++
    "INVERTED LOW KAVYKA WITH KAVYKA ABOVE;LOW KAVYKA;LOW KAVYKA WITH DOT;DOUBLE STACKED COMMA;" ++
    "DOTTED SOLIDUS;TRIPLE DAGGER;MEDIEVAL COMMA;PARAGRAPHUS MARK;PUNCTUS ELEVATUS MARK;" ++
    "CORNISH VERSE DIVIDER;CROSS PATTY WITH RIGHT CROSSBAR;CROSS PATTY WITH LEFT CROSSBAR;" ++
    "TIRONIAN SIGN CAPITAL ET;MEDIEVAL EXCLAMATION MARK;MEDIEVAL QUESTION MARK"⟩,
  ⟨0x2E55, ["LEFT SQUARE BRACKET WITH", "RIGHT SQUARE BRACKET WITH"], "STROKE;DOUBLE STROKE"⟩,
  ⟨0x2E59, [""], "TOP HALF LEFT PARENTHESIS;TOP HALF RIGHT PARENTHESIS;" ++
    "BOTTOM HALF LEFT PARENTHESIS;BOTTOM HALF RIGHT PARENTHESIS;OBLIQUE HYPHEN"⟩,
  ⟨0x2E80, ["CJK RADICAL"], "REPEAT;CLIFF;SECOND ONE;SECOND TWO;SECOND THREE;PERSON;BOX;TABLE;" ++
    "KNIFE ONE;KNIFE TWO;DIVINATION;SEAL;SMALL ONE;SMALL TWO;LAME ONE;LAME TWO;LAME THREE;" ++
    "LAME FOUR;SNAKE;THREAD;SNOUT ONE;SNOUT TWO;HEART ONE;HEART TWO;HAND;RAP"⟩,
  ⟨0x2E9B, ["CJK RADICAL"], "CHOKE;SUN;MOON;DEATH;MOTHER;CIVILIAN;WATER ONE;WATER TWO;FIRE;" ++
    "PAW ONE;PAW TWO;SIMPLIFIED HALF TREE TRUNK;COW;DOG;JADE;BOLT OF CLOTH;EYE;SPIRIT ONE;" ++
    "SPIRIT TWO;BAMBOO;SILK;C-SIMPLIFIED SILK;NET ONE;NET TWO;NET THREE;NET FOUR;MESH;SHEEP;RAM;" ++
    "EWE;OLD;BRUSH ONE;BRUSH TWO;MEAT;MORTAR;GRASS ONE;GRASS TWO;GRASS THREE;TIGER;CLOTHES;" ++
    "WEST ONE;WEST TWO;C-SIMPLIFIED SEE;SIMPLIFIED HORN;HORN;C-SIMPLIFIED SPEECH;" ++
    "C-SIMPLIFIED SHELL;FOOT;C-SIMPLIFIED CART;SIMPLIFIED WALK;WALK ONE;WALK TWO;CITY;" ++
    "C-SIMPLIFIED GOLD;LONG ONE;LONG TWO;C-SIMPLIFIED LONG;C-SIMPLIFIED GATE;MOUND ONE;" ++
    "MOUND TWO;RAIN;BLUE;C-SIMPLIFIED TANNED LEATHER;C-SIMPLIFIED LEAF;C-SIMPLIFIED WIND;" ++
    "C-SIMPLIFIED FLY;EAT ONE;EAT TWO;EAT THREE;C-SIMPLIFIED EAT;HEAD;C-SIMPLIFIED HORSE;BONE;" ++
    "GHOST;C-SIMPLIFIED FISH;C-SIMPLIFIED BIRD;C-SIMPLIFIED SALT;SIMPLIFIED WHEAT;" ++
    "SIMPLIFIED YELLOW;C-SIMPLIFIED FROG"⟩,
  ⟨0x2EEB, ["CJK RADICAL J-SIMPLIFIED", "CJK RADICAL C-SIMPLIFIED"], "EVEN;TOOTH;DRAGON"⟩,
  ⟨0x2EF1, ["CJK RADICAL"], "TURTLE;J-SIMPLIFIED TURTLE;C-SIMPLIFIED TURTLE"⟩,
  ⟨0x2F00, ["KANGXI RADICAL"], "ONE;LINE;DOT;SLASH;SECOND;HOOK;TWO;LID;MAN;LEGS;ENTER;EIGHT;" ++
    "DOWN BOX;COVER;ICE;TABLE;OPEN BOX;KNIFE;POWER;WRAP;SPOON;RIGHT OPEN BOX;HIDING ENCLOSURE;" ++
    "TEN;DIVINATION;SEAL;CLIFF;PRIVATE;AGAIN;MOUTH;ENCLOSURE;EARTH;SCHOLAR;GO;GO SLOWLY;EVENING;" ++
    "BIG;WOMAN;CHILD;ROOF;INCH;SMALL;LAME;CORPSE;SPROUT;MOUNTAIN;RIVER;WORK;ONESELF;TURBAN;DRY;" ++
    "SHORT THREAD;DOTTED CLIFF;LONG STRIDE;TWO HANDS;SHOOT;BOW;SNOUT;BRISTLE;STEP;HEART;HALBERD;" ++
    "DOOR;HAND;BRANCH;RAP;SCRIPT;DIPPER;AXE;SQUARE;NOT;SUN;SAY;MOON;TREE;LACK;STOP;DEATH;WEAPON;" ++
    "DO NOT;COMPARE;FUR;CLAN;STEAM;WATER;FIRE;CLAW;FATHER;DOUBLE X;HALF TREE TRUNK;SLICE;FANG;" ++
    "COW;DOG;PROFOUND;JADE;MELON;TILE;SWEET;LIFE;USE;FIELD;BOLT OF CLOTH;SICKNESS;DOTTED TENT;" ++
    "WHITE;SKIN;DISH;EYE;SPEAR;ARROW;STONE;SPIRIT;TRACK;GRAIN;CAVE;STAND;BAMBOO;RICE;SILK;JAR;" ++
    "NET;SHEEP;FEATHER;OLD;AND;PLOW;EAR;BRUSH;MEAT;MINISTER;SELF;ARRIVE;MORTAR;TONGUE;OPPOSE;" ++
    "BOAT;STOPPING;COLOR;GRASS;TIGER;INSECT;BLOOD;WALK ENCLOSURE;CLOTHES;WEST;SEE;HORN;SPEECH;" ++
    "VALLEY;BEAN;PIG;BADGER;SHELL;RED;RUN;FOOT;BODY;CART;BITTER;MORNING;WALK;CITY;WINE;" ++
    "DISTINGUISH;VILLAGE;GOLD;LONG;GATE;MOUND;SLAVE;SHORT TAILED BIRD;RAIN;BLUE;WRONG;FACE;" ++
    "LEATHER;TANNED LEATHER;LEEK;SOUND;LEAF;WIND;FLY;EAT;HEAD;FRAGRANT;HORSE;BONE;TALL;HAIR;" ++
    "FIGHT;SACRIFICIAL WINE;CAULDRON;GHOST;FISH;BIRD;SALT;DEER;WHEAT;HEMP;YELLOW;MILLET;BLACK;" ++
    "EMBROIDERY;FROG;TRIPOD;DRUM;RAT;NOSE;EVEN;TOOTH;DRAGON;TURTLE;FLUTE"⟩,
  ⟨0x2FF0, ["IDEOGRAPHIC DESCRIPTION CHARACTER"], "LEFT TO RIGHT;ABOVE TO BELOW;" ++
    "LEFT TO MIDDLE AND RIGHT;ABOVE TO MIDDLE AND BELOW;FULL SURROUND;SURROUND FROM ABOVE;" ++
    "SURROUND FROM BELOW;SURROUND FROM LEFT;SURROUND FROM UPPER LEFT;SURROUND FROM UPPER RIGHT;" ++
    "SURROUND FROM LOWER LEFT;OVERLAID"⟩,
  ⟨0x3105, ["BOPOMOFO LETTER"], "B;P;M;F;D;T;N;L;G;K;H;J;Q;X;ZH;CH;SH;R;Z;C;S;A;O;E;EH;AI;EI;AU;" ++
    "OU;AN;EN;ANG;ENG;ER;I;U;IU;V;NG;GN;IH;O WITH DOT ABOVE;NN"⟩,
  ⟨0x3131, ["HANGUL LETTER"], "KIYEOK;SSANGKIYEOK;KIYEOK-SIOS;NIEUN;NIEUN-CIEUC;NIEUN-HIEUH;" ++
    "TIKEUT;SSANGTIKEUT;RIEUL;RIEUL-KIYEOK;RIEUL-MIEUM;RIEUL-PIEUP;RIEUL-SIOS;RIEUL-THIEUTH;" ++
    "RIEUL-PHIEUPH;RIEUL-HIEUH;MIEUM;PIEUP;SSANGPIEUP;PIEUP-SIOS;SIOS;SSANGSIOS;IEUNG;CIEUC;" ++
    "SSANGCIEUC;CHIEUCH;KHIEUKH;THIEUTH;PHIEUPH;HIEUH;A;AE;YA;YAE;EO;E;YEO;YE;O;WA;WAE;OE;YO;U;" ++
    "WEO;WE;WI;YU;EU;YI;I"⟩, ⟨0x3164, ["HANGUL"], "FILLER"⟩,
  ⟨0x3165, ["HANGUL LETTER"], "SSANGNIEUN;NIEUN-TIKEUT;NIEUN-SIOS;NIEUN-PANSIOS;" ++
    "RIEUL-KIYEOK-SIOS;RIEUL-TIKEUT;RIEUL-PIEUP-SIOS;RIEUL-PANSIOS;RIEUL-YEORINHIEUH;" ++
    "MIEUM-PIEUP;MIEUM-SIOS;MIEUM-PANSIOS;KAPYEOUNMIEUM;PIEUP-KIYEOK;PIEUP-TIKEUT;" ++
    "PIEUP-SIOS-KIYEOK;PIEUP-SIOS-TIKEUT;PIEUP-CIEUC;PIEUP-THIEUTH;KAPYEOUNPIEUP;" ++
    "KAPYEOUNSSANGPIEUP;SIOS-KIYEOK;SIOS-NIEUN;SIOS-TIKEUT;SIOS-PIEUP;SIOS-CIEUC;PANSIOS;" ++
    "SSANGIEUNG;YESIEUNG;YESIEUNG-SIOS;YESIEUNG-PANSIOS;KAPYEOUNPHIEUPH;SSANGHIEUH;YEORINHIEUH;" ++
    "YO-YA;YO-YAE;YO-I;YU-YEO;YU-YE;YU-I;ARAEA;ARAEAE"⟩,
  ⟨0x3190, ["IDEOGRAPHIC ANNOTATION"], "LINKING MARK;REVERSE MARK;ONE MARK;TWO MARK;THREE MARK;" ++
    "FOUR MARK;TOP MARK;MIDDLE MARK;BOTTOM MARK;FIRST MARK;SECOND MARK;THIRD MARK;FOURTH MARK;" ++
    "HEAVEN MARK;EARTH MARK;MAN MARK"⟩,
  ⟨0x31A0, ["BOPOMOFO LETTER"], "BU;ZI;JI;GU;EE;ENN;OO;ONN;IR;ANN;INN;UNN;IM;NGG;AINN;AUNN;AM;" ++
    "OM;ONG;INNN"⟩, ⟨0x31B4, ["BOPOMOFO FINAL LETTER"], "P;T;K;H"⟩,
  ⟨0x31B8, ["BOPOMOFO"], "LETTER GH;LETTER LH;LETTER ZY;FINAL LETTER G;LETTER GW;LETTER KW;" ++
    "LETTER OE;LETTER AH"⟩,
  ⟨0x31C0, ["CJK STROKE"], "T;WG;XG;BXG;SW;HZZ;HZG;HP;HZWG;SZWG;HZT;HZZP;HPWG;HZW;HZZZ;N;H;S;P;" ++
    "SP;D;HZ;HG;SZ;SWZ;ST;SG;PD;PZ;TN;SZZ;SWG;HXWG;HZZZG;PG;Q"⟩,
  ⟨0x31F0, ["KATAKANA LETTER SMALL"], "KU;SI;SU;TO;NU;HA;HI;HU;HE;HO;MU;RA;RI;RU;RE;RO"⟩,
  ⟨0x3200, ["PARENTHESIZED HANGUL"], "KIYEOK;NIEUN;TIKEUT;RIEUL;MIEUM;PIEUP;SIOS;IEUNG;CIEUC;" ++
    "CHIEUCH;KHIEUKH;THIEUTH;PHIEUPH;HIEUH;KIYEOK A;NIEUN A;TIKEUT A;RIEUL A;MIEUM A;PIEUP A;" ++
    "SIOS A;IEUNG A;CIEUC A;CHIEUCH A;KHIEUKH A;THIEUTH A;PHIEUPH A;HIEUH A;CIEUC U"⟩,
  ⟨0x321D, ["PARENTHESIZED KOREAN CHARACTER"], "OJEON;O HU"⟩,
  ⟨0x3220, ["PARENTHESIZED IDEOGRAPH"], "ONE;TWO;THREE;FOUR;FIVE;SIX;SEVEN;EIGHT;NINE;TEN;MOON;" ++
    "FIRE;WATER;WOOD;METAL;EARTH;SUN;STOCK;HAVE;SOCIETY;NAME;SPECIAL;FINANCIAL;CONGRATULATION;" ++
    "LABOR;REPRESENT;CALL;STUDY;SUPERVISE;ENTERPRISE;RESOURCE;ALLIANCE;FESTIVAL;REST;SELF;REACH"⟩,
  ⟨0x3244, ["CIRCLED IDEOGRAPH"], "QUESTION;KINDERGARTEN;SCHOOL;KOTO"⟩,
  ⟨0x3248, ["CIRCLED NUMBER"], "TEN ON BLACK SQUARE;TWENTY ON BLACK SQUARE;" ++
    "THIRTY ON BLACK SQUARE;FORTY ON BLACK SQUARE;FIFTY ON BLACK SQUARE;SIXTY ON BLACK SQUARE;" ++
    "SEVENTY ON BLACK SQUARE;EIGHTY ON BLACK SQUARE"⟩, ⟨0x3250, ["PARTNERSHIP"], "SIGN"⟩,
  ⟨0x3251, ["CIRCLED NUMBER TWENTY"], "ONE;TWO;THREE;FOUR;FIVE;SIX;SEVEN;EIGHT;NINE"⟩,
  ⟨0x325A, ["CIRCLED NUMBER"], "THIRTY;THIRTY ONE;THIRTY TWO;THIRTY THREE;THIRTY FOUR;THIRTY FIVE"⟩,
  ⟨0x3260, ["CIRCLED HANGUL"], "KIYEOK;NIEUN;TIKEUT;RIEUL;MIEUM;PIEUP;SIOS;IEUNG;CIEUC;CHIEUCH;" ++
    "KHIEUKH;THIEUTH;PHIEUPH;HIEUH;KIYEOK A;NIEUN A;TIKEUT A;RIEUL A;MIEUM A;PIEUP A;SIOS A;" ++
    "IEUNG A;CIEUC A;CHIEUCH A;KHIEUKH A;THIEUTH A;PHIEUPH A;HIEUH A"⟩,
  ⟨0x327C, ["CIRCLED KOREAN CHARACTER"], "CHAMKO;JUEUI"⟩,
  ⟨0x327E, [""], "CIRCLED HANGUL IEUNG U;KOREAN STANDARD SYMBOL"⟩,
  ⟨0x3280, ["CIRCLED IDEOGRAPH"], "ONE;TWO;THREE;FOUR;FIVE;SIX;SEVEN;EIGHT;NINE;TEN;MOON;FIRE;" ++
    "WATER;WOOD;METAL;EARTH;SUN;STOCK;HAVE;SOCIETY;NAME;SPECIAL;FINANCIAL;CONGRATULATION;LABOR;" ++
    "SECRET;MALE;FEMALE;SUITABLE;EXCELLENT;PRINT;ATTENTION;ITEM;REST;COPY;CORRECT;HIGH;CENTRE;" ++
    "LOW;LEFT;RIGHT;MEDICINE;RELIGION;STUDY;SUPERVISE;ENTERPRISE;RESOURCE;ALLIANCE;NIGHT"⟩,
  ⟨0x32B1, ["CIRCLED NUMBER"], "THIRTY SIX;THIRTY SEVEN;THIRTY EIGHT;THIRTY NINE;FORTY;" ++
    "FORTY ONE;FORTY TWO;FORTY THREE;FORTY FOUR;FORTY FIVE;FORTY SIX;FORTY SEVEN;FORTY EIGHT;" ++
    "FORTY NINE;FIFTY"⟩,
  ⟨0x32C0, ["IDEOGRAPHIC TELEGRAPH SYMBOL FOR"], "JANUARY;FEBRUARY;MARCH;APRIL;MAY;JUNE;JULY;" ++
    "AUGUST;SEPTEMBER;OCTOBER;NOVEMBER;DECEMBER"⟩, ⟨0x32CC, ["SQUARE"], "HG;ERG;EV"⟩,
  ⟨0x32CF, ["LIMITED LIABILITY"], "SIGN"⟩,
  ⟨0x32D0, ["CIRCLED KATAKANA"], "A;I;U;E;O;KA;KI;KU;KE;KO;SA;SI;SU;SE;SO;TA;TI;TU;TE;TO;NA;NI;" ++
    "NU;NE;NO;HA;HI;HU;HE;HO;MA;MI;MU;ME;MO;YA;YU;YO;RA;RI;RU;RE;RO;WA;WI;WE;WO"⟩,
  ⟨0x32FF, ["SQUARE"], "ERA NAME REIWA;APAATO;ARUHUA;ANPEA;AARU;ININGU;INTI;UON;ESUKUUDO;EEKAA;" ++
    "ONSU;OOMU;KAIRI;KARATTO;KARORII;GARON;GANMA;GIGA;GINII;KYURII;GIRUDAA;KIRO;KIROGURAMU;" ++
    "KIROMEETORU;KIROWATTO;GURAMU;GURAMUTON;KURUZEIRO;KUROONE;KEESU;KORUNA;KOOPO;SAIKURU;" ++
    "SANTIIMU;SIRINGU;SENTI;SENTO;DAASU;DESI;DORU;TON;NANO;NOTTO;HAITU;PAASENTO;PAATU;BAARERU;" ++
    "PIASUTORU;PIKURU;PIKO;BIRU;HUARADDO;HUIITO;BUSSYERU;HURAN;HEKUTAARU;PESO;PENIHI;HERUTU;" ++
    "PENSU;PEEZI;BEETA;POINTO;BORUTO;HON;PONDO;HOORU;HOON;MAIKURO;MAIRU;MAHHA;MARUKU;MANSYON;" ++
    "MIKURON;MIRI;MIRIBAARU;MEGA;MEGATON;MEETORU;YAADO;YAARU;YUAN;RITTORU;RIRA;RUPII;RUUBURU;" ++
    "REMU;RENTOGEN;WATTO"⟩,
  ⟨0x3358, ["IDEOGRAPHIC TELEGRAPH SYMBOL FOR HOUR"], "ZERO;ONE;TWO;THREE;FOUR;FIVE;SIX;SEVEN;" ++
    "EIGHT;NINE;TEN;ELEVEN;TWELVE;THIRTEEN;FOURTEEN;FIFTEEN;SIXTEEN;SEVENTEEN;EIGHTEEN;NINETEEN;" ++
    "TWENTY;TWENTY-ONE;TWENTY-TWO;TWENTY-THREE;TWENTY-FOUR"⟩,
  ⟨0x3371, ["SQUARE"], "HPA;DA;AU;BAR;OV;PC;DM;DM SQUARED;DM CUBED;IU;ERA NAME HEISEI;" ++
    "ERA NAME SYOUWA;ERA NAME TAISYOU;ERA NAME MEIZI;CORPORATION;PA AMPS;NA;MU A;MA;KA;KB;MB;GB;" ++
    "CAL;KCAL;PF;NF;MU F;MU G;MG;KG;HZ;KHZ;MHZ;GHZ;THZ;MU L;ML;DL;KL;FM;NM;MU M;MM;CM;KM;" ++
    "MM SQUARED;CM SQUARED;M SQUARED;KM SQUARED;MM CUBED;CM CUBED;M CUBED;KM CUBED;M OVER S;" ++
    "M OVER S SQUARED;PA;KPA;MPA;GPA;RAD;RAD OVER S;RAD OVER S SQUARED;PS;NS;MU S;MS;PV;NV;MU V;" ++
    "MV;KV;MV MEGA;PW;NW;MU W;MW;KW;MW MEGA;K OHM;M OHM;AM;BQ;CC;CD;C OVER KG;CO;DB;GY;HA;HP;IN;" ++
    "KK;KM CAPITAL;KT;LM;LN;LOG;LX;MB SMALL;MIL;MOL;PH;PM;PPM;PR;SR;SV;WB;V OVER M;A OVER M"⟩,
  ⟨0x33E0, ["IDEOGRAPHIC TELEGRAPH SYMBOL FOR DAY"], "ONE;TWO;THREE;FOUR;FIVE;SIX;SEVEN;EIGHT;" ++
    "NINE;TEN;ELEVEN;TWELVE;THIRTEEN;FOURTEEN;FIFTEEN;SIXTEEN;SEVENTEEN;EIGHTEEN;NINETEEN;" ++
    "TWENTY;TWENTY-ONE;TWENTY-TWO;TWENTY-THREE;TWENTY-FOUR;TWENTY-FIVE;TWENTY-SIX;TWENTY-SEVEN;" ++
    "TWENTY-EIGHT;TWENTY-NINE;THIRTY;THIRTY-ONE"⟩, ⟨0x33FF, ["SQUARE"], "GAL"⟩,
  ⟨0x4DC0, ["HEXAGRAM FOR"], "THE CREATIVE HEAVEN;THE RECEPTIVE EARTH;" ++
    "DIFFICULTY AT THE BEGINNING;YOUTHFUL FOLLY;WAITING;CONFLICT;THE ARMY;HOLDING TOGETHER;" ++
    "SMALL TAMING;TREADING;PEACE;STANDSTILL;FELLOWSHIP;GREAT POSSESSION;MODESTY;ENTHUSIASM;" ++
    "FOLLOWING;WORK ON THE DECAYED;APPROACH;CONTEMPLATION;BITING THROUGH;GRACE;SPLITTING APART;" ++
    "RETURN;INNOCENCE;GREAT TAMING;MOUTH CORNERS;GREAT PREPONDERANCE;THE ABYSMAL WATER;" ++
    "THE CLINGING FIRE;INFLUENCE;DURATION;RETREAT;GREAT POWER;PROGRESS;DARKENING OF THE LIGHT;" ++
    "THE FAMILY;OPPOSITION;OBSTRUCTION;DELIVERANCE;DECREASE;INCREASE;BREAKTHROUGH;" ++
    "COMING TO MEET;GATHERING TOGETHER;PUSHING UPWARD;OPPRESSION;THE WELL;REVOLUTION;" ++
    "THE CAULDRON;THE AROUSING THUNDER;THE KEEPING STILL MOUNTAIN;DEVELOPMENT;" ++
    "THE MARRYING MAIDEN;ABUNDANCE;THE WANDERER;THE GENTLE WIND;THE JOYOUS LAKE;DISPERSION;" ++
    "LIMITATION;INNER TRUTH;SMALL PREPONDERANCE;AFTER COMPLETION;BEFORE COMPLETION"⟩,
  ⟨0xA000, ["YI SYLLABLE"], "IT;IX;I;IP;IET;IEX;IE;IEP;AT;AX;A;AP;UOX;UO;UOP;OT;OX;O;OP;EX;E;WU;" ++
    "BIT;BIX;BI;BIP;BIET;BIEX;BIE;BIEP;BAT;BAX;BA;BAP;BUOX;BUO;BUOP;BOT;BOX;BO;BOP;BEX;BE;BEP;" ++
    "BUT;BUX;BU;BUP;BURX;BUR;BYT;BYX;BY;BYP;BYRX;BYR;PIT;PIX;PI;PIP;PIEX;PIE;PIEP;PAT;PAX;PA;" ++
    "PAP;PUOX;PUO;PUOP;POT;POX;PO;POP;PUT;PUX;PU;PUP;PURX;PUR;PYT;PYX;PY;PYP;PYRX;PYR;BBIT;BBIX;" ++
    "BBI;BBIP;BBIET;BBIEX;BBIE;BBIEP;BBAT;BBAX;BBA;BBAP;BBUOX;BBUO;BBUOP;BBOT;BBOX;BBO;BBOP;" ++
    "BBEX;BBE;BBEP;BBUT;BBUX;BBU;BBUP;BBURX;BBUR;BBYT;BBYX;BBY;BBYP;NBIT;NBIX;NBI;NBIP;NBIEX;" ++
    "NBIE;NBIEP;NBAT;NBAX;NBA;NBAP;NBOT;NBOX;NBO;NBOP;NBUT;NBUX;NBU;NBUP;NBURX;NBUR;NBYT;NBYX;" ++
    "NBY;NBYP;NBYRX;NBYR;HMIT;HMIX;HMI;HMIP;HMIEX;HMIE;HMIEP;HMAT;HMAX;HMA;HMAP;HMUOX;HMUO;" ++
    "HMUOP;HMOT;HMOX;HMO;HMOP;HMUT;HMUX;HMU;HMUP;HMURX;HMUR;HMYX;HMY;HMYP;HMYRX;HMYR;MIT;MIX;MI;" ++
    "MIP;MIEX;MIE;MIEP;MAT;MAX;MA;MAP;MUOT;MUOX;MUO;MUOP;MOT;MOX;MO;MOP;MEX;ME;MUT;MUX;MU;MUP;" ++
    "MURX;MUR;MYT;MYX;MY;MYP;FIT;FIX;FI;FIP;FAT;FAX;FA;FAP;FOX;FO;FOP;FUT;FUX;FU;FUP;FURX;FUR;" ++
    "FYT;FYX;FY;FYP;VIT;VIX;VI;VIP;VIET;VIEX;VIE;VIEP;VAT;VAX;VA;VAP;VOT;VOX;VO;VOP;VEX;VEP;VUT;" ++
    "VUX;VU;VUP;VURX;VUR;VYT;VYX;VY;VYP;VYRX;VYR;DIT;DIX;DI;DIP;DIEX;DIE;DIEP;DAT;DAX"⟩,
  ⟨0xA109, ["YI SYLLABLE"], "DA;DAP;DUOX;DUO;DOT;DOX;DO;DOP;DEX;DE;DEP;DUT;DUX;DU;DUP;DURX;DUR;" ++
    "TIT;TIX;TI;TIP;TIEX;TIE;TIEP;TAT;TAX;TA;TAP;TUOT;TUOX;TUO;TUOP;TOT;TOX;TO;TOP;TEX;TE;TEP;" ++
    "TUT;TUX;TU;TUP;TURX;TUR;DDIT;DDIX;DDI;DDIP;DDIEX;DDIE;DDIEP;DDAT;DDAX;DDA;DDAP;DDUOX;DDUO;" ++
    "DDUOP;DDOT;DDOX;DDO;DDOP;DDEX;DDE;DDEP;DDUT;DDUX;DDU;DDUP;DDURX;DDUR;NDIT;NDIX;NDI;NDIP;" ++
    "NDIEX;NDIE;NDAT;NDAX;NDA;NDAP;NDOT;NDOX;NDO;NDOP;NDEX;NDE;NDEP;NDUT;NDUX;NDU;NDUP;NDURX;" ++
    "NDUR;HNIT;HNIX;HNI;HNIP;HNIET;HNIEX;HNIE;HNIEP;HNAT;HNAX;HNA;HNAP;HNUOX;HNUO;HNOT;HNOX;" ++
    "HNOP;HNEX;HNE;HNEP;HNUT;NIT;NIX;NI;NIP;NIEX;NIE;NIEP;NAX;NA;NAP;NUOX;NUO;NUOP;NOT;NOX;NO;" ++
    "NOP;NEX;NE;NEP;NUT;NUX;NU;NUP;NURX;NUR;HLIT;HLIX;HLI;HLIP;HLIEX;HLIE;HLIEP;HLAT;HLAX;HLA;" ++
    "HLAP;HLUOX;HLUO;HLUOP;HLOX;HLO;HLOP;HLEX;HLE;HLEP;HLUT;HLUX;HLU;HLUP;HLURX;HLUR;HLYT;HLYX;" ++
    "HLY;HLYP;HLYRX;HLYR;LIT;LIX;LI;LIP;LIET;LIEX;LIE;LIEP;LAT;LAX;LA;LAP;LUOT;LUOX;LUO;LUOP;" ++
    "LOT;LOX;LO;LOP;LEX;LE;LEP;LUT;LUX;LU;LUP;LURX;LUR;LYT;LYX;LY;LYP;LYRX;LYR;GIT;GIX;GI;GIP;" ++
    "GIET;GIEX;GIE;GIEP;GAT;GAX;GA;GAP;GUOT;GUOX;GUO;GUOP;GOT;GOX;GO;GOP;GET;GEX;GE;GEP;GUT;GUX;" ++
    "GU;GUP;GURX;GUR;KIT;KIX;KI;KIP;KIEX;KIE;KIEP;KAT;KAX;KA;KAP;KUOX;KUO;KUOP;KOT;KOX;KO;KOP;" ++
    "KET;KEX;KE;KEP;KUT;KUX;KU;KUP;KURX;KUR;GGIT;GGIX;GGI;GGIEX;GGIE;GGIEP;GGAT;GGAX;GGA;GGAP;" ++
    "GGUOT;GGUOX;GGUO;GGUOP;GGOT;GGOX;GGO;GGOP;GGET;GGEX;GGE;GGEP;GGUT;GGUX;GGU;GGUP;GGURX;GGUR;" ++
    "MGIEX;MGIE;MGAT;MGAX;MGA"⟩,
  ⟨0xA235, ["YI SYLLABLE"], "MGAP;MGUOX;MGUO;MGUOP;MGOT;MGOX;MGO;MGOP;MGEX;MGE;MGEP;MGUT;MGUX;" ++
    "MGU;MGUP;MGURX;MGUR;HXIT;HXIX;HXI;HXIP;HXIET;HXIEX;HXIE;HXIEP;HXAT;HXAX;HXA;HXAP;HXUOT;" ++
    "HXUOX;HXUO;HXUOP;HXOT;HXOX;HXO;HXOP;HXEX;HXE;HXEP;NGIEX;NGIE;NGIEP;NGAT;NGAX;NGA;NGAP;" ++
    "NGUOT;NGUOX;NGUO;NGOT;NGOX;NGO;NGOP;NGEX;NGE;NGEP;HIT;HIEX;HIE;HAT;HAX;HA;HAP;HUOT;HUOX;" ++
    "HUO;HUOP;HOT;HOX;HO;HOP;HEX;HE;HEP;WAT;WAX;WA;WAP;WUOX;WUO;WUOP;WOX;WO;WOP;WEX;WE;WEP;ZIT;" ++
    "ZIX;ZI;ZIP;ZIEX;ZIE;ZIEP;ZAT;ZAX;ZA;ZAP;ZUOX;ZUO;ZUOP;ZOT;ZOX;ZO;ZOP;ZEX;ZE;ZEP;ZUT;ZUX;ZU;" ++
    "ZUP;ZURX;ZUR;ZYT;ZYX;ZY;ZYP;ZYRX;ZYR;CIT;CIX;CI;CIP;CIET;CIEX;CIE;CIEP;CAT;CAX;CA;CAP;CUOX;" ++
    "CUO;CUOP;COT;COX;CO;COP;CEX;CE;CEP;CUT;CUX;CU;CUP;CURX;CUR;CYT;CYX;CY;CYP;CYRX;CYR;ZZIT;" ++
    "ZZIX;ZZI;ZZIP;ZZIET;ZZIEX;ZZIE;ZZIEP;ZZAT;ZZAX;ZZA;ZZAP;ZZOX;ZZO;ZZOP;ZZEX;ZZE;ZZEP;ZZUX;" ++
    "ZZU;ZZUP;ZZURX;ZZUR;ZZYT;ZZYX;ZZY;ZZYP;ZZYRX;ZZYR;NZIT;NZIX;NZI;NZIP;NZIEX;NZIE;NZIEP;NZAT;" ++
    "NZAX;NZA;NZAP;NZUOX;NZUO;NZOX;NZOP;NZEX;NZE;NZUX;NZU;NZUP;NZURX;NZUR;NZYT;NZYX;NZY;NZYP;" ++
    "NZYRX;NZYR;SIT;SIX;SI;SIP;SIEX;SIE;SIEP;SAT;SAX;SA;SAP;SUOX;SUO;SUOP;SOT;SOX;SO;SOP;SEX;SE;" ++
    "SEP;SUT;SUX;SU;SUP;SURX;SUR;SYT;SYX;SY;SYP;SYRX;SYR;SSIT;SSIX;SSI;SSIP;SSIEX;SSIE;SSIEP;" ++
    "SSAT;SSAX;SSA;SSAP;SSOT;SSOX;SSO;SSOP;SSEX;SSE;SSEP;SSUT;SSUX;SSU;SSUP;SSYT;SSYX;SSY;SSYP;" ++
    "SSYRX;SSYR;ZHAT;ZHAX;ZHA;ZHAP;ZHUOX;ZHUO;ZHUOP;ZHOT;ZHOX;ZHO;ZHOP;ZHET;ZHEX;ZHE;ZHEP;ZHUT;" ++
    "ZHUX;ZHU;ZHUP;ZHURX;ZHUR;ZHYT;ZHYX;ZHY;ZHYP;ZHYRX;ZHYR"⟩,
  ⟨0xA361, ["YI SYLLABLE"], "CHAT;CHAX;CHA;CHAP;CHUOT;CHUOX;CHUO;CHUOP;CHOT;CHOX;CHO;CHOP;CHET;" ++
    "CHEX;CHE;CHEP;CHUX;CHU;CHUP;CHURX;CHUR;CHYT;CHYX;CHY;CHYP;CHYRX;CHYR;RRAX;RRA;RRUOX;RRUO;" ++
    "RROT;RROX;RRO;RROP;RRET;RREX;RRE;RREP;RRUT;RRUX;RRU;RRUP;RRURX;RRUR;RRYT;RRYX;RRY;RRYP;" ++
    "RRYRX;RRYR;NRAT;NRAX;NRA;NRAP;NROX;NRO;NROP;NRET;NREX;NRE;NREP;NRUT;NRUX;NRU;NRUP;NRURX;" ++
    "NRUR;NRYT;NRYX;NRY;NRYP;NRYRX;NRYR;SHAT;SHAX;SHA;SHAP;SHUOX;SHUO;SHUOP;SHOT;SHOX;SHO;SHOP;" ++
    "SHET;SHEX;SHE;SHEP;SHUT;SHUX;SHU;SHUP;SHURX;SHUR;SHYT;SHYX;SHY;SHYP;SHYRX;SHYR;RAT;RAX;RA;" ++
    "RAP;RUOX;RUO;RUOP;ROT;ROX;RO;ROP;REX;RE;REP;RUT;RUX;RU;RUP;RURX;RUR;RYT;RYX;RY;RYP;RYRX;" ++
    "RYR;JIT;JIX;JI;JIP;JIET;JIEX;JIE;JIEP;JUOT;JUOX;JUO;JUOP;JOT;JOX;JO;JOP;JUT;JUX;JU;JUP;" ++
    "JURX;JUR;JYT;JYX;JY;JYP;JYRX;JYR;QIT;QIX;QI;QIP;QIET;QIEX;QIE;QIEP;QUOT;QUOX;QUO;QUOP;QOT;" ++
    "QOX;QO;QOP;QUT;QUX;QU;QUP;QURX;QUR;QYT;QYX;QY;QYP;QYRX;QYR;JJIT;JJIX;JJI;JJIP;JJIET;JJIEX;" ++
    "JJIE;JJIEP;JJUOX;JJUO;JJUOP;JJOT;JJOX;JJO;JJOP;JJUT;JJUX;JJU;JJUP;JJURX;JJUR;JJYT;JJYX;JJY;" ++
    "JJYP;NJIT;NJIX;NJI;NJIP;NJIET;NJIEX;NJIE;NJIEP;NJUOX;NJUO;NJOT;NJOX;NJO;NJOP;NJUX;NJU;NJUP;" ++
    "NJURX;NJUR;NJYT;NJYX;NJY;NJYP;NJYRX;NJYR;NYIT;NYIX;NYI;NYIP;NYIET;NYIEX;NYIE;NYIEP;NYUOX;" ++
    "NYUO;NYUOP;NYOT;NYOX;NYO;NYOP;NYUT;NYUX;NYU;NYUP;XIT;XIX;XI;XIP;XIET;XIEX;XIE;XIEP;XUOX;" ++
    "XUO;XOT;XOX;XO;XOP;XYT;XYX;XY;XYP;XYRX;XYR;YIT;YIX;YI;YIP;YIET;YIEX;YIE;YIEP;YUOT;YUOX;YUO;" ++
    "YUOP;YOT;YOX;YO;YOP;YUT;YUX;YU;YUP;YURX;YUR;YYT;YYX;YY;YYP;YYRX;YYR"⟩,
  ⟨0xA490, ["YI RADICAL"], "QOT;LI;KIT;NYIP;CYP;SSI;GGOP;GEP;MI;HXIT;LYR;BBUT;MOP;YO;PUT;HXUO;" ++
    "TAT;GA;ZUP;CYT;DDUR;BUR;GGUO;NYOP;TU;OP;JJUT;ZOT;PYT;HMO;YIT;VUR;SHY;VEP;ZA;JO;NZUP;JJY;" ++
    "GOT;JJIE;WO;DU;SHUR;LIE;CY;CUOP;CIP;HXOP;SHAT;ZUR;SHOP;CHE;ZZIET;NBIE;KE"⟩,
  ⟨0xA4D0, ["LISU LETTER"], "BA;PA;PHA;DA;TA;THA;GA;KA;KHA;JA;CA;CHA;DZA;TSA;TSHA;MA;NA;LA;SA;" ++
    "ZHA;ZA;NGA;HA;XA;HHA;FA;WA;SHA;YA;GHA;A;AE;E;EU;I;O;U;UE;UH;OE;TONE MYA TI;TONE NA PO"⟩,
  ⟨0xA4FA, ["LISU LETTER TONE MYA"], "CYA;BO;NA;JEU"⟩,
  ⟨0xA4FE, ["LISU PUNCTUATION"], "COMMA;FULL STOP"⟩,
  ⟨0xA500, ["VAI SYLLABLE"], "EE;EEN;HEE;WEE;WEEN;PEE;BHEE;BEE;MBEE;KPEE;MGBEE;GBEE;FEE;VEE;TEE;" ++
    "THEE;DHEE;DHHEE;LEE;REE;DEE;NDEE;SEE;SHEE;ZEE;ZHEE;CEE;JEE;NJEE;YEE;KEE;NGGEE;GEE;MEE;NEE;" ++
    "NYEE;I;IN;HI;HIN;WI;WIN;PI;BHI;BI;MBI;KPI;MGBI;GBI;FI;VI;TI;THI;DHI;DHHI;LI;RI;DI;NDI;SI;" ++
    "SHI;ZI;ZHI;CI;JI;NJI;YI;KI;NGGI;GI;MI;NI;NYI;A;AN;NGAN;HA;HAN;WA;WAN;PA;BHA;BA;MBA;KPA;" ++
    "KPAN;MGBA;GBA;FA;VA;TA;THA;DHA;DHHA;LA;RA;DA;NDA;SA;SHA;ZA;ZHA;CA;JA;NJA;YA;KA;KAN;NGGA;GA;" ++
    "MA;NA;NYA;OO;OON;HOO;WOO;WOON;POO;BHOO;BOO;MBOO;KPOO;MGBOO;GBOO;FOO;VOO;TOO;THOO;DHOO;" ++
    "DHHOO;LOO;ROO;DOO;NDOO;SOO;SHOO;ZOO;ZHOO;COO;JOO;NJOO;YOO;KOO;NGGOO;GOO;MOO;NOO;NYOO;U;UN;" ++
    "HU;HUN;WU;WUN;PU;BHU;BU;MBU;KPU;MGBU;GBU;FU;VU;TU;THU;DHU;DHHU;LU;RU;DU;NDU;SU;SHU;ZU;ZHU;" ++
    "CU;JU;NJU;YU;KU;NGGU;GU;MU;NU;NYU;O;ON;NGON;HO;HON;WO;WON;PO;BHO;BO;MBO;KPO;MGBO;GBO;GBON;" ++
    "FO;VO;TO;THO;DHO;DHHO;LO;RO;DO;NDO;SO;SHO;ZO;ZHO;CO;JO;NJO;YO;KO;NGGO;GO;MO;NO;NYO;E;EN;" ++
    "NGEN;HE;HEN;WE;WEN;PE;BHE;BE;MBE;KPE;KPEN;MGBE;GBE;GBEN;FE;VE;TE;THE;DHE;DHHE;LE;RE;DE;NDE;" ++
    "SE;SHE;ZE;ZHE;CE;JE;NJE;YE;KE;NGGE;NGGEN;GE;GEN;ME;NE;NYE;NG;LENGTHENER"⟩,
  ⟨0xA60D, ["VAI"], "COMMA;FULL STOP;QUESTION MARK"⟩, ⟨0xA610, ["VAI SYLLABLE NDOLE"], "FA;KA;SOO"⟩,
  ⟨0xA613, ["VAI SYMBOL"], "FEENG;KEENG;TING;NII;BANG;FAA;TAA;DANG;DOONG;KUNG;TONG;DO-O;JONG"⟩,
  ⟨0xA620, ["VAI DIGIT"], "ZERO;ONE;TWO;THREE;FOUR;FIVE;SIX;SEVEN;EIGHT;NINE"⟩,
  ⟨0xA62A, ["VAI SYLLABLE NDOLE"], "MA;DO"⟩,
  ⟨0xA640, ["CYRILLIC CAPITAL LETTER", "CYRILLIC SMALL LETTER"], "ZEMLYA;DZELO;REVERSED DZE;" ++
    "IOTA;DJERV;MONOGRAPH UK;BROAD OMEGA;NEUTRAL YER;YERU WITH BACK YER;IOTIFIED YAT;" ++
    "REVERSED YU;IOTIFIED A;CLOSED LITTLE YUS;BLENDED YUS;IOTIFIED CLOSED LITTLE YUS;YN;" ++
    "REVERSED TSE;SOFT DE;SOFT EL;SOFT EM;MONOCULAR O;BINOCULAR O;DOUBLE MONOCULAR O"⟩,
  ⟨0xA66E, ["CYRILLIC LETTER MULTIOCULAR"], "O"⟩,
  ⟨0xA66F, ["COMBINING CYRILLIC"], "VZMET;TEN MILLIONS SIGN;HUNDRED MILLIONS SIGN;" ++
    "THOUSAND MILLIONS SIGN"⟩, ⟨0xA673, ["SLAVONIC"], "ASTERISK"⟩,
  ⟨0xA674, ["COMBINING CYRILLIC LETTER"], "UKRAINIAN IE;I;YI;U;HARD SIGN;YERU;SOFT SIGN;OMEGA"⟩,
  ⟨0xA67C, ["COMBINING CYRILLIC"], "KAVYKA;PAYEROK"⟩, ⟨0xA67E, ["CYRILLIC"], "KAVYKA;PAYEROK"⟩,
  ⟨0xA680, ["CYRILLIC CAPITAL LETTER", "CYRILLIC SMALL LETTER"], "DWE;DZWE;ZHWE;CCHE;DZZE;" ++
    "TE WITH MIDDLE HOOK;TWE;TSWE;TSSE;TCHE;HWE;SHWE;DOUBLE O;CROSSED O"⟩,
  ⟨0xA69C, ["MODIFIER LETTER CYRILLIC"], "HARD SIGN;SOFT SIGN"⟩,
  ⟨0xA69E, ["COMBINING CYRILLIC LETTER"], "EF;IOTIFIED E"⟩,
  ⟨0xA6A0, ["BAMUM LETTER"], "A;KA;U;KU;EE;REE;TAE;O;NYI;I;LA;PA;RII;RIEE;LEEEE;MEEEE;TAA;NDAA;" ++
    "NJAEM;M;SUU;MU;SHII;SI;SHEUX;SEUX;KYEE;KET;NUAE;NU;NJUAE;YOQ;SHU;YUQ;YA;NSHA;KEUX;PEUX;" ++
    "NJEE;NTEE;PUE;WUE;PEE;FEE;RU;LU;MI;NI;REUX;RAE;KEN;NGKWAEN;NGGA;NGA;SHO;PUAE;FU;FOM;WA;NA;" ++
    "LI;PI;LOQ;KO;MBEN;REN;MEN;MA;TI;KI;MO;MBAA;TET;KPA;TEN;NTUU;SAMBA;FAAMAE;KOVUU;KOGHOM"⟩,
  ⟨0xA6F0, ["BAMUM"], "COMBINING MARK KOQNDON;COMBINING MARK TUKWENTIS;NJAEMLI;FULL STOP;COLON;" ++
    "COMMA;SEMICOLON;QUESTION MARK"⟩,
  ⟨0xA700, ["MODIFIER LETTER CHINESE TONE YIN", "MODIFIER LETTER CHINESE TONE YANG"], "PING;" ++
    "SHANG;QU;RU"⟩,
  ⟨0xA708, ["MODIFIER LETTER"], "EXTRA-HIGH DOTTED TONE BAR;HIGH DOTTED TONE BAR;" ++
    "MID DOTTED TONE BAR;LOW DOTTED TONE BAR;EXTRA-LOW DOTTED TONE BAR;" ++
    "EXTRA-HIGH DOTTED LEFT-STEM TONE BAR;HIGH DOTTED LEFT-STEM TONE BAR;" ++
    "MID DOTTED LEFT-STEM TONE BAR;LOW DOTTED LEFT-STEM TONE BAR;" ++
    "EXTRA-LOW DOTTED LEFT-STEM TONE BAR;EXTRA-HIGH LEFT-STEM TONE BAR;HIGH LEFT-STEM TONE BAR;" ++
    "MID LEFT-STEM TONE BAR;LOW LEFT-STEM TONE BAR;EXTRA-LOW LEFT-STEM TONE BAR;" ++
    "DOT VERTICAL BAR;DOT SLASH;DOT HORIZONTAL BAR;LOWER RIGHT CORNER ANGLE;RAISED UP ARROW;" ++
    "RAISED DOWN ARROW;RAISED EXCLAMATION MARK;RAISED INVERTED EXCLAMATION MARK;" ++
    "LOW INVERTED EXCLAMATION MARK;STRESS AND HIGH TONE;STRESS AND LOW TONE"⟩,
  ⟨0xA722, ["LATIN CAPITAL LETTER", "LATIN SMALL LETTER"], "EGYPTOLOGICAL ALEF;" ++
    "EGYPTOLOGICAL AIN;HENG;TZ;TRESILLO;CUATRILLO;CUATRILLO WITH COMMA"⟩,
  ⟨0xA730, ["LATIN LETTER SMALL CAPITAL"], "F;S"⟩,
  ⟨0xA732, ["LATIN CAPITAL LETTER", "LATIN SMALL LETTER"], "AA;AO;AU;AV;AV WITH HORIZONTAL BAR;" ++
    "AY;REVERSED C WITH DOT;K WITH STROKE;K WITH DIAGONAL STROKE;" ++
    "K WITH STROKE AND DIAGONAL STROKE;BROKEN L;L WITH HIGH STROKE;O WITH LONG STROKE OVERLAY;" ++
    "O WITH LOOP;OO;P WITH STROKE THROUGH DESCENDER;P WITH FLOURISH;P WITH SQUIRREL TAIL;" ++
    "Q WITH STROKE THROUGH DESCENDER;Q WITH DIAGONAL STROKE;R ROTUNDA;RUM ROTUNDA;" ++
    "V WITH DIAGONAL STROKE;VY;VISIGOTHIC Z;THORN WITH STROKE;" ++
    "THORN WITH STROKE THROUGH DESCENDER;VEND;ET;IS;CON"⟩, ⟨0xA770, ["MODIFIER LETTER"], "US"⟩,
  ⟨0xA771, ["LATIN SMALL LETTER"], "DUM;LUM;MUM;NUM;RUM"⟩,
  ⟨0xA776, ["LATIN"], "LETTER SMALL CAPITAL RUM;SMALL LETTER TUM;SMALL LETTER UM;" ++
    "CAPITAL LETTER INSULAR D;SMALL LETTER INSULAR D;CAPITAL LETTER INSULAR F;" ++
    "SMALL LETTER INSULAR F;CAPITAL LETTER INSULAR G"⟩]

/-- The names from A77E on, in runs. -/
def ideographicFromA77E : List NameRun := [
  ⟨0xA77E, ["LATIN CAPITAL LETTER", "LATIN SMALL LETTER"], "TURNED INSULAR G;TURNED L;INSULAR R;" ++
    "INSULAR S;INSULAR T"⟩,
  ⟨0xA788, ["MODIFIER LETTER"], "LOW CIRCUMFLEX ACCENT;COLON;SHORT EQUALS SIGN"⟩,
  ⟨0xA78B, ["LATIN"], "CAPITAL LETTER SALTILLO;SMALL LETTER SALTILLO;CAPITAL LETTER TURNED H;" ++
    "SMALL LETTER L WITH RETROFLEX HOOK AND BELT;LETTER SINOLOGICAL DOT"⟩,
  ⟨0xA790, ["LATIN CAPITAL LETTER", "LATIN SMALL LETTER"], "N WITH DESCENDER;C WITH BAR"⟩,
  ⟨0xA794, ["LATIN SMALL LETTER"], "C WITH PALATAL HOOK;H WITH PALATAL HOOK"⟩,
  ⟨0xA796, ["LATIN CAPITAL LETTER", "LATIN SMALL LETTER"], "B WITH FLOURISH;F WITH STROKE;" ++
    "VOLAPUK AE;VOLAPUK OE;VOLAPUK UE;G WITH OBLIQUE STROKE;K WITH OBLIQUE STROKE;" ++
    "N WITH OBLIQUE STROKE;R WITH OBLIQUE STROKE;S WITH OBLIQUE STROKE"⟩,
  ⟨0xA7AA, ["LATIN CAPITAL LETTER"], "H WITH HOOK;REVERSED OPEN E;SCRIPT G;L WITH BELT;" ++
    "SMALL CAPITAL I"⟩, ⟨0xA7AF, ["LATIN LETTER SMALL CAPITAL"], "Q"⟩,
  ⟨0xA7B0, ["LATIN CAPITAL LETTER"], "TURNED K;TURNED T;J WITH CROSSED-TAIL;CHI"⟩,
  ⟨0xA7B4, ["LATIN CAPITAL LETTER", "LATIN SMALL LETTER"], "BETA;OMEGA;U WITH STROKE;GLOTTAL A;" ++
    "GLOTTAL I;GLOTTAL U;OLD POLISH O;ANGLICANA W"⟩,
  ⟨0xA7C4, ["LATIN CAPITAL LETTER"], "C WITH PALATAL HOOK;S WITH HOOK;Z WITH PALATAL HOOK"⟩,
  ⟨0xA7C7, ["LATIN CAPITAL LETTER", "LATIN SMALL LETTER"], "D WITH SHORT STROKE OVERLAY;" ++
    "S WITH SHORT STROKE OVERLAY"⟩,
  ⟨0xA7D0, ["LATIN CAPITAL", "LATIN SMALL"], "LETTER CLOSED INSULAR G"⟩,
  ⟨0xA7D3, ["LATIN SMALL LETTER DOUBLE"], "THORN"⟩, ⟨0xA7D5, ["LATIN SMALL LETTER DOUBLE"], "WYNN"⟩,
  ⟨0xA7D6, ["LATIN CAPITAL LETTER", "LATIN SMALL LETTER"], "MIDDLE SCOTS S;SIGMOID S"⟩,
  ⟨0xA7F2, ["MODIFIER LETTER CAPITAL"], "C;F;Q"⟩,
  ⟨0xA7F5, ["LATIN CAPITAL", "LATIN SMALL"], "LETTER REVERSED HALF H"⟩,
  ⟨0xA7F7, [""], "LATIN EPIGRAPHIC LETTER SIDEWAYS I;MODIFIER LETTER CAPITAL H WITH STROKE;" ++
    "MODIFIER LETTER SMALL LIGATURE OE;LATIN LETTER SMALL CAPITAL TURNED M"⟩,
  ⟨0xA7FB, ["LATIN EPIGRAPHIC LETTER"], "REVERSED F;REVERSED P;INVERTED M;I LONGA;ARCHAIC M"⟩,
  ⟨0xA800, ["SYLOTI NAGRI"], "LETTER A;LETTER I;SIGN DVISVARA;LETTER U;LETTER E;LETTER O;" ++
    "SIGN HASANTA;LETTER KO;LETTER KHO;LETTER GO;LETTER GHO;SIGN ANUSVARA"⟩,
  ⟨0xA80C, ["SYLOTI NAGRI LETTER"], "CO;CHO;JO;JHO;TTO;TTHO;DDO;DDHO;TO;THO;DO;DHO;NO;PO;PHO;BO;" ++
    "BHO;MO;RO;LO;RRO;SO;HO"⟩, ⟨0xA823, ["SYLOTI NAGRI VOWEL SIGN"], "A;I;U;E;OO"⟩,
  ⟨0xA828, ["SYLOTI NAGRI"], "POETRY MARK-1;POETRY MARK-2;POETRY MARK-3;POETRY MARK-4;" ++
    "SIGN ALTERNATE HASANTA"⟩,
  ⟨0xA830, ["NORTH INDIC FRACTION"], "ONE QUARTER;ONE HALF;THREE QUARTERS;ONE SIXTEENTH;" ++
    "ONE EIGHTH;THREE SIXTEENTHS"⟩,
  ⟨0xA836, ["NORTH INDIC"], "QUARTER MARK;PLACEHOLDER MARK;RUPEE MARK;QUANTITY MARK"⟩,
  ⟨0xA840, ["PHAGS-PA LETTER"], "KA;KHA;GA;NGA;CA;CHA;JA;NYA;TA;THA;DA;NA;PA;PHA;BA;MA;TSA;TSHA;" ++
    "DZA;WA;ZHA;ZA;SMALL A;YA;RA;LA;SHA;SA;HA;A;I;U;E;O;QA;XA;FA;GGA;EE"⟩,
  ⟨0xA867, ["PHAGS-PA SUBJOINED LETTER"], "WA;YA"⟩,
  ⟨0xA869, ["PHAGS-PA LETTER"], "TTA;TTHA;DDA;NNA;ALTERNATE YA;VOICELESS SHA;VOICED HA;" ++
    "ASPIRATED FA"⟩,
  ⟨0xA871, ["PHAGS-PA"], "SUBJOINED LETTER RA;SUPERFIXED LETTER RA;LETTER CANDRABINDU;" ++
    "SINGLE HEAD MARK;DOUBLE HEAD MARK;MARK SHAD;MARK DOUBLE SHAD"⟩,
  ⟨0xA880, ["SAURASHTRA SIGN"], "ANUSVARA;VISARGA"⟩,
  ⟨0xA882, ["SAURASHTRA LETTER"], "A;AA;I;II;U;UU;VOCALIC R;VOCALIC RR;VOCALIC L;VOCALIC LL;E;" ++
    "EE;AI;O;OO;AU;KA;KHA;GA;GHA;NGA;CA;CHA;JA;JHA;NYA;TTA;TTHA;DDA;DDHA;NNA;TA;THA;DA;DHA;NA;" ++
    "PA;PHA;BA;BHA;MA;YA;RA;LA;VA;SHA;SSA;SA;HA;LLA"⟩,
  ⟨0xA8B4, ["SAURASHTRA CONSONANT SIGN"], "HAARU"⟩,
  ⟨0xA8B5, ["SAURASHTRA VOWEL SIGN"], "AA;I;II;U;UU;VOCALIC R;VOCALIC RR;VOCALIC L;VOCALIC LL;E;" ++
    "EE;AI;O;OO;AU"⟩, ⟨0xA8C4, ["SAURASHTRA SIGN"], "VIRAMA;CANDRABINDU"⟩,
  ⟨0xA8CE, ["SAURASHTRA"], "DANDA;DOUBLE DANDA"⟩,
  ⟨0xA8D0, ["SAURASHTRA DIGIT"], "ZERO;ONE;TWO;THREE;FOUR;FIVE;SIX;SEVEN;EIGHT;NINE"⟩,
  ⟨0xA8E0, ["COMBINING DEVANAGARI DIGIT"], "ZERO;ONE;TWO;THREE;FOUR;FIVE;SIX;SEVEN;EIGHT;NINE"⟩,
  ⟨0xA8EA, ["COMBINING DEVANAGARI LETTER"], "A;U;KA;NA;PA;RA;VI"⟩,
  ⟨0xA8F1, ["COMBINING DEVANAGARI SIGN"], "AVAGRAHA"⟩,
  ⟨0xA8F2, ["DEVANAGARI SIGN"], "SPACING CANDRABINDU;CANDRABINDU VIRAMA;" ++
    "DOUBLE CANDRABINDU VIRAMA;CANDRABINDU TWO;CANDRABINDU THREE;CANDRABINDU AVAGRAHA;PUSHPIKA"⟩,
  ⟨0xA8F9, ["DEVANAGARI"], "GAP FILLER;CARET;HEADSTROKE;SIGN SIDDHAM;JAIN OM;LETTER AY;" ++
    "VOWEL SIGN AY"⟩,
  ⟨0xA900, ["KAYAH LI DIGIT"], "ZERO;ONE;TWO;THREE;FOUR;FIVE;SIX;SEVEN;EIGHT;NINE"⟩,
  ⟨0xA90A, ["KAYAH LI LETTER"], "KA;KHA;GA;NGA;SA;SHA;ZA;NYA;TA;HTA;NA;PA;PHA;MA;DA;BA;RA;YA;LA;" ++
    "WA;THA;HA;VA;CA;A;OE;I;OO"⟩, ⟨0xA926, ["KAYAH LI VOWEL"], "UE;E;U;EE;O"⟩,
  ⟨0xA92B, ["KAYAH LI"], "TONE PLOPHU;TONE CALYA;TONE CALYA PLOPHU;SIGN CWI;SIGN SHYA"⟩,
  ⟨0xA930, ["REJANG LETTER"], "KA;GA;NGA;TA;DA;NA;PA;BA;MA;CA;JA;NYA;SA;RA;LA;YA;WA;HA;MBA;NGGA;" ++
    "NDA;NYJA;A"⟩, ⟨0xA947, ["REJANG VOWEL SIGN"], "I;U;E;AI;O;AU;EU;EA"⟩,
  ⟨0xA94F, ["REJANG CONSONANT SIGN"], "NG;N;R;H"⟩, ⟨0xA953, ["REJANG"], "VIRAMA"⟩,
  ⟨0xA95F, ["REJANG SECTION"], "MARK"⟩,
  ⟨0xA960, ["HANGUL CHOSEONG"], "TIKEUT-MIEUM;TIKEUT-PIEUP;TIKEUT-SIOS;TIKEUT-CIEUC;" ++
    "RIEUL-KIYEOK;RIEUL-SSANGKIYEOK;RIEUL-TIKEUT;RIEUL-SSANGTIKEUT;RIEUL-MIEUM;RIEUL-PIEUP;" ++
    "RIEUL-SSANGPIEUP;RIEUL-KAPYEOUNPIEUP;RIEUL-SIOS;RIEUL-CIEUC;RIEUL-KHIEUKH;MIEUM-KIYEOK;" ++
    "MIEUM-TIKEUT;MIEUM-SIOS;PIEUP-SIOS-THIEUTH;PIEUP-KHIEUKH;PIEUP-HIEUH;SSANGSIOS-PIEUP;" ++
    "IEUNG-RIEUL;IEUNG-HIEUH;SSANGCIEUC-HIEUH;SSANGTHIEUTH;PHIEUPH-HIEUH;HIEUH-SIOS;" ++
    "SSANGYEORINHIEUH"⟩, ⟨0xA980, ["JAVANESE SIGN"], "PANYANGGA;CECAK;LAYAR;WIGNYAN"⟩,
  ⟨0xA984, ["JAVANESE LETTER"], "A;I KAWI;I;II;U;PA CEREK;NGA LELET;NGA LELET RASWADI;E;AI;O;KA;" ++
    "KA SASAK;KA MURDA;GA;GA MURDA;NGA;CA;CA MURDA;JA;NYA MURDA;JA MAHAPRANA;NYA;TTA;" ++
    "TTA MAHAPRANA;DDA;DDA MAHAPRANA;NA MURDA;TA;TA MURDA;DA;DA MAHAPRANA;NA;PA;PA MURDA;BA;" ++
    "BA MURDA;MA;YA;RA;RA AGUNG;LA;WA;SA MURDA;SA MAHAPRANA;SA;HA"⟩,
  ⟨0xA9B3, ["JAVANESE SIGN CECAK"], "TELU"⟩,
  ⟨0xA9B4, ["JAVANESE VOWEL SIGN"], "TARUNG;TOLONG;WULU;WULU MELIK;SUKU;SUKU MENDUT;TALING;" ++
    "DIRGA MURE;PEPET"⟩, ⟨0xA9BD, ["JAVANESE CONSONANT SIGN"], "KERET;PENGKAL;CAKRA"⟩,
  ⟨0xA9C0, ["JAVANESE"], "PANGKON;LEFT RERENGGAN;RIGHT RERENGGAN;PADA ANDAP;PADA MADYA;" ++
    "PADA LUHUR;PADA WINDU;PADA PANGKAT;PADA LINGSA;PADA LUNGSI;PADA ADEG;PADA ADEG ADEG;" ++
    "PADA PISELEH;TURNED PADA PISELEH"⟩, ⟨0xA9CF, ["JAVANESE"], "PANGRANGKEP"⟩,
  ⟨0xA9D0, ["JAVANESE DIGIT"], "ZERO;ONE;TWO;THREE;FOUR;FIVE;SIX;SEVEN;EIGHT;NINE"⟩,
  ⟨0xA9DE, ["JAVANESE PADA"], "TIRTA TUMETES;ISEN-ISEN"⟩,
  ⟨0xA9E0, ["MYANMAR LETTER SHAN"], "GHA;CHA;JHA;NNA;BHA"⟩,
  ⟨0xA9E5, ["MYANMAR"], "SIGN SHAN SAW;MODIFIER LETTER SHAN REDUPLICATION"⟩,
  ⟨0xA9E7, ["MYANMAR LETTER TAI LAING"], "NYA;FA;GA;GHA;JA;JHA;DDA;DDHA;NNA"⟩,
  ⟨0xA9F0, ["MYANMAR TAI LAING DIGIT"], "ZERO;ONE;TWO;THREE;FOUR;FIVE;SIX;SEVEN;EIGHT;NINE"⟩,
  ⟨0xA9FA, ["MYANMAR LETTER TAI LAING"], "LLA;DA;DHA;BA;BHA"⟩,
  ⟨0xAA00, ["CHAM LETTER"], "A;I;U;E;AI;O;KA;KHA;GA;GHA;NGUE;NGA;CHA;CHHA;JA;JHA;NHUE;NHA;NHJA;" ++
    "TA;THA;DA;DHA;NUE;NA;DDA;PA;PPA;PHA;BA;BHA;MUE;MA;BBA;YA;RA;LA;VA;SSA;SA;HA"⟩,
  ⟨0xAA29, ["CHAM VOWEL SIGN"], "AA;I;II;EI;U;OE;O;AI;AU;UE"⟩,
  ⟨0xAA33, ["CHAM CONSONANT SIGN"], "YA;RA;LA;WA"⟩, ⟨0xAA40, ["CHAM LETTER FINAL"], "K;G;NG"⟩,
  ⟨0xAA43, ["CHAM CONSONANT SIGN FINAL"], "NG"⟩,
  ⟨0xAA44, ["CHAM LETTER FINAL"], "CH;T;N;P;Y;R;L;SS"⟩,
  ⟨0xAA4C, ["CHAM CONSONANT SIGN FINAL"], "M;H"⟩,
  ⟨0xAA50, ["CHAM DIGIT"], "ZERO;ONE;TWO;THREE;FOUR;FIVE;SIX;SEVEN;EIGHT;NINE"⟩,
  ⟨0xAA5C, ["CHAM PUNCTUATION"], "SPIRAL;DANDA;DOUBLE DANDA;TRIPLE DANDA"⟩,
  ⟨0xAA60, ["MYANMAR LETTER KHAMTI"], "GA;CA;CHA;JA;JHA;NYA;TTA;TTHA;DDA;DDHA;DHA;NA;SA;HA;HHA;FA"⟩,
  ⟨0xAA70, ["MYANMAR"], "MODIFIER LETTER KHAMTI REDUPLICATION;LETTER KHAMTI XA;LETTER KHAMTI ZA;" ++
    "LETTER KHAMTI RA;LOGOGRAM KHAMTI OAY;LOGOGRAM KHAMTI QN;LOGOGRAM KHAMTI HM;" ++
    "SYMBOL AITON EXCLAMATION;SYMBOL AITON ONE;SYMBOL AITON TWO;LETTER AITON RA;" ++
    "SIGN PAO KAREN TONE;SIGN TAI LAING TONE-2;SIGN TAI LAING TONE-5;LETTER SHWE PALAUNG CHA;" ++
    "LETTER SHWE PALAUNG SHA"⟩,
  ⟨0xAA80, ["TAI VIET LETTER LOW", "TAI VIET LETTER HIGH"], "KO;KHO;KHHO;GO;NGO;CO;CHO;SO;NYO;" ++
    "DO;TO;THO;NO;BO;PO;PHO;FO;MO;YO;RO;LO;VO;HO;O"⟩,
  ⟨0xAAB0, ["TAI VIET"], "MAI KANG;VOWEL AA;VOWEL I;VOWEL UE;VOWEL U;VOWEL E;VOWEL O;MAI KHIT"⟩,
  ⟨0xAAB8, ["TAI VIET VOWEL"], "IA;UEA;UA;AUE;AY;AN;AM"⟩,
  ⟨0xAABF, ["TAI VIET TONE MAI"], "EK;NUENG;THO;SONG"⟩,
  ⟨0xAADB, ["TAI VIET SYMBOL"], "KON;NUENG;SAM;HO HOI;KOI KOI"⟩,
  ⟨0xAAE0, ["MEETEI MAYEK LETTER"], "E;O;CHA;NYA;TTA;TTHA;DDA;DDHA;NNA;SHA;SSA"⟩,
  ⟨0xAAEB, ["MEETEI MAYEK VOWEL SIGN"], "II;UU;AAI;AU;AAU"⟩,
  ⟨0xAAF0, ["MEETEI MAYEK"], "CHEIKHAN;AHANG KHUDAM;ANJI;SYLLABLE REPETITION MARK;" ++
    "WORD REPETITION MARK;VOWEL SIGN VISARGA;VIRAMA"⟩,
  ⟨0xAB01, ["ETHIOPIC SYLLABLE"], "TTHU;TTHI;TTHAA;TTHEE;TTHE;TTHO"⟩,
  ⟨0xAB09, ["ETHIOPIC SYLLABLE"], "DDHU;DDHI;DDHAA;DDHEE;DDHE;DDHO"⟩,
  ⟨0xAB11, ["ETHIOPIC SYLLABLE"], "DZU;DZI;DZAA;DZEE;DZE;DZO"⟩,
  ⟨0xAB20, ["ETHIOPIC SYLLABLE"], "CCHHA;CCHHU;CCHHI;CCHHAA;CCHHEE;CCHHE;CCHHO"⟩,
  ⟨0xAB28, ["ETHIOPIC SYLLABLE"], "BBA;BBU;BBI;BBAA;BBEE;BBE;BBO"⟩,
  ⟨0xAB30, ["LATIN SMALL LETTER"], "BARRED ALPHA;A REVERSED-SCHWA;BLACKLETTER E;BARRED E;" ++
    "E WITH FLOURISH;LENIS F;SCRIPT G WITH CROSSED-TAIL;L WITH INVERTED LAZY S;" ++
    "L WITH DOUBLE MIDDLE TILDE;L WITH MIDDLE RING;M WITH CROSSED-TAIL;N WITH CROSSED-TAIL;" ++
    "ENG WITH CROSSED-TAIL;BLACKLETTER O;BLACKLETTER O WITH STROKE;OPEN O WITH STROKE;" ++
    "INVERTED OE;TURNED OE WITH STROKE;TURNED OE WITH HORIZONTAL STROKE;TURNED O OPEN-O;" ++
    "TURNED O OPEN-O WITH STROKE;STIRRUP R"⟩,
  ⟨0xAB46, ["LATIN LETTER SMALL CAPITAL R WITH RIGHT"], "LEG"⟩,
  ⟨0xAB47, ["LATIN SMALL LETTER"], "R WITHOUT HANDLE;DOUBLE R;R WITH CROSSED-TAIL;" ++
    "DOUBLE R WITH CROSSED-TAIL;SCRIPT R;SCRIPT R WITH RING;BASELINE ESH;U WITH SHORT RIGHT LEG;" ++
    "U BAR WITH SHORT RIGHT LEG;UI;TURNED UI;U WITH LEFT HOOK;CHI;CHI WITH LOW RIGHT RING;" ++
    "CHI WITH LOW LEFT SERIF;X WITH LOW RIGHT RING;X WITH LONG LEFT LEG;" ++
    "X WITH LONG LEFT LEG AND LOW RIGHT RING;X WITH LONG LEFT LEG WITH SERIF;" ++
    "Y WITH SHORT RIGHT LEG"⟩, ⟨0xAB5B, ["MODIFIER BREVE WITH INVERTED"], "BREVE"⟩,
  ⟨0xAB5C, ["MODIFIER LETTER SMALL"], "HENG;L WITH INVERTED LAZY S;L WITH MIDDLE TILDE;" ++
    "U WITH LEFT HOOK"⟩,
  ⟨0xAB60, ["LATIN SMALL LETTER"], "SAKHA YAT;IOTIFIED E;OPEN OE;UO;INVERTED ALPHA"⟩,
  ⟨0xAB65, ["GREEK LETTER SMALL CAPITAL"], "OMEGA"⟩,
  ⟨0xAB66, ["LATIN SMALL LETTER"], "DZ DIGRAPH WITH RETROFLEX HOOK;" ++
    "TS DIGRAPH WITH RETROFLEX HOOK;TURNED R WITH MIDDLE TILDE"⟩,
  ⟨0xAB69, ["MODIFIER LETTER"], "SMALL TURNED W;LEFT TACK;RIGHT TACK"⟩,
  ⟨0xAB70, ["CHEROKEE SMALL LETTER"], "A;E;I;O;U;V;GA;KA;GE;GI;GO;GU;GV;HA;HE;HI;HO;HU;HV;LA;LE;" ++
    "LI;LO;LU;LV;MA;ME;MI;MO;MU;NA;HNA;NAH;NE;NI;NO;NU;NV;QUA;QUE;QUI;QUO;QUU;QUV;SA;S;SE;SI;SO;" ++
    "SU;SV;DA;TA;DE;TE;DI;TI;DO;DU;DV;DLA;TLA;TLE;TLI;TLO;TLU;TLV;TSA;TSE;TSI;TSO;TSU;TSV;WA;WE;" ++
    "WI;WO;WU;WV;YA"⟩,
  ⟨0xABC0, ["MEETEI MAYEK LETTER"], "KOK;SAM;LAI;MIT;PA;NA;CHIL;TIL;KHOU;NGOU;THOU;WAI;YANG;HUK;" ++
    "UN;I;PHAM;ATIYA;GOK;JHAM;RAI;BA;JIL;DIL;GHOU;DHOU;BHAM;KOK LONSUM;LAI LONSUM;MIT LONSUM;" ++
    "PA LONSUM;NA LONSUM;TIL LONSUM;NGOU LONSUM;I LONSUM"⟩,
  ⟨0xABE3, ["MEETEI MAYEK VOWEL SIGN"], "ONAP;INAP;ANAP;YENAP;SOUNAP;UNAP;CHEINAP;NUNG"⟩,
  ⟨0xABEB, ["MEETEI MAYEK"], "CHEIKHEI;LUM IYEK;APUN IYEK"⟩,
  ⟨0xABF0, ["MEETEI MAYEK DIGIT"], "ZERO;ONE;TWO;THREE;FOUR;FIVE;SIX;SEVEN;EIGHT;NINE"⟩,
  ⟨0xD7B0, ["HANGUL JUNGSEONG"], "O-YEO;O-O-I;YO-A;YO-AE;YO-EO;U-YEO;U-I-I;YU-AE;YU-O;EU-A;" ++
    "EU-EO;EU-E;EU-O;I-YA-O;I-YAE;I-YEO;I-YE;I-O-I;I-YO;I-YU;I-I;ARAEA-A;ARAEA-E"⟩,
  ⟨0xD7CB, ["HANGUL JONGSEONG"], "NIEUN-RIEUL;NIEUN-CHIEUCH;SSANGTIKEUT;SSANGTIKEUT-PIEUP;" ++
    "TIKEUT-PIEUP;TIKEUT-SIOS;TIKEUT-SIOS-KIYEOK;TIKEUT-CIEUC;TIKEUT-CHIEUCH;TIKEUT-THIEUTH;" ++
    "RIEUL-SSANGKIYEOK;RIEUL-KIYEOK-HIEUH;SSANGRIEUL-KHIEUKH;RIEUL-MIEUM-HIEUH;" ++
    "RIEUL-PIEUP-TIKEUT;RIEUL-PIEUP-PHIEUPH;RIEUL-YESIEUNG;RIEUL-YEORINHIEUH-HIEUH;" ++
    "KAPYEOUNRIEUL;MIEUM-NIEUN;MIEUM-SSANGNIEUN;SSANGMIEUM;MIEUM-PIEUP-SIOS;MIEUM-CIEUC;" ++
    "PIEUP-TIKEUT;PIEUP-RIEUL-PHIEUPH;PIEUP-MIEUM;SSANGPIEUP;PIEUP-SIOS-TIKEUT;PIEUP-CIEUC;" ++
    "PIEUP-CHIEUCH;SIOS-MIEUM;SIOS-KAPYEOUNPIEUP;SSANGSIOS-KIYEOK;SSANGSIOS-TIKEUT;SIOS-PANSIOS;" ++
    "SIOS-CIEUC;SIOS-CHIEUCH;SIOS-THIEUTH;SIOS-HIEUH;PANSIOS-PIEUP;PANSIOS-KAPYEOUNPIEUP;" ++
    "YESIEUNG-MIEUM;YESIEUNG-HIEUH;CIEUC-PIEUP;CIEUC-SSANGPIEUP;SSANGCIEUC;PHIEUPH-SIOS;" ++
    "PHIEUPH-THIEUTH"⟩]

/-- The names, in runs. -/
def ideographic : List NameRun :=
  ideographicFrom2C00 ++ ideographicFromA77E

end EntityForge.NameRun
