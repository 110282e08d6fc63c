import EntityForge.Text.CharacterName.Run

/-! # Names of kana and forms

The names of kana and ideographic punctuation, and of the half-width and full-width forms.
-/

namespace EntityForge.NameRun

/-- The names, in runs. -/
def forms : List NameRun := [
  ⟨0x3000, ["IDEOGRAPHIC"], "SPACE;COMMA;FULL STOP"⟩,
  ⟨0x3003, [""], "DITTO MARK;JAPANESE INDUSTRIAL STANDARD SYMBOL"⟩,
  ⟨0x3005, ["IDEOGRAPHIC"], "ITERATION MARK;CLOSING MARK;NUMBER ZERO"⟩,
  ⟨0x3008, ["LEFT", "RIGHT"], "ANGLE BRACKET;DOUBLE ANGLE BRACKET;CORNER BRACKET;" ++
    "WHITE CORNER BRACKET;BLACK LENTICULAR BRACKET"⟩, ⟨0x3012, ["POSTAL", "GETA"], "MARK"⟩,
  ⟨0x3014, ["LEFT", "RIGHT"], "TORTOISE SHELL BRACKET;WHITE LENTICULAR BRACKET;" ++
    "WHITE TORTOISE SHELL BRACKET;WHITE SQUARE BRACKET"⟩,
  ⟨0x301C, [""], "WAVE DASH;REVERSED DOUBLE PRIME QUOTATION MARK;DOUBLE PRIME QUOTATION MARK;" ++
    "LOW DOUBLE PRIME QUOTATION MARK;POSTAL MARK FACE"⟩,
  ⟨0x3021, ["HANGZHOU NUMERAL"], "ONE;TWO;THREE;FOUR;FIVE;SIX;SEVEN;EIGHT;NINE"⟩,
  ⟨0x302A, ["IDEOGRAPHIC"], "LEVEL TONE MARK;RISING TONE MARK;DEPARTING TONE MARK;" ++
    "ENTERING TONE MARK"⟩,
  ⟨0x302E, [""], "HANGUL SINGLE DOT TONE MARK;HANGUL DOUBLE DOT TONE MARK;WAVY DASH"⟩,
  ⟨0x3031, ["VERTICAL KANA REPEAT"], "MARK;WITH VOICED SOUND MARK;MARK UPPER HALF;" ++
    "WITH VOICED SOUND MARK UPPER HALF;MARK LOWER HALF"⟩,
  ⟨0x3036, [""], "CIRCLED POSTAL MARK;IDEOGRAPHIC TELEGRAPH LINE FEED SEPARATOR SYMBOL"⟩,
  ⟨0x3038, ["HANGZHOU NUMERAL"], "TEN;TWENTY;THIRTY"⟩,
  ⟨0x303B, [""], "VERTICAL IDEOGRAPHIC ITERATION MARK;MASU MARK;PART ALTERNATION MARK;" ++
    "IDEOGRAPHIC VARIATION INDICATOR;IDEOGRAPHIC HALF FILL SPACE"⟩,
  ⟨0x3041, ["HIRAGANA LETTER"], "SMALL A;A;SMALL I;I;SMALL U;U;SMALL E;E;SMALL O;O;KA;GA;KI;GI;" ++
    "KU;GU;KE;GE;KO;GO;SA;ZA;SI;ZI;SU;ZU;SE;ZE;SO;ZO;TA;DA;TI;DI;SMALL TU;TU;DU;TE;DE;TO;DO;NA;" ++
    "NI;NU;NE;NO;HA;BA;PA;HI;BI;PI;HU;BU;PU;HE;BE;PE;HO;BO;PO;MA;MI;MU;ME;MO;SMALL YA;YA;" ++
    "SMALL YU;YU;SMALL YO;YO;RA;RI;RU;RE;RO;SMALL WA;WA;WI;WE;WO;N;VU;SMALL KA;SMALL KE"⟩,
  ⟨0x3099, ["COMBINING KATAKANA-HIRAGANA"], "VOICED SOUND MARK;SEMI-VOICED SOUND MARK"⟩,
  ⟨0x309B, ["KATAKANA-HIRAGANA"], "VOICED SOUND MARK;SEMI-VOICED SOUND MARK"⟩,
  ⟨0x309D, ["HIRAGANA"], "ITERATION MARK;VOICED ITERATION MARK;DIGRAPH YORI"⟩,
  ⟨0x30A0, ["KATAKANA-HIRAGANA DOUBLE"], "HYPHEN"⟩,
  ⟨0x30A1, ["KATAKANA LETTER"], "SMALL A;A;SMALL I;I;SMALL U;U;SMALL E;E;SMALL O;O;KA;GA;KI;GI;" ++
    "KU;GU;KE;GE;KO;GO;SA;ZA;SI;ZI;SU;ZU;SE;ZE;SO;ZO;TA;DA;TI;DI;SMALL TU;TU;DU;TE;DE;TO;DO;NA;" ++
    "NI;NU;NE;NO;HA;BA;PA;HI;BI;PI;HU;BU;PU;HE;BE;PE;HO;BO;PO;MA;MI;MU;ME;MO;SMALL YA;YA;" ++
    "SMALL YU;YU;SMALL YO;YO;RA;RI;RU;RE;RO;SMALL WA;WA;WI;WE;WO;N;VU;SMALL KA;SMALL KE;VA;VI;" ++
    "VE;VO"⟩, ⟨0x30FB, [""], "KATAKANA MIDDLE DOT;KATAKANA-HIRAGANA PROLONGED SOUND MARK"⟩,
  ⟨0x30FD, ["KATAKANA"], "ITERATION MARK;VOICED ITERATION MARK;DIGRAPH KOTO"⟩,
  ⟨0xFB00, ["LATIN SMALL LIGATURE"], "FF;FI;FL;FFI;FFL;LONG S T;ST"⟩,
  ⟨0xFE00, ["VARIATION"], "SELECTOR-1;SELECTOR-2;SELECTOR-3;SELECTOR-4;SELECTOR-5;SELECTOR-6;" ++
    "SELECTOR-7;SELECTOR-8;SELECTOR-9;SELECTOR-10;SELECTOR-11;SELECTOR-12;SELECTOR-13;" ++
    "SELECTOR-14;SELECTOR-15;SELECTOR-16"⟩,
  ⟨0xFE30, ["PRESENTATION FORM FOR VERTICAL"], "TWO DOT LEADER;EM DASH;EN DASH;LOW LINE;" ++
    "WAVY LOW LINE"⟩,
  ⟨0xFE35, ["PRESENTATION FORM FOR VERTICAL LEFT", "PRESENTATION FORM FOR VERTICAL RIGHT"],
    "PARENTHESIS;CURLY BRACKET;TORTOISE SHELL BRACKET;BLACK LENTICULAR BRACKET;" ++
    "DOUBLE ANGLE BRACKET;ANGLE BRACKET;CORNER BRACKET;WHITE CORNER BRACKET"⟩,
  ⟨0xFE45, ["SESAME", "WHITE SESAME"], "DOT"⟩,
  ⟨0xFE47, ["PRESENTATION FORM FOR VERTICAL"], "LEFT SQUARE BRACKET;RIGHT SQUARE BRACKET"⟩,
  ⟨0xFE49, [""], "DASHED OVERLINE;CENTRELINE OVERLINE;WAVY OVERLINE;DOUBLE WAVY OVERLINE;" ++
    "DASHED LOW LINE;CENTRELINE LOW LINE;WAVY LOW LINE;SMALL COMMA;SMALL IDEOGRAPHIC COMMA;" ++
    "SMALL FULL STOP"⟩,
  ⟨0xFE54, ["SMALL"], "SEMICOLON;COLON;QUESTION MARK;EXCLAMATION MARK;EM DASH"⟩,
  ⟨0xFE59, ["SMALL LEFT", "SMALL RIGHT"], "PARENTHESIS;CURLY BRACKET;TORTOISE SHELL BRACKET"⟩,
  ⟨0xFE5F, ["SMALL"], "NUMBER SIGN;AMPERSAND;ASTERISK;PLUS SIGN;HYPHEN-MINUS;LESS-THAN SIGN;" ++
    "GREATER-THAN SIGN;EQUALS SIGN"⟩,
  ⟨0xFE68, ["SMALL"], "REVERSE SOLIDUS;DOLLAR SIGN;PERCENT SIGN;COMMERCIAL AT"⟩,
  ⟨0xFF01, ["FULLWIDTH"], "EXCLAMATION MARK;QUOTATION MARK;NUMBER SIGN;DOLLAR SIGN;PERCENT SIGN;" ++
    "AMPERSAND;APOSTROPHE;LEFT PARENTHESIS;RIGHT PARENTHESIS;ASTERISK;PLUS SIGN;COMMA;" ++
    "HYPHEN-MINUS;FULL STOP;SOLIDUS"⟩,
  ⟨0xFF10, ["FULLWIDTH DIGIT"], "ZERO;ONE;TWO;THREE;FOUR;FIVE;SIX;SEVEN;EIGHT;NINE"⟩,
  ⟨0xFF1A, ["FULLWIDTH"], "COLON;SEMICOLON;LESS-THAN SIGN;EQUALS SIGN;GREATER-THAN SIGN;" ++
    "QUESTION MARK;COMMERCIAL AT"⟩,
  ⟨0xFF21, ["FULLWIDTH LATIN CAPITAL LETTER"], "A;B;C;D;E;F;G;H;I;J;K;L;M;N;O;P;Q;R;S;T;U;V;W;X;" ++
    "Y;Z"⟩,
  ⟨0xFF3B, ["FULLWIDTH"], "LEFT SQUARE BRACKET;REVERSE SOLIDUS;RIGHT SQUARE BRACKET;" ++
    "CIRCUMFLEX ACCENT;LOW LINE;GRAVE ACCENT"⟩,
  ⟨0xFF41, ["FULLWIDTH LATIN SMALL LETTER"], "A;B;C;D;E;F;G;H;I;J;K;L;M;N;O;P;Q;R;S;T;U;V;W;X;Y;Z"⟩,
  ⟨0xFF5B, ["FULLWIDTH"], "LEFT CURLY BRACKET;VERTICAL LINE;RIGHT CURLY BRACKET;TILDE;" ++
    "LEFT WHITE PARENTHESIS;RIGHT WHITE PARENTHESIS"⟩,
  ⟨0xFF61, ["HALFWIDTH"], "IDEOGRAPHIC FULL STOP;LEFT CORNER BRACKET;RIGHT CORNER BRACKET;" ++
    "IDEOGRAPHIC COMMA;KATAKANA MIDDLE DOT;KATAKANA LETTER WO"⟩,
  ⟨0xFF67, ["HALFWIDTH KATAKANA LETTER SMALL"], "A;I;U;E;O;YA;YU;YO;TU"⟩,
  ⟨0xFF70, ["HALFWIDTH KATAKANA-HIRAGANA PROLONGED SOUND"], "MARK"⟩,
  ⟨0xFF71, ["HALFWIDTH KATAKANA LETTER"], "A;I;U;E;O;KA;KI;KU;KE;KO;SA;SI;SU;SE;SO;TA;TI;TU;TE;" ++
    "TO;NA;NI;NU;NE;NO;HA;HI;HU;HE;HO;MA;MI;MU;ME;MO;YA;YU;YO;RA;RI;RU;RE;RO;WA;N"⟩,
  ⟨0xFF9E, ["HALFWIDTH"], "KATAKANA VOICED SOUND MARK;KATAKANA SEMI-VOICED SOUND MARK;" ++
    "HANGUL FILLER"⟩,
  ⟨0xFFA1, ["HALFWIDTH HANGUL LETTER"], "KIYEOK;SSANGKIYEOK;KIYEOK-SIOS;NIEUN;NIEUN-CIEUC;" ++
    "NIEUN-HIEUH;TIKEUT;SSANGTIKEUT;RIEUL;RIEUL-KIYEOK;RIEUL-MIEUM;RIEUL-PIEUP;RIEUL-SIOS;" ++
    "RIEUL-THIEUTH;RIEUL-PHIEUPH;RIEUL-HIEUH;MIEUM;PIEUP;SSANGPIEUP;PIEUP-SIOS;SIOS;SSANGSIOS;" ++
    "IEUNG;CIEUC;SSANGCIEUC;CHIEUCH;KHIEUKH;THIEUTH;PHIEUPH;HIEUH"⟩,
  ⟨0xFFC2, ["HALFWIDTH HANGUL LETTER"], "A;AE;YA;YAE;EO;E"⟩,
  ⟨0xFFCA, ["HALFWIDTH HANGUL LETTER"], "YEO;YE;O;WA;WAE;OE"⟩,
  ⟨0xFFD2, ["HALFWIDTH HANGUL LETTER"], "YO;U;WEO;WE;WI;YU"⟩,
  ⟨0xFFDA, ["HALFWIDTH HANGUL LETTER"], "EU;YI;I"⟩,
  ⟨0xFFE0, ["FULLWIDTH"], "CENT SIGN;POUND SIGN;NOT SIGN;MACRON;BROKEN BAR;YEN SIGN;WON SIGN"⟩,
  ⟨0xFFE8, ["HALFWIDTH"], "FORMS LIGHT VERTICAL;LEFTWARDS ARROW;UPWARDS ARROW;RIGHTWARDS ARROW;" ++
    "DOWNWARDS ARROW;BLACK SQUARE;WHITE CIRCLE"⟩,
  ⟨0xFFF9, ["INTERLINEAR ANNOTATION"], "ANCHOR;SEPARATOR;TERMINATOR"⟩,
  ⟨0xFFFC, ["OBJECT REPLACEMENT", "REPLACEMENT"], "CHARACTER"⟩]

end EntityForge.NameRun
