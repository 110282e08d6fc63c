import EntityForge.Text.CharacterName.Run

/-! # Names of syllables

The names of the letters of Georgian, Hangul, Ethiopic, Cherokee, Canadian, runic and Khmer writing
and their neighbours, and of further phonetic and Greek letters.
-/

namespace EntityForge.NameRun

/-- The names from 10A0 on, in runs. -/
def syllabicFrom10A0 : List NameRun := [
  ⟨0x10A0, ["GEORGIAN CAPITAL LETTER"], "AN;BAN;GAN;DON;EN;VIN;ZEN;TAN;IN;KAN;LAS;MAN;NAR;ON;" ++
    "PAR;ZHAR;RAE;SAN;TAR;UN;PHAR;KHAR;GHAN;QAR;SHIN;CHIN;CAN;JIL;CIL;CHAR;XAN;JHAN;HAE;HE;HIE;" ++
    "WE;HAR;HOE"⟩, ⟨0x10C7, ["GEORGIAN CAPITAL LETTER"], "YN"⟩,
  ⟨0x10CD, ["GEORGIAN CAPITAL LETTER"], "AEN"⟩,
  ⟨0x10D0, ["GEORGIAN LETTER"], "AN;BAN;GAN;DON;EN;VIN;ZEN;TAN;IN;KAN;LAS;MAN;NAR;ON;PAR;ZHAR;" ++
    "RAE;SAN;TAR;UN;PHAR;KHAR;GHAN;QAR;SHIN;CHIN;CAN;JIL;CIL;CHAR;XAN;JHAN;HAE;HE;HIE;WE;HAR;" ++
    "HOE;FI;YN;ELIFI;TURNED GAN;AIN"⟩,
  ⟨0x10FB, [""], "GEORGIAN PARAGRAPH SEPARATOR;MODIFIER LETTER GEORGIAN NAR"⟩,
  ⟨0x10FD, ["GEORGIAN LETTER"], "AEN;HARD SIGN;LABIAL SIGN"⟩,
  ⟨0x1100, ["HANGUL CHOSEONG"], "KIYEOK;SSANGKIYEOK;NIEUN;TIKEUT;SSANGTIKEUT;RIEUL;MIEUM;PIEUP;" ++
    "SSANGPIEUP;SIOS;SSANGSIOS;IEUNG;CIEUC;SSANGCIEUC;CHIEUCH;KHIEUKH;THIEUTH;PHIEUPH;HIEUH;" ++
    "NIEUN-KIYEOK;SSANGNIEUN;NIEUN-TIKEUT;NIEUN-PIEUP;TIKEUT-KIYEOK;RIEUL-NIEUN;SSANGRIEUL;" ++
    "RIEUL-HIEUH;KAPYEOUNRIEUL;MIEUM-PIEUP;KAPYEOUNMIEUM;PIEUP-KIYEOK;PIEUP-NIEUN;PIEUP-TIKEUT;" ++
    "PIEUP-SIOS;PIEUP-SIOS-KIYEOK;PIEUP-SIOS-TIKEUT;PIEUP-SIOS-PIEUP;PIEUP-SSANGSIOS;" ++
    "PIEUP-SIOS-CIEUC;PIEUP-CIEUC;PIEUP-CHIEUCH;PIEUP-THIEUTH;PIEUP-PHIEUPH;KAPYEOUNPIEUP;" ++
    "KAPYEOUNSSANGPIEUP;SIOS-KIYEOK;SIOS-NIEUN;SIOS-TIKEUT;SIOS-RIEUL;SIOS-MIEUM;SIOS-PIEUP;" ++
    "SIOS-PIEUP-KIYEOK;SIOS-SSANGSIOS;SIOS-IEUNG;SIOS-CIEUC;SIOS-CHIEUCH;SIOS-KHIEUKH;" ++
    "SIOS-THIEUTH;SIOS-PHIEUPH;SIOS-HIEUH;CHITUEUMSIOS;CHITUEUMSSANGSIOS;CEONGCHIEUMSIOS;" ++
    "CEONGCHIEUMSSANGSIOS;PANSIOS;IEUNG-KIYEOK;IEUNG-TIKEUT;IEUNG-MIEUM;IEUNG-PIEUP;IEUNG-SIOS;" ++
    "IEUNG-PANSIOS;SSANGIEUNG;IEUNG-CIEUC;IEUNG-CHIEUCH;IEUNG-THIEUTH;IEUNG-PHIEUPH;YESIEUNG;" ++
    "CIEUC-IEUNG;CHITUEUMCIEUC;CHITUEUMSSANGCIEUC;CEONGCHIEUMCIEUC;CEONGCHIEUMSSANGCIEUC;" ++
    "CHIEUCH-KHIEUKH;CHIEUCH-HIEUH;CHITUEUMCHIEUCH;CEONGCHIEUMCHIEUCH;PHIEUPH-PIEUP;" ++
    "KAPYEOUNPHIEUPH;SSANGHIEUH;YEORINHIEUH;KIYEOK-TIKEUT;NIEUN-SIOS;NIEUN-CIEUC;NIEUN-HIEUH;" ++
    "TIKEUT-RIEUL;FILLER"⟩,
  ⟨0x1160, ["HANGUL JUNGSEONG"], "FILLER;A;AE;YA;YAE;EO;E;YEO;YE;O;WA;WAE;OE;YO;U;WEO;WE;WI;YU;" ++
    "EU;YI;I;A-O;A-U;YA-O;YA-YO;EO-O;EO-U;EO-EU;YEO-O;YEO-U;O-EO;O-E;O-YE;O-O;O-U;YO-YA;YO-YAE;" ++
    "YO-YEO;YO-O;YO-I;U-A;U-AE;U-EO-EU;U-YE;U-U;YU-A;YU-EO;YU-E;YU-YEO;YU-YE;YU-U;YU-I;EU-U;" ++
    "EU-EU;YI-U;I-A;I-YA;I-O;I-U;I-EU;I-ARAEA;ARAEA;ARAEA-EO;ARAEA-U;ARAEA-I;SSANGARAEA;A-EU;" ++
    "YA-U;YEO-YA;O-YA;O-YAE"⟩,
  ⟨0x11A8, ["HANGUL JONGSEONG"], "KIYEOK;SSANGKIYEOK;KIYEOK-SIOS;NIEUN;NIEUN-CIEUC;NIEUN-HIEUH;" ++
    "TIKEUT;RIEUL;RIEUL-KIYEOK;RIEUL-MIEUM;RIEUL-PIEUP;RIEUL-SIOS;RIEUL-THIEUTH;RIEUL-PHIEUPH;" ++
    "RIEUL-HIEUH;MIEUM;PIEUP;PIEUP-SIOS;SIOS;SSANGSIOS;IEUNG;CIEUC;CHIEUCH;KHIEUKH;THIEUTH;" ++
    "PHIEUPH;HIEUH;KIYEOK-RIEUL;KIYEOK-SIOS-KIYEOK;NIEUN-KIYEOK;NIEUN-TIKEUT;NIEUN-SIOS;" ++
    "NIEUN-PANSIOS;NIEUN-THIEUTH;TIKEUT-KIYEOK;TIKEUT-RIEUL;RIEUL-KIYEOK-SIOS;RIEUL-NIEUN;" ++
    "RIEUL-TIKEUT;RIEUL-TIKEUT-HIEUH;SSANGRIEUL;RIEUL-MIEUM-KIYEOK;RIEUL-MIEUM-SIOS;" ++
    "RIEUL-PIEUP-SIOS;RIEUL-PIEUP-HIEUH;RIEUL-KAPYEOUNPIEUP;RIEUL-SSANGSIOS;RIEUL-PANSIOS;" ++
    "RIEUL-KHIEUKH;RIEUL-YEORINHIEUH;MIEUM-KIYEOK;MIEUM-RIEUL;MIEUM-PIEUP;MIEUM-SIOS;" ++
    "MIEUM-SSANGSIOS;MIEUM-PANSIOS;MIEUM-CHIEUCH;MIEUM-HIEUH;KAPYEOUNMIEUM;PIEUP-RIEUL;" ++
    "PIEUP-PHIEUPH;PIEUP-HIEUH;KAPYEOUNPIEUP;SIOS-KIYEOK;SIOS-TIKEUT;SIOS-RIEUL;SIOS-PIEUP;" ++
    "PANSIOS;IEUNG-KIYEOK;IEUNG-SSANGKIYEOK;SSANGIEUNG;IEUNG-KHIEUKH;YESIEUNG;YESIEUNG-SIOS;" ++
    "YESIEUNG-PANSIOS;PHIEUPH-PIEUP;KAPYEOUNPHIEUPH;HIEUH-NIEUN;HIEUH-RIEUL;HIEUH-MIEUM;" ++
    "HIEUH-PIEUP;YEORINHIEUH;KIYEOK-NIEUN;KIYEOK-PIEUP;KIYEOK-CHIEUCH;KIYEOK-KHIEUKH;" ++
    "KIYEOK-HIEUH;SSANGNIEUN"⟩,
  ⟨0x1200, ["ETHIOPIC SYLLABLE"], "HA;HU;HI;HAA;HEE;HE;HO;HOA;LA;LU;LI;LAA;LEE;LE;LO;LWA;HHA;" ++
    "HHU;HHI;HHAA;HHEE;HHE;HHO;HHWA;MA;MU;MI;MAA;MEE;ME;MO;MWA;SZA;SZU;SZI;SZAA;SZEE;SZE;SZO;" ++
    "SZWA;RA;RU;RI;RAA;REE;RE;RO;RWA;SA;SU;SI;SAA;SEE;SE;SO;SWA;SHA;SHU;SHI;SHAA;SHEE;SHE;SHO;" ++
    "SHWA;QA;QU;QI;QAA;QEE;QE;QO;QOA;QWA"⟩, ⟨0x124A, ["ETHIOPIC SYLLABLE"], "QWI;QWAA;QWEE;QWE"⟩,
  ⟨0x1250, ["ETHIOPIC SYLLABLE"], "QHA;QHU;QHI;QHAA;QHEE;QHE;QHO"⟩,
  ⟨0x1258, ["ETHIOPIC SYLLABLE"], "QHWA"⟩, ⟨0x125A, ["ETHIOPIC SYLLABLE"], "QHWI;QHWAA;QHWEE;QHWE"⟩,
  ⟨0x1260, ["ETHIOPIC SYLLABLE"], "BA;BU;BI;BAA;BEE;BE;BO;BWA;VA;VU;VI;VAA;VEE;VE;VO;VWA;TA;TU;" ++
    "TI;TAA;TEE;TE;TO;TWA;CA;CU;CI;CAA;CEE;CE;CO;CWA;XA;XU;XI;XAA;XEE;XE;XO;XOA;XWA"⟩,
  ⟨0x128A, ["ETHIOPIC SYLLABLE"], "XWI;XWAA;XWEE;XWE"⟩,
  ⟨0x1290, ["ETHIOPIC SYLLABLE"], "NA;NU;NI;NAA;NEE;NE;NO;NWA;NYA;NYU;NYI;NYAA;NYEE;NYE;NYO;" ++
    "NYWA;GLOTTAL A;GLOTTAL U;GLOTTAL I;GLOTTAL AA;GLOTTAL EE;GLOTTAL E;GLOTTAL O;GLOTTAL WA;KA;" ++
    "KU;KI;KAA;KEE;KE;KO;KOA;KWA"⟩, ⟨0x12B2, ["ETHIOPIC SYLLABLE"], "KWI;KWAA;KWEE;KWE"⟩,
  ⟨0x12B8, ["ETHIOPIC SYLLABLE"], "KXA;KXU;KXI;KXAA;KXEE;KXE;KXO"⟩,
  ⟨0x12C0, ["ETHIOPIC SYLLABLE"], "KXWA"⟩, ⟨0x12C2, ["ETHIOPIC SYLLABLE"], "KXWI;KXWAA;KXWEE;KXWE"⟩,
  ⟨0x12C8, ["ETHIOPIC SYLLABLE"], "WA;WU;WI;WAA;WEE;WE;WO;WOA"⟩,
  ⟨0x12D0, ["ETHIOPIC SYLLABLE PHARYNGEAL"], "A;U;I;AA;EE;E;O"⟩,
  ⟨0x12D8, ["ETHIOPIC SYLLABLE"], "ZA;ZU;ZI;ZAA;ZEE;ZE;ZO;ZWA;ZHA;ZHU;ZHI;ZHAA;ZHEE;ZHE;ZHO;" ++
    "ZHWA;YA;YU;YI;YAA;YEE;YE;YO;YOA;DA;DU;DI;DAA;DEE;DE;DO;DWA;DDA;DDU;DDI;DDAA;DDEE;DDE;DDO;" ++
    "DDWA;JA;JU;JI;JAA;JEE;JE;JO;JWA;GA;GU;GI;GAA;GEE;GE;GO;GOA;GWA"⟩,
  ⟨0x1312, ["ETHIOPIC SYLLABLE"], "GWI;GWAA;GWEE;GWE"⟩,
  ⟨0x1318, ["ETHIOPIC SYLLABLE"], "GGA;GGU;GGI;GGAA;GGEE;GGE;GGO;GGWAA;THA;THU;THI;THAA;THEE;" ++
    "THE;THO;THWA;CHA;CHU;CHI;CHAA;CHEE;CHE;CHO;CHWA;PHA;PHU;PHI;PHAA;PHEE;PHE;PHO;PHWA;TSA;TSU;" ++
    "TSI;TSAA;TSEE;TSE;TSO;TSWA;TZA;TZU;TZI;TZAA;TZEE;TZE;TZO;TZOA;FA;FU;FI;FAA;FEE;FE;FO;FWA;" ++
    "PA;PU;PI;PAA;PEE;PE;PO;PWA;RYA;MYA;FYA"⟩,
  ⟨0x135D, ["ETHIOPIC"], "COMBINING GEMINATION AND VOWEL LENGTH MARK;" ++
    "COMBINING VOWEL LENGTH MARK;COMBINING GEMINATION MARK;SECTION MARK;WORDSPACE;FULL STOP;" ++
    "COMMA;SEMICOLON;COLON;PREFACE COLON;QUESTION MARK;PARAGRAPH SEPARATOR"⟩,
  ⟨0x1369, ["ETHIOPIC DIGIT"], "ONE;TWO;THREE;FOUR;FIVE;SIX;SEVEN;EIGHT;NINE"⟩,
  ⟨0x1372, ["ETHIOPIC NUMBER"], "TEN;TWENTY;THIRTY;FORTY;FIFTY;SIXTY;SEVENTY;EIGHTY;NINETY;" ++
    "HUNDRED;TEN THOUSAND"⟩,
  ⟨0x1380, ["ETHIOPIC SYLLABLE"], "SEBATBEIT MWA;MWI;MWEE;MWE;SEBATBEIT BWA;BWI;BWEE;BWE;" ++
    "SEBATBEIT FWA;FWI;FWEE;FWE;SEBATBEIT PWA;PWI;PWEE;PWE"⟩,
  ⟨0x1390, ["ETHIOPIC TONAL MARK"], "YIZET;DERET;RIKRIK;SHORT RIKRIK;DIFAT;KENAT;CHIRET;HIDET;" ++
    "DERET-HIDET;KURT"⟩,
  ⟨0x13A0, ["CHEROKEE LETTER"], "A;E;I;O;U;V;GA;KA;GE;GI;GO;GU;GV;HA;HE;HI;HO;HU;HV;LA;LE;LI;LO;" ++
    "LU;LV;MA;ME;MI;MO;MU;NA;HNA;NAH;NE;NI;NO;NU;NV;QUA;QUE;QUI;QUO;QUU;QUV;SA;S;SE;SI;SO;SU;SV;" ++
    "DA;TA;DE;TE;DI;TI;DO;DU;DV;DLA;TLA;TLE;TLI;TLO;TLU;TLV;TSA;TSE;TSI;TSO;TSU;TSV;WA;WE;WI;WO;" ++
    "WU;WV;YA;YE;YI;YO;YU;YV;MV"⟩, ⟨0x13F8, ["CHEROKEE SMALL LETTER"], "YE;YI;YO;YU;YV;MV"⟩,
  ⟨0x1400, ["CANADIAN SYLLABICS"], "HYPHEN;E;AAI;I;II;O;OO;Y-CREE OO;CARRIER EE;CARRIER I;A;AA;" ++
    "WE;WEST-CREE WE;WI;WEST-CREE WI;WII;WEST-CREE WII;WO;WEST-CREE WO;WOO;WEST-CREE WOO;" ++
    "NASKAPI WOO;WA;WEST-CREE WA;WAA;WEST-CREE WAA;NASKAPI WAA;AI;Y-CREE W;GLOTTAL STOP;" ++
    "FINAL ACUTE;FINAL GRAVE;FINAL BOTTOM HALF RING;FINAL TOP HALF RING;FINAL RIGHT HALF RING;" ++
    "FINAL RING;FINAL DOUBLE ACUTE;FINAL DOUBLE SHORT VERTICAL STROKES;FINAL MIDDLE DOT;" ++
    "FINAL SHORT HORIZONTAL STROKE;FINAL PLUS;FINAL DOWN TACK;EN;IN;ON;AN;PE;PAAI;PI;PII;PO;POO;" ++
    "Y-CREE POO;CARRIER HEE;CARRIER HI;PA;PAA"⟩,
  ⟨0x143A, ["CANADIAN SYLLABICS", "CANADIAN SYLLABICS WEST-CREE"], "PWE;PWI;PWII;PWO;PWOO;PWA;" ++
    "PWAA"⟩,
  ⟨0x1448, ["CANADIAN SYLLABICS"], "Y-CREE PWAA;P;WEST-CREE P;CARRIER H;TE;TAAI;TI;TII;TO;TOO;" ++
    "Y-CREE TOO;CARRIER DEE;CARRIER DI;TA;TAA"⟩,
  ⟨0x1457, ["CANADIAN SYLLABICS", "CANADIAN SYLLABICS WEST-CREE"], "TWE;TWI;TWII;TWO;TWOO;TWA;" ++
    "TWAA"⟩,
  ⟨0x1465, ["CANADIAN SYLLABICS"], "NASKAPI TWAA;T;TTE;TTI;TTO;TTA;KE;KAAI;KI;KII;KO;KOO;" ++
    "Y-CREE KOO;KA;KAA"⟩,
  ⟨0x1474, ["CANADIAN SYLLABICS", "CANADIAN SYLLABICS WEST-CREE"], "KWE;KWI;KWII;KWO;KWOO;KWA;" ++
    "KWAA"⟩,
  ⟨0x1482, ["CANADIAN SYLLABICS"], "NASKAPI KWAA;K;KW;SOUTH-SLAVEY KEH;SOUTH-SLAVEY KIH;" ++
    "SOUTH-SLAVEY KOH;SOUTH-SLAVEY KAH;CE;CAAI;CI;CII;CO;COO;Y-CREE COO;CA;CAA"⟩,
  ⟨0x1492, ["CANADIAN SYLLABICS", "CANADIAN SYLLABICS WEST-CREE"], "CWE;CWI;CWII;CWO;CWOO;CWA;" ++
    "CWAA"⟩,
  ⟨0x14A0, ["CANADIAN SYLLABICS"], "NASKAPI CWAA;C;SAYISI TH;ME;MAAI;MI;MII;MO;MOO;Y-CREE MOO;" ++
    "MA;MAA"⟩,
  ⟨0x14AC, ["CANADIAN SYLLABICS", "CANADIAN SYLLABICS WEST-CREE"], "MWE;MWI;MWII;MWO;MWOO;MWA;" ++
    "MWAA"⟩,
  ⟨0x14BA, ["CANADIAN SYLLABICS"], "NASKAPI MWAA;M;WEST-CREE M;MH;ATHAPASCAN M;SAYISI M;NE;NAAI;" ++
    "NI;NII;NO;NOO;Y-CREE NOO;NA;NAA;NWE;WEST-CREE NWE;NWA;WEST-CREE NWA;NWAA;WEST-CREE NWAA;" ++
    "NASKAPI NWAA;N;CARRIER NG;NH;LE;LAAI;LI;LII;LO;LOO;Y-CREE LOO;LA;LAA"⟩,
  ⟨0x14DC, ["CANADIAN SYLLABICS", "CANADIAN SYLLABICS WEST-CREE"], "LWE;LWI;LWII;LWO;LWOO;LWA;" ++
    "LWAA;L"⟩, ⟨0x14EC, ["CANADIAN SYLLABICS"], "MEDIAL L;SE;SAAI;SI;SII;SO;SOO;Y-CREE SOO;SA;SAA"⟩,
  ⟨0x14F6, ["CANADIAN SYLLABICS", "CANADIAN SYLLABICS WEST-CREE"], "SWE;SWI;SWII;SWO;SWOO;SWA;" ++
    "SWAA"⟩,
  ⟨0x1504, ["CANADIAN SYLLABICS"], "NASKAPI SWAA;S;ATHAPASCAN S;SW;BLACKFOOT S;MOOSE-CREE SK;" ++
    "NASKAPI SKW;NASKAPI S-W;NASKAPI SPWA;NASKAPI STWA;NASKAPI SKWA;NASKAPI SCWA;SHE;SHI;SHII;" ++
    "SHO;SHOO;SHA;SHAA"⟩,
  ⟨0x1517, ["CANADIAN SYLLABICS", "CANADIAN SYLLABICS WEST-CREE"], "SHWE;SHWI;SHWII;SHWO;SHWOO;" ++
    "SHWA;SHWAA"⟩, ⟨0x1525, ["CANADIAN SYLLABICS"], "SH;YE;YAAI;YI;YII;YO;YOO;Y-CREE YOO;YA;YAA"⟩,
  ⟨0x152F, ["CANADIAN SYLLABICS", "CANADIAN SYLLABICS WEST-CREE"], "YWE;YWI;YWII;YWO;YWOO;YWA;" ++
    "YWAA"⟩,
  ⟨0x153D, ["CANADIAN SYLLABICS"], "NASKAPI YWAA;Y;BIBLE-CREE Y;WEST-CREE Y;SAYISI YI;RE;" ++
    "R-CREE RE;WEST-CREE LE;RAAI;RI;RII;RO;ROO;WEST-CREE LO;RA;RAA;WEST-CREE LA;RWAA;" ++
    "WEST-CREE RWAA;R;WEST-CREE R;MEDIAL R;FE;FAAI;FI;FII;FO;FOO;FA;FAA;FWAA;WEST-CREE FWAA;F;" ++
    "THE;N-CREE THE;THI;N-CREE THI;THII;N-CREE THII;THO;THOO;THA;THAA;THWAA;WEST-CREE THWAA;TH;" ++
    "TTHE;TTHI;TTHO;TTHA;TTH;TYE;TYI;TYO;TYA;NUNAVIK HE;NUNAVIK HI;NUNAVIK HII;NUNAVIK HO;" ++
    "NUNAVIK HOO;NUNAVIK HA;NUNAVIK HAA;NUNAVIK H;NUNAVUT H;HK;QAAI;QI;QII;QO;QOO;QA;QAA;Q;TLHE;" ++
    "TLHI;TLHO;TLHA;WEST-CREE RE;WEST-CREE RI;WEST-CREE RO;WEST-CREE RA;NGAAI;NGI;NGII;NGO;NGOO;" ++
    "NGA;NGAA;NG;NNG;SAYISI SHE;SAYISI SHI;SAYISI SHO;SAYISI SHA;WOODS-CREE THE;WOODS-CREE THI;" ++
    "WOODS-CREE THO;WOODS-CREE THA;WOODS-CREE TH;LHI;LHII;LHO;LHOO;LHA;LHAA;LH;TH-CREE THE;" ++
    "TH-CREE THI;TH-CREE THII;TH-CREE THO;TH-CREE THOO;TH-CREE THA;TH-CREE THAA;TH-CREE TH;" ++
    "AIVILIK B"⟩,
  ⟨0x15B0, ["CANADIAN SYLLABICS BLACKFOOT"], "E;I;O;A;WE;WI;WO;WA;NE;NI;NO;NA;KE;KI;KO;KA"⟩,
  ⟨0x15C0, ["CANADIAN SYLLABICS SAYISI"], "HE;HI;HO;HA"⟩,
  ⟨0x15C4, ["CANADIAN SYLLABICS CARRIER"], "GHU;GHO;GHE;GHEE;GHI;GHA;RU;RO;RE;REE;RI;RA;WU;WO;" ++
    "WE;WEE;WI;WA;HWU;HWO;HWE;HWEE;HWI;HWA;THU;THO;THE;THEE;THI;THA;TTU;TTO;TTE;TTEE;TTI;TTA;PU;" ++
    "PO;PE;PEE;PI;PA;P;GU;GO;GE;GEE;GI;GA;KHU;KHO;KHE;KHEE;KHI;KHA;KKU;KKO;KKE;KKEE;KKI;KKA;KK;" ++
    "NU;NO;NE;NEE;NI;NA;MU;MO;ME;MEE;MI;MA;YU;YO;YE;YEE;YI;YA;JU"⟩,
  ⟨0x1615, ["CANADIAN SYLLABICS"], "SAYISI JU;CARRIER JO;CARRIER JE;CARRIER JEE;CARRIER JI;" ++
    "SAYISI JI"⟩,
  ⟨0x161B, ["CANADIAN SYLLABICS CARRIER"], "JA;JJU;JJO;JJE;JJEE;JJI;JJA;LU;LO;LE;LEE;LI;LA;DLU;" ++
    "DLO;DLE;DLEE;DLI;DLA;LHU;LHO;LHE;LHEE;LHI;LHA;TLHU;TLHO;TLHE;TLHEE;TLHI;TLHA;TLU;TLO;TLE;" ++
    "TLEE;TLI;TLA;ZU;ZO;ZE;ZEE;ZI;ZA;Z;INITIAL Z;DZU;DZO;DZE;DZEE;DZI;DZA;SU;SO;SE;SEE;SI;SA;" ++
    "SHU;SHO;SHE;SHEE;SHI;SHA;SH;TSU;TSO;TSE;TSEE;TSI;TSA;CHU;CHO;CHE;CHEE;CHI;CHA;TTSU;TTSO;" ++
    "TTSE;TTSEE;TTSI;TTSA"⟩,
  ⟨0x166D, ["CANADIAN SYLLABICS"], "CHI SIGN;FULL STOP;QAI;NGAI;NNGI;NNGII;NNGO;NNGOO;NNGA;NNGAA"⟩,
  ⟨0x1677, ["CANADIAN SYLLABICS WOODS-CREE"], "THWEE;THWI;THWII;THWO;THWOO;THWA;THWAA;FINAL TH"⟩,
  ⟨0x167F, [""], "CANADIAN SYLLABICS BLACKFOOT W;OGHAM SPACE MARK"⟩,
  ⟨0x1681, ["OGHAM LETTER"], "BEITH;LUIS;FEARN;SAIL;NION;UATH;DAIR;TINNE;COLL;CEIRT;MUIN;GORT;" ++
    "NGEADAL;STRAIF;RUIS;AILM;ONN;UR;EADHADH;IODHADH;EABHADH;OR;UILLEANN;IFIN;EAMHANCHOLL;PEITH"⟩,
  ⟨0x169B, ["OGHAM", "OGHAM REVERSED"], "FEATHER MARK"⟩,
  ⟨0x16A0, ["RUNIC LETTER"], "FEHU FEOH FE F;V;URUZ UR U;YR;Y;W;THURISAZ THURS THORN;ETH;" ++
    "ANSUZ A;OS O;AC A;AESC;LONG-BRANCH-OSS O;SHORT-TWIG-OSS O;O;OE;ON;RAIDO RAD REID R;KAUNA;" ++
    "CEN;KAUN K;G;ENG;GEBO GYFU G;GAR;WUNJO WYNN W;HAGLAZ H;HAEGL H;LONG-BRANCH-HAGALL H;" ++
    "SHORT-TWIG-HAGALL H;NAUDIZ NYD NAUD N;SHORT-TWIG-NAUD N;DOTTED-N;ISAZ IS ISS I;E;JERAN J;" ++
    "GER;LONG-BRANCH-AR AE;SHORT-TWIG-AR A;IWAZ EOH;PERTHO PEORTH P;ALGIZ EOLHX;SOWILO S;" ++
    "SIGEL LONG-BRANCH-SOL S;SHORT-TWIG-SOL S;C;Z;TIWAZ TIR TYR T;SHORT-TWIG-TYR T;D;" ++
    "BERKANAN BEORC BJARKAN B;SHORT-TWIG-BJARKAN B;DOTTED-P;OPEN-P;EHWAZ EH E;MANNAZ MAN M;" ++
    "LONG-BRANCH-MADR M;SHORT-TWIG-MADR M;LAUKAZ LAGU LOGR L;DOTTED-L;INGWAZ;ING;DAGAZ DAEG D;" ++
    "OTHALAN ETHEL O;EAR;IOR;CWEORTH;CALC;CEALC;STAN;LONG-BRANCH-YR;SHORT-TWIG-YR;ICELANDIC-YR;" ++
    "Q;X"⟩,
  ⟨0x16EB, ["RUNIC"], "SINGLE PUNCTUATION;MULTIPLE PUNCTUATION;CROSS PUNCTUATION;ARLAUG SYMBOL;" ++
    "TVIMADUR SYMBOL;BELGTHOR SYMBOL;LETTER K;LETTER SH;LETTER OO"⟩,
  ⟨0x16F4, ["RUNIC LETTER FRANKS CASKET"], "OS;IS;EH;AC;AESC"⟩,
  ⟨0x1700, ["TAGALOG LETTER"], "A;I;U;KA;GA;NGA;TA;DA;NA;PA;BA;MA;YA;RA;LA;WA;SA;HA"⟩,
  ⟨0x1712, ["TAGALOG"], "VOWEL SIGN I;VOWEL SIGN U;SIGN VIRAMA;SIGN PAMUDPOD"⟩,
  ⟨0x171F, ["TAGALOG LETTER ARCHAIC"], "RA"⟩,
  ⟨0x1720, ["HANUNOO LETTER"], "A;I;U;KA;GA;NGA;TA;DA;NA;PA;BA;MA;YA;RA;LA;WA;SA;HA"⟩,
  ⟨0x1732, ["HANUNOO"], "VOWEL SIGN I;VOWEL SIGN U;SIGN PAMUDPOD"⟩,
  ⟨0x1735, ["PHILIPPINE"], "SINGLE PUNCTUATION;DOUBLE PUNCTUATION"⟩,
  ⟨0x1740, ["BUHID LETTER"], "A;I;U;KA;GA;NGA;TA;DA;NA;PA;BA;MA;YA;RA;LA;WA;SA;HA"⟩,
  ⟨0x1752, ["BUHID VOWEL SIGN"], "I;U"⟩,
  ⟨0x1760, ["TAGBANWA LETTER"], "A;I;U;KA;GA;NGA;TA;DA;NA;PA;BA;MA;YA"⟩,
  ⟨0x176E, ["TAGBANWA LETTER"], "LA;WA;SA"⟩, ⟨0x1772, ["TAGBANWA VOWEL SIGN"], "I;U"⟩,
  ⟨0x1780, ["KHMER LETTER"], "KA;KHA;KO;KHO;NGO;CA;CHA;CO;CHO;NYO;DA;TTHA;DO;TTHO;NNO;TA;THA;TO;" ++
    "THO;NO;BA;PHA;PO;PHO;MO;YO;RO;LO;VO;SHA;SSO;SA;HA;LA;QA"⟩,
  ⟨0x17A3, ["KHMER INDEPENDENT VOWEL"], "QAQ;QAA;QI;QII;QU;QUK;QUU;QUUV;RY;RYY;LY;LYY;QE;QAI;" ++
    "QOO TYPE ONE;QOO TYPE TWO;QAU"⟩, ⟨0x17B4, ["KHMER VOWEL INHERENT"], "AQ;AA"⟩,
  ⟨0x17B6, ["KHMER VOWEL SIGN"], "AA;I;II;Y;YY;U;UU;UA;OE;YA;IE;E;AE;AI;OO;AU"⟩,
  ⟨0x17C6, ["KHMER SIGN"], "NIKAHIT;REAHMUK;YUUKALEAPINTU;MUUSIKATOAN;TRIISAP;BANTOC;ROBAT;" ++
    "TOANDAKHIAT;KAKABAT;AHSDA;SAMYOK SANNYA;VIRIAM;COENG;BATHAMASAT;KHAN;BARIYOOSAN;" ++
    "CAMNUC PII KUUH;LEK TOO;BEYYAL;PHNAEK MUAN;KOOMUUT"⟩,
  ⟨0x17DB, ["KHMER"], "CURRENCY SYMBOL RIEL;SIGN AVAKRAHASANYA;SIGN ATTHACAN"⟩,
  ⟨0x17E0, ["KHMER DIGIT"], "ZERO;ONE;TWO;THREE;FOUR;FIVE;SIX;SEVEN;EIGHT;NINE"⟩,
  ⟨0x17F0, ["KHMER SYMBOL LEK ATTAK"], "SON;MUOY;PII;BEI;BUON;PRAM;PRAM-MUOY;PRAM-PII;PRAM-BEI;" ++
    "PRAM-BUON"⟩,
  ⟨0x1800, ["MONGOLIAN"], "BIRGA;ELLIPSIS;COMMA;FULL STOP;COLON;FOUR DOTS;TODO SOFT HYPHEN;" ++
    "SIBE SYLLABLE BOUNDARY MARKER;MANCHU COMMA;MANCHU FULL STOP;NIRUGU;" ++
    "FREE VARIATION SELECTOR ONE;FREE VARIATION SELECTOR TWO;FREE VARIATION SELECTOR THREE;" ++
    "VOWEL SEPARATOR;FREE VARIATION SELECTOR FOUR"⟩,
  ⟨0x1810, ["MONGOLIAN DIGIT"], "ZERO;ONE;TWO;THREE;FOUR;FIVE;SIX;SEVEN;EIGHT;NINE"⟩,
  ⟨0x1820, ["MONGOLIAN LETTER"], "A;E;I;O;U;OE;UE;EE;NA;ANG;BA;PA;QA;GA;MA;LA;SA;SHA;TA;DA;CHA;" ++
    "JA;YA;RA;WA;FA;KA;KHA;TSA;ZA;HAA;ZRA;LHA;ZHI;CHI"⟩,
  ⟨0x1843, ["MONGOLIAN LETTER TODO"], "LONG VOWEL SIGN;E;I;O;U;OE;UE;ANG;BA;PA;QA;GA;MA;TA;DA;" ++
    "CHA;JA;TSA;YA;WA;KA;GAA;HAA;JIA;NIA;DZA"⟩,
  ⟨0x185D, ["MONGOLIAN LETTER SIBE"], "E;I;IY;UE;U;ANG;KA;GA;HA;PA;SHA;TA;DA;JA;FA;GAA;HAA;TSA;" ++
    "ZA;RAA;CHA;ZHA"⟩,
  ⟨0x1873, ["MONGOLIAN LETTER"], "MANCHU I;MANCHU KA;MANCHU RA;MANCHU FA;MANCHU ZHA;" ++
    "CHA WITH TWO DOTS"⟩,
  ⟨0x1880, ["MONGOLIAN LETTER ALI GALI"], "ANUSVARA ONE;VISARGA ONE;DAMARU;UBADAMA;" ++
    "INVERTED UBADAMA;BALUDA;THREE BALUDA;A;I;KA;NGA;CA;TTA;TTHA;DDA;NNA;TA;DA;PA;PHA;SSA;ZHA;" ++
    "ZA;AH"⟩, ⟨0x1898, ["MONGOLIAN LETTER TODO ALI GALI"], "TA;ZHA"⟩,
  ⟨0x189A, ["MONGOLIAN LETTER MANCHU ALI GALI"], "GHA;NGA;CA;JHA;TTA;DDHA;TA;DHA;SSA;CYA;ZHA;ZA"⟩,
  ⟨0x18A6, ["MONGOLIAN LETTER"], "ALI GALI HALF U;ALI GALI HALF YA;MANCHU ALI GALI BHA;" ++
    "ALI GALI DAGALGA;MANCHU ALI GALI LHA"⟩,
  ⟨0x18B0, ["CANADIAN SYLLABICS"], "OY;AY;AAY;WAY;POY;PAY;PWOY;TAY;KAY;KWAY;MAY;NOY;NAY;LAY;SOY;" ++
    "SAY;SHOY;SHAY;SHWOY;YOY;YAY;RAY;NWI;OJIBWAY NWI;NWII;OJIBWAY NWII;NWO;OJIBWAY NWO;NWOO;" ++
    "OJIBWAY NWOO;RWEE;RWI;RWII;RWO;RWOO;RWA;OJIBWAY P;OJIBWAY T;OJIBWAY K;OJIBWAY C;OJIBWAY M;" ++
    "OJIBWAY N;OJIBWAY S;OJIBWAY SH;EASTERN W;WESTERN W;FINAL SMALL RING;FINAL RAISED DOT;" ++
    "R-CREE RWE;WEST-CREE LOO;WEST-CREE LAA;THWE;THWA;TTHWE;TTHOO;TTHAA;TLHWE;TLHOO;SAYISI SHWE;" ++
    "SAYISI SHOO;SAYISI HOO;CARRIER GWU;CARRIER DENE GEE;CARRIER GAA;CARRIER GWA;SAYISI JUU;" ++
    "CARRIER JWA;BEAVER DENE L;BEAVER DENE R;CARRIER DENTAL S"⟩,
  ⟨0x1900, ["LIMBU VOWEL-CARRIER"], "LETTER"⟩,
  ⟨0x1901, ["LIMBU LETTER"], "KA;KHA;GA;GHA;NGA;CA;CHA;JA;JHA;YAN;TA;THA;DA;DHA;NA;PA;PHA;BA;" ++
    "BHA;MA;YA;RA;LA;WA;SHA;SSA;SA;HA;GYAN;TRA"⟩,
  ⟨0x1920, ["LIMBU VOWEL SIGN"], "A;I;U;EE;AI;OO;AU;E;O"⟩,
  ⟨0x1929, ["LIMBU SUBJOINED LETTER"], "YA;RA;WA"⟩,
  ⟨0x1930, ["LIMBU SMALL LETTER"], "KA;NGA;ANUSVARA;TA;NA;PA;MA;RA;LA"⟩,
  ⟨0x1939, ["LIMBU SIGN"], "MUKPHRENG;KEMPHRENG;SA-I"⟩, ⟨0x1940, ["LIMBU SIGN"], "LOO"⟩,
  ⟨0x1944, ["LIMBU"], "EXCLAMATION MARK;QUESTION MARK"⟩,
  ⟨0x1946, ["LIMBU DIGIT"], "ZERO;ONE;TWO;THREE;FOUR;FIVE;SIX;SEVEN;EIGHT;NINE"⟩,
  ⟨0x1950, ["TAI LE LETTER"], "KA;XA;NGA;TSA;SA;YA;TA;THA;LA;PA;PHA;MA;FA;VA;HA;QA;KHA;TSHA;NA;" ++
    "A;I;EE;EH;U;OO;O;UE;E;AUE;AI"⟩,
  ⟨0x1970, ["TAI LE LETTER"], "TONE-2;TONE-3;TONE-4;TONE-5;TONE-6"⟩,
  ⟨0x1980, ["NEW TAI LUE LETTER"], "HIGH QA;LOW QA;HIGH KA;HIGH XA;HIGH NGA;LOW KA;LOW XA;" ++
    "LOW NGA;HIGH TSA;HIGH SA;HIGH YA;LOW TSA;LOW SA;LOW YA;HIGH TA;HIGH THA;HIGH NA;LOW TA;" ++
    "LOW THA;LOW NA;HIGH PA;HIGH PHA;HIGH MA;LOW PA;LOW PHA;LOW MA;HIGH FA;HIGH VA;HIGH LA;" ++
    "LOW FA;LOW VA;LOW LA;HIGH HA;HIGH DA;HIGH BA;LOW HA;LOW DA;LOW BA;HIGH KVA;HIGH XVA;" ++
    "LOW KVA;LOW XVA;HIGH SUA;LOW SUA"⟩,
  ⟨0x19B0, ["NEW TAI LUE VOWEL SIGN"], "VOWEL SHORTENER;AA;II;U;UU;E;AE;O;OA;UE;AY;AAY;UY;OY;" ++
    "OAY;UEY;IY"⟩, ⟨0x19C1, ["NEW TAI LUE LETTER FINAL"], "V;NG;N;M;K;D;B"⟩,
  ⟨0x19C8, ["NEW TAI LUE TONE"], "MARK-1;MARK-2"⟩,
  ⟨0x19D0, ["NEW TAI LUE DIGIT"], "ZERO;ONE;TWO;THREE;FOUR;FIVE;SIX;SEVEN;EIGHT;NINE"⟩,
  ⟨0x19DA, ["NEW TAI LUE THAM DIGIT"], "ONE"⟩, ⟨0x19DE, ["NEW TAI LUE SIGN"], "LAE;LAEV"⟩,
  ⟨0x19E0, ["KHMER SYMBOL"], "PATHAMASAT;MUOY KOET;PII KOET;BEI KOET;BUON KOET;PRAM KOET;" ++
    "PRAM-MUOY KOET;PRAM-PII KOET;PRAM-BEI KOET;PRAM-BUON KOET;DAP KOET;DAP-MUOY KOET;" ++
    "DAP-PII KOET;DAP-BEI KOET;DAP-BUON KOET;DAP-PRAM KOET;TUTEYASAT;MUOY ROC;PII ROC;BEI ROC;" ++
    "BUON ROC;PRAM ROC;PRAM-MUOY ROC;PRAM-PII ROC;PRAM-BEI ROC;PRAM-BUON ROC;DAP ROC;" ++
    "DAP-MUOY ROC;DAP-PII ROC;DAP-BEI ROC;DAP-BUON ROC;DAP-PRAM ROC"⟩,
  ⟨0x1A00, ["BUGINESE LETTER"], "KA;GA;NGA;NGKA;PA;BA;MA;MPA;TA;DA;NA;NRA;CA;JA;NYA;NYCA;YA;RA;" ++
    "LA;VA;SA;A;HA"⟩, ⟨0x1A17, ["BUGINESE VOWEL SIGN"], "I;U;E;O;AE"⟩,
  ⟨0x1A1E, ["BUGINESE"], "PALLAWA;END OF SECTION"⟩,
  ⟨0x1A20, ["TAI THAM LETTER"], "HIGH KA;HIGH KHA;HIGH KXA;LOW KA;LOW KXA;LOW KHA;NGA;HIGH CA;" ++
    "HIGH CHA;LOW CA;LOW SA;LOW CHA;NYA;RATA;HIGH RATHA;DA;LOW RATHA;RANA;HIGH TA;HIGH THA;" ++
    "LOW TA;LOW THA;NA;BA;HIGH PA;HIGH PHA;HIGH FA;LOW PA;LOW FA;LOW PHA;MA;LOW YA;HIGH YA;RA;" ++
    "RUE;LA;LUE;WA;HIGH SHA;HIGH SSA;HIGH SA;HIGH HA;LLA;A;LOW HA;I;II;U;UU;EE;OO;LAE;GREAT SA"⟩,
  ⟨0x1A55, ["TAI THAM CONSONANT SIGN"], "MEDIAL RA;MEDIAL LA;LA TANG LAI"⟩,
  ⟨0x1A58, ["TAI THAM SIGN MAI KANG"], "LAI"⟩]

/-- The names from 1A59 on, in runs. -/
def syllabicFrom1A59 : List NameRun := [
  ⟨0x1A59, ["TAI THAM CONSONANT SIGN"], "FINAL NGA;LOW PA;HIGH RATHA OR LOW PA;MA;BA;SA"⟩,
  ⟨0x1A60, ["TAI THAM SIGN"], "SAKOT"⟩,
  ⟨0x1A61, ["TAI THAM VOWEL SIGN"], "A;MAI SAT;AA;TALL AA;I;II;UE;UUE;U;UU;O;OA BELOW;OY;E;AE;" ++
    "OO;AI;THAM AI;OA ABOVE"⟩,
  ⟨0x1A74, ["TAI THAM SIGN"], "MAI KANG;TONE-1;TONE-2;KHUEN TONE-3;KHUEN TONE-4;KHUEN TONE-5;" ++
    "RA HAAM;MAI SAM;KHUEN-LUE KARAN"⟩, ⟨0x1A7F, ["TAI THAM COMBINING CRYPTOGRAMMIC"], "DOT"⟩,
  ⟨0x1A80, ["TAI THAM HORA DIGIT"], "ZERO;ONE;TWO;THREE;FOUR;FIVE;SIX;SEVEN;EIGHT;NINE"⟩,
  ⟨0x1A90, ["TAI THAM THAM DIGIT"], "ZERO;ONE;TWO;THREE;FOUR;FIVE;SIX;SEVEN;EIGHT;NINE"⟩,
  ⟨0x1AA0, ["TAI THAM SIGN"], "WIANG;WIANGWAAK;SAWAN;KEOW;HOY;DOKMAI;REVERSED ROTATED RANA;" ++
    "MAI YAMOK;KAAN;KAANKUU;SATKAAN;SATKAANKUU;HANG;CAANG"⟩,
  ⟨0x1AB0, ["COMBINING"], "DOUBLED CIRCUMFLEX ACCENT;DIAERESIS-RING;INFINITY;DOWNWARDS ARROW;" ++
    "TRIPLE DOT;X-X BELOW;WIGGLY LINE BELOW;OPEN MARK BELOW;DOUBLE OPEN MARK BELOW;" ++
    "LIGHT CENTRALIZATION STROKE BELOW;STRONG CENTRALIZATION STROKE BELOW;PARENTHESES ABOVE;" ++
    "DOUBLE PARENTHESES ABOVE;PARENTHESES BELOW;PARENTHESES OVERLAY;LATIN SMALL LETTER W BELOW;" ++
    "LATIN SMALL LETTER TURNED W BELOW;LEFT PARENTHESIS ABOVE LEFT;" ++
    "RIGHT PARENTHESIS ABOVE RIGHT;LEFT PARENTHESIS BELOW LEFT;RIGHT PARENTHESIS BELOW RIGHT;" ++
    "SQUARE BRACKETS ABOVE;NUMBER SIGN ABOVE;INVERTED DOUBLE ARCH ABOVE;PLUS SIGN ABOVE;" ++
    "DOUBLE PLUS SIGN ABOVE;DOUBLE PLUS SIGN BELOW;TRIPLE ACUTE ACCENT"⟩,
  ⟨0x1ACC, ["COMBINING LATIN SMALL LETTER INSULAR"], "G;R;T"⟩,
  ⟨0x1B00, ["BALINESE SIGN"], "ULU RICEM;ULU CANDRA;CECEK;SURANG;BISAH"⟩,
  ⟨0x1B05, ["BALINESE LETTER"], "AKARA;AKARA TEDUNG;IKARA;IKARA TEDUNG;UKARA;UKARA TEDUNG;" ++
    "RA REPA;RA REPA TEDUNG;LA LENGA;LA LENGA TEDUNG;EKARA;AIKARA;OKARA;OKARA TEDUNG;KA;" ++
    "KA MAHAPRANA;GA;GA GORA;NGA;CA;CA LACA;JA;JA JERA;NYA;TA LATIK;TA MURDA MAHAPRANA;" ++
    "DA MURDA ALPAPRANA;DA MURDA MAHAPRANA;NA RAMBAT;TA;TA TAWA;DA;DA MADU;NA;PA;PA KAPAL;BA;" ++
    "BA KEMBANG;MA;YA;RA;LA;WA;SA SAGA;SA SAPA;SA;HA"⟩, ⟨0x1B34, ["BALINESE SIGN"], "REREKAN"⟩,
  ⟨0x1B35, ["BALINESE VOWEL SIGN"], "TEDUNG;ULU;ULU SARI;SUKU;SUKU ILUT;RA REPA;RA REPA TEDUNG;" ++
    "LA LENGA;LA LENGA TEDUNG;TALING;TALING REPA;TALING TEDUNG;TALING REPA TEDUNG;PEPET;" ++
    "PEPET TEDUNG"⟩, ⟨0x1B44, ["BALINESE ADEG"], "ADEG"⟩,
  ⟨0x1B45, ["BALINESE LETTER"], "KAF SASAK;KHOT SASAK;TZIR SASAK;EF SASAK;VE SASAK;ZAL SASAK;" ++
    "ASYURA SASAK;ARCHAIC JNYA"⟩,
  ⟨0x1B50, ["BALINESE DIGIT"], "ZERO;ONE;TWO;THREE;FOUR;FIVE;SIX;SEVEN;EIGHT;NINE"⟩,
  ⟨0x1B5A, ["BALINESE"], "PANTI;PAMADA;WINDU;CARIK PAMUNGKAH;CARIK SIKI;CARIK PAREREN;PAMENENG"⟩,
  ⟨0x1B61, ["BALINESE MUSICAL SYMBOL"], "DONG;DENG;DUNG;DANG;DANG SURANG;DING;DAENG;DEUNG;DAING;" ++
    "DANG GEDE"⟩,
  ⟨0x1B6B, ["BALINESE MUSICAL SYMBOL COMBINING"], "TEGEH;ENDEP;KEMPUL;KEMPLI;JEGOGAN;" ++
    "KEMPUL WITH JEGOGAN;KEMPLI WITH JEGOGAN;BENDE;GONG"⟩,
  ⟨0x1B74, ["BALINESE MUSICAL SYMBOL RIGHT-HAND"], "OPEN DUG;OPEN DAG;CLOSED TUK;CLOSED TAK"⟩,
  ⟨0x1B78, ["BALINESE MUSICAL SYMBOL LEFT-HAND"], "OPEN PANG;OPEN PUNG;CLOSED PLAK;CLOSED PLUK;" ++
    "OPEN PING"⟩, ⟨0x1B7D, ["BALINESE"], "PANTI LANTANG;PAMADA LANTANG"⟩,
  ⟨0x1B80, ["SUNDANESE SIGN"], "PANYECEK;PANGLAYAR;PANGWISAD"⟩,
  ⟨0x1B83, ["SUNDANESE LETTER"], "A;I;U;AE;O;E;EU;KA;QA;GA;NGA;CA;JA;ZA;NYA;TA;DA;NA;PA;FA;VA;" ++
    "BA;MA;YA;RA;LA;WA;SA;XA;HA"⟩,
  ⟨0x1BA1, ["SUNDANESE CONSONANT SIGN"], "PAMINGKAL;PANYAKRA;PANYIKU"⟩,
  ⟨0x1BA4, ["SUNDANESE VOWEL SIGN"], "PANGHULU;PANYUKU;PANAELAENG;PANOLONG;PAMEPET;PANEULEUNG"⟩,
  ⟨0x1BAA, ["SUNDANESE"], "SIGN PAMAAEH;SIGN VIRAMA;CONSONANT SIGN PASANGAN MA;" ++
    "CONSONANT SIGN PASANGAN WA;LETTER KHA;LETTER SYA"⟩,
  ⟨0x1BB0, ["SUNDANESE DIGIT"], "ZERO;ONE;TWO;THREE;FOUR;FIVE;SIX;SEVEN;EIGHT;NINE"⟩,
  ⟨0x1BBA, ["SUNDANESE"], "AVAGRAHA"⟩,
  ⟨0x1BBB, ["SUNDANESE LETTER"], "REU;LEU;BHA;FINAL K;FINAL M"⟩,
  ⟨0x1BC0, ["BATAK LETTER"], "A;SIMALUNGUN A;HA;SIMALUNGUN HA;MANDAILING HA;BA;KARO BA;PA;" ++
    "SIMALUNGUN PA;NA;MANDAILING NA;WA;SIMALUNGUN WA;PAKPAK WA;GA;SIMALUNGUN GA;JA;DA;RA;" ++
    "SIMALUNGUN RA;MA;SIMALUNGUN MA;SOUTHERN TA;NORTHERN TA;SA;SIMALUNGUN SA;MANDAILING SA;YA;" ++
    "SIMALUNGUN YA;NGA;LA;SIMALUNGUN LA;NYA;CA;NDA;MBA;I;U"⟩, ⟨0x1BE6, ["BATAK SIGN"], "TOMPI"⟩,
  ⟨0x1BE7, ["BATAK VOWEL SIGN"], "E;PAKPAK E;EE;I;KARO I;O;KARO O;U;U FOR SIMALUNGUN SA"⟩,
  ⟨0x1BF0, ["BATAK"], "CONSONANT SIGN NG;CONSONANT SIGN H;PANGOLAT;PANONGONAN"⟩,
  ⟨0x1BFC, ["BATAK SYMBOL BINDU"], "NA METEK;PINARBORAS;JUDUL;PANGOLAT"⟩,
  ⟨0x1C00, ["LEPCHA LETTER"], "KA;KLA;KHA;GA;GLA;NGA;CA;CHA;JA;NYA;TA;THA;DA;NA;PA;PLA;PHA;FA;" ++
    "FLA;BA;BLA;MA;MLA;TSA;TSHA;DZA;YA;RA;LA;HA;HLA;VA;SA;SHA;WA;A"⟩,
  ⟨0x1C24, ["LEPCHA SUBJOINED LETTER"], "YA;RA"⟩,
  ⟨0x1C26, ["LEPCHA VOWEL SIGN"], "AA;I;O;OO;U;UU;E"⟩,
  ⟨0x1C2D, ["LEPCHA CONSONANT SIGN"], "K;M;L;N;P;R;T;NYIN-DO;KANG"⟩,
  ⟨0x1C36, ["LEPCHA SIGN"], "RAN;NUKTA"⟩,
  ⟨0x1C3B, ["LEPCHA PUNCTUATION"], "TA-ROL;NYET THYOOM TA-ROL;CER-WA;TSHOOK CER-WA;TSHOOK"⟩,
  ⟨0x1C40, ["LEPCHA DIGIT"], "ZERO;ONE;TWO;THREE;FOUR;FIVE;SIX;SEVEN;EIGHT;NINE"⟩,
  ⟨0x1C4D, ["LEPCHA LETTER"], "TTA;TTHA;DDA"⟩,
  ⟨0x1C50, ["OL CHIKI DIGIT"], "ZERO;ONE;TWO;THREE;FOUR;FIVE;SIX;SEVEN;EIGHT;NINE"⟩,
  ⟨0x1C5A, ["OL CHIKI LETTER"], "LA;AT;AG;ANG;AL;LAA;AAK;AAJ;AAM;AAW;LI;IS;IH;INY;IR;LU;UC;UD;" ++
    "UNN;UY;LE;EP;EDD;EN;ERR;LO;OTT;OB;OV;OH"⟩,
  ⟨0x1C78, ["OL CHIKI"], "MU TTUDDAG;GAAHLAA TTUDDAAG;MU-GAAHLAA TTUDDAAG;RELAA;PHAARKAA;AHAD;" ++
    "PUNCTUATION MUCAAD;PUNCTUATION DOUBLE MUCAAD"⟩,
  ⟨0x1C80, ["CYRILLIC SMALL LETTER"], "ROUNDED VE;LONG-LEGGED DE;NARROW O;WIDE ES;TALL TE;" ++
    "THREE-LEGGED TE;TALL HARD SIGN;TALL YAT;UNBLENDED UK"⟩,
  ⟨0x1C90, ["GEORGIAN MTAVRULI CAPITAL LETTER"], "AN;BAN;GAN;DON;EN;VIN;ZEN;TAN;IN;KAN;LAS;MAN;" ++
    "NAR;ON;PAR;ZHAR;RAE;SAN;TAR;UN;PHAR;KHAR;GHAN;QAR;SHIN;CHIN;CAN;JIL;CIL;CHAR;XAN;JHAN;HAE;" ++
    "HE;HIE;WE;HAR;HOE;FI;YN;ELIFI;TURNED GAN;AIN"⟩,
  ⟨0x1CBD, ["GEORGIAN MTAVRULI CAPITAL LETTER"], "AEN;HARD SIGN;LABIAL SIGN"⟩,
  ⟨0x1CC0, ["SUNDANESE PUNCTUATION BINDU"], "SURYA;PANGLONG;PURNAMA;CAKRA;LEU SATANGA;" ++
    "KA SATANGA;DA SATANGA;BA SATANGA"⟩,
  ⟨0x1CD0, ["VEDIC"], "TONE KARSHANA;TONE SHARA;TONE PRENKHA;SIGN NIHSHVASA;" ++
    "SIGN YAJURVEDIC MIDLINE SVARITA"⟩,
  ⟨0x1CD5, ["VEDIC TONE"], "YAJURVEDIC AGGRAVATED INDEPENDENT SVARITA;" ++
    "YAJURVEDIC INDEPENDENT SVARITA;YAJURVEDIC KATHAKA INDEPENDENT SVARITA;CANDRA BELOW;" ++
    "YAJURVEDIC KATHAKA INDEPENDENT SVARITA SCHROEDER;DOUBLE SVARITA;TRIPLE SVARITA;" ++
    "KATHAKA ANUDATTA;DOT BELOW;TWO DOTS BELOW;THREE DOTS BELOW;" ++
    "RIGVEDIC KASHMIRI INDEPENDENT SVARITA;ATHARVAVEDIC INDEPENDENT SVARITA"⟩,
  ⟨0x1CE2, ["VEDIC SIGN"], "VISARGA SVARITA;VISARGA UDATTA;REVERSED VISARGA UDATTA;" ++
    "VISARGA ANUDATTA;REVERSED VISARGA ANUDATTA;VISARGA UDATTA WITH TAIL;" ++
    "VISARGA ANUDATTA WITH TAIL;ANUSVARA ANTARGOMUKHA;ANUSVARA BAHIRGOMUKHA;" ++
    "ANUSVARA VAMAGOMUKHA;ANUSVARA VAMAGOMUKHA WITH TAIL;TIRYAK;HEXIFORM LONG ANUSVARA;" ++
    "LONG ANUSVARA;RTHANG LONG ANUSVARA;ANUSVARA UBHAYATO MUKHA;ARDHAVISARGA;ROTATED ARDHAVISARGA"⟩,
  ⟨0x1CF4, ["VEDIC"], "TONE CANDRA ABOVE;SIGN JIHVAMULIYA;SIGN UPADHMANIYA;SIGN ATIKRAMA;" ++
    "TONE RING ABOVE;TONE DOUBLE RING ABOVE;SIGN DOUBLE ANUSVARA ANTARGOMUKHA"⟩,
  ⟨0x1D00, ["LATIN LETTER SMALL CAPITAL"], "A;AE"⟩, ⟨0x1D02, ["LATIN SMALL LETTER TURNED"], "AE"⟩,
  ⟨0x1D03, ["LATIN LETTER SMALL CAPITAL"], "BARRED B;C;D;ETH;E"⟩,
  ⟨0x1D08, ["LATIN SMALL LETTER TURNED"], "OPEN E;I"⟩,
  ⟨0x1D0A, ["LATIN LETTER SMALL CAPITAL"], "J;K;L WITH STROKE;M;REVERSED N;O;OPEN O"⟩,
  ⟨0x1D11, ["LATIN SMALL LETTER SIDEWAYS"], "O;OPEN O;O WITH STROKE"⟩,
  ⟨0x1D14, ["LATIN"], "SMALL LETTER TURNED OE;LETTER SMALL CAPITAL OU;SMALL LETTER TOP HALF O;" ++
    "SMALL LETTER BOTTOM HALF O"⟩,
  ⟨0x1D18, ["LATIN LETTER SMALL CAPITAL"], "P;REVERSED R;TURNED R;T;U"⟩,
  ⟨0x1D1D, ["LATIN SMALL LETTER SIDEWAYS"], "U;DIAERESIZED U;TURNED M"⟩,
  ⟨0x1D20, ["LATIN LETTER SMALL CAPITAL"], "V;W;Z;EZH"⟩,
  ⟨0x1D24, ["LATIN LETTER"], "VOICED LARYNGEAL SPIRANT;AIN"⟩,
  ⟨0x1D26, ["GREEK LETTER SMALL CAPITAL"], "GAMMA;LAMDA;PI;RHO;PSI"⟩,
  ⟨0x1D2B, ["CYRILLIC LETTER SMALL CAPITAL"], "EL"⟩,
  ⟨0x1D2C, ["MODIFIER LETTER CAPITAL"], "A;AE;B;BARRED B;D;E;REVERSED E;G;H;I;J;K;L;M;N;" ++
    "REVERSED N;O;OU;P;R;T;U;W"⟩,
  ⟨0x1D43, ["MODIFIER LETTER SMALL"], "A;TURNED A;ALPHA;TURNED AE;B;D;E;SCHWA;OPEN E;" ++
    "TURNED OPEN E;G;TURNED I;K;M;ENG;O;OPEN O;TOP HALF O;BOTTOM HALF O;P;T;U;SIDEWAYS U;" ++
    "TURNED M;V;AIN;BETA;GREEK GAMMA;DELTA;GREEK PHI;CHI"⟩,
  ⟨0x1D62, ["LATIN SUBSCRIPT SMALL LETTER"], "I;R;U;V"⟩,
  ⟨0x1D66, ["GREEK SUBSCRIPT SMALL LETTER"], "BETA;GAMMA;RHO;PHI;CHI"⟩,
  ⟨0x1D6B, ["LATIN SMALL LETTER"], "UE;B WITH MIDDLE TILDE;D WITH MIDDLE TILDE;" ++
    "F WITH MIDDLE TILDE;M WITH MIDDLE TILDE;N WITH MIDDLE TILDE;P WITH MIDDLE TILDE;" ++
    "R WITH MIDDLE TILDE;R WITH FISHHOOK AND MIDDLE TILDE;S WITH MIDDLE TILDE;" ++
    "T WITH MIDDLE TILDE;Z WITH MIDDLE TILDE;TURNED G"⟩,
  ⟨0x1D78, ["MODIFIER LETTER CYRILLIC"], "EN"⟩,
  ⟨0x1D79, ["LATIN SMALL"], "LETTER INSULAR G;LETTER TH WITH STRIKETHROUGH;" ++
    "CAPITAL LETTER I WITH STROKE;LETTER IOTA WITH STROKE;LETTER P WITH STROKE;" ++
    "CAPITAL LETTER U WITH STROKE"⟩,
  ⟨0x1D7F, ["LATIN SMALL LETTER"], "UPSILON WITH STROKE;B WITH PALATAL HOOK;D WITH PALATAL HOOK;" ++
    "F WITH PALATAL HOOK;G WITH PALATAL HOOK;K WITH PALATAL HOOK;L WITH PALATAL HOOK;" ++
    "M WITH PALATAL HOOK;N WITH PALATAL HOOK;P WITH PALATAL HOOK;R WITH PALATAL HOOK;" ++
    "S WITH PALATAL HOOK;ESH WITH PALATAL HOOK;V WITH PALATAL HOOK;X WITH PALATAL HOOK;" ++
    "Z WITH PALATAL HOOK;A WITH RETROFLEX HOOK;ALPHA WITH RETROFLEX HOOK;D WITH HOOK AND TAIL;" ++
    "E WITH RETROFLEX HOOK;OPEN E WITH RETROFLEX HOOK;REVERSED OPEN E WITH RETROFLEX HOOK;" ++
    "SCHWA WITH RETROFLEX HOOK;I WITH RETROFLEX HOOK;OPEN O WITH RETROFLEX HOOK;" ++
    "ESH WITH RETROFLEX HOOK;U WITH RETROFLEX HOOK;EZH WITH RETROFLEX HOOK"⟩,
  ⟨0x1D9B, ["MODIFIER LETTER SMALL"], "TURNED ALPHA;C;C WITH CURL;ETH;REVERSED OPEN E;F;" ++
    "DOTLESS J WITH STROKE;SCRIPT G;TURNED H;I WITH STROKE;IOTA;CAPITAL I;CAPITAL I WITH STROKE;" ++
    "J WITH CROSSED-TAIL;L WITH RETROFLEX HOOK;L WITH PALATAL HOOK;CAPITAL L;M WITH HOOK;" ++
    "TURNED M WITH LONG LEG;N WITH LEFT HOOK;N WITH RETROFLEX HOOK;CAPITAL N;BARRED O;PHI;" ++
    "S WITH HOOK;ESH;T WITH PALATAL HOOK;U BAR;UPSILON;CAPITAL U;V WITH HOOK;TURNED V;Z;" ++
    "Z WITH RETROFLEX HOOK;Z WITH CURL;EZH;THETA"⟩,
  ⟨0x1DC0, ["COMBINING"], "DOTTED GRAVE ACCENT;DOTTED ACUTE ACCENT;SNAKE BELOW;SUSPENSION MARK;" ++
    "MACRON-ACUTE;GRAVE-MACRON;MACRON-GRAVE;ACUTE-MACRON;GRAVE-ACUTE-GRAVE;ACUTE-GRAVE-ACUTE;" ++
    "LATIN SMALL LETTER R BELOW;BREVE-MACRON;MACRON-BREVE;DOUBLE CIRCUMFLEX ABOVE;OGONEK ABOVE;" ++
    "ZIGZAG BELOW;IS BELOW;UR ABOVE;US ABOVE"⟩,
  ⟨0x1DD3, ["COMBINING LATIN SMALL LETTER"], "FLATTENED OPEN A ABOVE;AE;AO;AV;C CEDILLA;" ++
    "INSULAR D;ETH;G"⟩,
  ⟨0x1DDB, ["COMBINING LATIN"], "LETTER SMALL CAPITAL G;SMALL LETTER K;SMALL LETTER L;" ++
    "LETTER SMALL CAPITAL L;LETTER SMALL CAPITAL M;SMALL LETTER N;LETTER SMALL CAPITAL N;" ++
    "LETTER SMALL CAPITAL R"⟩,
  ⟨0x1DE3, ["COMBINING LATIN SMALL LETTER"], "R ROTUNDA;S;LONG S;Z;ALPHA;B;BETA;SCHWA;F;" ++
    "L WITH DOUBLE MIDDLE TILDE;O WITH LIGHT CENTRALIZATION STROKE;P;ESH;" ++
    "U WITH LIGHT CENTRALIZATION STROKE;W;A WITH DIAERESIS;O WITH DIAERESIS;U WITH DIAERESIS"⟩,
  ⟨0x1DF5, ["COMBINING"], "UP TACK ABOVE;KAVYKA ABOVE RIGHT;KAVYKA ABOVE LEFT;DOT ABOVE LEFT;" ++
    "WIDE INVERTED BRIDGE BELOW;DOT BELOW LEFT;DELETION MARK;DOUBLE INVERTED BREVE BELOW;" ++
    "ALMOST EQUAL TO BELOW;LEFT ARROWHEAD ABOVE;RIGHT ARROWHEAD AND DOWN ARROWHEAD BELOW"⟩,
  ⟨0x1F00, ["GREEK SMALL LETTER ALPHA WITH"], "PSILI;DASIA;PSILI AND VARIA;DASIA AND VARIA;" ++
    "PSILI AND OXIA;DASIA AND OXIA;PSILI AND PERISPOMENI;DASIA AND PERISPOMENI"⟩,
  ⟨0x1F08, ["GREEK CAPITAL LETTER ALPHA WITH"], "PSILI;DASIA;PSILI AND VARIA;DASIA AND VARIA;" ++
    "PSILI AND OXIA;DASIA AND OXIA;PSILI AND PERISPOMENI;DASIA AND PERISPOMENI"⟩,
  ⟨0x1F10, ["GREEK SMALL LETTER EPSILON WITH"], "PSILI;DASIA;PSILI AND VARIA;DASIA AND VARIA;" ++
    "PSILI AND OXIA;DASIA AND OXIA"⟩,
  ⟨0x1F18, ["GREEK CAPITAL LETTER EPSILON WITH"], "PSILI;DASIA;PSILI AND VARIA;DASIA AND VARIA;" ++
    "PSILI AND OXIA;DASIA AND OXIA"⟩,
  ⟨0x1F20, ["GREEK SMALL LETTER ETA WITH"], "PSILI;DASIA;PSILI AND VARIA;DASIA AND VARIA;" ++
    "PSILI AND OXIA;DASIA AND OXIA;PSILI AND PERISPOMENI;DASIA AND PERISPOMENI"⟩,
  ⟨0x1F28, ["GREEK CAPITAL LETTER ETA WITH"], "PSILI;DASIA;PSILI AND VARIA;DASIA AND VARIA;" ++
    "PSILI AND OXIA;DASIA AND OXIA;PSILI AND PERISPOMENI;DASIA AND PERISPOMENI"⟩,
  ⟨0x1F30, ["GREEK SMALL LETTER IOTA WITH"], "PSILI;DASIA;PSILI AND VARIA;DASIA AND VARIA;" ++
    "PSILI AND OXIA;DASIA AND OXIA;PSILI AND PERISPOMENI;DASIA AND PERISPOMENI"⟩,
  ⟨0x1F38, ["GREEK CAPITAL LETTER IOTA WITH"], "PSILI;DASIA;PSILI AND VARIA;DASIA AND VARIA;" ++
    "PSILI AND OXIA;DASIA AND OXIA;PSILI AND PERISPOMENI;DASIA AND PERISPOMENI"⟩,
  ⟨0x1F40, ["GREEK SMALL LETTER OMICRON WITH"], "PSILI;DASIA;PSILI AND VARIA;DASIA AND VARIA;" ++
    "PSILI AND OXIA;DASIA AND OXIA"⟩,
  ⟨0x1F48, ["GREEK CAPITAL LETTER OMICRON WITH"], "PSILI;DASIA;PSILI AND VARIA;DASIA AND VARIA;" ++
    "PSILI AND OXIA;DASIA AND OXIA"⟩,
  ⟨0x1F50, ["GREEK SMALL LETTER UPSILON WITH"], "PSILI;DASIA;PSILI AND VARIA;DASIA AND VARIA;" ++
    "PSILI AND OXIA;DASIA AND OXIA;PSILI AND PERISPOMENI;DASIA AND PERISPOMENI"⟩,
  ⟨0x1F59, ["GREEK CAPITAL LETTER UPSILON WITH"], "DASIA"⟩,
  ⟨0x1F5B, ["GREEK CAPITAL LETTER UPSILON WITH DASIA AND"], "VARIA"⟩,
  ⟨0x1F5D, ["GREEK CAPITAL LETTER UPSILON WITH DASIA AND"], "OXIA"⟩,
  ⟨0x1F5F, ["GREEK CAPITAL LETTER UPSILON WITH DASIA AND"], "PERISPOMENI"⟩,
  ⟨0x1F60, ["GREEK SMALL LETTER OMEGA WITH"], "PSILI;DASIA;PSILI AND VARIA;DASIA AND VARIA;" ++
    "PSILI AND OXIA;DASIA AND OXIA;PSILI AND PERISPOMENI;DASIA AND PERISPOMENI"⟩,
  ⟨0x1F68, ["GREEK CAPITAL LETTER OMEGA WITH"], "PSILI;DASIA;PSILI AND VARIA;DASIA AND VARIA;" ++
    "PSILI AND OXIA;DASIA AND OXIA;PSILI AND PERISPOMENI;DASIA AND PERISPOMENI"⟩,
  ⟨0x1F70, ["GREEK SMALL LETTER"], "ALPHA WITH VARIA;ALPHA WITH OXIA;EPSILON WITH VARIA;" ++
    "EPSILON WITH OXIA;ETA WITH VARIA;ETA WITH OXIA;IOTA WITH VARIA;IOTA WITH OXIA;" ++
    "OMICRON WITH VARIA;OMICRON WITH OXIA;UPSILON WITH VARIA;UPSILON WITH OXIA;OMEGA WITH VARIA;" ++
    "OMEGA WITH OXIA"⟩,
  ⟨0x1F80, ["GREEK SMALL LETTER ALPHA WITH PSILI AND", "GREEK SMALL LETTER ALPHA WITH DASIA AND"],
    "YPOGEGRAMMENI;VARIA AND YPOGEGRAMMENI;OXIA AND YPOGEGRAMMENI;PERISPOMENI AND YPOGEGRAMMENI"⟩,
  ⟨0x1F88, ["GREEK CAPITAL LETTER ALPHA WITH PSILI AND",
      "GREEK CAPITAL LETTER ALPHA WITH DASIA AND"],
    "PROSGEGRAMMENI;VARIA AND PROSGEGRAMMENI;OXIA AND PROSGEGRAMMENI;" ++
    "PERISPOMENI AND PROSGEGRAMMENI"⟩,
  ⟨0x1F90, ["GREEK SMALL LETTER ETA WITH PSILI AND", "GREEK SMALL LETTER ETA WITH DASIA AND"],
    "YPOGEGRAMMENI;VARIA AND YPOGEGRAMMENI;OXIA AND YPOGEGRAMMENI;PERISPOMENI AND YPOGEGRAMMENI"⟩,
  ⟨0x1F98, ["GREEK CAPITAL LETTER ETA WITH PSILI AND", "GREEK CAPITAL LETTER ETA WITH DASIA AND"],
    "PROSGEGRAMMENI;VARIA AND PROSGEGRAMMENI;OXIA AND PROSGEGRAMMENI;" ++
    "PERISPOMENI AND PROSGEGRAMMENI"⟩,
  ⟨0x1FA0, ["GREEK SMALL LETTER OMEGA WITH PSILI AND", "GREEK SMALL LETTER OMEGA WITH DASIA AND"],
    "YPOGEGRAMMENI;VARIA AND YPOGEGRAMMENI;OXIA AND YPOGEGRAMMENI;PERISPOMENI AND YPOGEGRAMMENI"⟩,
  ⟨0x1FA8, ["GREEK CAPITAL LETTER OMEGA WITH PSILI AND",
      "GREEK CAPITAL LETTER OMEGA WITH DASIA AND"],
    "PROSGEGRAMMENI;VARIA AND PROSGEGRAMMENI;OXIA AND PROSGEGRAMMENI;" ++
    "PERISPOMENI AND PROSGEGRAMMENI"⟩,
  ⟨0x1FB0, ["GREEK SMALL LETTER ALPHA WITH"], "VRACHY;MACRON;VARIA AND YPOGEGRAMMENI;" ++
    "YPOGEGRAMMENI;OXIA AND YPOGEGRAMMENI"⟩,
  ⟨0x1FB6, ["GREEK SMALL LETTER ALPHA WITH"], "PERISPOMENI;PERISPOMENI AND YPOGEGRAMMENI"⟩,
  ⟨0x1FB8, ["GREEK CAPITAL LETTER ALPHA WITH"], "VRACHY;MACRON;VARIA;OXIA;PROSGEGRAMMENI"⟩,
  ⟨0x1FBD, ["GREEK"], "KORONIS;PROSGEGRAMMENI;PSILI;PERISPOMENI;DIALYTIKA AND PERISPOMENI"⟩,
  ⟨0x1FC2, ["GREEK SMALL LETTER ETA WITH"], "VARIA AND YPOGEGRAMMENI;YPOGEGRAMMENI;" ++
    "OXIA AND YPOGEGRAMMENI"⟩,
  ⟨0x1FC6, ["GREEK SMALL LETTER ETA WITH"], "PERISPOMENI;PERISPOMENI AND YPOGEGRAMMENI"⟩,
  ⟨0x1FC8, ["GREEK CAPITAL LETTER"], "EPSILON WITH VARIA;EPSILON WITH OXIA;ETA WITH VARIA;" ++
    "ETA WITH OXIA;ETA WITH PROSGEGRAMMENI"⟩,
  ⟨0x1FCD, ["GREEK PSILI AND"], "VARIA;OXIA;PERISPOMENI"⟩,
  ⟨0x1FD0, ["GREEK SMALL LETTER IOTA WITH"], "VRACHY;MACRON;DIALYTIKA AND VARIA;" ++
    "DIALYTIKA AND OXIA"⟩,
  ⟨0x1FD6, ["GREEK SMALL LETTER IOTA WITH"], "PERISPOMENI;DIALYTIKA AND PERISPOMENI"⟩,
  ⟨0x1FD8, ["GREEK CAPITAL LETTER IOTA WITH"], "VRACHY;MACRON;VARIA;OXIA"⟩,
  ⟨0x1FDD, ["GREEK DASIA AND"], "VARIA;OXIA;PERISPOMENI"⟩,
  ⟨0x1FE0, ["GREEK SMALL LETTER UPSILON WITH"], "VRACHY;MACRON;DIALYTIKA AND VARIA;" ++
    "DIALYTIKA AND OXIA"⟩,
  ⟨0x1FE4, ["GREEK SMALL LETTER"], "RHO WITH PSILI;RHO WITH DASIA;UPSILON WITH PERISPOMENI;" ++
    "UPSILON WITH DIALYTIKA AND PERISPOMENI"⟩]

/-- The names from 1FE8 on, in runs. -/
def syllabicFrom1FE8 : List NameRun := [
  ⟨0x1FE8, ["GREEK CAPITAL LETTER UPSILON WITH"], "VRACHY;MACRON;VARIA;OXIA"⟩,
  ⟨0x1FEC, ["GREEK"], "CAPITAL LETTER RHO WITH DASIA;DIALYTIKA AND VARIA;DIALYTIKA AND OXIA;VARIA"⟩,
  ⟨0x1FF2, ["GREEK SMALL LETTER OMEGA WITH"], "VARIA AND YPOGEGRAMMENI;YPOGEGRAMMENI;" ++
    "OXIA AND YPOGEGRAMMENI"⟩,
  ⟨0x1FF6, ["GREEK SMALL LETTER OMEGA WITH"], "PERISPOMENI;PERISPOMENI AND YPOGEGRAMMENI"⟩,
  ⟨0x1FF8, ["GREEK CAPITAL LETTER"], "OMICRON WITH VARIA;OMICRON WITH OXIA;OMEGA WITH VARIA;" ++
    "OMEGA WITH OXIA;OMEGA WITH PROSGEGRAMMENI"⟩, ⟨0x1FFD, ["GREEK"], "OXIA;DASIA"⟩]

/-- The names, in runs. -/
def syllabic : List NameRun :=
  syllabicFrom10A0 ++ syllabicFrom1A59 ++ syllabicFrom1FE8

end EntityForge.NameRun
