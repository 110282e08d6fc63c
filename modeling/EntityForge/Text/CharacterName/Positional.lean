import EntityForge.Text.CharacterName.Run

/-! # Names of presentation forms

The names of the ligatures and positional forms of Hebrew and Arabic.
-/

namespace EntityForge.NameRun

/-- The names, in runs. -/
def positional : List NameRun := [
  ⟨0xFB13, ["ARMENIAN SMALL LIGATURE"], "MEN NOW;MEN ECH;MEN INI;VEW NOW;MEN XEH"⟩,
  ⟨0xFB1D, ["HEBREW"], "LETTER YOD WITH HIRIQ;POINT JUDEO-SPANISH VARIKA;" ++
    "LIGATURE YIDDISH YOD YOD PATAH"⟩,
  ⟨0xFB20, ["HEBREW LETTER"], "ALTERNATIVE AYIN;WIDE ALEF;WIDE DALET;WIDE HE;WIDE KAF;" ++
    "WIDE LAMED;WIDE FINAL MEM;WIDE RESH;WIDE TAV;ALTERNATIVE PLUS SIGN;SHIN WITH SHIN DOT;" ++
    "SHIN WITH SIN DOT;SHIN WITH DAGESH AND SHIN DOT;SHIN WITH DAGESH AND SIN DOT;" ++
    "ALEF WITH PATAH;ALEF WITH QAMATS;ALEF WITH MAPIQ;BET WITH DAGESH;GIMEL WITH DAGESH;" ++
    "DALET WITH DAGESH;HE WITH MAPIQ;VAV WITH DAGESH;ZAYIN WITH DAGESH"⟩,
  ⟨0xFB38, ["HEBREW LETTER"], "TET WITH DAGESH;YOD WITH DAGESH;FINAL KAF WITH DAGESH;" ++
    "KAF WITH DAGESH;LAMED WITH DAGESH"⟩, ⟨0xFB3E, ["HEBREW LETTER MEM WITH"], "DAGESH"⟩,
  ⟨0xFB40, ["HEBREW LETTER"], "NUN WITH DAGESH;SAMEKH WITH DAGESH"⟩,
  ⟨0xFB43, ["HEBREW LETTER"], "FINAL PE WITH DAGESH;PE WITH DAGESH"⟩,
  ⟨0xFB46, ["HEBREW LETTER"], "TSADI WITH DAGESH;QOF WITH DAGESH;RESH WITH DAGESH;" ++
    "SHIN WITH DAGESH;TAV WITH DAGESH;VAV WITH HOLAM;BET WITH RAFE;KAF WITH RAFE;PE WITH RAFE"⟩,
  ⟨0xFB4F, ["HEBREW LIGATURE ALEF"], "LAMED"⟩,
  ⟨0xFB50, ["ARABIC LETTER"], "ALEF WASLA ISOLATED FORM;ALEF WASLA FINAL FORM;" ++
    "BEEH ISOLATED FORM;BEEH FINAL FORM;BEEH INITIAL FORM;BEEH MEDIAL FORM;PEH ISOLATED FORM;" ++
    "PEH FINAL FORM;PEH INITIAL FORM;PEH MEDIAL FORM;BEHEH ISOLATED FORM;BEHEH FINAL FORM;" ++
    "BEHEH INITIAL FORM;BEHEH MEDIAL FORM;TTEHEH ISOLATED FORM;TTEHEH FINAL FORM;" ++
    "TTEHEH INITIAL FORM;TTEHEH MEDIAL FORM;TEHEH ISOLATED FORM;TEHEH FINAL FORM;" ++
    "TEHEH INITIAL FORM;TEHEH MEDIAL FORM;TTEH ISOLATED FORM;TTEH FINAL FORM;TTEH INITIAL FORM;" ++
    "TTEH MEDIAL FORM;VEH ISOLATED FORM;VEH FINAL FORM;VEH INITIAL FORM;VEH MEDIAL FORM;" ++
    "PEHEH ISOLATED FORM;PEHEH FINAL FORM;PEHEH INITIAL FORM;PEHEH MEDIAL FORM;" ++
    "DYEH ISOLATED FORM;DYEH FINAL FORM;DYEH INITIAL FORM;DYEH MEDIAL FORM;NYEH ISOLATED FORM;" ++
    "NYEH FINAL FORM;NYEH INITIAL FORM;NYEH MEDIAL FORM;TCHEH ISOLATED FORM;TCHEH FINAL FORM;" ++
    "TCHEH INITIAL FORM;TCHEH MEDIAL FORM;TCHEHEH ISOLATED FORM;TCHEHEH FINAL FORM;" ++
    "TCHEHEH INITIAL FORM;TCHEHEH MEDIAL FORM;DDAHAL ISOLATED FORM;DDAHAL FINAL FORM;" ++
    "DAHAL ISOLATED FORM;DAHAL FINAL FORM;DUL ISOLATED FORM;DUL FINAL FORM;DDAL ISOLATED FORM;" ++
    "DDAL FINAL FORM;JEH ISOLATED FORM;JEH FINAL FORM;RREH ISOLATED FORM;RREH FINAL FORM;" ++
    "KEHEH ISOLATED FORM;KEHEH FINAL FORM;KEHEH INITIAL FORM;KEHEH MEDIAL FORM;" ++
    "GAF ISOLATED FORM;GAF FINAL FORM;GAF INITIAL FORM;GAF MEDIAL FORM;GUEH ISOLATED FORM;" ++
    "GUEH FINAL FORM;GUEH INITIAL FORM;GUEH MEDIAL FORM;NGOEH ISOLATED FORM;NGOEH FINAL FORM;" ++
    "NGOEH INITIAL FORM;NGOEH MEDIAL FORM;NOON GHUNNA ISOLATED FORM;NOON GHUNNA FINAL FORM;" ++
    "RNOON ISOLATED FORM;RNOON FINAL FORM;RNOON INITIAL FORM;RNOON MEDIAL FORM;" ++
    "HEH WITH YEH ABOVE ISOLATED FORM;HEH WITH YEH ABOVE FINAL FORM;HEH GOAL ISOLATED FORM;" ++
    "HEH GOAL FINAL FORM;HEH GOAL INITIAL FORM;HEH GOAL MEDIAL FORM"⟩,
  ⟨0xFBAA, ["ARABIC LETTER HEH DOACHASHMEE"], "ISOLATED FORM;FINAL FORM;INITIAL FORM;MEDIAL FORM"⟩,
  ⟨0xFBAE, ["ARABIC LETTER YEH BARREE"], "ISOLATED FORM;FINAL FORM;" ++
    "WITH HAMZA ABOVE ISOLATED FORM;WITH HAMZA ABOVE FINAL FORM"⟩,
  ⟨0xFBB2, ["ARABIC SYMBOL"], "DOT ABOVE;DOT BELOW;TWO DOTS ABOVE;TWO DOTS BELOW;" ++
    "THREE DOTS ABOVE;THREE DOTS BELOW;THREE DOTS POINTING DOWNWARDS ABOVE;" ++
    "THREE DOTS POINTING DOWNWARDS BELOW;FOUR DOTS ABOVE;FOUR DOTS BELOW;" ++
    "DOUBLE VERTICAL BAR BELOW;TWO DOTS VERTICALLY ABOVE;TWO DOTS VERTICALLY BELOW;RING;" ++
    "SMALL TAH ABOVE;SMALL TAH BELOW;WASLA ABOVE"⟩,
  ⟨0xFBD3, ["ARABIC LETTER"], "NG ISOLATED FORM;NG FINAL FORM;NG INITIAL FORM;NG MEDIAL FORM;" ++
    "U ISOLATED FORM;U FINAL FORM;OE ISOLATED FORM;OE FINAL FORM;YU ISOLATED FORM;YU FINAL FORM;" ++
    "U WITH HAMZA ABOVE ISOLATED FORM;VE ISOLATED FORM;VE FINAL FORM;KIRGHIZ OE ISOLATED FORM;" ++
    "KIRGHIZ OE FINAL FORM;KIRGHIZ YU ISOLATED FORM;KIRGHIZ YU FINAL FORM;E ISOLATED FORM;" ++
    "E FINAL FORM;E INITIAL FORM;E MEDIAL FORM"⟩,
  ⟨0xFBE8, ["ARABIC LETTER UIGHUR KAZAKH KIRGHIZ ALEF MAKSURA"], "INITIAL FORM;MEDIAL FORM"⟩,
  ⟨0xFBEA, ["ARABIC LIGATURE YEH WITH HAMZA ABOVE WITH"], "ALEF ISOLATED FORM;ALEF FINAL FORM;" ++
    "AE ISOLATED FORM;AE FINAL FORM;WAW ISOLATED FORM;WAW FINAL FORM;U ISOLATED FORM;" ++
    "U FINAL FORM;OE ISOLATED FORM;OE FINAL FORM;YU ISOLATED FORM;YU FINAL FORM;E ISOLATED FORM;" ++
    "E FINAL FORM;E INITIAL FORM"⟩,
  ⟨0xFBF9, ["ARABIC LIGATURE UIGHUR KIRGHIZ YEH WITH HAMZA ABOVE WITH ALEF MAKSURA"],
    "ISOLATED FORM;FINAL FORM;INITIAL FORM"⟩,
  ⟨0xFBFC, ["ARABIC LETTER FARSI YEH"], "ISOLATED FORM;FINAL FORM;INITIAL FORM;MEDIAL FORM"⟩,
  ⟨0xFC00, ["ARABIC LIGATURE YEH WITH HAMZA ABOVE WITH"], "JEEM ISOLATED FORM;HAH ISOLATED FORM;" ++
    "MEEM ISOLATED FORM;ALEF MAKSURA ISOLATED FORM;YEH ISOLATED FORM"⟩,
  ⟨0xFC05, ["ARABIC LIGATURE BEH WITH"], "JEEM ISOLATED FORM;HAH ISOLATED FORM;" ++
    "KHAH ISOLATED FORM;MEEM ISOLATED FORM;ALEF MAKSURA ISOLATED FORM;YEH ISOLATED FORM"⟩,
  ⟨0xFC0B, ["ARABIC LIGATURE TEH WITH"], "JEEM ISOLATED FORM;HAH ISOLATED FORM;" ++
    "KHAH ISOLATED FORM;MEEM ISOLATED FORM;ALEF MAKSURA ISOLATED FORM;YEH ISOLATED FORM"⟩,
  ⟨0xFC11, ["ARABIC LIGATURE"], "THEH WITH JEEM ISOLATED FORM;THEH WITH MEEM ISOLATED FORM;" ++
    "THEH WITH ALEF MAKSURA ISOLATED FORM;THEH WITH YEH ISOLATED FORM;" ++
    "JEEM WITH HAH ISOLATED FORM;JEEM WITH MEEM ISOLATED FORM;HAH WITH JEEM ISOLATED FORM;" ++
    "HAH WITH MEEM ISOLATED FORM;KHAH WITH JEEM ISOLATED FORM;KHAH WITH HAH ISOLATED FORM;" ++
    "KHAH WITH MEEM ISOLATED FORM;SEEN WITH JEEM ISOLATED FORM;SEEN WITH HAH ISOLATED FORM;" ++
    "SEEN WITH KHAH ISOLATED FORM;SEEN WITH MEEM ISOLATED FORM;SAD WITH HAH ISOLATED FORM;" ++
    "SAD WITH MEEM ISOLATED FORM;DAD WITH JEEM ISOLATED FORM;DAD WITH HAH ISOLATED FORM;" ++
    "DAD WITH KHAH ISOLATED FORM;DAD WITH MEEM ISOLATED FORM;TAH WITH HAH ISOLATED FORM;" ++
    "TAH WITH MEEM ISOLATED FORM;ZAH WITH MEEM ISOLATED FORM;AIN WITH JEEM ISOLATED FORM;" ++
    "AIN WITH MEEM ISOLATED FORM;GHAIN WITH JEEM ISOLATED FORM;GHAIN WITH MEEM ISOLATED FORM"⟩,
  ⟨0xFC2D, ["ARABIC LIGATURE FEH WITH"], "JEEM ISOLATED FORM;HAH ISOLATED FORM;" ++
    "KHAH ISOLATED FORM;MEEM ISOLATED FORM;ALEF MAKSURA ISOLATED FORM;YEH ISOLATED FORM"⟩,
  ⟨0xFC33, ["ARABIC LIGATURE QAF WITH"], "HAH ISOLATED FORM;MEEM ISOLATED FORM;" ++
    "ALEF MAKSURA ISOLATED FORM;YEH ISOLATED FORM"⟩,
  ⟨0xFC37, ["ARABIC LIGATURE KAF WITH"], "ALEF ISOLATED FORM;JEEM ISOLATED FORM;" ++
    "HAH ISOLATED FORM;KHAH ISOLATED FORM;LAM ISOLATED FORM;MEEM ISOLATED FORM;" ++
    "ALEF MAKSURA ISOLATED FORM;YEH ISOLATED FORM"⟩,
  ⟨0xFC3F, ["ARABIC LIGATURE LAM WITH"], "JEEM ISOLATED FORM;HAH ISOLATED FORM;" ++
    "KHAH ISOLATED FORM;MEEM ISOLATED FORM;ALEF MAKSURA ISOLATED FORM;YEH ISOLATED FORM"⟩,
  ⟨0xFC45, ["ARABIC LIGATURE MEEM WITH"], "JEEM ISOLATED FORM;HAH ISOLATED FORM;" ++
    "KHAH ISOLATED FORM;MEEM ISOLATED FORM;ALEF MAKSURA ISOLATED FORM;YEH ISOLATED FORM"⟩,
  ⟨0xFC4B, ["ARABIC LIGATURE NOON WITH"], "JEEM ISOLATED FORM;HAH ISOLATED FORM;" ++
    "KHAH ISOLATED FORM;MEEM ISOLATED FORM;ALEF MAKSURA ISOLATED FORM;YEH ISOLATED FORM"⟩,
  ⟨0xFC51, ["ARABIC LIGATURE HEH WITH"], "JEEM ISOLATED FORM;MEEM ISOLATED FORM;" ++
    "ALEF MAKSURA ISOLATED FORM;YEH ISOLATED FORM"⟩,
  ⟨0xFC55, ["ARABIC LIGATURE YEH WITH"], "JEEM ISOLATED FORM;HAH ISOLATED FORM;" ++
    "KHAH ISOLATED FORM;MEEM ISOLATED FORM;ALEF MAKSURA ISOLATED FORM;YEH ISOLATED FORM"⟩,
  ⟨0xFC5B, ["ARABIC LIGATURE"], "THAL WITH SUPERSCRIPT ALEF ISOLATED FORM;" ++
    "REH WITH SUPERSCRIPT ALEF ISOLATED FORM;ALEF MAKSURA WITH SUPERSCRIPT ALEF ISOLATED FORM"⟩,
  ⟨0xFC5E, ["ARABIC LIGATURE SHADDA WITH"], "DAMMATAN ISOLATED FORM;KASRATAN ISOLATED FORM;" ++
    "FATHA ISOLATED FORM;DAMMA ISOLATED FORM;KASRA ISOLATED FORM;SUPERSCRIPT ALEF ISOLATED FORM"⟩,
  ⟨0xFC64, ["ARABIC LIGATURE YEH WITH HAMZA ABOVE WITH"], "REH FINAL FORM;ZAIN FINAL FORM;" ++
    "MEEM FINAL FORM;NOON FINAL FORM;ALEF MAKSURA FINAL FORM;YEH FINAL FORM"⟩,
  ⟨0xFC6A, ["ARABIC LIGATURE BEH WITH"], "REH FINAL FORM;ZAIN FINAL FORM;MEEM FINAL FORM;" ++
    "NOON FINAL FORM;ALEF MAKSURA FINAL FORM;YEH FINAL FORM"⟩,
  ⟨0xFC70, ["ARABIC LIGATURE TEH WITH"], "REH FINAL FORM;ZAIN FINAL FORM;MEEM FINAL FORM;" ++
    "NOON FINAL FORM;ALEF MAKSURA FINAL FORM;YEH FINAL FORM"⟩,
  ⟨0xFC76, ["ARABIC LIGATURE THEH WITH"], "REH FINAL FORM;ZAIN FINAL FORM;MEEM FINAL FORM;" ++
    "NOON FINAL FORM;ALEF MAKSURA FINAL FORM;YEH FINAL FORM"⟩,
  ⟨0xFC7C, ["ARABIC LIGATURE"], "FEH WITH ALEF MAKSURA FINAL FORM;FEH WITH YEH FINAL FORM;" ++
    "QAF WITH ALEF MAKSURA FINAL FORM;QAF WITH YEH FINAL FORM;KAF WITH ALEF FINAL FORM;" ++
    "KAF WITH LAM FINAL FORM;KAF WITH MEEM FINAL FORM;KAF WITH ALEF MAKSURA FINAL FORM;" ++
    "KAF WITH YEH FINAL FORM;LAM WITH MEEM FINAL FORM;LAM WITH ALEF MAKSURA FINAL FORM;" ++
    "LAM WITH YEH FINAL FORM;MEEM WITH ALEF FINAL FORM;MEEM WITH MEEM FINAL FORM;" ++
    "NOON WITH REH FINAL FORM;NOON WITH ZAIN FINAL FORM;NOON WITH MEEM FINAL FORM;" ++
    "NOON WITH NOON FINAL FORM;NOON WITH ALEF MAKSURA FINAL FORM;NOON WITH YEH FINAL FORM;" ++
    "ALEF MAKSURA WITH SUPERSCRIPT ALEF FINAL FORM"⟩,
  ⟨0xFC91, ["ARABIC LIGATURE YEH WITH"], "REH FINAL FORM;ZAIN FINAL FORM;MEEM FINAL FORM;" ++
    "NOON FINAL FORM;ALEF MAKSURA FINAL FORM;YEH FINAL FORM"⟩,
  ⟨0xFC97, ["ARABIC LIGATURE YEH WITH HAMZA ABOVE WITH"], "JEEM INITIAL FORM;HAH INITIAL FORM;" ++
    "KHAH INITIAL FORM;MEEM INITIAL FORM;HEH INITIAL FORM"⟩,
  ⟨0xFC9C, ["ARABIC LIGATURE BEH WITH"], "JEEM INITIAL FORM;HAH INITIAL FORM;KHAH INITIAL FORM;" ++
    "MEEM INITIAL FORM;HEH INITIAL FORM"⟩,
  ⟨0xFCA1, ["ARABIC LIGATURE TEH WITH"], "JEEM INITIAL FORM;HAH INITIAL FORM;KHAH INITIAL FORM;" ++
    "MEEM INITIAL FORM;HEH INITIAL FORM"⟩,
  ⟨0xFCA6, ["ARABIC LIGATURE"], "THEH WITH MEEM INITIAL FORM;JEEM WITH HAH INITIAL FORM;" ++
    "JEEM WITH MEEM INITIAL FORM;HAH WITH JEEM INITIAL FORM;HAH WITH MEEM INITIAL FORM;" ++
    "KHAH WITH JEEM INITIAL FORM;KHAH WITH MEEM INITIAL FORM;SEEN WITH JEEM INITIAL FORM;" ++
    "SEEN WITH HAH INITIAL FORM;SEEN WITH KHAH INITIAL FORM;SEEN WITH MEEM INITIAL FORM;" ++
    "SAD WITH HAH INITIAL FORM;SAD WITH KHAH INITIAL FORM;SAD WITH MEEM INITIAL FORM;" ++
    "DAD WITH JEEM INITIAL FORM;DAD WITH HAH INITIAL FORM;DAD WITH KHAH INITIAL FORM;" ++
    "DAD WITH MEEM INITIAL FORM;TAH WITH HAH INITIAL FORM;ZAH WITH MEEM INITIAL FORM;" ++
    "AIN WITH JEEM INITIAL FORM;AIN WITH MEEM INITIAL FORM;GHAIN WITH JEEM INITIAL FORM;" ++
    "GHAIN WITH MEEM INITIAL FORM;FEH WITH JEEM INITIAL FORM;FEH WITH HAH INITIAL FORM;" ++
    "FEH WITH KHAH INITIAL FORM;FEH WITH MEEM INITIAL FORM;QAF WITH HAH INITIAL FORM;" ++
    "QAF WITH MEEM INITIAL FORM;KAF WITH JEEM INITIAL FORM;KAF WITH HAH INITIAL FORM;" ++
    "KAF WITH KHAH INITIAL FORM;KAF WITH LAM INITIAL FORM;KAF WITH MEEM INITIAL FORM;" ++
    "LAM WITH JEEM INITIAL FORM;LAM WITH HAH INITIAL FORM;LAM WITH KHAH INITIAL FORM;" ++
    "LAM WITH MEEM INITIAL FORM;LAM WITH HEH INITIAL FORM;MEEM WITH JEEM INITIAL FORM;" ++
    "MEEM WITH HAH INITIAL FORM;MEEM WITH KHAH INITIAL FORM;MEEM WITH MEEM INITIAL FORM;" ++
    "NOON WITH JEEM INITIAL FORM;NOON WITH HAH INITIAL FORM;NOON WITH KHAH INITIAL FORM;" ++
    "NOON WITH MEEM INITIAL FORM;NOON WITH HEH INITIAL FORM;HEH WITH JEEM INITIAL FORM;" ++
    "HEH WITH MEEM INITIAL FORM;HEH WITH SUPERSCRIPT ALEF INITIAL FORM;" ++
    "YEH WITH JEEM INITIAL FORM;YEH WITH HAH INITIAL FORM;YEH WITH KHAH INITIAL FORM;" ++
    "YEH WITH MEEM INITIAL FORM;YEH WITH HEH INITIAL FORM;" ++
    "YEH WITH HAMZA ABOVE WITH MEEM MEDIAL FORM;YEH WITH HAMZA ABOVE WITH HEH MEDIAL FORM;" ++
    "BEH WITH MEEM MEDIAL FORM;BEH WITH HEH MEDIAL FORM;TEH WITH MEEM MEDIAL FORM;" ++
    "TEH WITH HEH MEDIAL FORM;THEH WITH MEEM MEDIAL FORM;THEH WITH HEH MEDIAL FORM;" ++
    "SEEN WITH MEEM MEDIAL FORM;SEEN WITH HEH MEDIAL FORM;SHEEN WITH MEEM MEDIAL FORM;" ++
    "SHEEN WITH HEH MEDIAL FORM;KAF WITH LAM MEDIAL FORM;KAF WITH MEEM MEDIAL FORM;" ++
    "LAM WITH MEEM MEDIAL FORM;NOON WITH MEEM MEDIAL FORM;NOON WITH HEH MEDIAL FORM;" ++
    "YEH WITH MEEM MEDIAL FORM;YEH WITH HEH MEDIAL FORM;SHADDA WITH FATHA MEDIAL FORM;" ++
    "SHADDA WITH DAMMA MEDIAL FORM;SHADDA WITH KASRA MEDIAL FORM;" ++
    "TAH WITH ALEF MAKSURA ISOLATED FORM;TAH WITH YEH ISOLATED FORM;" ++
    "AIN WITH ALEF MAKSURA ISOLATED FORM;AIN WITH YEH ISOLATED FORM;" ++
    "GHAIN WITH ALEF MAKSURA ISOLATED FORM;GHAIN WITH YEH ISOLATED FORM;" ++
    "SEEN WITH ALEF MAKSURA ISOLATED FORM;SEEN WITH YEH ISOLATED FORM;" ++
    "SHEEN WITH ALEF MAKSURA ISOLATED FORM;SHEEN WITH YEH ISOLATED FORM;" ++
    "HAH WITH ALEF MAKSURA ISOLATED FORM;HAH WITH YEH ISOLATED FORM;" ++
    "JEEM WITH ALEF MAKSURA ISOLATED FORM;JEEM WITH YEH ISOLATED FORM;" ++
    "KHAH WITH ALEF MAKSURA ISOLATED FORM;KHAH WITH YEH ISOLATED FORM;" ++
    "SAD WITH ALEF MAKSURA ISOLATED FORM;SAD WITH YEH ISOLATED FORM;" ++
    "DAD WITH ALEF MAKSURA ISOLATED FORM;DAD WITH YEH ISOLATED FORM;" ++
    "SHEEN WITH JEEM ISOLATED FORM;SHEEN WITH HAH ISOLATED FORM;SHEEN WITH KHAH ISOLATED FORM;" ++
    "SHEEN WITH MEEM ISOLATED FORM;SHEEN WITH REH ISOLATED FORM;SEEN WITH REH ISOLATED FORM;" ++
    "SAD WITH REH ISOLATED FORM;DAD WITH REH ISOLATED FORM;TAH WITH ALEF MAKSURA FINAL FORM;" ++
    "TAH WITH YEH FINAL FORM;AIN WITH ALEF MAKSURA FINAL FORM;AIN WITH YEH FINAL FORM;" ++
    "GHAIN WITH ALEF MAKSURA FINAL FORM;GHAIN WITH YEH FINAL FORM;" ++
    "SEEN WITH ALEF MAKSURA FINAL FORM;SEEN WITH YEH FINAL FORM;" ++
    "SHEEN WITH ALEF MAKSURA FINAL FORM;SHEEN WITH YEH FINAL FORM;" ++
    "HAH WITH ALEF MAKSURA FINAL FORM;HAH WITH YEH FINAL FORM;JEEM WITH ALEF MAKSURA FINAL FORM;" ++
    "JEEM WITH YEH FINAL FORM;KHAH WITH ALEF MAKSURA FINAL FORM;KHAH WITH YEH FINAL FORM;" ++
    "SAD WITH ALEF MAKSURA FINAL FORM;SAD WITH YEH FINAL FORM;DAD WITH ALEF MAKSURA FINAL FORM;" ++
    "DAD WITH YEH FINAL FORM;SHEEN WITH JEEM FINAL FORM;SHEEN WITH HAH FINAL FORM;" ++
    "SHEEN WITH KHAH FINAL FORM;SHEEN WITH MEEM FINAL FORM;SHEEN WITH REH FINAL FORM;" ++
    "SEEN WITH REH FINAL FORM;SAD WITH REH FINAL FORM;DAD WITH REH FINAL FORM;" ++
    "SHEEN WITH JEEM INITIAL FORM;SHEEN WITH HAH INITIAL FORM;SHEEN WITH KHAH INITIAL FORM;" ++
    "SHEEN WITH MEEM INITIAL FORM;SEEN WITH HEH INITIAL FORM;SHEEN WITH HEH INITIAL FORM;" ++
    "TAH WITH MEEM INITIAL FORM;SEEN WITH JEEM MEDIAL FORM;SEEN WITH HAH MEDIAL FORM;" ++
    "SEEN WITH KHAH MEDIAL FORM;SHEEN WITH JEEM MEDIAL FORM;SHEEN WITH HAH MEDIAL FORM;" ++
    "SHEEN WITH KHAH MEDIAL FORM;TAH WITH MEEM MEDIAL FORM;ZAH WITH MEEM MEDIAL FORM;" ++
    "ALEF WITH FATHATAN FINAL FORM;ALEF WITH FATHATAN ISOLATED FORM"⟩,
  ⟨0xFD3E, ["ORNATE LEFT", "ORNATE RIGHT"], "PARENTHESIS"⟩,
  ⟨0xFD40, ["ARABIC LIGATURE"], "RAHIMAHU ALLAAH;RADI ALLAAHU ANH;RADI ALLAAHU ANHAA;" ++
    "RADI ALLAAHU ANHUM;RADI ALLAAHU ANHUMAA;RADI ALLAAHU ANHUNNA;SALLALLAAHU ALAYHI WA-AALIH;" ++
    "ALAYHI AS-SALAAM;ALAYHIM AS-SALAAM;ALAYHIMAA AS-SALAAM;ALAYHI AS-SALAATU WAS-SALAAM;" ++
    "QUDDISA SIRRAH;SALLALLAHU ALAYHI WAAALIHEE WA-SALLAM;ALAYHAA AS-SALAAM;" ++
    "TABAARAKA WA-TAAALAA;RAHIMAHUM ALLAAH"⟩,
  ⟨0xFD50, ["ARABIC LIGATURE TEH WITH"], "JEEM WITH MEEM INITIAL FORM;HAH WITH JEEM FINAL FORM;" ++
    "HAH WITH JEEM INITIAL FORM;HAH WITH MEEM INITIAL FORM;KHAH WITH MEEM INITIAL FORM;" ++
    "MEEM WITH JEEM INITIAL FORM;MEEM WITH HAH INITIAL FORM;MEEM WITH KHAH INITIAL FORM"⟩,
  ⟨0xFD58, ["ARABIC LIGATURE JEEM WITH MEEM WITH HAH"], "FINAL FORM;INITIAL FORM"⟩,
  ⟨0xFD5A, ["ARABIC LIGATURE HAH WITH MEEM WITH"], "YEH FINAL FORM;ALEF MAKSURA FINAL FORM"⟩,
  ⟨0xFD5C, ["ARABIC LIGATURE SEEN WITH"], "HAH WITH JEEM INITIAL FORM;" ++
    "JEEM WITH HAH INITIAL FORM;JEEM WITH ALEF MAKSURA FINAL FORM;MEEM WITH HAH FINAL FORM;" ++
    "MEEM WITH HAH INITIAL FORM;MEEM WITH JEEM INITIAL FORM;MEEM WITH MEEM FINAL FORM;" ++
    "MEEM WITH MEEM INITIAL FORM"⟩,
  ⟨0xFD64, ["ARABIC LIGATURE SAD WITH"], "HAH WITH HAH FINAL FORM;HAH WITH HAH INITIAL FORM;" ++
    "MEEM WITH MEEM FINAL FORM"⟩,
  ⟨0xFD67, ["ARABIC LIGATURE SHEEN WITH"], "HAH WITH MEEM FINAL FORM;HAH WITH MEEM INITIAL FORM;" ++
    "JEEM WITH YEH FINAL FORM;MEEM WITH KHAH FINAL FORM;MEEM WITH KHAH INITIAL FORM;" ++
    "MEEM WITH MEEM FINAL FORM;MEEM WITH MEEM INITIAL FORM"⟩,
  ⟨0xFD6E, ["ARABIC LIGATURE DAD WITH"], "HAH WITH ALEF MAKSURA FINAL FORM;" ++
    "KHAH WITH MEEM FINAL FORM;KHAH WITH MEEM INITIAL FORM"⟩,
  ⟨0xFD71, ["ARABIC LIGATURE TAH WITH MEEM WITH"], "HAH FINAL FORM;HAH INITIAL FORM;" ++
    "MEEM INITIAL FORM;YEH FINAL FORM"⟩,
  ⟨0xFD75, ["ARABIC LIGATURE AIN WITH"], "JEEM WITH MEEM FINAL FORM;MEEM WITH MEEM FINAL FORM;" ++
    "MEEM WITH MEEM INITIAL FORM;MEEM WITH ALEF MAKSURA FINAL FORM"⟩,
  ⟨0xFD79, ["ARABIC LIGATURE GHAIN WITH MEEM WITH"], "MEEM FINAL FORM;YEH FINAL FORM;" ++
    "ALEF MAKSURA FINAL FORM"⟩,
  ⟨0xFD7C, ["ARABIC LIGATURE FEH WITH KHAH WITH MEEM"], "FINAL FORM;INITIAL FORM"⟩,
  ⟨0xFD7E, ["ARABIC LIGATURE QAF WITH MEEM WITH"], "HAH FINAL FORM;MEEM FINAL FORM"⟩,
  ⟨0xFD80, ["ARABIC LIGATURE LAM WITH"], "HAH WITH MEEM FINAL FORM;HAH WITH YEH FINAL FORM;" ++
    "HAH WITH ALEF MAKSURA FINAL FORM;JEEM WITH JEEM INITIAL FORM;JEEM WITH JEEM FINAL FORM;" ++
    "KHAH WITH MEEM FINAL FORM;KHAH WITH MEEM INITIAL FORM;MEEM WITH HAH FINAL FORM;" ++
    "MEEM WITH HAH INITIAL FORM"⟩,
  ⟨0xFD89, ["ARABIC LIGATURE MEEM WITH"], "HAH WITH JEEM INITIAL FORM;" ++
    "HAH WITH MEEM INITIAL FORM;HAH WITH YEH FINAL FORM;JEEM WITH HAH INITIAL FORM;" ++
    "JEEM WITH MEEM INITIAL FORM;KHAH WITH JEEM INITIAL FORM;KHAH WITH MEEM INITIAL FORM"⟩,
  ⟨0xFD92, ["ARABIC LIGATURE"], "MEEM WITH JEEM WITH KHAH INITIAL FORM;" ++
    "HEH WITH MEEM WITH JEEM INITIAL FORM;HEH WITH MEEM WITH MEEM INITIAL FORM;" ++
    "NOON WITH HAH WITH MEEM INITIAL FORM;NOON WITH HAH WITH ALEF MAKSURA FINAL FORM;" ++
    "NOON WITH JEEM WITH MEEM FINAL FORM;NOON WITH JEEM WITH MEEM INITIAL FORM;" ++
    "NOON WITH JEEM WITH ALEF MAKSURA FINAL FORM;NOON WITH MEEM WITH YEH FINAL FORM;" ++
    "NOON WITH MEEM WITH ALEF MAKSURA FINAL FORM;YEH WITH MEEM WITH MEEM FINAL FORM;" ++
    "YEH WITH MEEM WITH MEEM INITIAL FORM;BEH WITH KHAH WITH YEH FINAL FORM;" ++
    "TEH WITH JEEM WITH YEH FINAL FORM;TEH WITH JEEM WITH ALEF MAKSURA FINAL FORM;" ++
    "TEH WITH KHAH WITH YEH FINAL FORM;TEH WITH KHAH WITH ALEF MAKSURA FINAL FORM;" ++
    "TEH WITH MEEM WITH YEH FINAL FORM;TEH WITH MEEM WITH ALEF MAKSURA FINAL FORM;" ++
    "JEEM WITH MEEM WITH YEH FINAL FORM;JEEM WITH HAH WITH ALEF MAKSURA FINAL FORM;" ++
    "JEEM WITH MEEM WITH ALEF MAKSURA FINAL FORM;SEEN WITH KHAH WITH ALEF MAKSURA FINAL FORM;" ++
    "SAD WITH HAH WITH YEH FINAL FORM;SHEEN WITH HAH WITH YEH FINAL FORM;" ++
    "DAD WITH HAH WITH YEH FINAL FORM;LAM WITH JEEM WITH YEH FINAL FORM;" ++
    "LAM WITH MEEM WITH YEH FINAL FORM;YEH WITH HAH WITH YEH FINAL FORM;" ++
    "YEH WITH JEEM WITH YEH FINAL FORM;YEH WITH MEEM WITH YEH FINAL FORM;" ++
    "MEEM WITH MEEM WITH YEH FINAL FORM;QAF WITH MEEM WITH YEH FINAL FORM;" ++
    "NOON WITH HAH WITH YEH FINAL FORM;QAF WITH MEEM WITH HAH INITIAL FORM;" ++
    "LAM WITH HAH WITH MEEM INITIAL FORM;AIN WITH MEEM WITH YEH FINAL FORM;" ++
    "KAF WITH MEEM WITH YEH FINAL FORM;NOON WITH JEEM WITH HAH INITIAL FORM;" ++
    "MEEM WITH KHAH WITH YEH FINAL FORM;LAM WITH JEEM WITH MEEM INITIAL FORM;" ++
    "KAF WITH MEEM WITH MEEM FINAL FORM;LAM WITH JEEM WITH MEEM FINAL FORM;" ++
    "NOON WITH JEEM WITH HAH FINAL FORM;JEEM WITH HAH WITH YEH FINAL FORM;" ++
    "HAH WITH JEEM WITH YEH FINAL FORM;MEEM WITH JEEM WITH YEH FINAL FORM;" ++
    "FEH WITH MEEM WITH YEH FINAL FORM;BEH WITH HAH WITH YEH FINAL FORM;" ++
    "KAF WITH MEEM WITH MEEM INITIAL FORM;AIN WITH JEEM WITH MEEM INITIAL FORM;" ++
    "SAD WITH MEEM WITH MEEM INITIAL FORM;SEEN WITH KHAH WITH YEH FINAL FORM;" ++
    "NOON WITH JEEM WITH YEH FINAL FORM"⟩, ⟨0xFDCF, ["ARABIC LIGATURE SALAAMUHU"], "ALAYNAA"⟩,
  ⟨0xFDF0, ["ARABIC LIGATURE"], "SALLA USED AS KORANIC STOP SIGN ISOLATED FORM;" ++
    "QALA USED AS KORANIC STOP SIGN ISOLATED FORM;ALLAH ISOLATED FORM;AKBAR ISOLATED FORM;" ++
    "MOHAMMAD ISOLATED FORM;SALAM ISOLATED FORM;RASOUL ISOLATED FORM;ALAYHE ISOLATED FORM;" ++
    "WASALLAM ISOLATED FORM;SALLA ISOLATED FORM;SALLALLAHOU ALAYHE WASALLAM;JALLAJALALOUHOU"⟩,
  ⟨0xFDFC, ["RIAL"], "SIGN"⟩,
  ⟨0xFDFD, ["ARABIC LIGATURE"], "BISMILLAH AR-RAHMAN AR-RAHEEM;SUBHAANAHU WA TAAALAA;AZZA WA JALL"⟩,
  ⟨0xFE10, ["PRESENTATION FORM FOR VERTICAL"], "COMMA;IDEOGRAPHIC COMMA;IDEOGRAPHIC FULL STOP;" ++
    "COLON;SEMICOLON;EXCLAMATION MARK;QUESTION MARK;LEFT WHITE LENTICULAR BRACKET;" ++
    "RIGHT WHITE LENTICULAR BRAKCET;HORIZONTAL ELLIPSIS"⟩,
  ⟨0xFE20, ["COMBINING"], "LIGATURE LEFT HALF;LIGATURE RIGHT HALF;DOUBLE TILDE LEFT HALF;" ++
    "DOUBLE TILDE RIGHT HALF;MACRON LEFT HALF;MACRON RIGHT HALF;CONJOINING MACRON;" ++
    "LIGATURE LEFT HALF BELOW;LIGATURE RIGHT HALF BELOW;TILDE LEFT HALF BELOW;" ++
    "TILDE RIGHT HALF BELOW;MACRON LEFT HALF BELOW;MACRON RIGHT HALF BELOW;" ++
    "CONJOINING MACRON BELOW;CYRILLIC TITLO LEFT HALF;CYRILLIC TITLO RIGHT HALF"⟩,
  ⟨0xFE70, ["ARABIC"], "FATHATAN ISOLATED FORM;TATWEEL WITH FATHATAN ABOVE;" ++
    "DAMMATAN ISOLATED FORM;TAIL FRAGMENT;KASRATAN ISOLATED FORM"⟩,
  ⟨0xFE76, ["ARABIC"], "FATHA ISOLATED FORM;FATHA MEDIAL FORM;DAMMA ISOLATED FORM;" ++
    "DAMMA MEDIAL FORM;KASRA ISOLATED FORM;KASRA MEDIAL FORM;SHADDA ISOLATED FORM;" ++
    "SHADDA MEDIAL FORM;SUKUN ISOLATED FORM;SUKUN MEDIAL FORM;LETTER HAMZA ISOLATED FORM"⟩,
  ⟨0xFE81, ["ARABIC LETTER ALEF WITH"], "MADDA ABOVE ISOLATED FORM;MADDA ABOVE FINAL FORM;" ++
    "HAMZA ABOVE ISOLATED FORM;HAMZA ABOVE FINAL FORM"⟩,
  ⟨0xFE85, ["ARABIC LETTER WAW WITH HAMZA ABOVE"], "ISOLATED FORM;FINAL FORM"⟩,
  ⟨0xFE87, ["ARABIC LETTER ALEF WITH HAMZA BELOW"], "ISOLATED FORM;FINAL FORM"⟩,
  ⟨0xFE89, ["ARABIC LETTER YEH WITH HAMZA ABOVE"], "ISOLATED FORM;FINAL FORM;INITIAL FORM;" ++
    "MEDIAL FORM"⟩,
  ⟨0xFE8D, ["ARABIC LETTER"], "ALEF ISOLATED FORM;ALEF FINAL FORM;BEH ISOLATED FORM;" ++
    "BEH FINAL FORM;BEH INITIAL FORM;BEH MEDIAL FORM;TEH MARBUTA ISOLATED FORM;" ++
    "TEH MARBUTA FINAL FORM;TEH ISOLATED FORM;TEH FINAL FORM;TEH INITIAL FORM;TEH MEDIAL FORM;" ++
    "THEH ISOLATED FORM;THEH FINAL FORM;THEH INITIAL FORM;THEH MEDIAL FORM;JEEM ISOLATED FORM;" ++
    "JEEM FINAL FORM;JEEM INITIAL FORM;JEEM MEDIAL FORM;HAH ISOLATED FORM;HAH FINAL FORM;" ++
    "HAH INITIAL FORM;HAH MEDIAL FORM;KHAH ISOLATED FORM;KHAH FINAL FORM;KHAH INITIAL FORM;" ++
    "KHAH MEDIAL FORM;DAL ISOLATED FORM;DAL FINAL FORM;THAL ISOLATED FORM;THAL FINAL FORM;" ++
    "REH ISOLATED FORM;REH FINAL FORM;ZAIN ISOLATED FORM;ZAIN FINAL FORM;SEEN ISOLATED FORM;" ++
    "SEEN FINAL FORM;SEEN INITIAL FORM;SEEN MEDIAL FORM;SHEEN ISOLATED FORM;SHEEN FINAL FORM;" ++
    "SHEEN INITIAL FORM;SHEEN MEDIAL FORM;SAD ISOLATED FORM;SAD FINAL FORM;SAD INITIAL FORM;" ++
    "SAD MEDIAL FORM;DAD ISOLATED FORM;DAD FINAL FORM;DAD INITIAL FORM;DAD MEDIAL FORM;" ++
    "TAH ISOLATED FORM;TAH FINAL FORM;TAH INITIAL FORM;TAH MEDIAL FORM;ZAH ISOLATED FORM;" ++
    "ZAH FINAL FORM;ZAH INITIAL FORM;ZAH MEDIAL FORM;AIN ISOLATED FORM;AIN FINAL FORM;" ++
    "AIN INITIAL FORM;AIN MEDIAL FORM;GHAIN ISOLATED FORM;GHAIN FINAL FORM;GHAIN INITIAL FORM;" ++
    "GHAIN MEDIAL FORM;FEH ISOLATED FORM;FEH FINAL FORM;FEH INITIAL FORM;FEH MEDIAL FORM;" ++
    "QAF ISOLATED FORM;QAF FINAL FORM;QAF INITIAL FORM;QAF MEDIAL FORM;KAF ISOLATED FORM;" ++
    "KAF FINAL FORM;KAF INITIAL FORM;KAF MEDIAL FORM;LAM ISOLATED FORM;LAM FINAL FORM;" ++
    "LAM INITIAL FORM;LAM MEDIAL FORM;MEEM ISOLATED FORM;MEEM FINAL FORM;MEEM INITIAL FORM;" ++
    "MEEM MEDIAL FORM;NOON ISOLATED FORM;NOON FINAL FORM;NOON INITIAL FORM;NOON MEDIAL FORM;" ++
    "HEH ISOLATED FORM;HEH FINAL FORM;HEH INITIAL FORM;HEH MEDIAL FORM;WAW ISOLATED FORM;" ++
    "WAW FINAL FORM;ALEF MAKSURA ISOLATED FORM;ALEF MAKSURA FINAL FORM;YEH ISOLATED FORM;" ++
    "YEH FINAL FORM;YEH INITIAL FORM;YEH MEDIAL FORM"⟩,
  ⟨0xFEF5, ["ARABIC LIGATURE LAM WITH ALEF"], "WITH MADDA ABOVE ISOLATED FORM;" ++
    "WITH MADDA ABOVE FINAL FORM;WITH HAMZA ABOVE ISOLATED FORM;WITH HAMZA ABOVE FINAL FORM;" ++
    "WITH HAMZA BELOW ISOLATED FORM;WITH HAMZA BELOW FINAL FORM;ISOLATED FORM;FINAL FORM"⟩,
  ⟨0xFEFF, ["ZERO WIDTH NO-BREAK"], "SPACE"⟩]

end EntityForge.NameRun
