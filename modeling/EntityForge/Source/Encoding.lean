import EntityForge.Charset.CodePage
import EntityForge.Source.Encoding.Escape
import EntityForge.Source.Encoding.Punycode
import EntityForge.Source.Encoding.Shifted
import EntityForge.Source.Encoding.Utf7

/-! # Text encodings

A response says by name how its text is encoded. What is no text becomes U+FFFD; only a few
encodings cannot do without a sound text.
-/

namespace EntityForge

/-- An encoding of texts. -/
inductive Encoding
  | utf8
  | utf8Marked
  | utf7
  | utf16
  | utf16In (order : Encoding.ByteOrder)
  | utf32
  | utf32In (order : Encoding.ByteOrder)
  | ascii
  | latin1
  | page (runs : CharacterRuns)
  | gb2312
  | gbk
  | gb18030
  | hz
  | big5
  | big5Windows
  | big5HongKong
  | shiftJis
  | windows932
  | shiftJis0213 (revision : Encoding.Revision)
  | eucJp
  | eucJis0213 (revision : Encoding.Revision)
  | eucKr
  | unifiedHangul
  | johab
  | calls (known : Encoding.Repertoire)
  | escapes
  | rawEscapes
  | punycode
  | domainName
  | undefined
  deriving DecidableEq, Repr

namespace Encoding

/-- An encoding with its name and its other names. -/
structure Entry where
  encoding : Encoding
  name : String
  aliases : List String
  deriving DecidableEq, Repr

/-- The encodings that are no code pages. -/
def entries : List Entry := [
  ⟨.utf8, "utf_8", ["cp65001", "u8", "utf", "utf8", "utf8_ucs2", "utf8_ucs4"]⟩,
  ⟨.utf8Marked, "utf_8_sig", []⟩,
  ⟨.utf7, "utf_7", ["u7", "unicode_1_1_utf_7", "utf7"]⟩,
  ⟨.utf16, "utf_16", ["u16", "utf16"]⟩,
  ⟨.utf16In .littleEndian, "utf_16_le", ["unicodelittleunmarked", "utf_16le"]⟩,
  ⟨.utf16In .bigEndian, "utf_16_be", ["unicodebigunmarked", "utf_16be"]⟩,
  ⟨.utf32, "utf_32", ["u32", "utf32"]⟩,
  ⟨.utf32In .littleEndian, "utf_32_le", ["utf_32le"]⟩,
  ⟨.utf32In .bigEndian, "utf_32_be", ["utf_32be"]⟩,
  ⟨.ascii, "ascii", ["646", "ansi_x3.4_1968", "ansi_x3.4_1986", "ansi_x3_4_1968", "cp367",
    "csascii", "ibm367", "iso646_us", "iso_646.irv_1991", "iso_ir_6", "us", "us_ascii"]⟩,
  ⟨.latin1, "latin_1", ["8859", "cp819", "csisolatin1", "ibm819", "iso8859", "iso8859_1",
    "iso_8859_1", "iso_8859_1_1987", "iso_ir_100", "l1", "latin", "latin1"]⟩,
  ⟨.latin1, "iso8859_1", []⟩,
  ⟨.latin1, "charmap", []⟩,
  ⟨.gb2312, "gb2312", ["chinese", "csiso58gb231280", "euc_cn", "euccn", "eucgb2312_cn",
    "gb2312_1980", "gb2312_80", "iso_ir_58", "x_mac_simp_chinese"]⟩,
  ⟨.gbk, "gbk", ["936", "cp936", "ms936"]⟩,
  ⟨.gb18030, "gb18030", ["gb18030_2000"]⟩,
  ⟨.hz, "hz", ["hz_gb", "hz_gb_2312", "hzgb"]⟩,
  ⟨.big5, "big5", ["big5_tw", "csbig5", "x_mac_trad_chinese"]⟩,
  ⟨.big5Windows, "cp950", ["950", "ms950"]⟩,
  ⟨.big5HongKong, "big5hkscs", ["big5_hkscs", "hkscs"]⟩,
  ⟨.shiftJis, "shift_jis", ["csshiftjis", "s_jis", "shiftjis", "sjis", "x_mac_japanese"]⟩,
  ⟨.windows932, "cp932", ["932", "ms932", "ms_kanji", "mskanji"]⟩,
  ⟨.shiftJis0213 .first, "shift_jisx0213", ["s_jisx0213", "shiftjisx0213", "sjisx0213"]⟩,
  ⟨.shiftJis0213 .second, "shift_jis_2004", ["s_jis_2004", "shiftjis2004", "sjis_2004"]⟩,
  ⟨.eucJp, "euc_jp", ["eucjp", "u_jis", "ujis"]⟩,
  ⟨.eucJis0213 .first, "euc_jisx0213", ["eucjisx0213"]⟩,
  ⟨.eucJis0213 .second, "euc_jis_2004", ["euc_jis2004", "eucjis2004", "jisx0213"]⟩,
  ⟨.eucKr, "euc_kr", ["euckr", "korean", "ks_c_5601", "ks_c_5601_1987", "ks_x_1001", "ksc5601",
    "ksx1001", "x_mac_korean"]⟩,
  ⟨.unifiedHangul, "cp949", ["949", "ms949", "uhc"]⟩,
  ⟨.johab, "johab", ["cp1361", "ms1361"]⟩,
  ⟨.calls iso2022Jp, "iso2022_jp", ["csiso2022jp", "iso2022jp", "iso_2022_jp"]⟩,
  ⟨.calls iso2022Jp1, "iso2022_jp_1", ["iso2022jp_1", "iso_2022_jp_1"]⟩,
  ⟨.calls iso2022Jp2, "iso2022_jp_2", ["iso2022jp_2", "iso_2022_jp_2"]⟩,
  ⟨.calls (iso2022Jis0213 .first), "iso2022_jp_3", ["iso2022jp_3", "iso_2022_jp_3"]⟩,
  ⟨.calls (iso2022Jis0213 .second), "iso2022_jp_2004", ["iso2022jp_2004", "iso_2022_jp_2004"]⟩,
  ⟨.calls iso2022JpExtended, "iso2022_jp_ext", ["iso2022jp_ext", "iso_2022_jp_ext"]⟩,
  ⟨.calls iso2022Kr, "iso2022_kr", ["csiso2022kr", "iso2022kr", "iso_2022_kr"]⟩,
  ⟨.escapes, "unicode_escape", []⟩,
  ⟨.rawEscapes, "raw_unicode_escape", []⟩,
  ⟨.punycode, "punycode", []⟩,
  ⟨.domainName, "idna", []⟩,
  ⟨.undefined, "undefined", []⟩]

/-- All encodings. -/
def allEntries : List Entry :=
  entries ++ CodePage.all.map fun page => ⟨.page page.runs, page.name, page.aliases⟩

/-- A letter or digit of ASCII in lower case, or a full stop. -/
def nameCode? (p : CodePoint) : Option CodePoint :=
  let n := p.toNat
  if 0x41 ≤ n ∧ n ≤ 0x5A then some (.ofNat (n + 0x20))
  else if (0x61 ≤ n ∧ n ≤ 0x7A) ∨ p.isDigit ∨ p.isChar '.' then some p
  else none

/-- The words of a name in lower case: its runs of letters, digits and full stops. -/
def wordsOf (name : Text) : List Text :=
  let pieces := Text.splitOn '_' (name.map fun p => (nameCode? p).getD (.char '_'))
  pieces.filter fun piece => !piece.isEmpty

/-- The name of an encoding with one low line between its words. -/
def normalName (name : Text) : Text := Text.join (text "_") (wordsOf name)

/-- The encoding with an alias. -/
def ofAlias? (name : Text) : Option Encoding :=
  (allEntries.find? fun entry => entry.aliases.any fun known => name = text known).map
    Entry.encoding

/-- The encoding of that name; names are compared without regard to case and punctuation. A full
stop may stand for a low line in an alias, but not in a name. -/
def ofName? (name : Text) : Option Encoding :=
  let name := normalName name
  let undotted := name.map fun p => if p.isChar '.' then .char '_' else p
  match (ofAlias? name).or (ofAlias? undotted) with
  | some encoding => some encoding
  | none => (allEntries.find? fun entry => name = text entry.name).map Entry.encoding

/-- Why bytes are not decoded. -/
inductive Fault
  | notAscii (byte : UInt8) (offset : Nat)
  | strict
  | undefined
  deriving DecidableEq, Repr

/-- The code point of a byte in ASCII. -/
def asciiCode (b : UInt8) : CodePoint := if b < 0x80 then .ofNat b.toNat else .char '\uFFFD'

/-- The code point of a byte on a code page. -/
def pageCode (runs : CharacterRuns) (b : UInt8) : CodePoint := .ofNat (CodePage.code runs b)

/-- Decodes bytes that are text in full or in part, with U+FFFD in the place of what is no text. -/
def decode : Encoding → Bytes → Except Fault Text
  | .utf8, bytes => .ok (Utf8.decodeLenient bytes)
  | .utf8Marked, bytes =>
      .ok (Utf8.decodeLenient
        (if Utf8.byteOrderMark.isPrefixOf bytes then bytes.drop 3 else bytes))
  | .utf7, bytes => .ok (decodeUtf7 bytes)
  | .utf16, bytes => .ok (decodeUnits bytes)
  | .utf16In order, bytes => .ok (ByteSequence.decodeWith (readUnits order) bytes)
  | .utf32, bytes => .ok (decodeLongUnits bytes)
  | .utf32In order, bytes => .ok (ByteSequence.decodeWith (readLongUnits order) bytes)
  | .ascii, bytes => .ok (bytes.map asciiCode)
  | .latin1, bytes => .ok (bytes.map fun b => .ofNat b.toNat)
  | .page runs, bytes => .ok (bytes.map (pageCode runs))
  | .gb2312, bytes => .ok (ByteSequence.decodeWith readGb2312 bytes)
  | .gbk, bytes => .ok (ByteSequence.decodeWith readGbk bytes)
  | .gb18030, bytes => .ok (ByteSequence.decodeWith readGb18030 bytes)
  | .hz, bytes => .ok (ByteSequence.decodeFrom readHz false bytes)
  | .big5, bytes => .ok (ByteSequence.decodeWith readBig5 bytes)
  | .big5Windows, bytes => .ok (ByteSequence.decodeWith readBig5Windows bytes)
  | .big5HongKong, bytes => .ok (ByteSequence.decodeWith readHkscs bytes)
  | .shiftJis, bytes => .ok (ByteSequence.decodeWith readShiftJis bytes)
  | .windows932, bytes => .ok (ByteSequence.decodeWith readWindows932 bytes)
  | .shiftJis0213 revision, bytes =>
      .ok (ByteSequence.decodeWith (readShiftJis0213 revision) bytes)
  | .eucJp, bytes => .ok (ByteSequence.decodeWith readEucJp bytes)
  | .eucJis0213 revision, bytes => .ok (ByteSequence.decodeWith (readEucJis0213 revision) bytes)
  | .eucKr, bytes => .ok (ByteSequence.decodeWith readEucKr bytes)
  | .unifiedHangul, bytes => .ok (ByteSequence.decodeWith readUnifiedHangul bytes)
  | .johab, bytes => .ok (ByteSequence.decodeWith readJohab bytes)
  | .calls known, bytes => .ok (decodeCalls known bytes)
  | .escapes, bytes => .ok (ByteSequence.decodeWith readEscapes bytes)
  | .rawEscapes, bytes => .ok (ByteSequence.decodeWith readRawEscapes bytes)
  | .punycode, bytes =>
      (Punycode.decode bytes).mapError fun (byte, offset) => .notAscii byte offset
  | .domainName, _ => .error .strict
  | .undefined, _ => .error .undefined

/-- The fault in the words of a message, given the name that the encoding was called by. -/
def Fault.message (name : Text) : Fault → Text
  | .notAscii byte offset =>
      text "'ascii' codec can't decode byte 0x" ++ Text.ofNatHex 2 byte.toNat ++
        text " in position " ++ Text.ofNat offset ++ text ": ordinal not in range(128)"
  | .strict =>
      text "decoding with '" ++ name ++
        text "' codec failed (UnicodeError: Unsupported error handling replace)"
  | .undefined =>
      text "decoding with '" ++ name ++
        text "' codec failed (UnicodeError: undefined encoding)"

end Encoding

end EntityForge
