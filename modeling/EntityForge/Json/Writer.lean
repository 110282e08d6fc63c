import EntityForge.Json.Key

/-! # Writing JSON

A value is written over several lines, each level two spaces further in; empty lists and objects
stay on one line. Strings keep every code point that need not be escaped. A document is written
piece by piece: the name of a member is a piece, and so is its value if it is a string, while an
item of a list goes together with what separates it from the item before.
-/

namespace EntityForge.Json

/-- How a code point is spelled inside a string. -/
def escapeCode (p : CodePoint) : Text :=
  if p = .char '"' || p = .char '\\' then [.char '\\', p]
  else if p = .char '\n' then text "\\n"
  else if p = .char '\r' then text "\\r"
  else if p = .char '\t' then text "\\t"
  else if p = .char '\x08' then text "\\b"
  else if p = .char '\x0C' then text "\\f"
  else if p.toNat ≤ 0x1F then text "\\u" ++ Text.ofNatHex 4 p.toNat
  else [p]

/-- A string in quotes. -/
def writeString (t : Text) : Text :=
  .char '"' :: t.flatMap escapeCode ++ [.char '"']

/-- A line feed and the indentation of a level. -/
def newLine (level : Nat) : Text := .char '\n' :: List.replicate (2 * level) (.char ' ')

/-- The pieces of an item of a list with the mark before it, which goes together with a value that
has no parts. -/
def glue (mark : Text) (item : Value) (pieces : List Text) : List Text :=
  match item with
  | .list _ => mark :: pieces
  | .object _ => mark :: pieces
  | _ => [mark ++ pieces.flatten]

mutual

/-- The pieces of a value that begins on a line of that level. -/
def pieces (level : Nat) : Value → List Text
  | .null => [text "null"]
  | .bool true => [text "true"]
  | .bool false => [text "false"]
  | .int n => [Text.ofInt n]
  | .float x => [x.numeral floatLayout]
  | .string t => [writeString t]
  | .list [] => [text "[]"]
  | .list items => itemPieces (level + 1) '[' items ++ [newLine level, text "]"]
  | .object [] => [text "\x7b\x7d"]
  | .object members =>
      memberPieces (level + 1) [text "\x7b", newLine (level + 1)] members ++
        [newLine level, text "\x7d"]

/-- The pieces of the items of a list, given the mark before the first. -/
def itemPieces (level : Nat) (mark : Char) : List Value → List Text
  | [] => []
  | item :: rest =>
      glue (.char mark :: newLine level) item (pieces level item) ++ itemPieces level ',' rest

/-- The pieces of the members of an object, given those before the first. -/
def memberPieces (level : Nat) (before : List Text) : List (Text × Value) → List Text
  | [] => []
  | (name, value) :: rest =>
      before ++ [writeString name, text ": "] ++ pieces level value ++
        memberPieces level [.char ',' :: newLine level] rest

end

/-- The pieces of the members of a document, given those before the first. Their names may be of
any kind. -/
def keyedPieces (before : List Text) : List (Key × Value) → List Text
  | [] => []
  | (key, value) :: rest =>
      before ++ [writeString key.spelled, text ": "] ++ pieces 1 value ++
        keyedPieces [.char ',' :: newLine 1] rest

/-- The pieces of a document that holds these members. -/
def documentPieces : List (Key × Value) → List Text
  | [] => [text "\x7b\x7d"]
  | members => keyedPieces [text "\x7b", newLine 1] members ++ [newLine 0, text "\x7d"]

/-- The text of a document that holds one value. -/
def write (value : Value) : Text := (pieces 0 value).flatten

end EntityForge.Json
