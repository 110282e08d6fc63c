import EntityForge.Naming.Name
import EntityForge.Text.Blank
import EntityForge.Text.Escape

/-! # Pieces of a template source

A template source is text with tags in it: `{{ … }}` prints a value, `{% … %}` is a statement and
`{# … #}` a comment. A statement or comment alone on its line leaves no trace of that line: the
blanks before it and the line feed after it belong to the tag. A minus sign at the edge of a tag
takes away all blanks there, and a plus sign none.

The source is scanned once, code point by code point; the state of the scan says where it is.
-/

namespace EntityForge.Template

/-- A token inside a tag. -/
inductive Token
  | word (t : Text)
  | literal (t : Text)
  | mark (p : CodePoint)
  deriving DecidableEq, Repr

/-- A piece of a source. -/
inductive Piece
  | data (t : Text)
  | print (tokens : List Token)
  | statement (tokens : List Token)
  deriving DecidableEq, Repr

/-- The kind of a tag that holds tokens. -/
inductive TagKind
  | print
  | statement
  deriving DecidableEq, Repr

/-- Where the scan is. What has been read of a piece or token is kept last first.

* `data`: in text between tags; `fresh` if the scan began it, or a tag with a line feed ended
  right before it; `bare` if the blanks that come next are taken away;
* `comment`: inside a comment;
* `tag`: between the tokens of a tag, or in a word of which `word` is read;
* `quoted`: inside a literal of a tag. -/
inductive ScanState
  | data (fresh bare : Bool) (read : Text)
  | comment
  | tag (kind : TagKind) (tokens : List Token) (word : Text)
  | quoted (kind : TagKind) (tokens : List Token) (quote : CodePoint) (read : Text)

/-- The text before a statement or comment, `read` being its code points last first: blanks after
its last line feed, or after a line feed that ended the tag before, are dropped. -/
def dataBeforeTag (fresh : Bool) (read : Text) : Text :=
  let lastLine := read.takeWhile (· ≠ .char '\n')
  let isLine := lastLine.length < read.length || fresh
  if isLine && lastLine.all CodePoint.isBlank then (read.drop lastLine.length).reverse
  else read.reverse

/-- The piece that a tag makes. -/
def TagKind.piece : TagKind → List Token → Piece
  | .print, tokens => .print tokens.reverse
  | .statement, tokens => .statement tokens.reverse

/-- The spelling of a literal with the code points past ASCII spelled as escapes. -/
def asciiSpelling (t : Text) : Text :=
  t.flatMap fun p =>
    if p.toNat < 0x80 then [p]
    else if p.toNat ≤ 0xFF then text "\\x" ++ Text.ofNatHex 2 p.toNat
    else if p.toNat ≤ 0xFFFF then text "\\u" ++ Text.ofNatHex 4 p.toNat
    else text "\\U" ++ Text.ofNatHex 8 p.toNat

/-- Does a code point belong to the word of which its neighbour is a part? -/
def isWordCode (p : CodePoint) : Bool := p.isWord || Name.markRanges.has p.toNat

/-- Does a word go on here? -/
def hasWordCode : Text → Bool
  | [] => false
  | p :: _ => isWordCode p

/-- The text before a tag with a minus sign, `read` being its code points last first. -/
def dataBeforeMinus (read : Text) : Text := (read.dropWhile CodePoint.isBlank).reverse

/-- Scans a source from a state; nothing if a tag or literal is never closed. -/
def scan : ScanState → Text → Option (List Piece)
  | .data _ _ read, [] => some [.data read.reverse]
  | .comment, [] => none
  | .tag _ _ _, [] => none
  | .quoted _ _ _ _, [] => none
  | .data _ _ read, .char '\x7b' :: .char '\x7b' :: .char '-' :: rest =>
      (scan (.tag .print [] []) rest).map (.data (dataBeforeMinus read) :: ·)
  | .data _ _ read, .char '\x7b' :: .char '\x7b' :: .char '+' :: rest =>
      (scan (.tag .print [] []) rest).map (.data read.reverse :: ·)
  | .data _ _ read, .char '\x7b' :: .char '\x7b' :: rest =>
      (scan (.tag .print [] []) rest).map (.data read.reverse :: ·)
  | .data _ _ read, .char '\x7b' :: .char '%' :: .char '-' :: rest =>
      (scan (.tag .statement [] []) rest).map (.data (dataBeforeMinus read) :: ·)
  | .data _ _ read, .char '\x7b' :: .char '%' :: .char '+' :: rest =>
      (scan (.tag .statement [] []) rest).map (.data read.reverse :: ·)
  | .data fresh _ read, .char '\x7b' :: .char '%' :: rest =>
      (scan (.tag .statement [] []) rest).map (.data (dataBeforeTag fresh read) :: ·)
  | .data _ _ read, .char '\x7b' :: .char '#' :: .char '-' :: rest =>
      (scan .comment rest).map (.data (dataBeforeMinus read) :: ·)
  | .data _ _ read, .char '\x7b' :: .char '#' :: .char '+' :: rest =>
      (scan .comment rest).map (.data read.reverse :: ·)
  | .data fresh _ read, .char '\x7b' :: .char '#' :: rest =>
      (scan .comment rest).map (.data (dataBeforeTag fresh read) :: ·)
  | .data fresh bare read, p :: rest =>
      if bare && p.isBlank then scan (.data fresh bare read) rest
      else scan (.data fresh false (p :: read)) rest
  | .comment, .char '+' :: .char '#' :: .char '\x7d' :: rest => scan (.data false false []) rest
  | .comment, .char '-' :: .char '#' :: .char '\x7d' :: rest => scan (.data false true []) rest
  | .comment, .char '#' :: .char '\x7d' :: .char '\n' :: rest => scan (.data true false []) rest
  | .comment, .char '#' :: .char '\x7d' :: rest => scan (.data false false []) rest
  | .comment, _ :: rest => scan .comment rest
  | .tag .print tokens [], .char '-' :: .char '\x7d' :: .char '\x7d' :: rest =>
      (scan (.data false true []) rest).map (TagKind.print.piece tokens :: ·)
  | .tag .print tokens [], .char '\x7d' :: .char '\x7d' :: rest =>
      (scan (.data false false []) rest).map (TagKind.print.piece tokens :: ·)
  | .tag .statement tokens [], .char '+' :: .char '%' :: .char '\x7d' :: rest =>
      (scan (.data false false []) rest).map (TagKind.statement.piece tokens :: ·)
  | .tag .statement tokens [], .char '-' :: .char '%' :: .char '\x7d' :: rest =>
      (scan (.data false true []) rest).map (TagKind.statement.piece tokens :: ·)
  | .tag .statement tokens [], .char '%' :: .char '\x7d' :: .char '\n' :: rest =>
      (scan (.data true false []) rest).map (TagKind.statement.piece tokens :: ·)
  | .tag .statement tokens [], .char '%' :: .char '\x7d' :: rest =>
      (scan (.data false false []) rest).map (TagKind.statement.piece tokens :: ·)
  | .tag kind tokens word, p :: rest =>
      if isWordCode p then
        if hasWordCode rest then scan (.tag kind tokens (p :: word)) rest
        else scan (.tag kind (.word (p :: word).reverse :: tokens) []) rest
      else if p.isBlank then scan (.tag kind tokens []) rest
      else if p = .char '"' || p = .char '\'' then scan (.quoted kind tokens p []) rest
      else scan (.tag kind (.mark p :: tokens) []) rest
  | .quoted kind tokens quote read, .char '\\' :: q :: rest =>
      scan (.quoted kind tokens quote (q :: .char '\\' :: read)) rest
  | .quoted kind tokens quote read, p :: rest =>
      if p = quote then
        match (Escape.decode (asciiSpelling read.reverse)).toOption with
        | none => none
        | some value => scan (.tag kind (.literal value :: tokens) []) rest
      else scan (.quoted kind tokens quote (p :: read)) rest

/-- The pieces of a source, whose newlines are all taken as line feeds. -/
def pieces? (source : Text) : Option (List Piece) :=
  scan (.data true false []) source.unifyNewlines

end EntityForge.Template
