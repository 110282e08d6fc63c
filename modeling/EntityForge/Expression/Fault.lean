import EntityForge.Json.Fault
import EntityForge.Text.Escape
import EntityForge.Text.Printable

/-! # Faults of expressions

Everything that can be wrong with the spelling of an expression, by its cause, and the words of a
message about it.
-/

namespace EntityForge.Expression

/-- The kinds of numerals. -/
inductive NumeralKind
  | decimal
  | hexadecimal
  | octal
  | binary
  | imaginary
  deriving DecidableEq, Repr

/-- The name of a kind of numerals. -/
def NumeralKind.name : NumeralKind → Text
  | .decimal => text "decimal"
  | .hexadecimal => text "hexadecimal"
  | .octal => text "octal"
  | .binary => text "binary"
  | .imaginary => text "imaginary"

/-- What is wrong with the tokens of an expression. -/
inductive TokenFault
  | unclosed (bracket : Char)
  | unmatched (bracket : Char)
  | mismatched (closing opening : Char) (openedOn : Option Nat)
  | tooManyBrackets
  | openText (line : Nat)
  | openLongText (line : Nat)
  | numeral (kind : NumeralKind)
  | digit (digit : Char) (kind : NumeralKind)
  | leadingZeros
  | letter (p : CodePoint)
  | unprintable (p : CodePoint)
  | continuation
  | unexpectedEnd
  | outdent
  | unevenIndent
  deriving DecidableEq, Repr

/-- What is wrong with a text literal. -/
inductive TextFault
  | longNumeral (digits : Nat)
  | mixed
  | nonAscii
  | escape (fault : Escape.Fault)
  | byteEscape (place : Nat)
  deriving DecidableEq, Repr

/-- What is wrong with a replacement field of a text literal. -/
inductive FieldFault
  | singleBrace
  | tooDeep
  | backslash
  | comment
  | tooManyBrackets
  | unmatched (bracket : Char)
  | mismatched (closing opening : Char)
  | openText
  | nothingBefore (sign : Char)
  | empty
  | conversion
  | unclosed
  deriving DecidableEq, Repr

/-- What is wrong with the order of the tokens. -/
inductive OrderFault
  | unreadable
  | indent
  | outdent
  | forgottenComma
  | noAlternative
  | statement (name : Text)
  | namedBy (what : Text)
  | comparisonMeant
  | assignedHere (what : Text)
  | assigned (what : Text)
  | spreadAfterMapping
  | bareGenerator
  | positionalAfterNamed
  | positionalAfterMapping
  | assignedArgument
  | spreadInComprehension
  | bareTargets
  | mappingInComprehension
  | spreadHere
  | mappingHere
  | spreadValue
  | noValue
  | noColon
  | noDefault
  | parameterOrder
  | bracketedParameters
  | slashFirst
  | slashTwice
  | slashAfterStar
  | noCommaBeforeStar
  | bareStar
  | starDefault
  | starTwice
  | mappingDefault
  | afterMapping
  deriving DecidableEq, Repr

/-- What is wrong with the spelling of an expression. Unless it is wrong with its tokens, it matters
whether the expression stands in a replacement field. -/
inductive Fault
  | token (fault : TokenFault)
  | text (inField : Bool) (fault : TextFault)
  | field (inField : Bool) (fault : FieldFault)
  | order (inField : Bool) (fault : OrderFault)
  deriving DecidableEq, Repr

/-- A code point by its number. -/
def codeName (p : CodePoint) : Text :=
  EntityForge.text "U+" ++ (Text.ofNatHex 4 p.toNat).map fun q =>
    if 0x61 ≤ q.toNat then .ofNat (q.toNat - 0x20) else q

/-- The fault in the words of a message. -/
def TokenFault.message : TokenFault → Text
  | .unclosed bracket => text "'" ++ .char bracket :: text "' was never closed"
  | .unmatched bracket => text "unmatched '" ++ [.char bracket] ++ text "'"
  | .mismatched closing opening openedOn =>
      text "closing parenthesis '" ++ .char closing ::
        text "' does not match opening parenthesis '" ++ .char opening :: text "'" ++
        (match openedOn with
        | none => []
        | some line => text " on line " ++ Text.ofNat line)
  | .tooManyBrackets => text "too many nested parentheses"
  | .openText line =>
      text "unterminated string literal (detected at line " ++ Text.ofNat line ++ text ")"
  | .openLongText line =>
      text "unterminated triple-quoted string literal (detected at line " ++ Text.ofNat line ++
        text ")"
  | .numeral kind => text "invalid " ++ kind.name ++ text " literal"
  | .digit found kind =>
      text "invalid digit '" ++ .char found :: text "' in " ++ kind.name ++ text " literal"
  | .leadingZeros =>
      text "leading zeros in decimal integer literals are not permitted; " ++
        text "use an 0o prefix for octal integers"
  | .letter p => text "invalid character '" ++ p :: text "' (" ++ codeName p ++ text ")"
  | .unprintable p => text "invalid non-printable character " ++ codeName p
  | .continuation => text "unexpected character after line continuation character"
  | .unexpectedEnd => text "unexpected EOF while parsing"
  | .outdent => text "unindent does not match any outer indentation level"
  | .unevenIndent => text "inconsistent use of tabs and spaces in indentation"

/-- The fault in the words of a message. -/
def TextFault.message : TextFault → Text
  | .longNumeral digits =>
      Json.longIntegerMessage digits ++
        text (" - Consider hexadecimal for huge integer literals " ++
          "to avoid decimal conversion limits.")
  | .mixed => text "cannot mix bytes and nonbytes literals"
  | .nonAscii => text "bytes can only contain ASCII literal characters"
  | .escape fault => text "(unicode error) " ++ fault.message
  | .byteEscape place =>
      text "(value error) invalid \\x escape at position " ++ Text.ofNat place

/-- The fault in the words of a message. -/
def FieldFault.message : FieldFault → Text
  | .singleBrace => text "f-string: single '\x7d' is not allowed"
  | .tooDeep => text "f-string: expressions nested too deeply"
  | .backslash => text "f-string expression part cannot include a backslash"
  | .comment => text "f-string expression part cannot include '#'"
  | .tooManyBrackets => text "f-string: too many nested parenthesis"
  | .unmatched bracket => text "f-string: unmatched '" ++ [.char bracket] ++ text "'"
  | .mismatched closing opening =>
      text "f-string: closing parenthesis '" ++ .char closing ::
        text "' does not match opening parenthesis '" ++ [.char opening] ++ text "'"
  | .openText => text "f-string: unterminated string"
  | .nothingBefore sign =>
      text "f-string: expression required before '" ++ [.char sign] ++ text "'"
  | .empty => text "f-string: empty expression not allowed"
  | .conversion => text "f-string: invalid conversion character: expected 's', 'r', or 'a'"
  | .unclosed => text "f-string: expecting '\x7d'"

/-- The fault in the words of a message. -/
def OrderFault.message : OrderFault → Text
  | .unreadable => text "invalid syntax"
  | .indent => text "unexpected indent"
  | .outdent => text "unexpected unindent"
  | .forgottenComma => text "invalid syntax. Perhaps you forgot a comma?"
  | .noAlternative => text "expected 'else' after 'if' expression"
  | .statement name =>
      text "Missing parentheses in call to '" ++ name ++ text "'. Did you mean " ++ name ++
        text "(...)?"
  | .namedBy what => text "cannot use assignment expressions with " ++ what
  | .comparisonMeant => text "invalid syntax. Maybe you meant '==' or ':=' instead of '='?"
  | .assignedHere what =>
      text "cannot assign to " ++ what ++ text " here. Maybe you meant '==' instead of '='?"
  | .assigned what => text "cannot assign to " ++ what
  | .spreadAfterMapping =>
      text "iterable argument unpacking follows keyword argument unpacking"
  | .bareGenerator => text "Generator expression must be parenthesized"
  | .positionalAfterNamed => text "positional argument follows keyword argument"
  | .positionalAfterMapping => text "positional argument follows keyword argument unpacking"
  | .assignedArgument =>
      text "expression cannot contain assignment, perhaps you meant \"==\"?"
  | .spreadInComprehension => text "iterable unpacking cannot be used in comprehension"
  | .bareTargets => text "did you forget parentheses around the comprehension target?"
  | .mappingInComprehension => text "dict unpacking cannot be used in dict comprehension"
  | .spreadHere => text "cannot use starred expression here"
  | .mappingHere => text "cannot use double starred expression here"
  | .spreadValue => text "cannot use a starred expression in a dictionary value"
  | .noValue => text "expression expected after dictionary key and ':'"
  | .noColon => text "':' expected after dictionary key"
  | .noDefault => text "expected default value expression"
  | .parameterOrder => text "non-default argument follows default argument"
  | .bracketedParameters => text "Lambda expression parameters cannot be parenthesized"
  | .slashFirst => text "at least one argument must precede /"
  | .slashTwice => text "/ may appear only once"
  | .slashAfterStar => text "/ must be ahead of *"
  | .noCommaBeforeStar => text "expected comma between / and *"
  | .bareStar => text "named arguments must follow bare *"
  | .starDefault => text "var-positional argument cannot have default value"
  | .starTwice => text "* argument may appear only once"
  | .mappingDefault => text "var-keyword argument cannot have default value"
  | .afterMapping => text "arguments cannot follow var-keyword argument"

/-- The mark of a message about a replacement field. -/
def fieldMark (inField : Bool) : Text := if inField then text "f-string: " else []

/-- The fault in the words of a message. -/
def Fault.message : Fault → Text
  | .token fault => fault.message
  | .text inField fault => fieldMark inField ++ fault.message
  | .field inField fault => fieldMark inField ++ fault.message
  | .order inField fault => fieldMark inField ++ fault.message

end EntityForge.Expression
