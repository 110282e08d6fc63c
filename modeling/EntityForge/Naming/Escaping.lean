import EntityForge.Naming.Identifier
import EntityForge.Text.Lower
import EntityForge.Value.Shown

/-! # Escaping of reserved words

A naming rule knows the reserved words of a language and how a name that is one of them is
escaped: by a mark in front or behind. A name may already carry the front mark; it is then judged
by what follows.
-/

namespace EntityForge

/-- The reserved words of a language and the marks that escape them. With case ignored, the
words are kept in lower case. -/
structure NamingRule where
  reserved : List Text
  front : Text
  back : Text
  caseSensitive : Bool
  deriving DecidableEq, Repr

namespace NamingRule

/-- The form of a name in which it is compared with the reserved words. -/
def keyFor (caseSensitive : Bool) (name : Text) : Text :=
  if caseSensitive then name else name.lower

/-- The rule for a list of reserved words. A front mark makes the back mark superfluous. -/
def make (words : List Text) (front back : Text) (caseSensitive : Bool) : NamingRule where
  reserved := words.map (keyFor caseSensitive)
  front := front
  back := if front.isEmpty then back else []
  caseSensitive := caseSensitive

/-- The form of a name in which this rule compares it. -/
def key (rule : NamingRule) (name : Text) : Text := keyFor rule.caseSensitive name

/-- The name without the front mark, if it carries one. -/
def unmarked (rule : NamingRule) (name : Text) : Text :=
  if !rule.front.isEmpty && name.startsWith rule.front then name.drop rule.front.length else name

/-- Is the name an identifier, apart from a front mark? -/
def isValid (rule : NamingRule) (name : Text) : Bool := (rule.unmarked name).isIdentifier

/-- Is the name a reserved word? -/
def isReserved (rule : NamingRule) (name : Text) : Bool := rule.reserved.contains (rule.key name)

/-- The name, escaped if it is a reserved word. -/
def escape (rule : NamingRule) (name : Text) : Text :=
  if rule.isReserved name then rule.front ++ name ++ rule.back else name

/-- The name as it is emitted when reserved words are escaped, or when they are not. -/
def emit (rule : NamingRule) (escaping : Bool) (name : Text) : Text :=
  if escaping then rule.escape name else name

/-- Is a value a text that can be used as an identifier? -/
def accepts (rule : NamingRule) : Value → Bool
  | .string name => rule.isValid name
  | _ => false

/-- The complaint about a value that cannot be used as a name of that kind, if it cannot. -/
def complaint? (rule : NamingRule) (value : Value) (kind : Text) : Option Text :=
  if rule.accepts value then none
  else some (text "Invalid " ++ kind ++ text " name: " ++ value.shown)

end NamingRule

/-- A naming rule together with the names that it has emitted so far. -/
structure NameMemo where
  rule : NamingRule
  known : Entries Text := []

namespace NameMemo

/-- The emitted form of a name: the remembered one, or else a new one, which is remembered.
Without escaping nothing is looked up and nothing is remembered. -/
def emit (memo : NameMemo) (escaping : Bool) (name : Text) : Text × NameMemo :=
  if !escaping then (name, memo)
  else
    match memo.known.lookup? name with
    | some emitted => (emitted, memo)
    | none =>
        let emitted := memo.rule.escape name
        (emitted, { memo with known := memo.known.put name emitted })

end NameMemo

end EntityForge
