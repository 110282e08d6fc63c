import EntityForge.Console.Emoji
import EntityForge.Console.Handler
import EntityForge.Console.Style

/-! # Markup of console messages

Tags in brackets set the style of a message and are not shown. A tag begins with a lower-case
letter, a number sign, a slash or an at sign. A backslash before a tag shows the tag as it is; two
backslashes there stand for one, and a backslash before any other opening bracket is dropped. A
closing tag closes the latest open tag of its name, or the latest one if it gives no name. If that
is the tag of an event, its handler is read. What is shown may also name emoji.
-/

namespace EntityForge

/-- A part of a message with markup: shown text, or the text of a tag with the place of its
bracket. -/
inductive MarkupPart
  | shown (t : Text)
  | tag (t : Text) (offset : Nat)
  deriving DecidableEq, Repr

namespace Markup

/-- May a tag begin so? -/
def beginsTag (p : CodePoint) : Bool :=
  0x61 ≤ p.toNat && p.toNat ≤ 0x7A || p.isChar '#' || p.isChar '/' || p.isChar '@'

/-- The rest of a tag up to its closing bracket, and what follows the bracket. -/
def tagRest : Text → Option (Text × Text)
  | [] => none
  | .char ']' :: after => some ([], after)
  | .char '[' :: _ => none
  | p :: rest => (tagRest rest).map fun (tag, after) => (p :: tag, after)

/-- The tag at the head of a text, without its brackets, and what follows it. -/
def tagAt : Text → Option (Text × Text)
  | .char '[' :: p :: rest =>
      if beginsTag p then (tagRest rest).map fun (tag, after) => (p :: tag, after) else none
  | _ => none

theorem length_of_tagRest {t tag after : Text} (h : tagRest t = some (tag, after)) :
    after.length < t.length := by
  induction t generalizing tag with
  | nil => simp [tagRest] at h
  | cons p rest ih =>
      unfold tagRest at h
      split at h
      · simp_all
      · simp only [List.cons.injEq] at *
        simp_all
      · simp at h
      · next q rest' _ _ heq =>
          obtain ⟨rfl, rfl⟩ := List.cons.inj heq
          obtain ⟨⟨tag', after'⟩, hRest, hEq⟩ := Option.map_eq_some_iff.1 h
          cases hEq
          have := ih hRest
          simp only [List.length_cons]
          omega

theorem length_of_tagAt {t tag after : Text} (h : tagAt t = some (tag, after)) :
    after.length < t.length := by
  unfold tagAt at h
  split at h
  · split at h
    · obtain ⟨⟨tag', after'⟩, hRest, hEq⟩ := Option.map_eq_some_iff.1 h
      cases hEq
      have := length_of_tagRest hRest
      simp only [List.length_cons]
      omega
    · simp at h
  · simp at h

theorem length_of_drop {t rest : Text} {p : CodePoint} {count : Nat}
    (h : t.drop count = p :: rest) : rest.length < t.length := by
  have hLength := congrArg List.length h
  simp only [List.length_drop, List.length_cons] at hLength
  omega

/-- A text that is shown, as a part of its own unless it is empty. -/
def shownPart (t : Text) : List MarkupPart := if t.isEmpty then [] else [.shown t]

/-- The parts of a message that begins at that place, given the plain text before it. -/
def partsFrom (offset : Nat) (plain t : Text) : List MarkupPart :=
  let slashes := t.takeWhile (·.isChar '\\')
  let count := slashes.length
  match hRest : t.drop count with
  | [] => shownPart (plain ++ slashes)
  | p :: rest =>
      have := length_of_drop hRest
      match hTag : tagAt (p :: rest) with
      | none =>
          let slashes := if p.isChar '[' then slashes.drop 1 else slashes
          partsFrom (offset + count + 1) (plain ++ slashes ++ [p]) rest
      | some (tag, after) =>
          have := length_of_tagAt hTag
          let start := offset + count
          let backslashes := List.replicate (count / 2) (CodePoint.char '\\')
          let part : MarkupPart :=
            if count % 2 = 1 then .shown (text "[" ++ tag ++ text "]") else .tag tag start
          shownPart plain ++ shownPart backslashes ++
            part :: partsFrom (start + tag.length + 2) [] after
termination_by t.length
decreasing_by
  all_goals simp_all only [List.length_cons]
  all_goals omega

/-- A tag that is open: the normal spelling of its name, and what follows an equals sign, if there
is one. -/
structure OpenTag where
  name : Text
  parameters : Option Text
  deriving DecidableEq, Repr

/-- The name of a tag, and what follows its equals sign, if there is one. -/
def halves (tag : Text) : Text × Option Text :=
  let name := tag.takeWhile (· ≠ .char '=')
  match tag.drop name.length with
  | [] => (name, none)
  | _ :: parameters => (name, some parameters)

/-- The normal spelling of the name of a tag. -/
def normalName (name : Text) : Except Breakdown Text :=
  (Style.normalName name).mapError fun _ => .emptyNumeral

/-- The style that a tag asks for, in full. -/
def OpenTag.style (tag : OpenTag) : Text :=
  match tag.parameters with
  | none => tag.name
  | some parameters => tag.name ++ .char ' ' :: parameters

/-- The styles that a closed tag asks for: none if it names an event, whose handler has to be right.
-/
def OpenTag.styles (tag : OpenTag) : Except Breakdown (List Text) :=
  if Handler.isEvent tag.name then
    match tag.parameters.bind Handler.fault? with
    | some fault => .error fault
    | none => .ok []
  else .ok [tag.style]

/-- The latest open tag of a name, and the others. -/
def close? (name : Text) : List OpenTag → Option (OpenTag × List OpenTag)
  | [] => none
  | tag :: opened =>
      if tag.name = name then some (tag, opened)
      else (close? name opened).map fun (found, opened) => (found, tag :: opened)

/-- The tag that a closing tag closes, and the others that are open. -/
def closed (tag name : Text) (offset : Nat) (opened : List OpenTag) :
    Except Breakdown (OpenTag × List OpenTag) :=
  match name.strip, opened with
  | [], [] => .error (.nothingToClose offset)
  | [], latest :: opened => .ok (latest, opened)
  | name, opened => do
      match close? (← normalName name) opened with
      | none => .error (.strayClosingTag (text "[" ++ tag ++ text "]") offset)
      | some found => .ok found

/-- The shown text of the parts of a message and the styles that it asks for, given the tags that
are open, latest first. -/
def shownParts (opened : List OpenTag) : List MarkupPart → Except Breakdown (Text × List Text)
  | [] => .ok ([], opened.map OpenTag.style)
  | .shown t :: parts => do
      let (shown, styles) ← shownParts opened parts
      return (Emoji.spellOut t ++ shown, styles)
  | .tag tag offset :: parts => do
      match halves tag with
      | (.char '/' :: name, _) =>
          let (closed, opened) ← closed tag name offset opened
          let asked ← closed.styles
          let (shown, styles) ← shownParts opened parts
          return (shown, asked ++ styles)
      | (name, parameters) =>
          let name ← normalName name
          shownParts (⟨name, parameters⟩ :: opened) parts

/-- The shown text of a message. All styles that it asks for have to be readable, though they need
not exist. -/
def shown (message : Text) : Except Breakdown Text := do
  let (shown, styles) ← shownParts [] (partsFrom 0 [] message)
  if styles.any fun style => Style.ofText style matches .error .emptyComponent then
    .error .emptyNumeral
  else return shown

end Markup

end EntityForge
