import EntityForge.Proofs.Naming.Literal

/-! # Where literals end

Code is scanned from left to right.  In a literal a backslash is read together with the mark behind
it, and the first double quote that is not read so ends the literal; what follows is other code
(`scan`).

A literal can be made by replacing one code point after the other in the whole text
(`quote_eq_replaceEach`): backslashes are replaced first, so no replacement touches what an earlier
one has put in.  All together they spell each code point on its own, and the scanner reads one
spelling at a time (`scanBody_escapeCode`).
-/

namespace EntityForge.Literal

/-! ### Replacements -/

/-- The text with a spelling in place of every occurrence of a code point. -/
def replace (p : CodePoint) (spelling t : Text) : Text :=
  t.flatMap fun q => if q = p then spelling else [q]

/-- The text after some replacements, one after the other. -/
def replaceEach (steps : List (CodePoint × Text)) (t : Text) : Text :=
  steps.foldl (fun u step => replace step.1 step.2 u) t

/-- What is replaced in a text that becomes a literal, in this order. -/
def replacements : List (CodePoint × Text) := [
  (.char '\\', text "\\\\"), (.char '"', text "\\\""), (.char '\n', text "\\n"),
  (.char '\r', text "\\r"), (.char '\t', text "\\t")]

theorem replaceEach_append (steps : List (CodePoint × Text)) (s t : Text) :
    replaceEach steps (s ++ t) = replaceEach steps s ++ replaceEach steps t := by
  induction steps generalizing s t with
  | nil => rfl
  | cons step rest ih =>
      rw [replaceEach, List.foldl_cons, replace, List.flatMap_append]
      exact ih _ _

/-- A single code point becomes its spelling, the later replacements leaving it alone. -/
theorem replaceEach_singleton (p : CodePoint) : replaceEach replacements [p] = escapeCode p := by
  rw [escapeCode]
  split_ifs with hBackslash hQuote hFeed hReturn hTab
  · rw [hBackslash]
    rfl
  · rw [hQuote]
    rfl
  · rw [hFeed]
    rfl
  · rw [hReturn]
    rfl
  · rw [hTab]
    rfl
  · simp [replaceEach, replacements, replace, hBackslash, hQuote, hFeed, hReturn, hTab]

theorem replaceEach_eq_flatMap (t : Text) :
    replaceEach replacements t = t.flatMap escapeCode := by
  induction t with
  | nil => rfl
  | cons p rest ih =>
      rw [List.flatMap_cons, ← ih, ← replaceEach_singleton, ← replaceEach_append,
        List.singleton_append]

/-- A literal is made by replacing one code point after the other. -/
theorem quote_eq_replaceEach (t : Text) :
    quote t = .char '"' :: replaceEach replacements t ++ [.char '"'] := by
  rw [quote, replaceEach_eq_flatMap]

-- The order matters: a backslash that stands for a line feed would be replaced once more.
example : replaceEach replacements.reverse (text "\n") = text "\\\\n" := by decide

/-! ### The scanner -/

/-- The marks that may follow a backslash. -/
def marks : List CodePoint := text "\\\"nrt"

/-- Reads the inside of a literal: the text that it spells, and what follows the quote that ends
it. -/
def scanBody : Text → Option (Text × Text)
  | [] => none
  | p :: rest =>
      if p = .char '"' then some ([], rest)
      else if p = .char '\\' then
        match rest with
        | [] => none
        | mark :: after =>
            if mark ∈ marks then
              (scanBody after).map fun found => (meaning mark :: found.1, found.2)
            else none
      else (scanBody rest).map fun found => (p :: found.1, found.2)

/-- Reads a literal at the head of a text: the text that it spells, and what follows it. -/
def scan : Text → Option (Text × Text)
  | [] => none
  | p :: rest => if p = .char '"' then scanBody rest else none

theorem scanBody_quote (t : Text) : scanBody (.char '"' :: t) = some ([], t) := by
  rw [scanBody.eq_def]
  exact if_pos rfl

theorem scanBody_mark {mark : CodePoint} (hMark : mark ∈ marks) (t : Text) :
    scanBody (.char '\\' :: mark :: t) =
      (scanBody t).map fun found => (meaning mark :: found.1, found.2) := by
  rw [scanBody.eq_def]
  simp [hMark]

theorem scanBody_cons {p : CodePoint} (hQuote : p ≠ .char '"') (hBackslash : p ≠ .char '\\')
    (t : Text) : scanBody (p :: t) = (scanBody t).map fun found => (p :: found.1, found.2) := by
  rw [scanBody.eq_def]
  simp [hQuote, hBackslash]

/-- The spelling of one code point is read back, whatever follows. -/
theorem scanBody_escapeCode (p : CodePoint) (t : Text) :
    scanBody (escapeCode p ++ t) = (scanBody t).map fun found => (p :: found.1, found.2) := by
  rw [escapeCode]
  split_ifs with hBackslash hQuote hFeed hReturn hTab
  · rw [hBackslash]
    exact scanBody_mark (by decide) t
  · rw [hQuote]
    exact scanBody_mark (by decide) t
  · rw [hFeed]
    exact scanBody_mark (by decide) t
  · rw [hReturn]
    exact scanBody_mark (by decide) t
  · rw [hTab]
    exact scanBody_mark (by decide) t
  · exact scanBody_cons hQuote hBackslash t

/-- The scanner passes over the spelling of a text and ends at the quote behind it. -/
theorem scanBody_flatMap (s t : Text) :
    scanBody (s.flatMap escapeCode ++ .char '"' :: t) = some (s, t) := by
  induction s with
  | nil => exact scanBody_quote t
  | cons p rest ih =>
      rw [List.flatMap_cons, List.append_assoc, scanBody_escapeCode, ih, Option.map_some]

/-- The literal of a text is the text with its marks and controls replaced one after the other. In
front of any code, the scanner passes over exactly the literal and reads the text, and the literal
holds no line feed, no carriage return and no tab. -/
theorem scan_quote (s t : Text) :
    quote s = .char '"' :: replaceEach replacements s ++ [.char '"'] ∧
      scan (quote s ++ t) = some (s, t) ∧ ∀ p ∈ text "\n\r\t", p ∉ quote s := by
  refine ⟨quote_eq_replaceEach s, ?_, fun p hp => notMem_quote hp s⟩
  have hBody := scanBody_flatMap s t
  rw [quote, List.append_assoc, List.cons_append, List.singleton_append, scan, if_pos rfl, hBody]

end EntityForge.Literal
