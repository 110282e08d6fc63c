import EntityForge.Proofs.Layout.LaidOut
import Mathlib.Data.List.TakeWhile
import Mathlib.Data.Option.Basic

/-! # The normal form of laid out code

Layout gives stripped lines, of which no more than two in a row are blank.  The walk over the lines
only knows how long the run of blank lines is that it is in, so it starts afresh behind every line
that is not blank (`limitBlankLines_append`), and each run is shortened by itself
(`limitBlankLines_run`).  A line that is stripped runs into no line ending, so that laid out code
can be taken apart again (`splitBy_join`): its lines are the shortened ones, and layout leaves them
alone the next time (`format_normal_form`).
-/

namespace EntityForge.Text

/-! ### Taking a text apart at a text -/

/-- The pieces of a text between the occurrences of `sep`, found from left to right.  The first
`skip` code points belong to an occurrence that has been found. -/
def splitFrom (sep : Text) : Nat → Text → List Text
  | _, [] => [[]]
  | skip + 1, _ :: rest => splitFrom sep skip rest
  | 0, p :: rest =>
      if sep.isPrefixOf (p :: rest) then [] :: splitFrom sep (sep.length - 1) rest
      else
        match splitFrom sep 0 rest with
        | [] => [[p]]
        | piece :: pieces => (p :: piece) :: pieces

/-- The pieces of a text between the occurrences of `sep`, found from left to right. -/
def splitBy (sep t : Text) : List Text := splitFrom sep 0 t

theorem splitFrom_eq_drop (sep : Text) (skip : Nat) (t : Text) :
    splitFrom sep skip t = splitBy sep (t.drop skip) := by
  induction t generalizing skip with
  | nil => cases skip <;> rfl
  | cons p rest ih =>
      cases skip with
      | zero => rfl
      | succ skip => exact ih skip

theorem splitBy_sep_append {sep : Text} (hSep : sep ≠ []) (rest : Text) :
    splitBy sep (sep ++ rest) = [] :: splitBy sep rest := by
  obtain ⟨p, more, rfl⟩ := List.exists_cons_of_ne_nil hSep
  have hPrefix : List.isPrefixOf (p :: more) (p :: (more ++ rest)) = true :=
    List.isPrefixOf_iff_prefix.mpr (List.prefix_append (p :: more) rest)
  rw [splitBy, List.cons_append, splitFrom, if_pos hPrefix, splitFrom_eq_drop, List.length_cons,
    Nat.add_sub_cancel, List.drop_left]

theorem splitBy_cons_of_not_start {sep : Text} {p : CodePoint} {rest piece : Text}
    {pieces : List Text} (hSep : ¬ sep <+: p :: rest) (hRest : splitBy sep rest = piece :: pieces) :
    splitBy sep (p :: rest) = (p :: piece) :: pieces := by
  have hPrefix : List.isPrefixOf sep (p :: rest) ≠ true :=
    fun h => hSep (List.isPrefixOf_iff_prefix.mp h)
  rw [splitBy] at hRest
  rw [splitBy, splitFrom, if_neg hPrefix, hRest]

/-- What may stand behind a line: blanks, a line feed among them. -/
structure IsEnding (sep : Text) : Prop where
  feed : CodePoint.char '\n' ∈ sep
  blank : ∀ p ∈ sep, p.isBlank = true

namespace IsEnding

variable {sep : Text}

theorem ne_nil (h : IsEnding sep) : sep ≠ [] := List.ne_nil_of_mem h.feed

/-- A line does not run into the ending behind it. -/
theorem not_start (h : IsEnding sep) {l : Text} (hl : l.IsLine) (hne : l ≠ []) (rest : Text) :
    ¬ sep <+: l ++ rest := by
  intro hPrefix
  rcases List.prefix_or_prefix_of_prefix hPrefix (List.prefix_append l rest) with hIn | hOver
  · exact hl.no_feed (hIn.subset h.feed)
  · have hLast : l.getLast hne ∈ sep := hOver.subset (List.getLast_mem hne)
    have hBlank := hl.no_blank_end (l.getLast hne) (List.getLast?_eq_some_getLast hne)
    rw [h.blank _ hLast] at hBlank
    cases hBlank

end IsEnding

theorem IsLine.of_cons {p : CodePoint} {l : Text} (h : IsLine (p :: l)) : IsLine l := by
  refine ⟨List.not_mem_of_not_mem_cons h.no_feed, fun q hq => ?_⟩
  have hne : l ≠ [] := by
    rintro rfl
    cases hq
  refine h.no_blank_end q ?_
  rw [List.getLast?_cons_of_ne_nil hne]
  exact hq

/-- A line is the first piece of a text that goes on with the ending, or that it is all of. -/
theorem splitBy_line {sep : Text} (h : IsEnding sep) {l : Text} (hl : l.IsLine) :
    splitBy sep l = [l] ∧ ∀ rest, splitBy sep (l ++ (sep ++ rest)) = l :: splitBy sep rest := by
  induction l with
  | nil => exact ⟨rfl, splitBy_sep_append h.ne_nil⟩
  | cons p l ih =>
      obtain ⟨hAlone, hBefore⟩ := ih hl.of_cons
      have hNot := h.not_start hl (List.cons_ne_nil p l)
      refine ⟨splitBy_cons_of_not_start ?_ hAlone, fun rest => ?_⟩
      · simpa using hNot []
      · exact splitBy_cons_of_not_start (hNot _) (hBefore rest)

theorem join_cons (sep l : Text) {ls : List Text} (hne : ls ≠ []) :
    join sep (l :: ls) = l ++ (sep ++ join sep ls) := by
  rw [join, List.intercalate_cons_of_ne_nil hne, List.append_assoc, join]

/-- Lines that are joined by an ending can be taken apart at it. -/
theorem splitBy_join {sep : Text} (h : IsEnding sep) {ls : List Text} (hne : ls ≠ [])
    (hLines : ∀ l ∈ ls, l.IsLine) : splitBy sep (join sep ls) = ls := by
  induction ls with
  | nil => exact absurd rfl hne
  | cons l rest ih =>
      obtain ⟨hAlone, hBefore⟩ := splitBy_line h (hLines l List.mem_cons_self)
      by_cases hRest : rest = []
      · subst hRest
        simpa [join] using hAlone
      · rw [join_cons sep l hRest, hBefore,
          ih hRest fun l hl => hLines l (List.mem_cons_of_mem _ hl)]

theorem lines_append_feed {l : Text} (h : CodePoint.char '\n' ∉ l) (rest : Text) :
    lines (l ++ .char '\n' :: rest) = l :: lines rest := by
  induction l with
  | nil => exact splitOn_cons_self _ rest
  | cons p l ih =>
      obtain ⟨piece, pieces, hRest, hSplit⟩ :=
        splitOn_cons_of_ne (List.ne_of_not_mem_cons h).symm (l ++ .char '\n' :: rest)
      have hTail := ih (List.not_mem_of_not_mem_cons h)
      rw [lines, hRest] at hTail
      cases hTail
      exact hSplit

/-! ### Stripping -/

/-- A line that is stripped is blank only if nothing is on it. -/
theorem IsLine.isBlank_eq_false {l : Text} (h : l.IsLine) (hne : l ≠ []) : l.isBlank = false := by
  refine Bool.eq_false_iff.mpr fun hBlank => hne ?_
  rw [← h.stripRight]
  exact stripRight_eq_nil_iff.mpr hBlank

theorem isLine_stripRight {t : Text} (h : CodePoint.char '\n' ∉ t) : t.stripRight.IsLine where
  no_feed hFeed := by
    rw [stripRight, List.mem_reverse] at hFeed
    exact h (List.mem_reverse.mp ((List.dropWhile_sublist _).subset hFeed))
  no_blank_end := no_blank_end_stripRight t

end EntityForge.Text

namespace EntityForge.Layout

/-! ### Runs of blank lines -/

/-- Behind a line that is not blank the walk starts afresh. -/
theorem limitBlankLines_append {l : Text} (hl : l ≠ []) (blanks : Nat) (front back : List Text) :
    limitBlankLines blanks (front ++ l :: back) =
      limitBlankLines blanks front ++ l :: limitBlankLines 0 back := by
  induction front generalizing blanks with
  | nil => simp [limitBlankLines, hl]
  | cons first rest ih =>
      rw [List.cons_append, limitBlankLines, limitBlankLines]
      split
      · split
        · rw [ih, List.cons_append]
        · exact ih _
      · rw [ih, List.cons_append]

/-- Before a line that is not blank it does not matter how many blank ones there were. -/
theorem limitBlankLines_of_head {ls : List Text} (h : ∀ l ∈ ls.head?, l ≠ []) (blanks : Nat) :
    limitBlankLines blanks ls = limitBlankLines 0 ls := by
  cases ls with
  | nil => rfl
  | cons l rest =>
      have hl : l ≠ [] := h l rfl
      simp [limitBlankLines, hl]

/-- A run of blank lines is filled up to the limit. -/
theorem limitBlankLines_replicate (count blanks : Nat) {back : List Text}
    (h : ∀ l ∈ back.head?, l ≠ []) :
    limitBlankLines blanks (List.replicate count [] ++ back) =
      List.replicate (min count (maxBlankLines - blanks)) [] ++ limitBlankLines 0 back := by
  induction count generalizing blanks with
  | zero => simpa using limitBlankLines_of_head h blanks
  | succ count ih =>
      rw [List.replicate_succ, List.cons_append, limitBlankLines, if_pos List.isEmpty_nil, ih]
      by_cases hRoom : blanks < maxBlankLines
      · have hMin : min (count + 1) (maxBlankLines - blanks) =
            min count (maxBlankLines - (blanks + 1)) + 1 := by omega
        rw [if_pos hRoom, hMin, List.replicate_succ, List.cons_append]
      · have hMin : min (count + 1) (maxBlankLines - blanks) =
            min count (maxBlankLines - (blanks + 1)) := by omega
        rw [if_neg hRoom, hMin]

/-- Between lines that are not blank, or the ends, a run of blank lines is shortened by itself. -/
theorem limitBlankLines_run {front back : List Text} (count : Nat)
    (hFront : ∀ l ∈ front.getLast?, l ≠ []) (hBack : ∀ l ∈ back.head?, l ≠ []) :
    limitBlankLines 0 (front ++ (List.replicate count [] ++ back)) =
      limitBlankLines 0 front ++
        (List.replicate (min count maxBlankLines) [] ++ limitBlankLines 0 back) := by
  rcases List.eq_nil_or_concat front with rfl | ⟨before, l, rfl⟩
  · exact limitBlankLines_replicate count 0 hBack
  · have hl : l ≠ [] := hFront l (by simp)
    rw [List.concat_eq_append, List.append_assoc, List.singleton_append,
      limitBlankLines_append hl, limitBlankLines_append hl, limitBlankLines_replicate count 0 hBack,
      limitBlankLines, List.append_assoc]
    rfl

/-- Only blank lines are dropped. -/
theorem filter_limitBlankLines (blanks : Nat) (ls : List Text) :
    (limitBlankLines blanks ls).filter (· ≠ []) = ls.filter (· ≠ []) := by
  induction ls generalizing blanks with
  | nil => rfl
  | cons l rest ih =>
      rw [limitBlankLines]
      split
      · next hl =>
          rw [List.isEmpty_iff] at hl
          subst hl
          have hSkip : ∀ ls : List Text, (([] : Text) :: ls).filter (· ≠ []) = ls.filter (· ≠ []) :=
            fun ls => List.filter_cons_of_neg (by simp)
          split
          · rw [hSkip, hSkip, ih]
          · rw [hSkip, ih]
      · rw [List.filter_cons, List.filter_cons, ih]

theorem limitBlankLines_sublist (blanks : Nat) (ls : List Text) :
    (limitBlankLines blanks ls).Sublist ls := by
  induction ls generalizing blanks with
  | nil => exact List.Sublist.refl []
  | cons l rest ih =>
      rw [limitBlankLines]
      split
      · split
        · exact (ih _).cons_cons l
        · exact (ih _).cons l
      · exact (ih _).cons_cons l

theorem limitBlankLines_ne_nil {ls : List Text} (h : ls ≠ []) : limitBlankLines 0 ls ≠ [] := by
  obtain ⟨l, rest, rfl⟩ := List.exists_cons_of_ne_nil h
  rw [limitBlankLines]
  split <;> simp [maxBlankLines]

/-- A second walk that has not seen more blank lines than the first finds nothing to drop. -/
theorem limitBlankLines_limitBlankLines {fewer blanks : Nat} (h : fewer ≤ blanks)
    (ls : List Text) :
    limitBlankLines fewer (limitBlankLines blanks ls) = limitBlankLines blanks ls := by
  induction ls generalizing fewer blanks with
  | nil => rfl
  | cons l rest ih =>
      rw [limitBlankLines]
      split
      · next hl =>
          split
          · next hRoom =>
              have hFewer : fewer < maxBlankLines := by omega
              rw [limitBlankLines, if_pos hl, if_pos hFewer, ih (by omega)]
          · exact ih (by omega)
      · next hl => rw [limitBlankLines, if_neg hl, ih (Nat.le_refl 0)]

/-- What comes before a line that is not blank still does. -/
theorem getLast?_limitBlankLines {ls : List Text} (h : ∀ l ∈ ls.getLast?, l ≠ []) :
    ∀ l ∈ (limitBlankLines 0 ls).getLast?, l ≠ [] := by
  rcases List.eq_nil_or_concat ls with rfl | ⟨before, last, rfl⟩
  · simp [limitBlankLines]
  · have hLast : last ≠ [] := h last (by simp)
    rw [List.concat_eq_append, limitBlankLines_append hLast]
    simp [limitBlankLines, hLast]

theorem head?_limitBlankLines {ls : List Text} (h : ∀ l ∈ ls.head?, l ≠ []) :
    ∀ l ∈ (limitBlankLines 0 ls).head?, l ≠ [] := by
  cases ls with
  | nil => simp [limitBlankLines]
  | cons l rest =>
      have hl : l ≠ [] := h l rfl
      simp [limitBlankLines, hl]

/-! ### The lines of laid out code -/

section

variable {ending : Text} {code : Text}

theorem formattedLines_ne_nil (code : Text) : formattedLines code ≠ [] :=
  limitBlankLines_ne_nil (mt List.map_eq_nil_iff.mp (Text.splitOn_ne_nil _ code))

theorem isLine_of_mem_formattedLines {l : Text} (h : l ∈ formattedLines code) : l.IsLine := by
  have hMem : l ∈ code.lines.map Text.stripRight := (limitBlankLines_sublist 0 _).subset h
  obtain ⟨raw, hRaw, rfl⟩ := List.mem_map.mp hMem
  exact Text.isLine_stripRight (Text.notMem_of_mem_splitOn hRaw)

theorem isEnding_of_accepted (h : ending = text "\n" ∨ ending = text "\r\n") :
    Text.IsEnding ending := by
  rcases h with rfl | rfl
  · exact ⟨by decide, by decide⟩
  · exact ⟨by decide, by decide⟩

/-- Laid out code falls into its lines at the line ending. -/
theorem splitBy_format (h : Text.IsEnding ending) (code : Text) :
    Text.splitBy ending (format ending code) = formattedLines code :=
  Text.splitBy_join h (formattedLines_ne_nil code) fun _ => isLine_of_mem_formattedLines

/-- Of lines that are joined by blanks and a line feed, the blanks are stripped again. -/
theorem stripped_lines_join (before : Text) (hFeed : CodePoint.char '\n' ∉ before)
    (hBlank : ∀ p ∈ before, p.isBlank = true) {ls : List Text} (hne : ls ≠ [])
    (hLines : ∀ l ∈ ls, l.IsLine) :
    (Text.join (before ++ text "\n") ls).lines.map Text.stripRight = ls := by
  induction ls with
  | nil => exact absurd rfl hne
  | cons l rest ih =>
      have hl := hLines l List.mem_cons_self
      by_cases hRest : rest = []
      · subst hRest
        have hOne : Text.join (before ++ text "\n") [l] = l := by simp [Text.join]
        rw [hOne, Text.lines, Text.splitOn_of_notMem hl.no_feed, List.map_singleton, hl.stripRight]
      · have hFront : CodePoint.char '\n' ∉ l ++ before := by simp [hl.no_feed, hFeed]
        have hSplit : Text.join (before ++ text "\n") (l :: rest) =
            (l ++ before) ++ .char '\n' :: Text.join (before ++ text "\n") rest := by
          rw [Text.join_cons _ l hRest]
          simp [text]
        rw [hSplit, Text.lines_append_feed hFront, List.map_cons,
          Text.stripRight_append_of_blank hBlank, hl.stripRight,
          ih hRest fun l hl => hLines l (List.mem_cons_of_mem _ hl)]

/-- Layout finds the lines of laid out code as they are. -/
theorem formattedLines_format (h : ending = text "\n" ∨ ending = text "\r\n") (code : Text) :
    formattedLines (format ending code) = formattedLines code := by
  have hStripped : (format ending code).lines.map Text.stripRight = formattedLines code := by
    rcases h with rfl | rfl
    · exact stripped_lines_join [] (by simp) (by simp) (formattedLines_ne_nil code)
        fun _ => isLine_of_mem_formattedLines
    · exact stripped_lines_join (text "\r") (by decide) (by decide) (formattedLines_ne_nil code)
        fun _ => isLine_of_mem_formattedLines
  rw [formattedLines, hStripped, formattedLines,
    limitBlankLines_limitBlankLines (Nat.le_refl 0)]

/-- Lines `run` among others, all of them blank, and no blank line next to them. -/
structure IsBlankRun (front run back : List Text) : Prop where
  blank : ∀ l ∈ run, l.isBlank = true
  before : ∀ l ∈ front.getLast?, l.isBlank = false
  behind : ∀ l ∈ back.head?, l.isBlank = false

/-- What is written on lines: those that are not blank, without the blanks at their ends. -/
def writing (ls : List Text) : List Text := (ls.map Text.stripRight).filter (· ≠ [])

theorem stripRight_ne_nil {l : Text} (h : l.isBlank = false) : l.stripRight ≠ [] := by
  intro hNil
  rw [Text.stripRight_eq_nil_iff.mp hNil] at h
  cases h

/-- A run of blank lines becomes a run of at most two empty ones, between what is before it and what
is behind it. -/
theorem exists_run_of_formattedLines {front run back : List Text}
    (hLines : code.lines = front ++ (run ++ back)) (h : IsBlankRun front run back) :
    ∃ front' back',
      formattedLines code = front' ++ (List.replicate (min run.length 2) [] ++ back') ∧
      IsBlankRun front' (List.replicate (min run.length 2) []) back' ∧
      front'.filter (· ≠ []) = writing front ∧ back'.filter (· ≠ []) = writing back := by
  have hRun : run.map Text.stripRight = List.replicate run.length [] := by
    refine List.eq_replicate_iff.mpr ⟨List.length_map _, fun l hl => ?_⟩
    obtain ⟨raw, hRaw, rfl⟩ := List.mem_map.mp hl
    exact Text.stripRight_eq_nil_iff.mpr (h.blank raw hRaw)
  have hFront : ∀ l ∈ (front.map Text.stripRight).getLast?, l ≠ [] := by
    intro l hl
    rw [List.getLast?_map, Option.mem_map] at hl
    obtain ⟨raw, hRaw, rfl⟩ := hl
    exact stripRight_ne_nil (h.before raw hRaw)
  have hBack : ∀ l ∈ (back.map Text.stripRight).head?, l ≠ [] := by
    intro l hl
    rw [List.head?_map, Option.mem_map] at hl
    obtain ⟨raw, hRaw, rfl⟩ := hl
    exact stripRight_ne_nil (h.behind raw hRaw)
  have hFormatted : formattedLines code =
      limitBlankLines 0 (front.map Text.stripRight) ++
        (List.replicate (min run.length 2) [] ++
          limitBlankLines 0 (back.map Text.stripRight)) := by
    rw [formattedLines, hLines, List.map_append, List.map_append, hRun]
    exact limitBlankLines_run run.length hFront hBack
  have hLine : ∀ l ∈ formattedLines code, l ≠ [] → l.isBlank = false :=
    fun l hl => (isLine_of_mem_formattedLines hl).isBlank_eq_false
  refine ⟨_, _, hFormatted, ⟨?_, ?_, ?_⟩, filter_limitBlankLines 0 _,
    filter_limitBlankLines 0 _⟩
  · intro l hl
    rw [List.eq_of_mem_replicate hl]
    rfl
  · intro l hl
    refine hLine l ?_ (getLast?_limitBlankLines hFront l hl)
    rw [hFormatted]
    exact List.mem_append_left _ (List.mem_of_getLast? hl)
  · intro l hl
    refine hLine l ?_ (head?_limitBlankLines hBack l hl)
    rw [hFormatted]
    exact List.mem_append_right _ (List.mem_append_right _ (List.mem_of_mem_head? hl))

/-- Laid out code, taken apart at its line ending, has lines without a line feed and without blanks
at their ends; what is written on them is what was written on the lines of the code.  Wherever the
code has a run of blank lines, also one of none, there are as many empty lines, but no more than
two.  Laying it out again changes nothing. -/
theorem format_normal_form (h : ending = text "\n" ∨ ending = text "\r\n") (code : Text) :
    (∀ l ∈ Text.splitBy ending (format ending code),
      CodePoint.char '\n' ∉ l ∧ ∀ p ∈ l.getLast?, p.isBlank = false) ∧
    (Text.splitBy ending (format ending code)).filter (· ≠ []) = writing code.lines ∧
    (∀ front run back, code.lines = front ++ (run ++ back) → IsBlankRun front run back →
      ∃ front' back',
        Text.splitBy ending (format ending code) =
          front' ++ (List.replicate (min run.length 2) [] ++ back') ∧
        IsBlankRun front' (List.replicate (min run.length 2) []) back' ∧
        front'.filter (· ≠ []) = writing front ∧ back'.filter (· ≠ []) = writing back) ∧
    format ending (format ending code) = format ending code := by
  rw [splitBy_format (isEnding_of_accepted h)]
  refine ⟨fun l hl => ?_, filter_limitBlankLines 0 _, fun front run back hLines hRun =>
    exists_run_of_formattedLines hLines hRun, ?_⟩
  · have hLine := isLine_of_mem_formattedLines hl
    exact ⟨hLine.no_feed, hLine.no_blank_end⟩
  · rw [format, formattedLines_format h]
    rfl

end

/-- A text with a blank at the end of a line and a run of three blank lines, of which one has a
blank on it. -/
def spacedCode : Text := text "a \n\n \n\nb"

/-- The blank at the end of its first line is gone, and two of the three blank lines are left. -/
theorem format_normal_form_spacedCode :
    IsBlankRun [text "a "] [[], text " ", []] [text "b"] ∧
      spacedCode.lines = [text "a "] ++ ([[], text " ", []] ++ [text "b"]) ∧
      (Text.splitBy (text "\r\n") (format (text "\r\n") spacedCode)).filter (· ≠ []) =
        [text "a", text "b"] ∧
      (∃ front' back',
        Text.splitBy (text "\r\n") (format (text "\r\n") spacedCode) =
          front' ++ ([[], []] ++ back') ∧
        front'.filter (· ≠ []) = [text "a"] ∧ back'.filter (· ≠ []) = [text "b"]) ∧
      format (text "\r\n") (text "a\r\n\r\n\r\nb") = text "a\r\n\r\n\r\nb" := by
  have hRun : IsBlankRun [text "a "] [[], text " ", []] [text "b"] :=
    ⟨by decide, by decide, by decide⟩
  have hLines : spacedCode.lines = [text "a "] ++ ([[], text " ", []] ++ [text "b"]) := by decide
  have hFormat : format (text "\r\n") spacedCode = text "a\r\n\r\n\r\nb" := by decide
  obtain ⟨-, hWriting, hRuns, hAgain⟩ := format_normal_form (.inr rfl) spacedCode
  obtain ⟨front', back', hSplit, -, hFront, hBack⟩ := hRuns _ _ _ hLines hRun
  rw [hFormat] at hAgain
  exact ⟨hRun, hLines, hWriting, ⟨front', back', hSplit, hFront, hBack⟩, hAgain⟩

end EntityForge.Layout
