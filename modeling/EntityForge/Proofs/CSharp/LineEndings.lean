import EntityForge.Proofs.CSharp.Page
import EntityForge.Proofs.Later
import EntityForge.Proofs.Layout.NormalForm
import EntityForge.Proofs.Settings.Saving

/-! # Two line endings

Whether lines end in a line feed or in a carriage return and a line feed is asked only when code is
laid out: a generator renders the same sources with either (`generate_eq_map_sources`).  Layout
strips the lines before it joins them, so no carriage return of a source is left before a line feed;
with the longer ending there is one before each, and nothing else changes (`format_returns`).

That two generators render the same takes an engine that answers both alike: both are asked at the
same time, or the engine is forgetful, as it is with the built-in templates.  A template that draws
lots may give them different texts (`generate_not_respelled_drawing`).
-/

namespace EntityForge

namespace Text

/-- The text with a carriage return in front of every line feed. -/
def withReturns (t : Text) : Text :=
  t.flatMap fun p => if p = .char '\n' then text "\r\n" else [p]

/-- A carriage return stands in front of every line feed. -/
def HasReturns (t : Text) : Prop :=
  ∀ front back, t = front ++ .char '\n' :: back → front.getLast? = some (.char '\r')

/-- No carriage return stands in front of a line feed. -/
def HasNoReturns (t : Text) : Prop :=
  ∀ front back, t = front ++ .char '\n' :: back → front.getLast? ≠ some (.char '\r')

theorem withReturns_append (front back : Text) :
    (front ++ back).withReturns = front.withReturns ++ back.withReturns :=
  List.flatMap_append

theorem withReturns_of_notMem {t : Text} (h : CodePoint.char '\n' ∉ t) : t.withReturns = t := by
  induction t with
  | nil => rfl
  | cons p rest ih =>
      have hFirst : p ≠ .char '\n' := (List.ne_of_not_mem_cons h).symm
      rw [withReturns] at ih
      rw [withReturns, List.flatMap_cons, if_neg hFirst, ih (List.not_mem_of_not_mem_cons h)]
      rfl

theorem withReturns_join {ls : List Text} (h : ∀ l ∈ ls, CodePoint.char '\n' ∉ l) :
    (join (text "\n") ls).withReturns = join (text "\r\n") ls := by
  induction ls with
  | nil => rfl
  | cons l rest ih =>
      have hl := withReturns_of_notMem (h l List.mem_cons_self)
      by_cases hRest : rest = []
      · subst hRest
        simpa [join] using hl
      · rw [join_cons _ l hRest, join_cons _ l hRest, withReturns_append, withReturns_append, hl,
          ih fun l hl => h l (List.mem_cons_of_mem _ hl)]
        rfl

theorem hasReturns_withReturns (t : Text) : t.withReturns.HasReturns := by
  induction t with
  | nil =>
      intro front back h
      cases front <;> cases h
  | cons p rest ih =>
      intro front back h
      rw [withReturns, List.flatMap_cons] at h
      by_cases hp : p = .char '\n'
      · -- the line feed that comes first has its return, all others are further behind
        rw [if_pos hp] at h
        rcases front with _ | ⟨q, _ | ⟨r, more⟩⟩
        · cases h
        · cases h
          rfl
        · obtain ⟨-, hMore⟩ := List.cons.inj h
          obtain ⟨-, hBehind⟩ := List.cons.inj hMore
          have hLast := ih more back hBehind
          rw [List.getLast?_cons_cons, List.getLast?_cons, hLast]
          rfl
      · rw [if_neg hp] at h
        cases front with
        | nil => exact absurd (List.cons.inj h).1 hp
        | cons q more =>
            have hLast := ih more back (List.cons.inj h).2
            rw [List.getLast?_cons, hLast]
            rfl

/-- A line ends in no carriage return, which would be a blank. -/
theorem IsLine.getLast?_ne_return {l : Text} (h : l.IsLine) :
    l.getLast? ≠ some (.char '\r') := by
  intro hReturn
  have hBlank := h.no_blank_end _ hReturn
  exact absurd hBlank (by decide)

theorem hasNoReturns_join {ls : List Text} (h : ∀ l ∈ ls, l.IsLine) :
    (join (text "\n") ls).HasNoReturns := by
  induction ls with
  | nil =>
      intro front back hSplit
      cases front <;> cases hSplit
  | cons l rest ih =>
      intro front back hSplit
      have hl := h l List.mem_cons_self
      by_cases hRest : rest = []
      · subst hRest
        have hOne : l = front ++ .char '\n' :: back := by simpa [join] using hSplit
        exact absurd (by simp [hOne]) hl.no_feed
      · have hJoin : l ++ .char '\n' :: join (text "\n") rest = front ++ .char '\n' :: back := by
          rw [← hSplit, join_cons _ l hRest]
          rfl
        by_cases hFront : CodePoint.char '\n' ∈ front
        · -- the line feed is one further behind, and what ends there is in the rest
          obtain ⟨first, more, rfl, hFirst⟩ := List.eq_append_cons_of_mem hFront
          rw [List.append_assoc, List.cons_append] at hJoin
          obtain ⟨-, hMore⟩ := append_cons_cancel hl.no_feed hFirst hJoin
          have hLast := ih (fun l hl => h l (List.mem_cons_of_mem _ hl)) more back hMore
          rw [List.getLast?_append_cons, List.getLast?_cons]
          cases hEnd : more.getLast? with
          | none => simp
          | some p =>
              rw [hEnd] at hLast
              exact hLast
        · obtain ⟨rfl, -⟩ := append_cons_cancel hl.no_feed hFront hJoin
          exact hl.getLast?_ne_return

end Text

namespace Layout

/-- Laid out with the longer ending, code has a carriage return in front of every line feed, and
laid out with the shorter one it has none there. -/
theorem format_returns (code : Text) :
    format (text "\r\n") code = (format (text "\n") code).withReturns ∧
      (format (text "\n") code).HasNoReturns := by
  refine ⟨?_, Text.hasNoReturns_join fun _ => isLine_of_mem_formattedLines⟩
  exact (Text.withReturns_join fun l hl => (isLine_of_mem_formattedLines hl).no_feed).symm

end Layout

namespace CSharp

open Generator

/-! ### What is laid out -/

/-- The artifact with its content laid out. -/
def laidOut (ending : Text) (a : Artifact) : Artifact :=
  { a with content := Layout.format ending a.content }

/-- What is rendered from a schema before it is laid out, under the names of the artifacts. -/
def sources (g : Generator) (schema : Schema) : Except Failure (List Artifact) := do
  let codes ← g.library.renderAll (callsOf g.settings schema)
  return ((g.artifactNames schema).zip codes).map fun (name, code) => ⟨name, code⟩

/-- Generation lays out the sources, and this is all that the line ending is asked for. -/
theorem generate_eq_map_sources (g : Generator) (schema : Schema) :
    g.generate schema =
      (sources g schema).map (List.map (laidOut g.settings.lineEnding)) := by
  rw [Generator.generate, sources]
  cases g.library.renderAll (callsOf g.settings schema) with
  | error failure => rfl
  | ok codes =>
      simp only [Except.map, bind, Except.bind, pure, Except.pure, List.map_map]
      rfl

/-- A generator with another line ending has the same sources. -/
theorem sources_of_lineEnding (g : Generator) (ending : Text) (schema : Schema) :
    sources { g with settings := { g.settings with lineEnding := ending } } schema =
      sources g schema := rfl

/-! ### Settings that differ in the line ending -/

/-- A draft makes a generator as its settings do. -/
theorem make_of_ofDraft {host : Host} {d : Draft} {g : Generator}
    (h : Generator.ofDraft host d = .ok g) :
    d.settings? = .ok g.settings ∧ Generator.make host g.settings = .ok g := by
  obtain ⟨s, hSettings, hMake⟩ := ofDraft_eq_ok_iff.mp h
  obtain ⟨-, -, rfl, -⟩ := make_eq_ok_iff.mp hMake
  exact ⟨hSettings, hMake⟩

/-- The line ending of a draft of settings is a text. -/
theorem lineEnding_of_settings? {d : Draft} {s : Settings} (h : d.settings? = .ok s) :
    d .lineEnding = .string s.lineEnding := by
  obtain ⟨hKinds, rfl⟩ := Settings.settings?_eq_ok_iff.mp h
  exact (congrFun (Settings.toDraft_coerce hKinds) .lineEnding).symm

/-- Drafts that differ in the line ending only are drafts of settings that do. -/
theorem settings_of_respelled {d other : Draft} {s t : Settings}
    (hSame : ∀ setting, setting ≠ .lineEnding → other setting = d setting)
    (hSettings : d.settings? = .ok s) (hOther : other.settings? = .ok t) :
    t = { s with lineEnding := t.lineEnding } := by
  obtain ⟨-, rfl⟩ := Settings.settings?_eq_ok_iff.mp hSettings
  obtain ⟨-, rfl⟩ := Settings.settings?_eq_ok_iff.mp hOther
  simp only [Draft.coerce, hSame, ne_eq, reduceCtorEq, not_false_eq_true]

/-- Generators that are made with settings that differ in the line ending only have the same
sources, if the engine answers the later one as it does the earlier one. -/
theorem sources_of_respelled {host : Host} {g other : Generator} {calls : List Template.Call}
    (hSettings : other.settings = { g.settings with lineEnding := other.settings.lineEnding })
    (hMake : Generator.make host g.settings = .ok g)
    (hOther : Generator.make (host.later calls) other.settings = .ok other)
    (hEngine : g.library.after calls = g.library) (schema : Schema) :
    sources other schema = sources g schema := by
  obtain ⟨-, -, -, hLibrary⟩ := make_eq_ok_iff.mp hMake
  obtain ⟨-, -, -, hOtherLibrary⟩ := make_eq_ok_iff.mp hOther
  have hDirectory : templatePath? other.settings = templatePath? g.settings := by
    rw [hSettings]
    rfl
  rw [hDirectory, Host.renderer_later, hLibrary] at hOtherLibrary
  have hSame : g.library = other.library := hEngine.symm.trans (Except.ok.inj hOtherLibrary)
  have hGenerator : other =
      { g with settings := { g.settings with lineEnding := other.settings.lineEnding } } := by
    rw [← hSettings, hSame]
  rw [hGenerator, sources_of_lineEnding]

/-! ### What is generated -/

/-- What is generated with line feeds, and what with a carriage return in front of each: the same
failure, or artifacts of the same names whose contents differ in the carriage returns only. -/
inductive IsRespelled :
    Except Failure (List Artifact) → Except Failure (List Artifact) → Prop
  | failed (failure : Failure) : IsRespelled (.error failure) (.error failure)
  | generated {feeds returns : List Artifact}
      (hNames : returns.map Artifact.name = feeds.map Artifact.name)
      (hContents : returns.map Artifact.content = feeds.map fun a => a.content.withReturns)
      (hFeeds : ∀ a ∈ feeds, a.content.HasNoReturns)
      (hReturns : ∀ a ∈ returns, a.content.HasReturns) : IsRespelled (.ok feeds) (.ok returns)

theorem isRespelled_laidOut (given : Except Failure (List Artifact)) :
    IsRespelled (given.map (List.map (laidOut (text "\n"))))
      (given.map (List.map (laidOut (text "\r\n")))) := by
  cases given with
  | error failure => exact .failed failure
  | ok artifacts =>
      refine .generated ?_ ?_ ?_ ?_
      · rw [List.map_map, List.map_map]
        rfl
      · rw [List.map_map, List.map_map]
        exact List.map_congr_left fun a _ => (Layout.format_returns a.content).1
      · intro a ha
        obtain ⟨source, -, rfl⟩ := List.mem_map.mp ha
        exact (Layout.format_returns source.content).2
      · intro a ha
        obtain ⟨source, -, rfl⟩ := List.mem_map.mp ha
        rw [laidOut, (Layout.format_returns source.content).1]
        exact Text.hasReturns_withReturns _

/-- Settings for lenient use, with lines that end in a carriage return and a line feed. -/
def lenientSettings : Settings := { strictTypes := false, lineEnding := text "\r\n" }

/-- A schema with a type that is written on two lines, which end in different ways. -/
def foreignSchema : Schema := ⟨[
  ⟨text "Price", text "Prices", [
    { name := text "Net", typeName := text "Money<\r\n  Euro>\n" }]⟩]⟩

/-- These settings, with lines that end in a line feed. -/
def feedSettings : Settings := { lenientSettings with lineEnding := text "\n" }

end CSharp

end EntityForge
