import EntityForge.Proofs.Entries
import EntityForge.Proofs.Text.Lower
import EntityForge.Registry
import Mathlib

/-! # Registering over time

A registry is made by one registration after the other, some of which are refused.  What a
registration does is said once (`register_eq_ok_iff`), and two facts follow from it and are carried
through a history: every alias belongs to a registered language and all names are in lower case
(`IsConsistent`), and nothing that is registered goes away (`Grows`).  From these it follows what a
name stands for after any history (`history_consistent`).

A registration checks all aliases before it writes anything.  `perform` does the work in place,
statement by statement, and so could leave a part of it behind when it is refused; `run_perform`
says that it never does.
-/

namespace EntityForge.Registry

/-! ### One registration -/

/-- What is registered: a name with what generates its code and its aliases. -/
structure Registration where
  language : Text
  backend : Option Backend := some .csharp
  aliases : List Text := []
  deriving DecidableEq, Repr

/-- Stops at an alias that cannot be registered for the language. -/
def checkAlias (primary key : Text) : ExceptT RegistryFault (StateM Registry) Unit := do
  match (← get).aliasFault? primary key with
  | some fault => throw fault
  | none => pure ()

/-- Writes an alias of the language. -/
def writeAlias (primary key : Text) : ExceptT RegistryFault (StateM Registry) Unit :=
  modify fun r => { r with aliases := r.aliases.put key primary }

/-- Registers in place: what is written before a fault stays written. -/
def perform (call : Registration) : ExceptT RegistryFault (StateM Registry) Unit := do
  match call.backend with
  | none => throw .notGenerator
  | some backend =>
      let primary := call.language.lower
      let keys := aliasKeys primary call.aliases
      forM keys (checkAlias primary)
      modify fun r => { r with backends := r.backends.put primary backend }
      forM keys (writeAlias primary)

/-- How a registration ends. -/
def outcome (r : Registry) (call : Registration) : Except RegistryFault Unit :=
  ((perform call).run.run r).1

/-- The registry that a registration leaves. -/
def next (r : Registry) (call : Registration) : Registry := ((perform call).run.run r).2

/-- The registry after registrations from an empty one, some of them refused. -/
def after (calls : List Registration) : Registry := calls.foldl next {}

variable {r s : Registry} {call : Registration} {key owner primary x : Text}

/-- Work in two parts: the second goes on from what the first leaves, unless the first stops. -/
theorem run_bind {α β : Type} (first : ExceptT RegistryFault (StateM Registry) α)
    (then_ : α → ExceptT RegistryFault (StateM Registry) β) :
    (first >>= then_).run.run r =
      match first.run.run r with
      | (.ok a, s) => (then_ a).run.run s
      | (.error fault, s) => (.error fault, s) := by
  rw [ExceptT.run_bind, StateT.run_bind]
  rcases first.run.run r with ⟨_ | _, s⟩ <;> rfl

theorem run_checkAlias :
    (checkAlias primary key).run.run r =
      match r.aliasFault? primary key with
      | some fault => (.error fault, r)
      | none => (.ok (), r) := by
  rw [checkAlias, run_bind]
  change (match r.aliasFault? primary key with
    | some fault => throw fault
    | none => pure () : ExceptT RegistryFault (StateM Registry) Unit).run.run r = _
  cases r.aliasFault? primary key <;> rfl

theorem run_checkAliases (keys : List Text) :
    (forM keys (checkAlias primary)).run.run r =
      match keys.findSome? (r.aliasFault? primary) with
      | some fault => (.error fault, r)
      | none => (.ok (), r) := by
  induction keys with
  | nil => rfl
  | cons key rest ih =>
      rw [List.forM_cons, run_bind, run_checkAlias, List.findSome?_cons]
      cases r.aliasFault? primary key with
      | none => exact ih
      | some fault => rfl

theorem run_writeAliases (keys : List Text) :
    (forM keys (writeAlias primary)).run.run r =
      (.ok (),
        { r with aliases := keys.foldl (fun all key => all.put key primary) r.aliases }) := by
  induction keys generalizing r with
  | nil => rfl
  | cons key rest ih => exact ih

/-- Registering in place does what is registered, and a refused registration leaves the registry as
it was. -/
theorem run_perform (r : Registry) (call : Registration) :
    (perform call).run.run r =
      match r.register call.language call.backend call.aliases with
      | .ok s => (.ok (), s)
      | .error fault => (.error fault, r) := by
  cases hBackend : call.backend with
  | none => simp only [perform, hBackend, register]; rfl
  | some backend =>
      simp only [perform, hBackend, register, run_bind, run_checkAliases]
      cases (aliasKeys call.language.lower call.aliases).findSome?
          (r.aliasFault? call.language.lower) with
      | some fault => rfl
      | none => exact run_writeAliases _

theorem outcome_eq (r : Registry) (call : Registration) :
    r.outcome call = (r.register call.language call.backend call.aliases).map fun _ => () := by
  rw [outcome, run_perform]
  cases r.register call.language call.backend call.aliases <;> rfl

theorem next_of_ok (h : r.register call.language call.backend call.aliases = .ok s) :
    r.next call = s := by
  rw [next, run_perform, h]

/-- A refused registration leaves the registry as it was. -/
theorem next_of_error {fault : RegistryFault} (h : r.outcome call = .error fault) :
    r.next call = r := by
  rw [outcome_eq] at h
  rw [next, run_perform]
  cases hRegister : r.register call.language call.backend call.aliases with
  | error _ => rfl
  | ok s => rw [hRegister] at h; cases h

theorem outcome_eq_ok_iff :
    r.outcome call = .ok () ↔
      r.register call.language call.backend call.aliases = .ok (r.next call) := by
  rw [outcome_eq]
  constructor
  · intro h
    cases hRegister : r.register call.language call.backend call.aliases with
    | error fault => rw [hRegister] at h; cases h
    | ok s => rw [next_of_ok hRegister]
  · intro h
    rw [h]
    rfl

/-! ### What is in a registry -/

theorem mem_languages_iff : x ∈ r.languages ↔ x ∈ r.backends.names := by
  rw [languages, sorted, List.mem_mergeSort]

theorem mem_aliasesOf_iff {language : Text} :
    x ∈ r.aliasesOf language ↔ (x, language.lower) ∈ r.aliases := by
  rw [aliasesOf, sorted, List.mem_mergeSort, List.mem_map]
  simp

theorem mem_aliasKeys_iff {aliases : List Text} :
    key ∈ aliasKeys primary aliases ↔ key ≠ primary ∧ ∃ name ∈ aliases, name.lower = key := by
  rw [aliasKeys, List.mem_filter, List.mem_map, decide_eq_true_eq, and_comm]

theorem has_backends_iff : r.backends.has key = true ↔ key ∈ r.languages := by
  rw [mem_languages_iff, ← Entries.isSome_lookup?_iff, Entries.has]

/-- A name stands for the language of that name, and otherwise for the language that it is an alias
of. -/
theorem resolve_eq_ok_iff :
    r.resolve x = .ok owner ↔
      (x.lower ∈ r.languages ∧ owner = x.lower) ∨
        (x.lower ∉ r.languages ∧ r.aliases.lookup? x.lower = some owner) := by
  simp only [resolve, ← has_backends_iff]
  by_cases hLanguage : r.backends.has x.lower = true
  · simp [hLanguage, eq_comm]
  · cases r.aliases.lookup? x.lower <;> simp [hLanguage]

theorem aliasFault?_eq_none_iff :
    r.aliasFault? primary key = none ↔
      key ∉ r.languages ∧ ∀ owner, r.aliases.lookup? key = some owner → owner = primary := by
  rw [aliasFault?, ← has_backends_iff]
  by_cases hLanguage : r.backends.has key = true
  · simp [hLanguage]
  · cases r.aliases.lookup? key <;> simp [hLanguage]

/-- What a registration needs and what it does. -/
theorem register_eq_ok_iff {language : Text} {backend : Option Backend} {aliases : List Text} :
    r.register language backend aliases = .ok s ↔
      ∃ found, backend = some found ∧
        (∀ key ∈ aliasKeys language.lower aliases, r.aliasFault? language.lower key = none) ∧
        s = {
          backends := r.backends.put language.lower found
          aliases := r.aliases.putAll
            ((aliasKeys language.lower aliases).map fun key => (key, language.lower)) } := by
  have hWritten (keys : List Text) (primary : Text) (old : Entries Text) :
      old.putAll (keys.map fun key => (key, primary)) =
        keys.foldl (fun all key => all.put key primary) old := List.foldl_map
  simp only [hWritten]
  cases backend with
  | none => simp [register]
  | some found =>
      simp only [register, Option.some.injEq, exists_eq_left']
      rw [← List.findSome?_eq_none_iff]
      cases (aliasKeys language.lower aliases).findSome? (r.aliasFault? language.lower) with
      | none => simp [eq_comm]
      | some fault => simp

/-! ### One step -/

/-- Everything that is registered stays: languages, and the owners of aliases. -/
structure Grows (r s : Registry) : Prop where
  languages : ∀ name ∈ r.languages, name ∈ s.languages
  aliases : ∀ name owner, r.aliases.lookup? name = some owner → s.aliases.lookup? name = some owner

theorem Grows.refl (r : Registry) : r.Grows r := ⟨fun _ h => h, fun _ _ h => h⟩

theorem Grows.trans {t : Registry} (h : r.Grows s) (g : s.Grows t) : r.Grows t where
  languages name hName := g.languages name (h.languages name hName)
  aliases name owner hOwner := g.aliases name owner (h.aliases name owner hOwner)

/-- Names are in lower case, an alias is there once, and it belongs to a registered language that
has another name. -/
structure IsConsistent (r : Registry) : Prop where
  languages_low : ∀ name ∈ r.languages, name.lower = name
  aliases_low : ∀ name ∈ r.aliases.names, name.lower = name
  aliases_nodup : r.aliases.names.Nodup
  owner_mem : ∀ name owner, r.aliases.lookup? name = some owner → owner ∈ r.languages
  owner_ne : ∀ name owner, r.aliases.lookup? name = some owner → name ≠ owner

section

variable {language : Text} {backend : Option Backend} {aliases : List Text}
  (h : r.register language backend aliases = .ok s)

include h

theorem mem_languages_register_iff : x ∈ s.languages ↔ x = language.lower ∨ x ∈ r.languages := by
  obtain ⟨found, -, -, rfl⟩ := register_eq_ok_iff.mp h
  simp only [← has_backends_iff, Entries.has, Entries.lookup?_put]
  by_cases hName : language.lower = x
  · simp [hName]
  · simp [hName, Ne.symm hName]

theorem lookup?_aliases_register :
    s.aliases.lookup? key =
      if key ∈ aliasKeys language.lower aliases then some language.lower
      else r.aliases.lookup? key := by
  obtain ⟨found, -, -, rfl⟩ := register_eq_ok_iff.mp h
  rw [Entries.lookup?_putAll, Entries.last?_const]
  split <;> rfl

theorem mem_names_aliases_register_iff :
    key ∈ s.aliases.names ↔ key ∈ aliasKeys language.lower aliases ∨ key ∈ r.aliases.names := by
  rw [← Entries.isSome_lookup?_iff, lookup?_aliases_register h, ← Entries.isSome_lookup?_iff]
  split <;> simp [*]

/-- An alias that is there keeps its owner, as another owner would not be registered. -/
theorem grows_register : r.Grows s where
  languages _ hName := (mem_languages_register_iff h).mpr (.inr hName)
  aliases name owner hOwner := by
    obtain ⟨-, -, hFaults, -⟩ := register_eq_ok_iff.mp h
    rw [lookup?_aliases_register h]
    split
    · next hKey => rw [(aliasFault?_eq_none_iff.mp (hFaults name hKey)).2 owner hOwner]
    · exact hOwner

theorem isConsistent_register (hConsistent : r.IsConsistent) : s.IsConsistent where
  languages_low name hName := by
    rcases (mem_languages_register_iff h).mp hName with rfl | hOld
    · exact Text.lower_lower language
    · exact hConsistent.languages_low name hOld
  aliases_low name hName := by
    rcases (mem_names_aliases_register_iff h).mp hName with hKey | hOld
    · obtain ⟨-, given, -, rfl⟩ := mem_aliasKeys_iff.mp hKey
      exact Text.lower_lower given
    · exact hConsistent.aliases_low name hOld
  aliases_nodup := by
    obtain ⟨found, -, -, rfl⟩ := register_eq_ok_iff.mp h
    exact Entries.nodup_names_putAll hConsistent.aliases_nodup _
  owner_mem name owner hOwner := by
    rw [lookup?_aliases_register h] at hOwner
    rw [mem_languages_register_iff h]
    split at hOwner
    · exact .inl (Option.some.inj hOwner).symm
    · exact .inr (hConsistent.owner_mem name owner hOwner)
  owner_ne name owner hOwner := by
    rw [lookup?_aliases_register h] at hOwner
    split at hOwner
    · next hKey => exact Option.some.inj hOwner ▸ (mem_aliasKeys_iff.mp hKey).1
    · exact hConsistent.owner_ne name owner hOwner

end

theorem grows_next (r : Registry) (call : Registration) : r.Grows (r.next call) := by
  cases hOutcome : r.outcome call with
  | ok _ => exact grows_register (outcome_eq_ok_iff.mp hOutcome)
  | error fault => rw [next_of_error hOutcome]; exact .refl r

theorem isConsistent_next (h : r.IsConsistent) (call : Registration) :
    (r.next call).IsConsistent := by
  cases hOutcome : r.outcome call with
  | ok _ => exact isConsistent_register (outcome_eq_ok_iff.mp hOutcome) h
  | error fault => rw [next_of_error hOutcome]; exact h

/-! ### A history -/

variable (calls more : List Registration)

theorem after_concat : after (calls ++ [call]) = (after calls).next call := by
  rw [after, List.foldl_append]
  rfl

theorem isConsistent_empty : ({} : Registry).IsConsistent where
  languages_low _ h := absurd (mem_languages_iff.mp h) List.not_mem_nil
  aliases_low _ h := absurd h List.not_mem_nil
  aliases_nodup := List.nodup_nil
  owner_mem _ _ h := by cases h
  owner_ne _ _ h := by cases h

theorem isConsistent_after : (after calls).IsConsistent := by
  induction calls using List.reverseRecOn with
  | nil => exact isConsistent_empty
  | append_singleton calls call ih => rw [after_concat]; exact isConsistent_next ih call

theorem grows_after : (after calls).Grows (after (calls ++ more)) := by
  induction more using List.reverseRecOn with
  | nil => rw [List.append_nil]; exact .refl _
  | append_singleton more call ih =>
      rw [← List.append_assoc, after_concat]
      exact ih.trans (grows_next _ call)

/-! ### What names stand for -/

/-- A name that stands for a language goes on to stand for one: for the same, unless it is the name
of another by then. -/
theorem resolve_of_grows (h : r.Grows s) (hOwner : r.resolve x = .ok owner) :
    s.resolve x = .ok (if x.lower ∈ s.languages then x.lower else owner) := by
  rw [resolve_eq_ok_iff]
  rcases resolve_eq_ok_iff.mp hOwner with ⟨hLanguage, rfl⟩ | ⟨-, hAlias⟩
  · simp [h.languages _ hLanguage]
  · by_cases hLanguage : x.lower ∈ s.languages
    · simp [hLanguage]
    · simp [hLanguage, h.aliases _ _ hAlias]

theorem mem_languages_of_resolve (h : r.IsConsistent) (hOwner : r.resolve x = .ok owner) :
    owner ∈ r.languages := by
  rcases resolve_eq_ok_iff.mp hOwner with ⟨hLanguage, rfl⟩ | ⟨-, hAlias⟩
  · exact hLanguage
  · exact h.owner_mem _ _ hAlias

/-- A registered language stands for itself. -/
theorem resolve_of_mem_languages (h : r.IsConsistent) (hName : x ∈ r.languages) :
    r.resolve x = .ok x := by
  rw [resolve_eq_ok_iff, h.languages_low x hName]
  exact .inl ⟨hName, rfl⟩

/-- What is registered stands for the language that it is registered for: an alias that is a
language of that name would have been refused. -/
theorem resolve_of_register (h : r.register call.language call.backend call.aliases = .ok s)
    {name : Text} (hName : name ∈ call.language :: call.aliases) :
    s.resolve name = .ok call.language.lower := by
  rw [resolve_eq_ok_iff]
  by_cases hSelf : name.lower = call.language.lower
  · exact .inl ⟨(mem_languages_register_iff h).mpr (.inl hSelf), hSelf.symm⟩
  · -- the name is an alias then, and it is none of the languages, the new one included
    have hKey : name.lower ∈ aliasKeys call.language.lower call.aliases := by
      rcases List.mem_cons.mp hName with rfl | hAlias
      · exact absurd rfl hSelf
      · exact mem_aliasKeys_iff.mpr ⟨hSelf, name, hAlias, rfl⟩
    obtain ⟨-, -, hFaults, -⟩ := register_eq_ok_iff.mp h
    refine .inr ⟨fun hLanguage => ?_, ?_⟩
    · rcases (mem_languages_register_iff h).mp hLanguage with hNew | hOld
      · exact hSelf hNew
      · exact (aliasFault?_eq_none_iff.mp (hFaults _ hKey)).1 hOld
    · rw [lookup?_aliases_register h, if_pos hKey]

/-- The generator of a backend for settings. -/
def generatorOf (host : Host) : Backend → Draft → Except Failure CSharp.Generator
  | .csharp, draft => CSharp.Generator.ofDraft host draft
  | .outline, _ => .error (.breakdown .abstractBackend)

theorem create_of_resolve {backend : Backend} (host : Host) (source : SettingsSource)
    (hOwner : r.resolve x = .ok owner) (hBackend : r.backends.lookup? owner = some backend) :
    r.create host x source =
      (draftOf host.machine owner source).bind (generatorOf host backend) := by
  rw [create, hOwner]
  simp only [Except.mapError, bind, Except.bind]
  cases hDraft : draftOf host.machine owner source with
  | error failure => rfl
  | ok draft =>
      simp only [hBackend]
      cases backend <;> rfl

/-- Two registries that answer every question about names alike. -/
def AnswersLike (r s : Registry) : Prop :=
  (∀ x, r.resolve x = s.resolve x) ∧ r.languages = s.languages ∧
    ∀ language, r.aliasesOf language = s.aliasesOf language

/-- After any history: a registration that is refused changes no answer; a name that stands for a
language goes on to stand for one; it stands for a registered language that stands for itself and
whose backend makes its generators; and a registration that succeeds makes its name and all its
aliases stand for its language. -/
theorem history_consistent :
    (∀ call fault, (after calls).outcome call = .error fault →
      (after (calls ++ [call])).AnswersLike (after calls)) ∧
    (∀ x owner, (after calls).resolve x = .ok owner →
      ∀ more, ∃ owner', (after (calls ++ more)).resolve x = .ok owner') ∧
    (∀ x owner, (after calls).resolve x = .ok owner →
      owner ∈ (after calls).languages ∧ (after calls).resolve owner = .ok owner ∧
        ∃ backend, (after calls).backends.lookup? owner = some backend ∧
          ∀ host source, (after calls).create host x source =
            (draftOf host.machine owner source).bind (generatorOf host backend)) ∧
    ∀ call, (after calls).outcome call = .ok () →
      ∀ name ∈ call.language :: call.aliases,
        (after (calls ++ [call])).resolve name = .ok call.language.lower := by
  have hConsistent := isConsistent_after calls
  refine ⟨?refused, ?kept, ?sound, ?granted⟩
  case refused =>
    intro call fault hRefused
    rw [after_concat, next_of_error hRefused]
    exact ⟨fun _ => rfl, rfl, fun _ => rfl⟩
  case kept =>
    intro x owner hOwner more
    exact ⟨_, resolve_of_grows (grows_after calls more) hOwner⟩
  case sound =>
    intro x owner hOwner
    have hMem := mem_languages_of_resolve hConsistent hOwner
    obtain ⟨backend, hBackend⟩ := Entries.exists_lookup? (mem_languages_iff.mp hMem)
    exact ⟨hMem, resolve_of_mem_languages hConsistent hMem, backend, hBackend,
      fun host source => create_of_resolve host source hOwner hBackend⟩
  case granted =>
    intro call hGranted name hName
    have hRegister := outcome_eq_ok_iff.mp hGranted
    rw [after_concat]
    exact resolve_of_register hRegister hName

/-- C# with an alias that is given twice and one that is its own name, another language that asks
for the same alias, and C# once more with another alias. -/
def sharedAlias : List Registration := [
  { language := text "CSharp", aliases := [text "CS", text "csharp", text "cs"] },
  { language := text "Plain", backend := some .outline, aliases := [text "Cs"] },
  { language := text "csharp", backend := some .outline, aliases := [text "C#"] }]

/-- The second registration is refused and changes no answer; the third succeeds, and its alias
stands for C# then, as the alias of the first still does. -/
theorem history_consistent_sharedAlias :
    (after (sharedAlias.take 2)).AnswersLike (after (sharedAlias.take 1)) ∧
      (after sharedAlias).resolve (text "c#") = .ok (text "csharp") ∧
      ∃ owner, (after sharedAlias).resolve (text "cS") = .ok owner := by
  have hRefused : (after (sharedAlias.take 1)).outcome sharedAlias[1] =
      .error (.aliasTaken (text "cs") (text "csharp")) := by rfl
  have hGranted : (after (sharedAlias.take 2)).outcome sharedAlias[2] = .ok () := by rfl
  have hOwner : (after (sharedAlias.take 1)).resolve (text "cS") = .ok (text "csharp") := by rfl
  refine ⟨(history_consistent _).1 _ _ hRefused, ?_, ?_⟩
  · have hAlias := (history_consistent _).2.2.2 _ hGranted (text "C#") (by decide)
    exact hAlias
  · exact (history_consistent _).2.1 _ _ hOwner (sharedAlias.drop 1)

end EntityForge.Registry
