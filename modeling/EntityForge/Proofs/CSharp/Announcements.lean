import EntityForge.Proofs.CSharp.Identifiers
import EntityForge.Proofs.CSharp.Verdict

/-! # What the warnings about names say

A schema that passes the check may deserve warnings, and the check gives exactly those of which the
condition holds (`mem_reported_iff`).  For the warnings about names the conditions are read off
here: `escapedEntity_mem_iff`, `escapedProperty_mem_iff` and `shadowsType_mem_iff`.

Names are escaped in three places: where a class, a member or an accessor is declared.  The check
warns in only two of them.  So with escaping on a name that is spelled differently from the schema
is announced if it is that of a class or a member, and never if it is that of an accessor
(`announced_iff_respelled`).
-/

namespace EntityForge.CSharp

universe u

variable {s : Settings} {schema : Schema} {warnings : List SchemaWarning}

/-! ### Which warnings there are -/

theorem mem_reported_iff {α : Type u} {cases : List (Bool × α)} {a : α} :
    a ∈ reported cases ↔ (true, a) ∈ cases := by
  simp [reported]

@[simp]
theorem warningIf_eq_true_iff {condition : Prop} [Decidable condition]
    {warning other : SchemaWarning} :
    warningIf condition warning = (true, other) ↔ condition ∧ warning = other := by
  simp [warningIf]

@[simp]
theorem true_eq_warningIf_iff {condition : Prop} [Decidable condition]
    {warning other : SchemaWarning} :
    (true, other) = warningIf condition warning ↔ condition ∧ warning = other := by
  rw [eq_comm, warningIf_eq_true_iff]

/-- A schema that passes the check gets the warnings that it deserves. -/
theorem warnings_eq_of_checkSchema (hCheck : checkSchema s schema = .ok warnings) :
    warnings = reported (warningCases s schema) := by
  rw [← schemaWarnings_eq]
  exact (checkSchema_eq_ok_iff.mp hCheck).2.2.2.symm

theorem escapedEntity_mem_iff (hCheck : checkSchema s schema = .ok warnings) {name : Text} :
    .escapedEntity name ∈ warnings ↔
      ∃ e ∈ schema.entities, s.escapeKeywords = true ∧ e.name ∈ keywords.map text ∧
        e.name = name := by
  rw [warnings_eq_of_checkSchema hCheck, mem_reported_iff]
  simp [warningCases, generalCases, classCases, and_assoc]

theorem escapedProperty_mem_iff (hCheck : checkSchema s schema = .ok warnings)
    {entity name : Text} :
    .escapedProperty entity name ∈ warnings ↔
      ∃ e ∈ schema.entities, ∃ p ∈ e.properties, s.escapeKeywords = true ∧
        p.name ∈ keywords.map text ∧ e.name = entity ∧ p.name = name := by
  rw [warnings_eq_of_checkSchema hCheck, mem_reported_iff]
  simp [warningCases, generalCases, classCases, and_assoc]

theorem shadowsType_mem_iff (hCheck : checkSchema s schema = .ok warnings) {name : Text} :
    .shadowsType name ∈ warnings ↔
      ∃ e ∈ schema.entities, e.name ∈ shadowedNames.map text ∧ e.name = name := by
  rw [warnings_eq_of_checkSchema hCheck, mem_reported_iff]
  simp [warningCases, generalCases, classCases]

/-! ### Names that a schema supplies -/

/-- A name that a schema supplies for the code: that of the class of an entity, that of its
accessor on the context class, or that of a member. -/
inductive SuppliedName
  | entity (e : Entity)
  | table (e : Entity)
  | property (e : Entity) (p : Property)

namespace SuppliedName

/-- The name as the schema has it. -/
def declared : SuppliedName → Text
  | .entity e => e.name
  | .table e => e.tableName
  | .property _ p => p.name

/-- The name as the code spells it. -/
def emitted (s : Settings) (n : SuppliedName) : Text := emitName s.escapeKeywords n.declared

/-- The declaration in the code that is made for the name. -/
def code (s : Settings) : SuppliedName → List Fragment
  | .entity e => classFragments s e
  | .table e => accessorFragments s e
  | .property _ p => fieldFragments s p

/-- The code spells the name differently from the schema. -/
def IsRespelled (s : Settings) (n : SuppliedName) : Prop := n.emitted s ≠ n.declared

/-- The name is that of an accessor. -/
def IsTable : SuppliedName → Prop
  | .table _ => True
  | _ => False

theorem name_emitted_mem_code (s : Settings) (n : SuppliedName) :
    .name (n.emitted s) ∈ n.code s := by
  cases n <;> simp [code, emitted, declared, classFragments, accessorFragments, fieldFragments]

/-- With escaping on, the names that are spelled differently are the keywords, and an at sign is
put in front of them. -/
theorem isRespelled_iff (hEscaping : s.escapeKeywords = true) {n : SuppliedName} :
    n.IsRespelled s ↔ n.declared ∈ keywords.map text := by
  rw [IsRespelled, emitted, hEscaping, emitName_eq, Bool.true_and, ← isKeyword_iff]
  split
  · next h => simp [h]
  · next h => simp [h]

theorem emitted_of_isRespelled {n : SuppliedName} (h : n.IsRespelled s) :
    n.emitted s = .char '@' :: n.declared := by
  rw [IsRespelled, emitted, emitName_eq] at h
  rw [emitted, emitName_eq]
  split at h
  · next hKeyword => rw [if_pos hKeyword]
  · exact absurd rfl h

end SuppliedName

/-- The names that a schema supplies, in document order. -/
def suppliedNames (schema : Schema) : List SuppliedName :=
  schema.entities.flatMap fun e =>
    .entity e :: .table e :: e.properties.map (.property e)

theorem forall_mem_suppliedNames {P : SuppliedName → Prop} :
    (∀ n ∈ suppliedNames schema, P n) ↔
      ∀ e ∈ schema.entities,
        P (.entity e) ∧ P (.table e) ∧ ∀ p ∈ e.properties, P (.property e p) := by
  simp only [suppliedNames, List.forall_mem_flatMap, List.forall_mem_cons, List.forall_mem_map]

/-- The declaration of every supplied name is in the code that templates are given. -/
theorem code_mem_givenCode :
    ∀ n ∈ suppliedNames schema, n.code s ∈ givenCode s schema := by
  rw [forall_mem_suppliedNames]
  intro e he
  have hEntity : ∀ code ∈ classFragments s e :: accessorFragments s e ::
      e.properties.map (fieldFragments s), code ∈ givenCode s schema := by
    intro code hCode
    exact List.mem_cons_of_mem _ (List.mem_cons_of_mem _ (List.mem_flatMap.mpr ⟨e, he, hCode⟩))
  refine ⟨hEntity _ (by simp [SuppliedName.code]), hEntity _ (by simp [SuppliedName.code]), ?_⟩
  exact fun p hp => hEntity _ (by simpa [SuppliedName.code] using .inr (.inr ⟨p, hp, rfl⟩))

/-! ### Announcements -/

/-- A warning announces that a name is emitted behind an at sign. -/
inductive Announces : SchemaWarning → SuppliedName → Prop
  | entity (e : Entity) : Announces (.escapedEntity e.name) (.entity e)
  | property (e : Entity) (p : Property) :
      Announces (.escapedProperty e.name p.name) (.property e p)

/-- What an announcement says: the name as it is declared, and as it is emitted. -/
theorem Announces.message {w : SchemaWarning} {n : SuppliedName} (h : Announces w n)
    (hSpelling : n.IsRespelled s) :
    ∃ subject, w.message =
      subject ++ text " is a C# keyword and is emitted as " ++ n.emitted s := by
  have hMark : text " is a C# keyword and is emitted as @" =
      text " is a C# keyword and is emitted as " ++ [.char '@'] := rfl
  rw [SuppliedName.emitted_of_isRespelled hSpelling]
  cases h with
  | entity e =>
      have hQuote : text "' is a C# keyword and is emitted as @" =
          text "'" ++ text " is a C# keyword and is emitted as @" := rfl
      refine ⟨text "Entity '" ++ e.name ++ text "'", ?_⟩
      simp [SchemaWarning.message, SuppliedName.declared, hQuote, hMark]
  | property e p =>
      refine ⟨text "Property " ++ e.name ++ text "." ++ p.name, ?_⟩
      simp [SchemaWarning.message, SuppliedName.declared, hMark]

theorem Announces.not_isTable {w : SchemaWarning} {n : SuppliedName} (h : Announces w n) :
    ¬ n.IsTable := by
  cases h <;> exact not_false

/-- Of the keywords among the supplied names, the check announces those of classes and members. -/
theorem exists_announces_iff (hEscaping : s.escapeKeywords = true)
    (hCheck : checkSchema s schema = .ok warnings) :
    ∀ n ∈ suppliedNames schema,
      (∃ w ∈ warnings, Announces w n) ↔ n.declared ∈ keywords.map text ∧ ¬ n.IsTable := by
  rw [forall_mem_suppliedNames]
  refine fun e he => ⟨⟨?_, ?_⟩, ⟨?_, ?_⟩, fun p hp => ⟨?_, ?_⟩⟩
  · rintro ⟨_, hw, ⟨⟩⟩
    obtain ⟨other, -, -, hKeyword, hName⟩ := (escapedEntity_mem_iff hCheck).mp hw
    exact ⟨by rwa [hName] at hKeyword, not_false⟩
  · rintro ⟨hKeyword, -⟩
    exact ⟨_, (escapedEntity_mem_iff hCheck).mpr ⟨e, he, hEscaping, hKeyword, rfl⟩, .entity e⟩
  · rintro ⟨_, -, ⟨⟩⟩
  · exact fun h => absurd trivial h.2
  · rintro ⟨_, hw, ⟨⟩⟩
    obtain ⟨_, -, other, -, -, hKeyword, -, hName⟩ := (escapedProperty_mem_iff hCheck).mp hw
    exact ⟨by rwa [hName] at hKeyword, not_false⟩
  · rintro ⟨hKeyword, -⟩
    exact ⟨_, (escapedProperty_mem_iff hCheck).mpr
      ⟨e, he, p, hp, hEscaping, hKeyword, rfl, rfl⟩, .property e p⟩

/-- A warning of the check that announces any name announces a supplied one. -/
theorem exists_supplied_of_announces (hCheck : checkSchema s schema = .ok warnings)
    {w : SchemaWarning} (hw : w ∈ warnings) {n : SuppliedName} (h : Announces w n) :
    ∃ m ∈ suppliedNames schema, Announces w m := by
  cases h with
  | entity =>
      obtain ⟨e, he, -, -, hName⟩ := (escapedEntity_mem_iff hCheck).mp hw
      refine ⟨.entity e, List.mem_flatMap.mpr ⟨e, he, by simp⟩, ?_⟩
      exact hName ▸ .entity e
  | property =>
      obtain ⟨e, he, p, hp, -, -, hEntity, hName⟩ := (escapedProperty_mem_iff hCheck).mp hw
      refine ⟨.property e p, List.mem_flatMap.mpr ⟨e, he, by simpa using hp⟩, ?_⟩
      exact hEntity ▸ hName ▸ .property e p

/-- With escaping on, of the names that a schema supplies for the code and that the code spells
differently, the warnings announce those of classes and members and none of accessors; and nothing
else is announced.  So the names that are spelled differently are the announced ones exactly if no
table name is a keyword. -/
theorem announced_iff_respelled {g : Generator} (hEscaping : g.settings.escapeKeywords = true)
    (hCheck : g.check schema = .ok warnings) :
    (∀ n ∈ suppliedNames schema,
        n.code g.settings ∈ givenCode g.settings schema ∧
          .name (n.emitted g.settings) ∈ n.code g.settings ∧
          ((∃ w ∈ warnings, Announces w n) ↔ n.IsRespelled g.settings ∧ ¬ n.IsTable)) ∧
      (∀ w ∈ warnings, ∀ n, Announces w n →
        ∃ m ∈ suppliedNames schema, Announces w m ∧ m.IsRespelled g.settings ∧
          ∃ subject, w.message =
            subject ++ text " is a C# keyword and is emitted as " ++ m.emitted g.settings) ∧
      ((∀ n ∈ suppliedNames schema,
          (∃ w ∈ warnings, Announces w n) ↔ n.IsRespelled g.settings) ↔
        ∀ e ∈ schema.entities, e.tableName ∉ keywords.map text) := by
  have hAnnounced : ∀ n ∈ suppliedNames schema,
      (∃ w ∈ warnings, Announces w n) ↔ n.IsRespelled g.settings ∧ ¬ n.IsTable := by
    intro n hn
    rw [exists_announces_iff hEscaping hCheck n hn, SuppliedName.isRespelled_iff hEscaping]
  refine ⟨fun n hn => ?_, fun w hw n h => ?_, ?_, ?_⟩
  · exact ⟨code_mem_givenCode n hn, n.name_emitted_mem_code g.settings, hAnnounced n hn⟩
  · obtain ⟨m, hm, hAnnounces⟩ := exists_supplied_of_announces hCheck hw h
    have hRespelled := ((hAnnounced m hm).mp ⟨w, hw, hAnnounces⟩).1
    exact ⟨m, hm, hAnnounces, hRespelled, hAnnounces.message hRespelled⟩
  · intro hAll e he hKeyword
    have hMem : .table e ∈ suppliedNames schema := List.mem_flatMap.mpr ⟨e, he, by simp⟩
    obtain ⟨w, -, hAnnounces⟩ :=
      (hAll _ hMem).mpr ((SuppliedName.isRespelled_iff hEscaping).mpr hKeyword)
    exact hAnnounces.not_isTable trivial
  · intro hTables n hn
    rw [hAnnounced n hn, SuppliedName.isRespelled_iff hEscaping, and_iff_left_iff_imp]
    revert n
    rw [forall_mem_suppliedNames]
    exact fun e he => ⟨fun _ => not_false, fun h => absurd h (hTables e he),
      fun _ _ _ => not_false⟩

/-- The schema with keywords for a class and a member passes the check, and what the code spells
differently is what is announced. -/
theorem announced_iff_respelled_keywordSchema :
    Generator.check ⟨verbatimSettings, builtinLibrary⟩ keywordSchema = .ok [
        .escapedProperty (text "class") (text "in"), .escapedEntity (text "class")] ∧
      ∀ n ∈ suppliedNames keywordSchema,
        (∃ w ∈ [.escapedProperty (text "class") (text "in"), .escapedEntity (text "class")],
          Announces w n) ↔ n.IsRespelled verbatimSettings := by
  have hCheck : Generator.check ⟨verbatimSettings, builtinLibrary⟩ keywordSchema = .ok [
      .escapedProperty (text "class") (text "in"), .escapedEntity (text "class")] := rfl
  exact ⟨hCheck, (announced_iff_respelled rfl hCheck).2.2.mpr (by decide +kernel)⟩

/-- A schema with a table that is named by a keyword. -/
def tableKeywordSchema : Schema := ⟨[
  ⟨text "Item", text "class", [
    { name := text "Id", typeName := text "int", isPrimaryKey := true }]⟩]⟩

/-- With the standard settings the schema passes the check without any warning, though the accessor
for the table is spelled differently. -/
theorem tableKeywordSchema_not_announced :
    Generator.ofDraft {} ({} : Settings).toDraft = .ok ⟨{}, builtinLibrary⟩ ∧
      Generator.check ⟨{}, builtinLibrary⟩ tableKeywordSchema = .ok [] ∧
      ∃ n ∈ suppliedNames tableKeywordSchema,
        n.IsRespelled {} ∧ n.emitted {} = text "@class" ∧
          ¬ ∃ w ∈ ([] : List SchemaWarning), Announces w n := by
  refine ⟨ofDraft_toDraft {} rfl rfl rfl, rfl, .table ⟨text "Item", text "class", _⟩,
    .tail _ (.head _), ?_, by decide +kernel, by simp⟩
  exact (SuppliedName.isRespelled_iff rfl).mpr (by decide +kernel)

end EntityForge.CSharp
