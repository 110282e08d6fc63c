import EntityForge.Proofs.CSharp.Checked
import EntityForge.Proofs.Naming.Verbatim
import EntityForge.Proofs.Repeated

/-! # The verdict on a schema

What the check of a schema comes to can be told without going through the schema step by step.
`Verdict` has the four outcomes as its cases, each with the conditions under which it is the one:
names that clash, a first property of no known type, violations of the rules for names, and else
the warnings.  What is reported are the cases that hold out of a list in document order, all of them
independent of each other.

The check reaches a verdict (`verdict_checkSchema`) and there is only one (`Verdict.unique`).
-/

namespace EntityForge.CSharp

universe u

variable {s : Settings} {schema : Schema}

/-! ### Clashes of names -/

/-- Two names of a schema cannot stand side by side: two entities have the same name apart from
case, two entities have the same table name, or two properties of an entity have the same name. -/
def HasClash (schema : Schema) : Prop :=
  ¬ (schema.entities.map fun e => e.name.fold).Nodup ∨
    ¬ (schema.entities.map Entity.tableName).Nodup ∨
    ∃ e ∈ schema.entities, ¬ (e.properties.map Property.name).Nodup

/-- The clashes that are reported: each at the second occurrence of its name, entities first, then
tables, then the properties of each entity. -/
def clashes (schema : Schema) : List DuplicateName :=
  (secondOccurrences Text.fold (schema.entities.map Entity.name)).map .entity ++
    (secondOccurrences id (schema.entities.map Entity.tableName)).map .table ++
    schema.entities.flatMap fun e =>
      (secondOccurrences id (e.properties.map Property.name)).map (.property e.name)

theorem duplicateNames_eq (schema : Schema) : duplicateNames schema = clashes schema := by
  simp only [duplicateNames, clashes, Schema.names, repeated_eq_secondOccurrences]

theorem clashes_ne_nil_iff : clashes schema ≠ [] ↔ HasClash schema := by
  simp only [clashes, HasClash, ne_eq, List.append_eq_nil_iff, List.map_eq_nil_iff,
    List.flatMap_eq_nil_iff, ← repeated_eq_secondOccurrences, repeated_eq_nil_iff,
    List.map_map, not_and_or, not_forall, exists_prop]
  exact or_assoc

/-! ### Types that are none -/

/-- The properties of a schema in document order, each with its entity. -/
def declaredProperties (schema : Schema) : List (Entity × Property) :=
  schema.entities.flatMap fun e => e.properties.map (e, ·)

/-- A property whose type is refused: the settings are strict and the type is none that is known. -/
def IsUnrecognized (s : Settings) (p : Property) : Prop :=
  s.strictTypes = true ∧ p.scalarType? = none

instance (s : Settings) (p : Property) : Decidable (IsUnrecognized s p) :=
  inferInstanceAs (Decidable (_ ∧ _))

theorem typeFault?_eq (entity : Text) (p : Property) :
    typeFault? s entity p =
      if IsUnrecognized s p then some (.unrecognizedType entity p.name p.typeName) else none := by
  rw [typeFault?]
  exact if_congr (by simp [IsUnrecognized]) rfl rfl

/-- The first fault of the walk over entities is that of the first property of all that has one. -/
theorem findSome?_entityFault?_eq (s : Settings) (schema : Schema) :
    schema.entities.findSome? (entityFault? s) =
      (declaredProperties schema).findSome? fun d => typeFault? s d.1.name d.2 := by
  rw [declaredProperties]
  induction schema.entities with
  | nil => rfl
  | cons e rest ih =>
      have hFirst : (e.properties.map (e, ·)).findSome? (fun d => typeFault? s d.1.name d.2) =
          entityFault? s e := List.findSome?_map
      rw [List.flatMap_cons, List.findSome?_append, hFirst, ← ih, List.findSome?_cons]
      cases entityFault? s e <;> rfl

/-! ### What may be reported -/

/-- What is reported of a list of cases: what those that hold say. -/
def reported {α : Type u} (cases : List (Bool × α)) : List α :=
  (cases.filter Prod.fst).map Prod.snd

@[simp]
theorem reported_nil {α : Type u} : reported ([] : List (Bool × α)) = [] := rfl

@[simp]
theorem reported_append {α : Type u} (a b : List (Bool × α)) :
    reported (a ++ b) = reported a ++ reported b := by
  simp [reported]

@[simp]
theorem reported_flatMap {α : Type u} {β : Type u} (f : β → List (Bool × α)) (items : List β) :
    reported (items.flatMap f) = items.flatMap fun item => reported (f item) := by
  simp [reported, List.filter_flatMap, List.map_flatMap]

theorem reported_eq_nil_iff {α : Type u} {cases : List (Bool × α)} :
    reported cases = [] ↔ ∀ c ∈ cases, c.1 = false := by
  simp [reported]

/-- A problem that there is if a condition holds. -/
def problemIf (condition : Prop) [Decidable condition] (problem : SchemaProblem) :
    Bool × SchemaProblem :=
  (condition, problem)

/-- A warning that is due if a condition holds. -/
def warningIf (condition : Prop) [Decidable condition] (warning : SchemaWarning) :
    Bool × SchemaWarning :=
  (condition, warning)

/-- What can be wrong with a name: it is no identifier, or it is a keyword that is not escaped. -/
def nameCases (s : Settings) (role : NameRole) (name : Text) : List (Bool × SchemaProblem) := [
  problemIf (¬ IsWrittenIdentifier name) (.notIdentifier role name),
  problemIf (s.escapeKeywords = false ∧ name ∈ keywords.map text) (.keyword role name)]

/-- What can be wrong with an entity: its name and that of its table, also beside the context class,
then the name of each property, also inside the class. -/
def problemCases (s : Settings) (e : Entity) : List (Bool × SchemaProblem) :=
  nameCases s .entity e.name ++ nameCases s .table e.tableName ++ [
    problemIf (e.name = s.contextName) (.entityNamedLikeContext e.name),
    problemIf (e.tableName = s.contextName) (.tableNamedLikeContext e.tableName e.name)] ++
    e.properties.flatMap fun p =>
      nameCases s .property p.name ++ [
        problemIf (p.name = e.name) (.propertyNamedLikeEntity e.name p.name)]

/-- What may deserve a warning about an entity in any language. -/
def generalCases (e : Entity) : List (Bool × SchemaWarning) := [
  warningIf (e.properties = []) (.noProperties e.name),
  warningIf (e.properties ≠ [] ∧ e.primaryKeys.length = 0) (.noPrimaryKey e.name),
  warningIf (1 < e.primaryKeys.length) (.manyPrimaryKeys e.name e.primaryKeys.length)] ++
  e.properties.map fun p =>
    warningIf (p.precision.isSome ≠ p.scale.isSome) (.halfDecimalSpec e.name p.name)

/-- The scalar types that are reference types in C#. -/
def referenceTypes : List ScalarType := [.string, .binary]

/-- What may deserve a warning about an entity in C#. -/
def classCases (s : Settings) (e : Entity) : List (Bool × SchemaWarning) := [
  warningIf (e.name ∈ shadowedNames.map text) (.shadowsType e.name)] ++
  (e.properties.flatMap fun p => [
    warningIf (p.maxLength ≠ none ∧ ∀ scalar ∈ referenceTypes, p.scalarType? ≠ some scalar)
      (.lengthOfNonString e.name p.name (TypeName.of p).token),
    warningIf (s.escapeKeywords = true ∧ p.name ∈ keywords.map text)
      (.escapedProperty e.name p.name)]) ++ [
  warningIf (s.escapeKeywords = true ∧ e.name ∈ keywords.map text) (.escapedEntity e.name)]

/-- The violations of the rules for names that a schema can have, in document order. -/
def violationCases (s : Settings) (schema : Schema) : List (Bool × SchemaProblem) :=
  schema.entities.flatMap (problemCases s)

/-- The warnings that a schema can deserve: for all entities those that hold in any language, then
for all entities those that are about C#. -/
def warningCases (s : Settings) (schema : Schema) : List (Bool × SchemaWarning) :=
  schema.entities.flatMap generalCases ++ schema.entities.flatMap (classCases s)

example : reported (violationCases {} ⟨[⟨text "2nd", text "GeneratedDbContext",
    [{ name := text "2nd", typeName := text "int" }]⟩]⟩) = [
      .notIdentifier .entity (text "2nd"),
      .tableNamedLikeContext (text "GeneratedDbContext") (text "2nd"),
      .notIdentifier .property (text "2nd"),
      .propertyNamedLikeEntity (text "2nd") (text "2nd")] := by decide +kernel

/-! ### What the check collects -/

@[simp]
theorem reported_problemIf_cons (condition : Prop) [Decidable condition] (problem : SchemaProblem)
    (rest : List (Bool × SchemaProblem)) :
    reported (problemIf condition problem :: rest) =
      (if condition then [problem] else []) ++ reported rest := by
  by_cases h : condition <;> simp [reported, problemIf, h]

@[simp]
theorem reported_warningIf_cons (condition : Prop) [Decidable condition] (warning : SchemaWarning)
    (rest : List (Bool × SchemaWarning)) :
    reported (warningIf condition warning :: rest) =
      (if condition then [warning] else []) ++ reported rest := by
  by_cases h : condition <;> simp [reported, warningIf, h]

theorem nameProblems_eq (role : NameRole) (name : Text) :
    nameProblems s.escapeKeywords role name = reported (nameCases s role name) := by
  by_cases hKeyword : name ∈ keywords.map text
  · have hWritten := isWrittenIdentifier_of_mem_keywords hKeyword
    simp [nameProblems, nameCases, isValid_iff.mpr hWritten, isKeyword_iff.mpr hKeyword, hWritten,
      hKeyword]
  · have hNot : isKeyword name = false := Bool.eq_false_iff.mpr (mt isKeyword_iff.mp hKeyword)
    simp [nameProblems, nameCases, hNot, hKeyword, ← isValid_iff]

theorem isReference_of_iff (p : Property) :
    (TypeName.of p).isReference = false ↔
      ∀ scalar ∈ referenceTypes, p.scalarType? ≠ some scalar := by
  cases h : p.scalarType? with
  | none => simp [TypeName.of, h]
  | some scalar => cases scalar <;> simp [TypeName.of, h, TypeName.ofScalar, referenceTypes]

theorem classFindings_eq (e : Entity) :
    classFindings s e = ⟨reported (problemCases s e), reported (classCases s e)⟩ := by
  have hEscaped : ∀ name, (s.escapeKeywords && isKeyword name) = true ↔
      s.escapeKeywords = true ∧ name ∈ keywords.map text := by
    intro name
    rw [Bool.and_eq_true, isKeyword_iff]
  have hLength : ∀ p : Property,
      (p.maxLength.isSome && !(TypeName.of p).isReference) = true ↔
        p.maxLength ≠ none ∧ ∀ scalar ∈ referenceTypes, p.scalarType? ≠ some scalar := by
    intro p
    rw [Bool.and_eq_true, Bool.not_eq_true', isReference_of_iff, Option.isSome_iff_ne_none]
  have hProblems : (classFindings s e).problems = reported (problemCases s e) := by
    simp [classFindings, entityFindings, propertyFindings, problemCases, nameProblems_eq,
      List.flatMap_map]
  have hWarnings : (classFindings s e).warnings = reported (classCases s e) := by
    simp only [classFindings, entityFindings, propertyFindings, classCases, hEscaped, hLength,
      Findings.warnings_append, Findings.warnings_concat, List.flatMap_map, isShadowing,
      List.contains_iff_mem, reported_append, reported_warningIf_cons, reported_flatMap,
      reported_nil, List.append_nil]
  rw [← hProblems, ← hWarnings]

theorem keyWarnings_eq (e : Entity) :
    keyWarnings e =
      (if e.primaryKeys.length = 0 then [.noPrimaryKey e.name] else []) ++
        if 1 < e.primaryKeys.length then [.manyPrimaryKeys e.name e.primaryKeys.length]
        else [] := by
  rw [keyWarnings]
  match e.primaryKeys.length with
  | 0 => rfl
  | 1 => rfl
  | count + 2 => simp

theorem generalWarnings_eq : generalWarnings = fun e => reported (generalCases e) := by
  funext e
  have hHalf : reported (e.properties.map fun p =>
      warningIf (p.precision.isSome ≠ p.scale.isSome) (.halfDecimalSpec e.name p.name)) =
      e.properties.filterMap fun p =>
        if p.hasHalfDecimalSpec then some (.halfDecimalSpec e.name p.name) else none := by
    induction e.properties with
    | nil => rfl
    | cons p rest ih =>
        rw [List.map_cons, reported_warningIf_cons, ih, List.filterMap_cons]
        by_cases h : p.precision.isSome = p.scale.isSome <;> simp [Property.hasHalfDecimalSpec, h]
  rw [generalWarnings, generalCases, reported_append, hHalf, keyWarnings_eq]
  by_cases hEmpty : e.properties = []
  · simp [hEmpty, Entity.primaryKeys]
  · simp [hEmpty]

/-- The problems that the check collects are the violations that hold. -/
theorem schemaProblems_eq (s : Settings) (schema : Schema) :
    schemaProblems s schema = reported (violationCases s schema) := by
  simp only [schemaProblems, violationCases, reported_flatMap, classFindings_eq]

/-- The warnings that the check collects are the deserved ones. -/
theorem schemaWarnings_eq (s : Settings) (schema : Schema) :
    schemaWarnings s schema = reported (warningCases s schema) := by
  simp only [schemaWarnings, warningCases, reported_append, reported_flatMap, classFindings_eq,
    generalWarnings_eq]

/-! ### The verdict -/

/-- What the check of a schema comes to. -/
inductive Verdict (s : Settings) (schema : Schema) : Except Failure (List SchemaWarning) → Prop
  | clash (hClash : HasClash schema) : Verdict s schema (.error (.duplicates (clashes schema)))
  | unrecognized {before after : List (Entity × Property)} {e : Entity} {p : Property}
      (hClash : ¬ HasClash schema) (hSplit : declaredProperties schema = before ++ (e, p) :: after)
      (hBefore : ∀ d ∈ before, ¬ IsUnrecognized s d.2) (hType : IsUnrecognized s p) :
      Verdict s schema (.error (.unrecognizedType e.name p.name p.typeName))
  | violation (hClash : ¬ HasClash schema)
      (hTypes : ∀ d ∈ declaredProperties schema, ¬ IsUnrecognized s d.2)
      (hViolation : ∃ v ∈ violationCases s schema, v.1 = true) :
      Verdict s schema (.error (.schema (reported (violationCases s schema))))
  | passed (hClash : ¬ HasClash schema)
      (hTypes : ∀ d ∈ declaredProperties schema, ¬ IsUnrecognized s d.2)
      (hViolation : ∀ v ∈ violationCases s schema, v.1 = false) :
      Verdict s schema (.ok (reported (warningCases s schema)))

/-- The check reaches a verdict. -/
theorem verdict_checkSchema (s : Settings) (schema : Schema) :
    Verdict s schema (checkSchema s schema) := by
  rw [checkSchema_eq, duplicateNames_eq, findSome?_entityFault?_eq, schemaProblems_eq,
    schemaWarnings_eq]
  by_cases hClash : HasClash schema
  · rw [if_pos (clashes_ne_nil_iff.mpr hClash)]
    exact .clash hClash
  · rw [if_neg (mt clashes_ne_nil_iff.mp hClash)]
    cases hFault : (declaredProperties schema).findSome? fun d => typeFault? s d.1.name d.2 with
    | some fault =>
        obtain ⟨before, ⟨e, p⟩, after, hSplit, hType, hBefore⟩ :=
          List.findSome?_eq_some_iff.mp hFault
        simp only [typeFault?_eq, Option.ite_none_right_eq_some, Option.some.injEq,
          ite_eq_right_iff, reduceCtorEq, imp_false] at hType hBefore
        obtain ⟨hType, rfl⟩ := hType
        exact .unrecognized hClash hSplit hBefore hType
    | none =>
        have hTypes : ∀ d ∈ declaredProperties schema, ¬ IsUnrecognized s d.2 := by
          simpa only [typeFault?_eq, ite_eq_right_iff, reduceCtorEq, imp_false] using
            List.findSome?_eq_none_iff.mp hFault
        by_cases hNone : reported (violationCases s schema) = []
        · simp only [hNone, ne_eq, not_true_eq_false, if_false]
          exact .passed hClash hTypes (reported_eq_nil_iff.mp hNone)
        · simp only [ne_eq, hNone, not_false_eq_true, if_true]
          refine .violation hClash hTypes ?_
          simpa [reported_eq_nil_iff] using hNone

theorem find?_eq_of_split {before after : List (Entity × Property)} {e : Entity} {p : Property}
    (hSplit : declaredProperties schema = before ++ (e, p) :: after)
    (hBefore : ∀ d ∈ before, ¬ IsUnrecognized s d.2) (hType : IsUnrecognized s p) :
    (declaredProperties schema).find? (fun d => IsUnrecognized s d.2) = some (e, p) := by
  refine List.find?_eq_some_iff_append.mpr ⟨by simpa using hType, before, after, hSplit, ?_⟩
  simpa using hBefore

/-- There is only one verdict on a schema. -/
theorem Verdict.unique {a b : Except Failure (List SchemaWarning)} (ha : Verdict s schema a)
    (hb : Verdict s schema b) : a = b := by
  cases ha with
  | clash hClash =>
      cases hb with
      | clash => rfl
      | unrecognized hNot | violation hNot | passed hNot => exact absurd hClash hNot
  | @unrecognized before after e p hClash hSplit hBefore hType =>
      have hFirst := find?_eq_of_split hSplit hBefore hType
      cases hb with
      | clash h => exact absurd h hClash
      | unrecognized _ hSplit' hBefore' hType' =>
          rw [find?_eq_of_split hSplit' hBefore' hType', Option.some.injEq, Prod.mk.injEq] at hFirst
          rw [hFirst.1, hFirst.2]
      | violation _ hTypes | passed _ hTypes =>
          exact absurd hType (hTypes _ (List.mem_of_find?_eq_some hFirst))
  | violation hClash hTypes hViolation =>
      obtain ⟨v, hMem, hHolds⟩ := hViolation
      cases hb with
      | clash h => exact absurd h hClash
      | unrecognized _ hSplit hBefore hType =>
          have hFirst := find?_eq_of_split hSplit hBefore hType
          exact absurd hType (hTypes _ (List.mem_of_find?_eq_some hFirst))
      | violation => rfl
      | passed _ _ hNone => exact absurd hHolds (by simp [hNone v hMem])
  | passed hClash hTypes hNone =>
      cases hb with
      | clash h => exact absurd h hClash
      | unrecognized _ hSplit hBefore hType =>
          have hFirst := find?_eq_of_split hSplit hBefore hType
          exact absurd hType (hTypes _ (List.mem_of_find?_eq_some hFirst))
      | violation _ _ hViolation =>
          obtain ⟨v, hMem, hHolds⟩ := hViolation
          exact absurd hHolds (by simp [hNone v hMem])
      | passed => rfl

/-- The outcome of the check is the verdict on the schema. -/
theorem check_eq_iff_verdict (g : Generator) (schema : Schema)
    (outcome : Except Failure (List SchemaWarning)) :
    g.check schema = outcome ↔ Verdict g.settings schema outcome := by
  constructor
  · rintro rfl
    exact verdict_checkSchema g.settings schema
  · exact fun h => (verdict_checkSchema g.settings schema).unique h

end EntityForge.CSharp
