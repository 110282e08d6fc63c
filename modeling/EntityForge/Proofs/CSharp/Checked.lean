import EntityForge.CSharp.Check
import EntityForge.CSharp.Generator
import EntityForge.Proofs.FirstFault

/-! # What the check of a schema lets through

The check and the generator both go through the entities and their properties and both ask for the
C# type of every property.  Here both walks are said by the same two functions: `typeFault?`, what
is wrong with the type of a property, and `TypeName.of`, the type if nothing is.  So the check
fails for a type exactly where the generator would, and `checkSchema_eq_ok_iff` says all that
holds of a schema that passes.
-/

namespace EntityForge.CSharp

/-- The C# type of a property: that of its scalar type, or else the declared type as it stands. -/
def TypeName.of (p : Property) : TypeName :=
  match p.scalarType? with
  | some scalar => .ofScalar scalar
  | none => ⟨p.typeName, false⟩

/-- What is wrong with the type of a property of an entity, if anything is. -/
def typeFault? (s : Settings) (entity : Text) (p : Property) : Option Failure :=
  if s.strictTypes && p.scalarType?.isNone then
    some (.unrecognizedType entity p.name p.typeName)
  else none

/-- What is wrong with the first property of an entity whose type is no type. -/
def entityFault? (s : Settings) (e : Entity) : Option Failure :=
  e.properties.findSome? (typeFault? s e.name)

theorem ofProperty_eq (s : Settings) (entity : Text) (p : Property) :
    TypeName.ofProperty s.strictTypes entity p =
      unlessFault (typeFault? s entity p) (TypeName.of p) := by
  cases hType : p.scalarType? with
  | some scalar => simp [TypeName.ofProperty, typeFault?, TypeName.of, hType]
  | none =>
      cases hStrict : s.strictTypes <;>
        simp [TypeName.ofProperty, typeFault?, TypeName.of, hType, hStrict]

/-! ### The walk of the generator -/

/-- The member of a property whose type is in order. -/
def memberFor (s : Settings) (p : Property) : Member :=
  ⟨attributesOf p (.of p),
    fieldDeclaration (TypeName.of p).declaration (emitName s.escapeKeywords p.name)⟩

theorem membersOf_eq (s : Settings) (e : Entity) :
    Generator.membersOf s e = unlessFault (entityFault? s e) (e.properties.map (memberFor s)) := by
  refine mapM_unlessFault fun p _ => ?_
  rw [memberOf, ofProperty_eq]
  cases typeFault? s e.name p <;> rfl

/-- The call for the class of an entity whose types are in order. -/
def entityCallFor (s : Settings) (e : Entity) : Template.Call :=
  ⟨entitySheetName, Generator.entityVariables s e (e.properties.map (memberFor s))⟩

/-- The call for the context class. -/
def contextCallFor (s : Settings) (entities : List Entity) : Template.Call :=
  ⟨contextSheetName, Generator.contextVariables s entities⟩

/-- The failure for an indentation that cannot be laid out. -/
def indentFailure? (s : Settings) : Option Failure :=
  s.indentFault?.map fun fault => .breakdown (.indent fault)

theorem checkIndent_eq (s : Settings) :
    Generator.checkIndent s = unlessFault (indentFailure? s) () := by
  rw [Generator.checkIndent, indentFailure?]
  cases s.indentFault? <;> rfl

theorem entityCall_eq (s : Settings) (e : Entity) :
    Generator.entityCall s e =
      unlessFault ((entityFault? s e).or (indentFailure? s)) (entityCallFor s e) := by
  rw [Generator.entityCall, membersOf_eq, checkIndent_eq]
  exact unlessFault_bind (unlessFault_bind_ok rfl)

theorem contextCall_eq (s : Settings) (entities : List Entity) :
    Generator.contextCall s entities =
      unlessFault (indentFailure? s) (contextCallFor s entities) := by
  rw [Generator.contextCall, checkIndent_eq]
  exact unlessFault_bind_ok rfl

/-- The calls for a schema. -/
def callsFor (s : Settings) (entities : List Entity) : List Template.Call :=
  entities.map (entityCallFor s) ++ [contextCallFor s entities]

/-- Nothing stands in the way of the calls for a schema whose types are in order, if the indentation
can be laid out. -/
theorem callsOf_of_types {s : Settings} {schema : Schema}
    (hTypes : ∀ e ∈ schema.entities, entityFault? s e = none) (hIndent : s.indentFault? = none) :
    Generator.callsOf s schema = (callsFor s schema.entities).map .ok := by
  have hNone : indentFailure? s = none := by rw [indentFailure?, hIndent, Option.map_none]
  rw [Generator.callsOf, callsFor, contextCall_eq, hNone, List.map_append, List.map_map]
  refine congrArg (· ++ _) (List.map_congr_left fun e he => ?_)
  rw [entityCall_eq, hTypes e he, hNone]
  rfl

/-! ### The walk of the check -/

namespace Findings

@[simp]
theorem problems_append (a b : Findings) : (a ++ b).problems = a.problems ++ b.problems := rfl

@[simp]
theorem warnings_append (a b : Findings) : (a ++ b).warnings = a.warnings ++ b.warnings := rfl

@[simp]
theorem problems_concat (parts : List Findings) :
    (concat parts).problems = parts.flatMap problems := rfl

@[simp]
theorem warnings_concat (parts : List Findings) :
    (concat parts).warnings = parts.flatMap warnings := rfl

end Findings

/-- What the check finds of a property whose type is in order. -/
def propertyFindings (s : Settings) (e : Entity) (p : Property) : Findings where
  problems := nameProblems s.escapeKeywords .property p.name ++
    (if p.name = e.name then [.propertyNamedLikeEntity e.name p.name] else [])
  warnings :=
    (if p.maxLength.isSome && !(TypeName.of p).isReference then
      [.lengthOfNonString e.name p.name (TypeName.of p).token] else []) ++
      (if s.escapeKeywords && isKeyword p.name then [.escapedProperty e.name p.name] else [])

/-- What the check finds of an entity whose types are in order. -/
def classFindings (s : Settings) (e : Entity) : Findings :=
  entityFindings s e ++ Findings.concat (e.properties.map (propertyFindings s e)) ++
    { warnings := if s.escapeKeywords && isKeyword e.name then [.escapedEntity e.name] else [] }

theorem checkProperty_eq (s : Settings) (e : Entity) (p : Property) :
    checkProperty s e p = unlessFault (typeFault? s e.name p) (propertyFindings s e p) := by
  rw [checkProperty, ofProperty_eq]
  cases typeFault? s e.name p <;> rfl

theorem checkEntity_eq (s : Settings) (e : Entity) :
    checkEntity s e = unlessFault (entityFault? s e) (classFindings s e) := by
  rw [checkEntity, mapM_unlessFault fun p _ => checkProperty_eq s e p]
  change (unlessFault (entityFault? s e) _ >>= _) = _
  cases entityFault? s e <;> rfl

/-- The problems of a schema whose types are in order. -/
def schemaProblems (s : Settings) (schema : Schema) : List SchemaProblem :=
  schema.entities.flatMap fun e => (classFindings s e).problems

/-- The warnings about a schema whose types are in order. -/
def schemaWarnings (s : Settings) (schema : Schema) : List SchemaWarning :=
  schema.entities.flatMap generalWarnings ++
    schema.entities.flatMap fun e => (classFindings s e).warnings

/-- The check of a schema: duplicates first, then the first type that is none, then problems. -/
theorem checkSchema_eq (s : Settings) (schema : Schema) :
    checkSchema s schema =
      if duplicateNames schema ≠ [] then .error (.duplicates (duplicateNames schema))
      else
        match schema.entities.findSome? (entityFault? s) with
        | some fault => .error fault
        | none =>
            if schemaProblems s schema ≠ [] then .error (.schema (schemaProblems s schema))
            else .ok (schemaWarnings s schema) := by
  have hConcat : Findings.concat (schema.entities.map (classFindings s)) =
      ⟨schemaProblems s schema, schema.entities.flatMap fun e => (classFindings s e).warnings⟩ := by
    simp [Findings.concat, schemaProblems, List.flatMap_map]
  rw [checkSchema, mapM_unlessFault fun e _ => checkEntity_eq s e]
  cases duplicateNames schema with
  | cons d ds => simp
  | nil =>
      cases schema.entities.findSome? (entityFault? s) with
      | some fault => rfl
      | none =>
          simp only [unlessFault_none, bind, Except.bind, hConcat]
          cases schemaProblems s schema with
          | cons p ps => simp
          | nil => simp [schemaWarnings, pure, Except.pure]

theorem checkSchema_eq_ok_iff {s : Settings} {schema : Schema} {warnings : List SchemaWarning} :
    checkSchema s schema = .ok warnings ↔
      duplicateNames schema = [] ∧ (∀ e ∈ schema.entities, entityFault? s e = none) ∧
        (∀ e ∈ schema.entities, (classFindings s e).problems = []) ∧
        schemaWarnings s schema = warnings := by
  have hProblems : schemaProblems s schema = [] ↔
      ∀ e ∈ schema.entities, (classFindings s e).problems = [] := by
    simp [schemaProblems, List.flatMap_eq_nil_iff]
  rw [checkSchema_eq, ← hProblems, ← List.findSome?_eq_none_iff]
  by_cases hDup : duplicateNames schema = []
  · cases schema.entities.findSome? (entityFault? s) with
    | some fault => simp [hDup]
    | none => by_cases hNone : schemaProblems s schema = [] <;> simp [hDup, hNone]
  · simp [hDup]

/-- A check that fails gives a failure that a run reports as its result. -/
theorem isReported_of_checkSchema {s : Settings} {schema : Schema} {failure : Failure}
    (h : checkSchema s schema = .error failure) : failure.isReported = true := by
  have hFault : ∀ fault, schema.entities.findSome? (entityFault? s) = some fault →
      fault.isReported = true := by
    intro fault hSome
    obtain ⟨e, _, hEntity⟩ := List.exists_of_findSome?_eq_some hSome
    obtain ⟨p, _, hType⟩ := List.exists_of_findSome?_eq_some hEntity
    simp only [typeFault?] at hType
    split at hType
    · cases hType
      rfl
    · cases hType
  rw [checkSchema_eq] at h
  split at h
  · cases h
    rfl
  · split at h
    · next hSome =>
        cases h
        exact hFault _ hSome
    · split at h
      · cases h
        rfl
      · cases h

/-! ### Names that pass -/

/-- A name that can be emitted: an identifier, and no keyword unless keywords are escaped. -/
structure IsEmittable (s : Settings) (name : Text) : Prop where
  isValid : namingRule.isValid name = true
  not_keyword : s.escapeKeywords = true ∨ isKeyword name = false

theorem nameProblems_eq_nil_iff {s : Settings} {role : NameRole} {name : Text} :
    nameProblems s.escapeKeywords role name = [] ↔ IsEmittable s name := by
  constructor
  · intro h
    refine ⟨?_, ?_⟩ <;>
      cases hValid : namingRule.isValid name <;> cases hEscape : s.escapeKeywords <;>
        cases hKeyword : isKeyword name <;> simp_all [nameProblems]
  · rintro ⟨hValid, hKeyword⟩
    rcases hKeyword with h | h <;> simp [nameProblems, hValid, h]

/-- An entity all of whose names pass the check. -/
structure IsNamedWell (s : Settings) (e : Entity) : Prop where
  name : IsEmittable s e.name
  tableName : IsEmittable s e.tableName
  name_ne : e.name ≠ s.contextName
  tableName_ne : e.tableName ≠ s.contextName
  property : ∀ p ∈ e.properties, IsEmittable s p.name
  property_ne : ∀ p ∈ e.properties, p.name ≠ e.name

theorem ite_singleton_eq_nil_iff {α : Type} {c : Prop} [Decidable c] {a : α} :
    (if c then [a] else []) = [] ↔ ¬ c := by
  by_cases hc : c <;> simp [hc]

theorem classFindings_problems_eq_nil_iff {s : Settings} {e : Entity} :
    (classFindings s e).problems = [] ↔ IsNamedWell s e := by
  simp only [classFindings, Findings.problems_append, Findings.problems_concat, List.flatMap_map,
    entityFindings, propertyFindings, List.append_nil, List.append_eq_nil_iff,
    List.flatMap_eq_nil_iff, nameProblems_eq_nil_iff, ite_singleton_eq_nil_iff]
  constructor
  · rintro ⟨⟨⟨⟨hName, hTable⟩, hNameNe⟩, hTableNe⟩, hProperties⟩
    exact ⟨hName, hTable, hNameNe, hTableNe, fun p hp => (hProperties p hp).1,
      fun p hp => (hProperties p hp).2⟩
  · intro h
    exact ⟨⟨⟨⟨h.name, h.tableName⟩, h.name_ne⟩, h.tableName_ne⟩,
      fun p hp => ⟨h.property p hp, h.property_ne p hp⟩⟩

/-- Every entity of a schema that passes the check is named well. -/
theorem isNamedWell_of_checkSchema {s : Settings} {schema : Schema}
    {warnings : List SchemaWarning} (h : checkSchema s schema = .ok warnings) :
    ∀ e ∈ schema.entities, IsNamedWell s e := fun e he =>
  classFindings_problems_eq_nil_iff.mp ((checkSchema_eq_ok_iff.mp h).2.2.1 e he)

end EntityForge.CSharp
