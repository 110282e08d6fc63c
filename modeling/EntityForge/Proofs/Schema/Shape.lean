import EntityForge.Proofs.Entries
import EntityForge.Proofs.FirstFault
import EntityForge.Proofs.Json.Blank
import EntityForge.Schema.Document
import Mathlib

/-! # The shape of schema documents

What a schema document looks like is said here twice, both times without going through it in
steps: `Declares` relates a value to the schema that it declares, and `violations` lists everything
by which a value departs from that shape, in the order of reading.  A value declares a schema, or
has no entities, exactly if it has no violations; loading gives the schema that is declared, or else
the first violation (`load_outcome`).

The proof goes from the leaves up: each reader fails with the head of a list of violations, and
otherwise gives a result that is computed from the value alone (`readProperty_eq`, `readEntity_eq`,
`readSchema_eq`).
-/

namespace EntityForge

namespace Document

/-! ### Fields -/

/-- What the members of an object give for a field: the value of the last member whose name in lower
case is that of the field, unless it is null. -/
def given (members : Entries Value) (field : Field) : Option Value :=
  match (members.reverse.find? fun member => member.1.lower = field.key).map Prod.snd with
  | some .null => none
  | found => found

theorem field?_ofMembers (members : Entries Value) (field : Field) :
    (Node.ofMembers members).field? field = given members field := by
  have hLast : (Entries.last? (members.map fun member => (member.1.lower, member.2)) field.key) =
      (members.reverse.find? fun member => member.1.lower = field.key).map Prod.snd := by
    rw [Entries.last?, ← List.map_reverse, List.find?_map, Option.map_map]
    rfl
  rw [Node.field?, Node.ofMembers, Entries.lookup?_ofPairs, hLast, given]
  cases (members.reverse.find? fun member => member.1.lower = field.key).map Prod.snd with
  | none => rfl
  | some value => cases value <;> rfl

/-- The members of a value that is an object. -/
def membersOf : Value → Entries Value
  | .object members => members
  | _ => []

/-! ### The declared schema -/

/-- A field that may be left out gives false when it is. -/
def IsFlag (found : Option Value) (b : Bool) : Prop :=
  found = some (.bool b) ∨ (found = none ∧ b = false)

/-- A field that may be left out gives a whole number from `minimum` on. -/
def IsBound (minimum : Int) (found : Option Value) (bound : Option Bound) : Prop :=
  (∃ n, minimum ≤ n ∧ found = some (.int n) ∧ bound = some (.number n)) ∨
    (found = none ∧ bound = none)

/-- A field that may be left out gives a list, an empty one when it is. -/
def IsList (found : Option Value) (values : List Value) : Prop :=
  found = some (.list values) ∨ (found = none ∧ values = [])

/-- An object that declares a property. -/
structure DeclaresProperty (value : Value) (p : Property) : Prop where
  isObject : value = .object (membersOf value)
  name : given (membersOf value) .name = some (.string p.name)
  typeName : given (membersOf value) .type = some (.string p.typeName)
  isPrimaryKey : IsFlag (given (membersOf value) .isPrimaryKey) p.isPrimaryKey
  isRequired : IsFlag (given (membersOf value) .isRequired) p.isRequired
  maxLength : IsBound 1 (given (membersOf value) .maxLength) p.maxLength
  precision : IsBound 0 (given (membersOf value) .precision) p.precision
  scale : IsBound 0 (given (membersOf value) .scale) p.scale

/-- An object that declares an entity. -/
structure DeclaresEntity (value : Value) (e : Entity) : Prop where
  isObject : value = .object (membersOf value)
  name : given (membersOf value) .name = some (.string e.name)
  tableName : given (membersOf value) .tableName = some (.string e.tableName)
  properties : ∃ values, IsList (given (membersOf value) .properties) values ∧
    List.Forall₂ DeclaresProperty values e.properties

/-- A value that declares a schema: an object with a list of entities that is not empty. -/
structure Declares (value : Value) (schema : Schema) : Prop where
  isObject : value = .object (membersOf value)
  entities_ne : schema.entities ≠ []
  entities : ∃ values, given (membersOf value) .entities = some (.list values) ∧
    List.Forall₂ DeclaresEntity values schema.entities

/-- A value that declares nothing: null, or an object without entities. -/
def DeclaresNothing (value : Value) : Prop :=
  value = .null ∨ value = .object (membersOf value) ∧
    IsList (given (membersOf value) .entities) []

/-! ### Violations -/

/-- What is wrong with a field that must be a string. -/
def textViolations (place : Place) (field : Field) : Option Value → List Fault
  | none => [.missing place field]
  | some (.string _) => []
  | some value => [.notString place field (Kind.of value)]

/-- What is wrong with a field that is a boolean, or left out. -/
def flagViolations (place : Place) (field : Field) : Option Value → List Fault
  | none => []
  | some (.bool _) => []
  | some value => [.notBoolean place field (Kind.of value)]

/-- What is wrong with a field that is a whole number from `minimum` on, or left out. -/
def boundViolations (place : Place) (field : Field) (minimum : Int) : Option Value → List Fault
  | none => []
  | some (.int n) => if n < minimum then [.belowMinimum place field minimum n] else []
  | some value => [.notInteger place field (Kind.of value)]

/-- What is wrong with the properties of an entity as a list. -/
def listViolations (place : Place) : Option Value → List Fault
  | none => []
  | some (.list _) => []
  | some value => [.propertiesNotList place (Kind.of value)]

/-- What is wrong with a value that should be an object, or with its members if it is one. -/
def objectViolations (place : Place) (ofMembers : Entries Value → List Fault) :
    Value → List Fault
  | .object members => ofMembers members
  | value => [.notObject place (Kind.of value)]

/-- The values of a list, if that is what is found. -/
def listOf : Option Value → List Value
  | some (.list values) => values
  | _ => []

/-- What is wrong with the items of a list, one after the other. -/
def eachViolations (ofItem : Nat → Value → List Fault) (first : Nat) (values : List Value) :
    List Fault :=
  (values.zipIdx first).flatMap fun item => ofItem item.2 item.1

/-- What is wrong with a value that should declare a property. -/
def propertyViolations (entity index : Nat) : Value → List Fault :=
  let place := Place.property entity index
  objectViolations place fun members =>
    textViolations place .name (given members .name) ++
    textViolations place .type (given members .type) ++
    flagViolations place .isPrimaryKey (given members .isPrimaryKey) ++
    flagViolations place .isRequired (given members .isRequired) ++
    boundViolations place .maxLength 1 (given members .maxLength) ++
    boundViolations place .precision 0 (given members .precision) ++
    boundViolations place .scale 0 (given members .scale)

/-- What is wrong with a value that should declare an entity. -/
def entityViolations (index : Nat) : Value → List Fault :=
  let place := Place.entity index
  objectViolations place fun members =>
    listViolations place (given members .properties) ++
    textViolations place .name (given members .name) ++
    textViolations place .tableName (given members .tableName) ++
    eachViolations (propertyViolations index) 0 (listOf (given members .properties))

/-- What is wrong with the entities of a document. -/
def entitiesViolations : Option Value → List Fault
  | none => []
  | some (.list values) => eachViolations entityViolations 0 values
  | some value => [.entitiesNotList (Kind.of value)]

/-- All by which a value departs from the shape of a schema document, in the order of reading. -/
def violations : Value → List Fault
  | .null => []
  | value =>
      objectViolations .root (fun members => entitiesViolations (given members .entities)) value

/-! ### Leaves -/

/-- The text that is found. -/
def textOf : Option Value → Text
  | some (.string t) => t
  | _ => []

/-- The truth value that is found, or false. -/
def flagOf : Option Value → Bool
  | some (.bool b) => b
  | _ => false

/-- The bound that is found. -/
def boundOf : Option Value → Option Bound
  | some (.int n) => some (.number n)
  | _ => none

section

variable {place : Place} {field : Field} {found : Option Value}

theorem requiredString_eq (node : Node) :
    requiredString place node field =
      unlessFault (textViolations place field (node.field? field)).head?
        (textOf (node.field? field)) := by
  rw [requiredString]
  cases node.field? field with
  | none => rfl
  | some value => cases value <;> rfl

theorem optionalBool_eq (node : Node) :
    optionalBool place node field =
      unlessFault (flagViolations place field (node.field? field)).head?
        (flagOf (node.field? field)) := by
  rw [optionalBool]
  cases node.field? field with
  | none => rfl
  | some value => cases value <;> rfl

theorem optionalBound_eq (node : Node) (minimum : Int) :
    optionalBound place node field minimum =
      unlessFault (boundViolations place field minimum (node.field? field)).head?
        (boundOf (node.field? field)) := by
  rw [optionalBound, optionalInt]
  cases node.field? field with
  | none => rfl
  | some value =>
      cases value with
      | int n =>
          by_cases h : n < minimum <;> simp [h, boundViolations, boundOf, Except.map]
      | _ => rfl

theorem propertyValues_eq (node : Node) :
    propertyValues place node =
      unlessFault (listViolations place (node.field? .properties)).head?
        (listOf (node.field? .properties)) := by
  rw [propertyValues]
  cases node.field? .properties with
  | none => rfl
  | some value => cases value <;> rfl

theorem text_iff (place : Place) (field : Field) {t : Text} :
    textViolations place field found = [] ∧ textOf found = t ↔ found = some (.string t) := by
  cases found with
  | none => simp [textViolations]
  | some value => cases value <;> simp [textViolations, textOf]

theorem flag_iff (place : Place) (field : Field) {b : Bool} :
    flagViolations place field found = [] ∧ flagOf found = b ↔ IsFlag found b := by
  cases found with
  | none => simp [flagViolations, flagOf, IsFlag, eq_comm]
  | some value => cases value <;> simp [flagViolations, flagOf, IsFlag]

theorem bound_iff (place : Place) (field : Field) {minimum : Int} {bound : Option Bound} :
    boundViolations place field minimum found = [] ∧ boundOf found = bound ↔
      IsBound minimum found bound := by
  cases found with
  | none => simp [boundViolations, boundOf, IsBound, eq_comm]
  | some value =>
      cases value with
      | int n =>
          by_cases h : n < minimum
          · simp [boundViolations, IsBound, h, Int.not_le.mpr h]
          · simp [boundViolations, boundOf, IsBound, h, Int.not_lt.mp h, eq_comm]
      | _ => simp [boundViolations, IsBound]

theorem list_iff (place : Place) {values : List Value} :
    listViolations place found = [] ∧ listOf found = values ↔ IsList found values := by
  cases found with
  | none => simp [listViolations, listOf, IsList, eq_comm]
  | some value => cases value <;> simp [listViolations, listOf, IsList]

end

/-! ### Lists -/

section

variable {α : Type} {ofItem : Nat → Value → List Fault} {result : Value → α}

theorem eachViolations_cons (first : Nat) (value : Value) (rest : List Value) :
    eachViolations ofItem first (value :: rest) =
      ofItem first value ++ eachViolations ofItem (first + 1) rest := by
  simp [eachViolations, List.zipIdx_cons]

/-- Reading the items of a list fails with the first violation of the first item that has one. -/
theorem readEach_eq {readItem : Nat → Value → Except Fault α}
    (h : ∀ i value, readItem i value = unlessFault (ofItem i value).head? (result value))
    (first : Nat) (values : List Value) :
    readEach readItem first values =
      unlessFault (eachViolations ofItem first values).head? (values.map result) := by
  induction values generalizing first with
  | nil => rfl
  | cons value rest ih =>
      rw [readEach, h, ih, eachViolations_cons, List.head?_append]
      exact unlessFault_bind (unlessFault_bind_ok rfl)

theorem each_iff {Holds : Value → α → Prop}
    (h : ∀ i value a, (ofItem i value = [] ∧ result value = a) ↔ Holds value a)
    (first : Nat) (values : List Value) (items : List α) :
    (eachViolations ofItem first values = [] ∧ values.map result = items) ↔
      List.Forall₂ Holds values items := by
  induction values generalizing first items with
  | nil => simp [eachViolations, eq_comm]
  | cons value rest ih =>
      cases items with
      | nil => simp
      | cons item items =>
          rw [eachViolations_cons, List.append_eq_nil_iff, List.map_cons, List.cons.injEq,
            List.forall₂_cons, ← h first, ← ih (first + 1)]
          tauto

end

/-! ### Properties -/

/-- The property that a value declares, if it declares one. -/
def propertyOf (value : Value) : Property :=
  let found := given (membersOf value)
  { name := textOf (found .name)
    typeName := textOf (found .type)
    isPrimaryKey := flagOf (found .isPrimaryKey)
    isRequired := flagOf (found .isRequired)
    maxLength := boundOf (found .maxLength)
    precision := boundOf (found .precision)
    scale := boundOf (found .scale) }

theorem nodeOf_bind_eq {α : Type} {place : Place} {value : Value} {next : Node → Except Fault α}
    {ofMembers : Entries Value → List Fault} {result : α}
    (h : next (Node.ofMembers (membersOf value)) =
      unlessFault (ofMembers (membersOf value)).head? result) :
    (nodeOf place value >>= next) =
      unlessFault (objectViolations place ofMembers value).head? result := by
  cases value with
  | object members => exact h
  | _ => rfl

theorem readProperty_eq (entity index : Nat) (value : Value) :
    readProperty entity index value =
      unlessFault (propertyViolations entity index value).head? (propertyOf value) := by
  refine nodeOf_bind_eq ?_
  simp only [requiredString_eq, optionalBool_eq, optionalBound_eq, field?_ofMembers,
    List.append_assoc, List.head?_append]
  exact unlessFault_bind <| unlessFault_bind <| unlessFault_bind <| unlessFault_bind <|
    unlessFault_bind <| unlessFault_bind <| unlessFault_bind_ok rfl

theorem objectViolations_eq_nil_iff {place : Place} {ofMembers : Entries Value → List Fault}
    {value : Value} :
    objectViolations place ofMembers value = [] ↔
      value = .object (membersOf value) ∧ ofMembers (membersOf value) = [] := by
  cases value <;> simp [objectViolations, membersOf]

theorem property_iff (entity index : Nat) (value : Value) (p : Property) :
    (propertyViolations entity index value = [] ∧ propertyOf value = p) ↔
      DeclaresProperty value p := by
  let place := Place.property entity index
  constructor
  · rintro ⟨hNone, rfl⟩
    obtain ⟨hObject, hFields⟩ := objectViolations_eq_nil_iff.mp hNone
    simp only [List.append_eq_nil_iff] at hFields
    obtain ⟨⟨⟨⟨⟨⟨hName, hType⟩, hKey⟩, hRequired⟩, hLength⟩, hPrecision⟩, hScale⟩ := hFields
    exact {
      isObject := hObject
      name := (text_iff place .name).mp ⟨hName, rfl⟩
      typeName := (text_iff place .type).mp ⟨hType, rfl⟩
      isPrimaryKey := (flag_iff place .isPrimaryKey).mp ⟨hKey, rfl⟩
      isRequired := (flag_iff place .isRequired).mp ⟨hRequired, rfl⟩
      maxLength := (bound_iff place .maxLength).mp ⟨hLength, rfl⟩
      precision := (bound_iff place .precision).mp ⟨hPrecision, rfl⟩
      scale := (bound_iff place .scale).mp ⟨hScale, rfl⟩ }
  · intro h
    have hName := (text_iff place .name).mpr h.name
    have hType := (text_iff place .type).mpr h.typeName
    have hKey := (flag_iff place .isPrimaryKey).mpr h.isPrimaryKey
    have hRequired := (flag_iff place .isRequired).mpr h.isRequired
    have hLength := (bound_iff place .maxLength).mpr h.maxLength
    have hPrecision := (bound_iff place .precision).mpr h.precision
    have hScale := (bound_iff place .scale).mpr h.scale
    constructor
    · refine objectViolations_eq_nil_iff.mpr ⟨h.isObject, ?_⟩
      simp only [List.append_eq_nil_iff]
      exact ⟨⟨⟨⟨⟨⟨hName.1, hType.1⟩, hKey.1⟩, hRequired.1⟩, hLength.1⟩, hPrecision.1⟩, hScale.1⟩
    · rw [propertyOf, hName.2, hType.2, hKey.2, hRequired.2, hLength.2, hPrecision.2, hScale.2]

/-! ### Entities -/

/-- The entity that a value declares, if it declares one. -/
def entityOf (value : Value) : Entity :=
  let found := given (membersOf value)
  { name := textOf (found .name)
    tableName := textOf (found .tableName)
    properties := (listOf (found .properties)).map propertyOf }

theorem readEntity_eq (index : Nat) (value : Value) :
    readEntity index value = unlessFault (entityViolations index value).head? (entityOf value) := by
  refine nodeOf_bind_eq ?_
  simp only [propertyValues_eq, requiredString_eq, field?_ofMembers, List.append_assoc,
    List.head?_append, readEach_eq (readProperty_eq index)]
  exact unlessFault_bind <| unlessFault_bind <| unlessFault_bind <| unlessFault_bind_ok rfl

theorem entity_iff (index : Nat) (value : Value) (e : Entity) :
    (entityViolations index value = [] ∧ entityOf value = e) ↔ DeclaresEntity value e := by
  let place := Place.entity index
  constructor
  · rintro ⟨hNone, rfl⟩
    obtain ⟨hObject, hFields⟩ := objectViolations_eq_nil_iff.mp hNone
    simp only [List.append_eq_nil_iff] at hFields
    obtain ⟨⟨⟨hList, hName⟩, hTable⟩, hEach⟩ := hFields
    exact {
      isObject := hObject
      name := (text_iff place .name).mp ⟨hName, rfl⟩
      tableName := (text_iff place .tableName).mp ⟨hTable, rfl⟩
      properties := ⟨_, (list_iff place).mp ⟨hList, rfl⟩,
        (each_iff (property_iff index) 0 _ _).mp ⟨hEach, rfl⟩⟩ }
  · intro h
    obtain ⟨values, hValues, hDeclared⟩ := h.properties
    have hName := (text_iff place .name).mpr h.name
    have hTable := (text_iff place .tableName).mpr h.tableName
    have hList := (list_iff place).mpr hValues
    have hEach := (each_iff (property_iff index) 0 _ _).mpr hDeclared
    constructor
    · refine objectViolations_eq_nil_iff.mpr ⟨h.isObject, ?_⟩
      simp only [List.append_eq_nil_iff]
      exact ⟨⟨⟨hList.1, hName.1⟩, hTable.1⟩, hList.2 ▸ hEach.1⟩
    · rw [entityOf, hName.2, hTable.2, hList.2, hEach.2]

/-! ### Documents -/

/-- The schema that a value declares, if it declares one. -/
def schemaOf? (value : Value) : Option Schema :=
  match listOf (given (membersOf value) .entities) with
  | [] => none
  | values => some { entities := values.map entityOf }

theorem readSchema_eq (value : Value) :
    readSchema value = unlessFault (violations value).head? (schemaOf? value) := by
  cases value with
  | object members =>
      simp only [readSchema, violations]
      refine nodeOf_bind_eq ?_
      simp only [schemaOf?, field?_ofMembers, readEach_eq readEntity_eq]
      cases given (membersOf (.object members)) .entities with
      | none => rfl
      | some found =>
          cases found with
          | list values =>
              cases values with
              | nil => rfl
              | cons value rest => exact unlessFault_bind_ok rfl
          | _ => rfl
  | _ => rfl

theorem violations_eq_nil_iff {value : Value} :
    violations value = [] ↔ value = .null ∨ value = .object (membersOf value) ∧
      entitiesViolations (given (membersOf value) .entities) = [] := by
  cases value <;> simp [violations, objectViolations, membersOf]

theorem schemaOf?_eq_none_iff {value : Value} :
    schemaOf? value = none ↔ listOf (given (membersOf value) .entities) = [] := by
  rw [schemaOf?]
  split <;> simp_all

theorem schemaOf?_eq_some_iff {value : Value} {schema : Schema} :
    schemaOf? value = some schema ↔ schema.entities ≠ [] ∧
      (listOf (given (membersOf value) .entities)).map entityOf = schema.entities := by
  cases schema with
  | mk entities =>
      rw [schemaOf?]
      cases listOf (given (membersOf value) .entities) with
      | nil => simp +contextual [eq_comm]
      | cons value rest =>
          rw [Option.some.injEq, Schema.mk.injEq, iff_and_self]
          rintro rfl
          exact List.cons_ne_nil _ _

theorem entities_nil_iff {found : Option Value} :
    (entitiesViolations found = [] ∧ listOf found = []) ↔ IsList found [] := by
  cases found with
  | none => simp [entitiesViolations, listOf, IsList]
  | some value =>
      cases value with
      | list values =>
          simp only [entitiesViolations, listOf, IsList, Option.some.injEq, Value.list.injEq,
            reduceCtorEq, false_and, or_false, and_iff_right_iff_imp]
          rintro rfl
          rfl
      | _ => simp [entitiesViolations, IsList]

theorem entities_iff {found : Option Value} {entities : List Entity} (hne : entities ≠ []) :
    (entitiesViolations found = [] ∧ (listOf found).map entityOf = entities) ↔
      ∃ values, found = some (.list values) ∧ List.Forall₂ DeclaresEntity values entities := by
  cases found with
  | none => simp [listOf, hne.symm]
  | some value =>
      cases value with
      | list values => simp [entitiesViolations, listOf, each_iff entity_iff]
      | _ => simp [entitiesViolations]

theorem nothing_iff (value : Value) :
    (violations value = [] ∧ schemaOf? value = none) ↔ DeclaresNothing value := by
  rw [violations_eq_nil_iff, schemaOf?_eq_none_iff, DeclaresNothing]
  constructor
  · rintro ⟨rfl | ⟨hObject, hNone⟩, hEmpty⟩
    · exact .inl rfl
    · exact .inr ⟨hObject, entities_nil_iff.mp ⟨hNone, hEmpty⟩⟩
  · rintro (rfl | ⟨hObject, hList⟩)
    · exact ⟨.inl rfl, rfl⟩
    · obtain ⟨hNone, hEmpty⟩ := entities_nil_iff.mpr hList
      exact ⟨.inr ⟨hObject, hNone⟩, hEmpty⟩

theorem schema_iff (value : Value) (schema : Schema) :
    (violations value = [] ∧ schemaOf? value = some schema) ↔ Declares value schema := by
  rw [violations_eq_nil_iff, schemaOf?_eq_some_iff]
  constructor
  · rintro ⟨rfl | ⟨hObject, hNone⟩, hne, hEntities⟩
    · exact absurd hEntities.symm hne
    · exact ⟨hObject, hne, (entities_iff hne).mp ⟨hNone, hEntities⟩⟩
  · rintro ⟨hObject, hne, hDeclared⟩
    obtain ⟨hNone, hEntities⟩ := (entities_iff hne).mpr hDeclared
    exact ⟨.inr ⟨hObject, hNone⟩, hne, hEntities⟩

end Document

namespace Schema

open Document

theorem load_of_read {document : Text} {value : Value} (hRead : Json.read document = .ok value) :
    load (some document) =
      unlessFault ((violations value).head?.map .document) (schemaOf? value) := by
  simp only [load, Json.not_isBlank_of_read hRead, hRead, readSchema_eq]
  cases (violations value).head? <;> rfl

/-- A schema that is loaded is declared by a value. -/
theorem declares_of_load {document : Option Text} {schema : Schema}
    (h : load document = .ok (some schema)) : ∃ value, Declares value schema := by
  cases document with
  | none => cases h
  | some document =>
      cases hRead : Json.read document with
      | error fault =>
          rw [load, hRead] at h
          split at h <;> cases h
      | ok value =>
          rw [load_of_read hRead, unlessFault_eq_ok_iff, Option.map_eq_none_iff,
            List.head?_eq_none_iff, schema_iff] at h
          exact ⟨value, h⟩

theorem entities_ne_nil_of_load {document : Option Text} {schema : Schema}
    (h : load document = .ok (some schema)) : schema.entities ≠ [] :=
  let ⟨_, hDeclares⟩ := declares_of_load h
  hDeclares.entities_ne

/-- Loading a document gives no schema exactly if its value declares nothing, the schema that its
value declares, and otherwise the first violation. -/
theorem load_outcome {document : Text} {value : Value} (hRead : Json.read document = .ok value) :
    (load (some document) = .ok none ↔ DeclaresNothing value) ∧
      (∀ schema, load (some document) = .ok (some schema) ↔ Declares value schema) ∧
      ∀ fault, load (some document) = .error fault ↔
        ∃ violation, (violations value).head? = some violation ∧ fault = .document violation := by
  rw [load_of_read hRead]
  refine ⟨?_, fun schema => ?_, fun fault => ?_⟩
  · rw [unlessFault_eq_ok_iff, Option.map_eq_none_iff, List.head?_eq_none_iff, nothing_iff]
  · rw [unlessFault_eq_ok_iff, Option.map_eq_none_iff, List.head?_eq_none_iff, schema_iff]
  · cases (violations value).head? <;> simp [eq_comm]

/-- A document with a property whose name is a number and whose type is missing. -/
def namelessDocument : Text :=
  text ("\x7b\"entities\":[\x7b\"name\":\"A\",\"tableName\":\"As\"," ++
    "\"Properties\":[\x7b\"name\":1\x7d]\x7d]\x7d")

/-- The first of the two violations is reported. -/
theorem load_outcome_namelessDocument :
    ∃ value, Json.read namelessDocument = .ok value ∧
      violations value = [.notString (.property 0 0) .name .number,
        .missing (.property 0 0) .type] ∧
      load (some namelessDocument) =
        .error (.document (.notString (.property 0 0) .name .number)) := by
  have hRead : Json.read namelessDocument = .ok (.object [(text "entities", .list [.object [
      (text "name", .string (text "A")),
      (text "tableName", .string (text "As")),
      (text "Properties", .list [.object [(text "name", .int 1)]])]])]) := by
    cbv
  exact ⟨_, hRead, by cbv, ((load_outcome hRead).2.2 _).mpr ⟨_, by cbv, rfl⟩⟩

end Schema

end EntityForge
