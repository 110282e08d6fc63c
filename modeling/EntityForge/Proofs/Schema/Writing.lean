import EntityForge.Proofs.Schema.Shape

/-! # Writings of a schema

One schema can be written down in many ways: a field may be spelled in any case, members may come in
any order and among any others, and a field that has its default may be written out, written as
null or left out.  `Writes` says which values are writings of a schema, in the words of the one who
writes.  Loading any of them gives the schema back (`load_of_writes`).

The proof runs on one fact about the members of an object.  If no two names are equal in lower case,
the member that gives a field is the only one that the reader can find under it (`found_of_gives`),
wherever it stands and whatever stands beside it; so what is written for a field is what is read
for it, field by field and level by level.
-/

namespace EntityForge

namespace Document

/-! ### Members -/

/-- One of the members gives the field that value, under the name of the field in whatever case. -/
def Gives (members : Entries Value) (field : Field) (value : Value) : Prop :=
  ∃ spelling, spelling.lower = field.key ∧ (spelling, value) ∈ members

/-- The field is left open: it is written as null, or no member has its name. -/
def LeavesOpen (members : Entries Value) (field : Field) : Prop :=
  Gives members field .null ∨ ∀ member ∈ members, member.1.lower ≠ field.key

/-- No two members have names that are equal in lower case. -/
def AreDistinct (members : Entries Value) : Prop :=
  (members.map fun member => member.1.lower).Nodup

/-- A truth value that is false by default, as it is written. -/
def GivesFlag (members : Entries Value) (field : Field) (b : Bool) : Prop :=
  Gives members field (.bool b) ∨ (b = false ∧ LeavesOpen members field)

/-- A bound that there need not be, as it is written. -/
def GivesBound (members : Entries Value) (field : Field) (bound : Option Bound) : Prop :=
  (∃ n, bound = some (.number n) ∧ Gives members field (.int n)) ∨
    (bound = none ∧ LeavesOpen members field)

/-- A list that is empty by default, as it is written. -/
def GivesList (members : Entries Value) (field : Field) (values : List Value) : Prop :=
  Gives members field (.list values) ∨ (values = [] ∧ LeavesOpen members field)

section

variable {members : Entries Value} {field : Field} {value : Value}

/-- The member that gives a field is the one that is found under it. -/
theorem found_of_gives (hDistinct : AreDistinct members) (h : Gives members field value) :
    (members.reverse.find? fun member => member.1.lower = field.key).map Prod.snd = some value := by
  obtain ⟨spelling, hSpelling, hMember⟩ := h
  cases hFound : members.reverse.find? fun member => member.1.lower = field.key with
  | none =>
      have hNone := List.find?_eq_none.mp hFound (spelling, value) (List.mem_reverse.mpr hMember)
      simp [hSpelling] at hNone
  | some member =>
      have hName : member.1.lower = field.key := by simpa using List.find?_some hFound
      have hMem : member ∈ members := List.mem_reverse.mp (List.mem_of_find?_eq_some hFound)
      have hSame : member = (spelling, value) :=
        List.inj_on_of_nodup_map hDistinct hMem hMember (hName.trans hSpelling.symm)
      rw [hSame, Option.map_some]

theorem given_of_gives (hDistinct : AreDistinct members) (h : Gives members field value)
    (hne : value ≠ .null) : given members field = some value := by
  rw [given, found_of_gives hDistinct h]
  cases value with
  | null => exact absurd rfl hne
  | _ => rfl

theorem given_of_leavesOpen (hDistinct : AreDistinct members) (h : LeavesOpen members field) :
    given members field = none := by
  rw [given]
  rcases h with hNull | hAbsent
  · rw [found_of_gives hDistinct hNull]
  · have hNone : (members.reverse.find? fun member => member.1.lower = field.key) = none := by
      refine List.find?_eq_none.mpr fun member hMember => ?_
      simpa using hAbsent member (List.mem_reverse.mp hMember)
    rw [hNone, Option.map_none]

theorem isFlag_of_gives {b : Bool} (hDistinct : AreDistinct members)
    (h : GivesFlag members field b) : IsFlag (given members field) b := by
  rcases h with hGives | ⟨hDefault, hOpen⟩
  · exact .inl (given_of_gives hDistinct hGives (by simp))
  · exact .inr ⟨given_of_leavesOpen hDistinct hOpen, hDefault⟩

theorem isBound_of_gives {minimum : Int} {bound : Option Bound} (hDistinct : AreDistinct members)
    (hLeast : ∀ b, bound = some b → ∃ n, minimum ≤ n ∧ b = .number n)
    (h : GivesBound members field bound) : IsBound minimum (given members field) bound := by
  rcases h with ⟨n, rfl, hGives⟩ | ⟨hNone, hOpen⟩
  · obtain ⟨m, hm, hSame⟩ := hLeast _ rfl
    cases hSame
    exact .inl ⟨n, hm, given_of_gives hDistinct hGives (by simp), rfl⟩
  · exact .inr ⟨given_of_leavesOpen hDistinct hOpen, hNone⟩

theorem isList_of_gives {values : List Value} (hDistinct : AreDistinct members)
    (h : GivesList members field values) : IsList (given members field) values := by
  rcases h with hGives | ⟨hEmpty, hOpen⟩
  · exact .inl (given_of_gives hDistinct hGives (by simp))
  · exact .inr ⟨given_of_leavesOpen hDistinct hOpen, hEmpty⟩

end

/-! ### Properties, entities and documents -/

/-- An object that is a writing of a property. What else its members are is left to the writer. -/
structure WritesProperty (value : Value) (p : Property) : Prop where
  isObject : value = .object (membersOf value)
  areDistinct : AreDistinct (membersOf value)
  name : Gives (membersOf value) .name (.string p.name)
  typeName : Gives (membersOf value) .type (.string p.typeName)
  isPrimaryKey : GivesFlag (membersOf value) .isPrimaryKey p.isPrimaryKey
  isRequired : GivesFlag (membersOf value) .isRequired p.isRequired
  maxLength : GivesBound (membersOf value) .maxLength p.maxLength
  precision : GivesBound (membersOf value) .precision p.precision
  scale : GivesBound (membersOf value) .scale p.scale

/-- An object that is a writing of an entity. -/
structure WritesEntity (value : Value) (e : Entity) : Prop where
  isObject : value = .object (membersOf value)
  areDistinct : AreDistinct (membersOf value)
  name : Gives (membersOf value) .name (.string e.name)
  tableName : Gives (membersOf value) .tableName (.string e.tableName)
  properties : ∃ values, GivesList (membersOf value) .properties values ∧
    List.Forall₂ WritesProperty values e.properties

/-- An object that is a writing of a schema. -/
structure Writes (value : Value) (schema : Schema) : Prop where
  isObject : value = .object (membersOf value)
  areDistinct : AreDistinct (membersOf value)
  entities : ∃ values, Gives (membersOf value) .entities (.list values) ∧
    List.Forall₂ WritesEntity values schema.entities

/-- A property whose bounds a document can give: whole numbers, not too small. -/
structure IsBounded (p : Property) : Prop where
  maxLength : ∀ bound, p.maxLength = some bound → ∃ n, 1 ≤ n ∧ bound = .number n
  precision : ∀ bound, p.precision = some bound → ∃ n, 0 ≤ n ∧ bound = .number n
  scale : ∀ bound, p.scale = some bound → ∃ n, 0 ≤ n ∧ bound = .number n

theorem forall₂_imp_of_mem {α β : Type} {R S : α → β → Prop} {as : List α} {bs : List β}
    (hImp : ∀ b ∈ bs, ∀ a, R a b → S a b) (h : List.Forall₂ R as bs) : List.Forall₂ S as bs := by
  induction h with
  | nil => exact .nil
  | cons hHead _ ih =>
      refine .cons (hImp _ List.mem_cons_self _ hHead) (ih fun b hb => ?_)
      exact hImp b (List.mem_cons_of_mem _ hb)

theorem declaresProperty_of_writes {value : Value} {p : Property} (hBounds : IsBounded p)
    (h : WritesProperty value p) : DeclaresProperty value p where
  isObject := h.isObject
  name := given_of_gives h.areDistinct h.name (by simp)
  typeName := given_of_gives h.areDistinct h.typeName (by simp)
  isPrimaryKey := isFlag_of_gives h.areDistinct h.isPrimaryKey
  isRequired := isFlag_of_gives h.areDistinct h.isRequired
  maxLength := isBound_of_gives h.areDistinct hBounds.maxLength h.maxLength
  precision := isBound_of_gives h.areDistinct hBounds.precision h.precision
  scale := isBound_of_gives h.areDistinct hBounds.scale h.scale

theorem declaresEntity_of_writes {value : Value} {e : Entity}
    (hBounds : ∀ p ∈ e.properties, IsBounded p) (h : WritesEntity value e) :
    DeclaresEntity value e := by
  obtain ⟨values, hValues, hWritten⟩ := h.properties
  exact {
    isObject := h.isObject
    name := given_of_gives h.areDistinct h.name (by simp)
    tableName := given_of_gives h.areDistinct h.tableName (by simp)
    properties := ⟨values, isList_of_gives h.areDistinct hValues,
      forall₂_imp_of_mem (fun p hp _ => declaresProperty_of_writes (hBounds p hp)) hWritten⟩ }

theorem declares_of_writes {value : Value} {schema : Schema} (hne : schema.entities ≠ [])
    (hBounds : ∀ e ∈ schema.entities, ∀ p ∈ e.properties, IsBounded p) (h : Writes value schema) :
    Declares value schema := by
  obtain ⟨values, hValues, hWritten⟩ := h.entities
  exact {
    isObject := h.isObject
    entities_ne := hne
    entities := ⟨values, given_of_gives h.areDistinct hValues (by simp),
      forall₂_imp_of_mem (fun e he _ => declaresEntity_of_writes (hBounds e he)) hWritten⟩ }

/-! ### The plain writing -/

/-- The member for a field under its own label. -/
def memberFor (field : Field) (value : Value) : Text × Value := (field.label, value)

/-- A bound written out. -/
def boundValue : Option Bound → Value
  | some (.number n) => .int n
  | _ => .null

/-- A property with all fields written out in order. -/
def plainProperty (p : Property) : Value := .object [
  memberFor .name (.string p.name), memberFor .type (.string p.typeName),
  memberFor .isPrimaryKey (.bool p.isPrimaryKey), memberFor .isRequired (.bool p.isRequired),
  memberFor .maxLength (boundValue p.maxLength), memberFor .precision (boundValue p.precision),
  memberFor .scale (boundValue p.scale)]

/-- An entity with all fields written out in order. -/
def plainEntity (e : Entity) : Value := .object [
  memberFor .name (.string e.name), memberFor .tableName (.string e.tableName),
  memberFor .properties (.list (e.properties.map plainProperty))]

/-- A schema with all fields written out in order. -/
def plainSchema (schema : Schema) : Value :=
  .object [memberFor .entities (.list (schema.entities.map plainEntity))]

theorem gives_of_memberFor_mem {members : Entries Value} {field : Field} {value : Value}
    (h : memberFor field value ∈ members) : Gives members field value := ⟨field.label, rfl, h⟩

theorem givesBound_of_memberFor_mem {members : Entries Value} {field : Field} {minimum : Int}
    {bound : Option Bound} (hLeast : ∀ b, bound = some b → ∃ n, minimum ≤ n ∧ b = .number n)
    (h : memberFor field (boundValue bound) ∈ members) : GivesBound members field bound := by
  cases bound with
  | none => exact .inr ⟨rfl, .inl (gives_of_memberFor_mem h)⟩
  | some b =>
      obtain ⟨n, _, rfl⟩ := hLeast b rfl
      exact .inl ⟨n, rfl, gives_of_memberFor_mem h⟩

theorem writesProperty_plain {p : Property} (hBounds : IsBounded p) :
    WritesProperty (plainProperty p) p where
  isObject := rfl
  areDistinct := by
    have hKeys : ([.name, .type, .isPrimaryKey, .isRequired, .maxLength, .precision,
        .scale] : List Field).map Field.key |>.Nodup := by decide +kernel
    exact hKeys
  name := gives_of_memberFor_mem (by simp [plainProperty, membersOf])
  typeName := gives_of_memberFor_mem (by simp [plainProperty, membersOf])
  isPrimaryKey := .inl (gives_of_memberFor_mem (by simp [plainProperty, membersOf]))
  isRequired := .inl (gives_of_memberFor_mem (by simp [plainProperty, membersOf]))
  maxLength := givesBound_of_memberFor_mem hBounds.maxLength (by simp [plainProperty, membersOf])
  precision := givesBound_of_memberFor_mem hBounds.precision (by simp [plainProperty, membersOf])
  scale := givesBound_of_memberFor_mem hBounds.scale (by simp [plainProperty, membersOf])

theorem writesEntity_plain {e : Entity} (hBounds : ∀ p ∈ e.properties, IsBounded p) :
    WritesEntity (plainEntity e) e where
  isObject := rfl
  areDistinct := by
    have hKeys : ([.name, .tableName, .properties] : List Field).map Field.key |>.Nodup := by
      decide +kernel
    exact hKeys
  name := gives_of_memberFor_mem (by simp [plainEntity, membersOf])
  tableName := gives_of_memberFor_mem (by simp [plainEntity, membersOf])
  properties := by
    refine ⟨e.properties.map plainProperty, .inl (gives_of_memberFor_mem ?_), ?_⟩
    · simp [plainEntity, membersOf]
    · refine List.forall₂_map_left_iff.mpr (List.forall₂_same.mpr fun p hp => ?_)
      exact writesProperty_plain (hBounds p hp)

/-- Every schema with bounds that a document can give has a writing. -/
theorem writes_plain {schema : Schema}
    (hBounds : ∀ e ∈ schema.entities, ∀ p ∈ e.properties, IsBounded p) :
    Writes (plainSchema schema) schema where
  isObject := rfl
  areDistinct := List.nodup_singleton _
  entities := by
    refine ⟨schema.entities.map plainEntity, gives_of_memberFor_mem ?_, ?_⟩
    · simp [plainSchema, membersOf]
    · refine List.forall₂_map_left_iff.mpr (List.forall₂_same.mpr fun e he => ?_)
      exact writesEntity_plain (hBounds e he)

end Document

namespace Schema

open Document

/-- Loading undoes writing: a schema with entities, and with bounds that a document can give, has a
writing, and every document that holds any of its writings is loaded as this very schema. -/
theorem load_of_writes {schema : Schema} (hne : schema.entities ≠ [])
    (hBounds : ∀ e ∈ schema.entities, ∀ p ∈ e.properties, IsBounded p) :
    (∃ value, Writes value schema) ∧
      ∀ value document, Writes value schema → Json.read document = .ok value →
        load (some document) = .ok (some schema) := by
  refine ⟨⟨plainSchema schema, writes_plain hBounds⟩, fun value document hWrites hRead => ?_⟩
  have hDeclares := declares_of_writes hne hBounds hWrites
  obtain ⟨hNone, hSchema⟩ := (schema_iff value schema).mpr hDeclares
  rw [load_of_read hRead, hNone, hSchema]
  rfl

/-- A schema of one entity with its key. -/
def tagSchema : Schema := ⟨[⟨text "Tag", text "Tags", [
  { name := text "Id", typeName := text "int", isPrimaryKey := true }]⟩]⟩

/-- A writing of the key: a Kelvin sign in a name, a field written as null and others left out. -/
def keyValue : Value := .object [
  (text "type", .string (text "int")), (text "isPrimary\u212Aey", .bool true),
  (text "maxLength", .null), (text "NAME", .string (text "Id"))]

/-- A writing of the entity: members in another order. -/
def tagEntityValue : Value := .object [
  (text "tableName", .string (text "Tags")), (text "Name", .string (text "Tag")),
  (text "properties", .list [keyValue])]

/-- A writing of the schema: capitals, and a member of its own. -/
def tagValue : Value := .object [
  (text "note", .list [.object [(text "name", .int 1)]]),
  (text "ENTITIES", .list [tagEntityValue])]

/-- A document that holds this writing. -/
def tagDocument : Text :=
  text ("\x7b\"note\":[\x7b\"name\":1\x7d],\"ENTITIES\":[\x7b\"tableName\":\"Tags\"," ++
    "\"Name\":\"Tag\",\"properties\":[\x7b\"type\":\"int\",\"isPrimary\u212Aey\":true," ++
    "\"maxLength\":null,\"NAME\":\"Id\"\x7d]\x7d]\x7d")

theorem writes_tagValue : Writes tagValue tagSchema := by
  have hKey : WritesProperty keyValue
      { name := text "Id", typeName := text "int", isPrimaryKey := true } := {
    isObject := rfl
    areDistinct := by unfold AreDistinct; decide +kernel
    name := ⟨text "NAME", by decide +kernel, by simp [keyValue, membersOf]⟩
    typeName := ⟨text "type", by decide +kernel, by simp [keyValue, membersOf]⟩
    isPrimaryKey :=
      .inl ⟨text "isPrimary\u212Aey", by decide +kernel, by simp [keyValue, membersOf]⟩
    isRequired := .inr ⟨rfl, .inr (by decide +kernel)⟩
    maxLength :=
      .inr ⟨rfl, .inl ⟨text "maxLength", by decide +kernel, by simp [keyValue, membersOf]⟩⟩
    precision := .inr ⟨rfl, .inr (by decide +kernel)⟩
    scale := .inr ⟨rfl, .inr (by decide +kernel)⟩ }
  have hEntity : WritesEntity tagEntityValue ⟨text "Tag", text "Tags", [
      { name := text "Id", typeName := text "int", isPrimaryKey := true }]⟩ := {
    isObject := rfl
    areDistinct := by unfold AreDistinct; decide +kernel
    name := ⟨text "Name", by decide +kernel, by simp [tagEntityValue, membersOf]⟩
    tableName := ⟨text "tableName", by decide +kernel, by simp [tagEntityValue, membersOf]⟩
    properties := ⟨[keyValue],
      .inl ⟨text "properties", by decide +kernel, by simp [tagEntityValue, membersOf]⟩,
      .cons hKey .nil⟩ }
  exact {
    isObject := rfl
    areDistinct := by unfold AreDistinct; decide +kernel
    entities := ⟨[tagEntityValue],
      ⟨text "ENTITIES", by decide +kernel, by simp [tagValue, membersOf]⟩, .cons hEntity .nil⟩ }

/-- The document is loaded as the schema. -/
theorem load_of_writes_tagDocument :
    tagSchema.entities ≠ [] ∧ (∀ e ∈ tagSchema.entities, ∀ p ∈ e.properties, IsBounded p) ∧
      load (some tagDocument) = .ok (some tagSchema) := by
  have hne : tagSchema.entities ≠ [] := List.cons_ne_nil _ _
  have hBounds : ∀ e ∈ tagSchema.entities, ∀ p ∈ e.properties, IsBounded p := by
    simp only [tagSchema, List.forall_mem_singleton]
    exact ⟨nofun, nofun, nofun⟩
  have hRead : Json.read tagDocument = .ok tagValue := by cbv
  exact ⟨hne, hBounds, (load_of_writes hne hBounds).2 _ _ writes_tagValue hRead⟩

end Schema

end EntityForge
