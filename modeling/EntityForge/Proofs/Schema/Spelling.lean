import EntityForge.Proofs.Json.Blank
import EntityForge.Proofs.Json.Grammar
import EntityForge.Schema.Document
import Mathlib

/-! # Fields that are written more than once

A field can be written more than once in an object, in spellings that differ in case.  The value
that counts is not that of the last member of all: the reader keeps each spelling at its first
place, with its last value, and then the last place wins.  So the loader takes the spelling that was
mentioned for the first time latest, and of its members the last (`load_of_isWritten`).  That is the
last member of all exactly if no other spelling came up after the first mention of its own one
(`newestSpelling?_eq_lastSpelling?_iff`).

`settled rule` leaves one member per field in each object, the one that a rule picks.  The loader
only ever asks a node for its fields, so two forms of an object in which the same members are picked
are read alike (`readSchema_rebuilt`); that is shown reader by reader, up from the fields.
-/

namespace EntityForge.Document

/-! ### Spellings -/

/-- The last spelling of a field among names. -/
def lastSpelling? (field : Field) (names : List Text) : Option Text :=
  names.reverse.find? fun name => name.lower = field.key

/-- The spelling of a field that is mentioned for the first time latest. -/
def newestSpelling? (field : Field) (names : List Text) : Option Text :=
  lastSpelling? field names.eraseDups

/-- No spelling of the field is mentioned for the first time after the one that comes last is. -/
def InOrder (field : Field) (names : List Text) : Prop :=
  ∀ spelling, lastSpelling? field names = some spelling →
    ∀ name ∈ names, name.lower = field.key → names.idxOf name ≤ names.idxOf spelling

section

variable {field : Field} {names : List Text} {spelling : Text}

theorem lastSpelling?_concat (front : List Text) (name : Text) :
    lastSpelling? field (front ++ [name]) =
      if name.lower = field.key then some name else lastSpelling? field front := by
  rw [lastSpelling?, List.reverse_append, List.reverse_singleton, List.singleton_append,
    List.find?_cons]
  by_cases h : name.lower = field.key <;> simp [h, lastSpelling?]

theorem newestSpelling?_concat (front : List Text) (name : Text) :
    newestSpelling? field (front ++ [name]) =
      if name ∉ front ∧ name.lower = field.key then some name else newestSpelling? field front := by
  rw [newestSpelling?, List.eraseDups_append]
  by_cases hOld : name ∈ front
  · have hNone : [name].removeAll front = [] := by simp [List.removeAll, hOld]
    rw [hNone, List.eraseDups_nil, List.append_nil, if_neg (fun h => h.1 hOld), newestSpelling?]
  · have hNew : [name].removeAll front = [name] := by simp [List.removeAll, hOld]
    have hOne : [name].eraseDups = [name] := rfl
    rw [hNew, hOne, lastSpelling?_concat]
    simp only [hOld, not_false_eq_true, true_and, newestSpelling?]

theorem lower_of_lastSpelling? (h : lastSpelling? field names = some spelling) :
    spelling ∈ names ∧ spelling.lower = field.key := by
  have hMem : spelling ∈ names.reverse := List.mem_of_find?_eq_some h
  exact ⟨List.mem_reverse.mp hMem, by simpa using List.find?_some h⟩

theorem lastSpelling?_eq_none_iff :
    lastSpelling? field names = none ↔ ∀ name ∈ names, name.lower ≠ field.key := by
  rw [lastSpelling?, List.find?_eq_none]
  simp

/-- The newest spelling is the one with the greatest index of a first mention. -/
theorem idxOf_le_of_newestSpelling? (h : newestSpelling? field names = some spelling) :
    ∀ name ∈ names, name.lower = field.key → names.idxOf name ≤ names.idxOf spelling := by
  induction names using List.reverseRecOn with
  | nil => simp
  | append_singleton front last ih =>
      intro name hName hField
      have hIndex := List.idxOf_le_length (a := name) (l := front)
      rw [newestSpelling?_concat] at h
      by_cases hLast : last ∉ front ∧ last.lower = field.key
      · rw [if_pos hLast, Option.some.injEq] at h
        subst h
        rw [List.idxOf_append_of_notMem hLast.1, List.idxOf_cons_self]
        by_cases hOld : name ∈ front
        · rw [List.idxOf_append_of_mem hOld]
          omega
        · have hSame : name = last := by simpa [hOld] using hName
          subst hSame
          have hSelf : (front ++ [name]).idxOf name = front.length + 0 := by
            rw [List.idxOf_append_of_notMem hLast.1, List.idxOf_cons_self]
          exact Nat.le_of_eq hSelf
      · rw [if_neg hLast] at h
        have hMem : spelling ∈ front :=
          List.mem_eraseDups.mp (lower_of_lastSpelling? h).1
        have hOld : name ∈ front := by
          by_contra hNew
          have hSame : name = last := by simpa [hNew] using hName
          subst hSame
          exact hLast ⟨hNew, hField⟩
        rw [List.idxOf_append_of_mem hOld, List.idxOf_append_of_mem hMem]
        exact ih h name hOld hField

/-- The newest spelling comes last exactly if no other spelling came up after its first mention. -/
theorem newestSpelling?_eq_lastSpelling?_iff (field : Field) (names : List Text) :
    newestSpelling? field names = lastSpelling? field names ↔ InOrder field names := by
  constructor
  · intro h spelling hLast
    exact idxOf_le_of_newestSpelling? (h.trans hLast)
  · intro h
    cases hNewest : newestSpelling? field names with
    | none =>
        have hNone := lastSpelling?_eq_none_iff.mp hNewest
        refine (lastSpelling?_eq_none_iff.mpr fun name hName => ?_).symm
        exact hNone name (List.mem_eraseDups.mpr hName)
    | some newest =>
        obtain ⟨hMem, hField⟩ := lower_of_lastSpelling? hNewest
        rw [List.mem_eraseDups] at hMem
        cases hLast : lastSpelling? field names with
        | none => exact absurd hField (lastSpelling?_eq_none_iff.mp hLast newest hMem)
        | some last =>
            obtain ⟨hLastMem, hLastField⟩ := lower_of_lastSpelling? hLast
            have hBack := idxOf_le_of_newestSpelling? hNewest last hLastMem hLastField
            have hForth := h last hLast newest hMem hField
            rw [Option.some.injEq]
            exact (List.idxOf_inj hMem).mp (Nat.le_antisymm hForth hBack)

end

/-! ### What is picked -/

/-- A rule that says which spelling of a field counts, the names of the members being given. -/
abbrev SpellingRule := Field → List Text → Option Text

/-- What a rule picks for a field: the value of the last member with the spelling that counts. -/
def picked (rule : SpellingRule) (members : Entries Value) (field : Field) : Option Value :=
  (rule field members.names).bind (Entries.last? members)

/-- The last spelling picks the value of the last member whose name in lower case is that of the
field. -/
theorem picked_lastSpelling? (members : Entries Value) (field : Field) :
    picked lastSpelling? members field =
      (members.reverse.find? fun member => member.1.lower = field.key).map Prod.snd :=
  (Entries.find?_reverse_eq members fun name => decide (name.lower = field.key)).symm

theorem picked_rebuiltMembers (rule : SpellingRule) (form : Entries Value → Entries Value)
    (members : Entries Value) (field : Field) :
    picked rule (Value.rebuiltMembers form members) field =
      (picked rule members field).map (Value.rebuilt form) := by
  rw [picked, picked, Value.names_rebuiltMembers, Value.rebuiltMembers_eq_map, Option.map_bind]
  congr 1
  funext spelling
  exact Entries.last?_map members (Value.rebuilt form) spelling

/-- A form in which a node has for each field what a rule picks from the members. -/
def Selects (form : Entries Value → Entries Value) (rule : SpellingRule) : Prop :=
  ∀ members field, Entries.lookup? (Node.ofMembers (form members)) field.key =
    picked rule members field

theorem lookup?_ofMembers (members : Entries Value) (field : Field) :
    Entries.lookup? (Node.ofMembers members) field.key = picked lastSpelling? members field := by
  rw [Node.ofMembers, Entries.lookup?_ofPairs, picked_lastSpelling?, Entries.last?,
    ← List.map_reverse, List.find?_map, Option.map_map]
  rfl

/-- A collapsed object is read by the newest spellings. -/
theorem selects_ofPairs : Selects Entries.ofPairs newestSpelling? := by
  intro members field
  have hNone : (Entries.names ([] : Entries Value)).Nodup := List.nodup_nil
  have hNodup : (Entries.ofPairs members).names.Nodup := Entries.nodup_names_putAll hNone members
  have hLast : Entries.last? (Entries.ofPairs members) = Entries.last? members := by
    funext spelling
    rw [Entries.last?_eq_lookup?_of_nodup hNodup, Entries.lookup?_ofPairs]
  rw [lookup?_ofMembers, picked, picked, Entries.names_ofPairs, hLast, newestSpelling?]

/-- The fields that a document is read for, in the order of declaration. -/
def Field.all : List Field :=
  [.entities, .properties, .name, .tableName, .type, .isPrimaryKey, .isRequired, .maxLength,
    .precision, .scale]

theorem Field.mem_all (field : Field) : field ∈ Field.all := by
  cases field <;> decide

theorem Field.key_injective : Function.Injective Field.key := by
  have hNodup : (Field.all.map Field.key).Nodup := by decide +kernel
  intro f g h
  exact List.inj_on_of_nodup_map hNodup (Field.mem_all f) (Field.mem_all g) h

theorem Field.lower_key (field : Field) : field.key.lower = field.key := by
  cases field <;> decide +kernel

/-- An object that has one member for each field, with the value that a rule picks. -/
def settle (rule : SpellingRule) (members : Entries Value) : Entries Value :=
  Field.all.filterMap fun field => (picked rule members field).map fun value => (field.key, value)

/-- The last value under the key of a field, in an object made of fields, is the one found for
it. -/
theorem last?_filterMap_key (found : Field → Option Value) (fields : List Field) (field : Field) :
    Entries.last? (fields.filterMap fun f => (found f).map fun value => (f.key, value)) field.key =
      if field ∈ fields then found field else none := by
  induction fields with
  | nil => rfl
  | cons first rest ih =>
      rw [List.filterMap_cons]
      by_cases hFirst : first = field
      · subst hFirst
        cases hFound : found first with
        | none =>
            rw [Option.map_none, ih, hFound]
            simp
        | some value =>
            rw [Option.map_some, Entries.last?_cons, ih, hFound]
            by_cases hRest : first ∈ rest <;> simp [hRest]
      · have hKey : first.key ≠ field.key := fun h => hFirst (Field.key_injective h)
        have hMem : field ∈ first :: rest ↔ field ∈ rest := by simp [Ne.symm hFirst]
        simp only [hMem]
        cases found first with
        | none => exact ih
        | some value =>
            rw [Option.map_some, Entries.last?_cons, ih, if_neg hKey, Option.or_none]

theorem selects_settle (rule : SpellingRule) : Selects (settle rule) rule := by
  intro members field
  have hLower : (settle rule members).map (fun member => (member.1.lower, member.2)) =
      settle rule members := by
    have hSame : ∀ member ∈ settle rule members, (member.1.lower, member.2) = member := by
      intro member hMember
      obtain ⟨f, -, hFound⟩ := List.mem_filterMap.mp hMember
      obtain ⟨value, -, rfl⟩ := Option.map_eq_some_iff.mp hFound
      rw [Field.lower_key]
    exact (List.map_congr_left hSame).trans (List.map_id' _)
  rw [Node.ofMembers, hLower, Entries.lookup?_ofPairs, settle, last?_filterMap_key,
    if_pos (Field.mem_all field)]

/-! ### Reading what is rebuilt -/

section

variable {f g : Entries Value → Entries Value} {rule : SpellingRule} (hf : Selects f rule)
  (hg : Selects g rule)

/-- Two nodes find for each field what is rebuilt from one value. -/
def Alike (f g : Entries Value → Entries Value) (node other : Node) : Prop :=
  ∀ field : Field, ∃ found : Option Value, node.field? field = found.map (Value.rebuilt f) ∧
    other.field? field = found.map (Value.rebuilt g)

include hf in
theorem field?_rebuilt (members : Entries Value) (field : Field) :
    (Node.ofMembers (f (Value.rebuiltMembers f members))).field? field =
      ((picked rule members field).filter fun value => Kind.of value ≠ .null).map
        (Value.rebuilt f) := by
  rw [Node.field?, hf, picked_rebuiltMembers]
  cases picked rule members field with
  | none => rfl
  | some value => cases value <;> rfl

include hf hg in
theorem alike_rebuilt (members : Entries Value) :
    Alike f g (Node.ofMembers (f (Value.rebuiltMembers f members)))
      (Node.ofMembers (g (Value.rebuiltMembers g members))) := fun field =>
  ⟨_, field?_rebuilt hf members field, field?_rebuilt hg members field⟩

section

variable {node other : Node} (h : Alike f g node other)

include h

theorem requiredString_congr (place : Place) (field : Field) :
    requiredString place node field = requiredString place other field := by
  obtain ⟨found, hNode, hOther⟩ := h field
  rw [requiredString, requiredString, hNode, hOther]
  cases found with
  | none => rfl
  | some value => cases value <;> rfl

theorem optionalBool_congr (place : Place) (field : Field) :
    optionalBool place node field = optionalBool place other field := by
  obtain ⟨found, hNode, hOther⟩ := h field
  rw [optionalBool, optionalBool, hNode, hOther]
  cases found with
  | none => rfl
  | some value => cases value <;> rfl

theorem optionalBound_congr (place : Place) (field : Field) (minimum : Int) :
    optionalBound place node field minimum = optionalBound place other field minimum := by
  obtain ⟨found, hNode, hOther⟩ := h field
  rw [optionalBound, optionalBound, optionalInt, optionalInt, hNode, hOther]
  cases found with
  | none => rfl
  | some value => cases value <;> rfl

/-- The properties of an entity are refused for one reason, or rebuilt from the same values. -/
theorem propertyValues_congr (place : Place) :
    (∃ fault, propertyValues place node = .error fault ∧
      propertyValues place other = .error fault) ∨
    ∃ values : List Value, propertyValues place node = .ok (values.map (Value.rebuilt f)) ∧
      propertyValues place other = .ok (values.map (Value.rebuilt g)) := by
  obtain ⟨found, hNode, hOther⟩ := h .properties
  rw [propertyValues, propertyValues, hNode, hOther]
  cases found with
  | none => exact .inr ⟨[], rfl, rfl⟩
  | some value =>
      cases value with
      | list values =>
          refine .inr ⟨values, ?_, ?_⟩
          · rw [← Value.rebuiltItems_eq_map]
            rfl
          · rw [← Value.rebuiltItems_eq_map]
            rfl
      | _ => exact .inl ⟨_, rfl, rfl⟩

end

/-- Lists whose items are read alike are read alike. -/
theorem readEach_congr {α : Type} {readItem : Nat → Value → Except Fault α}
    {image other : Value → Value}
    (h : ∀ i value, readItem i (image value) = readItem i (other value))
    (first : Nat) (values : List Value) :
    readEach readItem first (values.map image) = readEach readItem first (values.map other) := by
  induction values generalizing first with
  | nil => rfl
  | cons value rest ih => rw [List.map_cons, List.map_cons, readEach, readEach, h, ih]

include hf hg

theorem readProperty_rebuilt (entity index : Nat) (value : Value) :
    readProperty entity index (value.rebuilt f) = readProperty entity index (value.rebuilt g) := by
  cases value with
  | object members =>
      have hAlike := alike_rebuilt hf hg members
      simp only [readProperty, Value.rebuilt, nodeOf, requiredString_congr hAlike,
        optionalBool_congr hAlike, optionalBound_congr hAlike, bind, Except.bind]
  | _ => rfl

theorem readEntity_rebuilt (index : Nat) (value : Value) :
    readEntity index (value.rebuilt f) = readEntity index (value.rebuilt g) := by
  cases value with
  | object members =>
      have hAlike := alike_rebuilt hf hg members
      rcases propertyValues_congr hAlike (.entity index) with
        ⟨fault, hNode, hOther⟩ | ⟨values, hNode, hOther⟩
      · simp only [readEntity, Value.rebuilt, nodeOf, hNode, hOther, bind, Except.bind]
      · have hEach := readEach_congr (readProperty_rebuilt hf hg index) 0 values
        simp only [readEntity, Value.rebuilt, nodeOf, hNode, hOther, requiredString_congr hAlike,
          hEach, bind, Except.bind]
  | _ => rfl

/-- Forms in which the same members are picked are read alike. -/
theorem readSchema_rebuilt (value : Value) :
    readSchema (value.rebuilt f) = readSchema (value.rebuilt g) := by
  cases value with
  | object members =>
      obtain ⟨found, hNode, hOther⟩ := alike_rebuilt hf hg members .entities
      simp only [readSchema, Value.rebuilt, nodeOf, hNode, hOther, bind, Except.bind]
      cases found with
      | none => rfl
      | some entities =>
          cases entities with
          | list values =>
              cases values with
              | nil => rfl
              | cons first rest =>
                  have hEach := readEach_congr (readEntity_rebuilt hf hg) 0 (first :: rest)
                  simp only [Option.map_some, Value.rebuilt, Value.rebuiltItems_eq_map,
                    List.map_cons] at hEach ⊢
                  rw [hEach]
          | _ => rfl
  | _ => rfl

end

/-! ### The document as it is written -/

/-- The members of an object stand in a value, at any depth. -/
inductive Occurs (members : Entries Value) : Value → Prop
  | here : Occurs members (.object members)
  | item {items : List Value} {value : Value} (hValue : value ∈ items)
      (hOccurs : Occurs members value) : Occurs members (.list items)
  | member {others : Entries Value} {name : Text} {value : Value} (hValue : (name, value) ∈ others)
      (hOccurs : Occurs members value) : Occurs members (.object others)

/-- A value in which every object has one member for each field, with the value that a rule
picks. -/
def settled (rule : SpellingRule) : Value → Value := Value.rebuilt (settle rule)

theorem settle_congr {rule other : SpellingRule} {members : Entries Value}
    (h : ∀ field, rule field members.names = other field members.names) :
    settle rule members = settle other members := by
  have hPicked : ∀ field, picked rule members field = picked other members field := by
    intro field
    rw [picked, picked, h]
  simp only [settle, hPicked]

/-- Rules that pick the same spellings in every object settle a value in the same way. -/
theorem settled_congr {rule other : SpellingRule} (value : Value)
    (h : ∀ members, Occurs members value → ∀ field,
      rule field members.names = other field members.names) :
    settled rule value = settled other value := by
  match value with
  | .list items =>
      have hItems : ∀ item ∈ items, settled rule item = settled other item := by
        intro item hItem
        exact settled_congr item fun members hOccurs => h members (.item hItem hOccurs)
      rw [settled, Value.rebuilt, settled, Value.rebuilt, Value.rebuiltItems_eq_map,
        Value.rebuiltItems_eq_map]
      exact congrArg Value.list (List.map_congr_left hItems)
  | .object members =>
      have hValues : Value.rebuiltMembers (settle rule) members =
          Value.rebuiltMembers (settle other) members := by
        rw [Value.rebuiltMembers_eq_map, Value.rebuiltMembers_eq_map]
        refine List.map_congr_left fun member hMember => ?_
        obtain ⟨name, value⟩ := member
        have hValue := settled_congr value fun others hOccurs => h others (.member hMember hOccurs)
        exact congrArg (Prod.mk name) hValue
      have hNames := Value.names_rebuiltMembers (settle other) members
      rw [settled, Value.rebuilt, settled, Value.rebuilt, hValues]
      refine congrArg Value.object (settle_congr fun field => ?_)
      rw [hNames]
      exact h members .here field
  | .null => rfl
  | .bool _ => rfl
  | .int _ => rfl
  | .float _ => rfl
  | .string _ => rfl
termination_by sizeOf value
decreasing_by
  · have hSize := List.sizeOf_lt_of_mem hItem
    simp only [Value.list.sizeOf_spec]
    omega
  · have hSize := Value.sizeOf_lt_of_mem hMember
    simp only [Value.object.sizeOf_spec]
    omega

/-- A document is loaded as if each object had one member for each field: the last one of its newest
spelling.  That is the last member for the field, of all spellings, exactly if the object is in
order; and if all objects are, the document is loaded as if the last members were the only ones. -/
theorem load_of_isWritten {document : Text} {written : Value}
    (h : Json.IsWritten document written) :
    Schema.load (some document) =
        (readSchema (settled newestSpelling? written)).mapError .document ∧
      (∀ members, Occurs members written → ∀ field,
        (newestSpelling? field members.names = lastSpelling? field members.names ↔
          InOrder field members.names)) ∧
      ((∀ members, Occurs members written → ∀ field, InOrder field members.names) →
        Schema.load (some document) =
          (readSchema (settled lastSpelling? written)).mapError .document) := by
  have hRead : Json.read document = .ok written.collapsed :=
    Json.read_eq_ok_iff.mpr ⟨written, h, rfl⟩
  have hLoad : Schema.load (some document) =
      (readSchema (settled newestSpelling? written)).mapError .document := by
    rw [Schema.load, if_neg (by simp [Json.not_isBlank_of_read hRead]), hRead]
    have hAlike := readSchema_rebuilt selects_ofPairs (selects_settle newestSpelling?) written
    exact congrArg (Except.mapError Schema.LoadFault.document) hAlike
  refine ⟨hLoad,
    fun members _ field => newestSpelling?_eq_lastSpelling?_iff field members.names, ?_⟩
  intro hOrder
  rw [hLoad]
  have hSettled : settled newestSpelling? written = settled lastSpelling? written := by
    refine settled_congr written fun members hOccurs field => ?_
    exact (newestSpelling?_eq_lastSpelling?_iff field members.names).mpr
      (hOrder members hOccurs field)
  rw [hSettled]

/-- A document that gives its entities three times, in two spellings. -/
def respelledDocument : Text :=
  text "\x7b\"entities\":[],\"Entities\":\x7b\x7d,\"entities\":[]\x7d"

/-- What is written in that document. -/
def respelledMembers : Entries Value :=
  [(text "entities", .list []), (text "Entities", .object []), (text "entities", .list [])]

theorem isWritten_respelledDocument :
    Json.IsWritten respelledDocument (.object respelledMembers) := by
  have hPlain : ∀ name ∈ [text "entities", text "Entities"], ∀ p ∈ name,
      p ≠ .char '"' ∧ p ≠ .char '\\' ∧ 0x1F < p.toNat := by decide
  have hLower {rest : Text} (hRest : Json.skipSpace rest = rest) :=
    Json.names_plain (hPlain (text "entities") (by simp)) hRest
  have hUpper {rest : Text} (hRest : Json.skipSpace rest = rest) :=
    Json.names_plain (hPlain (text "Entities") (by simp)) hRest
  have hList (rest : Text) : Json.Spells (.char '[' :: .char ']' :: rest) (.list []) rest :=
    .noItems rfl
  have hObject (rest : Text) :
      Json.Spells (.char '\x7b' :: .char '\x7d' :: rest) (.object []) rest := .noMembers rfl
  have hThird : Json.SpellsMembers (text "\"entities\":[]\x7d") [(text "entities", .list [])] [] :=
    .last (hLower rfl) (hList [.char '\x7d']) rfl
  have hSecond : Json.SpellsMembers (text "\"Entities\":\x7b\x7d,\"entities\":[]\x7d")
      [(text "Entities", .object []), (text "entities", .list [])] [] :=
    .more (hUpper rfl) (hObject (.char ',' :: text "\"entities\":[]\x7d")) rfl hThird
  have hFirst : Json.SpellsMembers
      (text "\"entities\":[],\"Entities\":\x7b\x7d,\"entities\":[]\x7d") respelledMembers [] :=
    .more (hLower rfl)
      (hList (.char ',' :: text "\"Entities\":\x7b\x7d,\"entities\":[]\x7d")) rfl hSecond
  exact ⟨by simp [respelledDocument, text], [], .members hFirst, rfl⟩

/-- This document is loaded by the last member of the newest spelling. -/
theorem load_of_isWritten_respelledDocument :
    Json.IsWritten respelledDocument (.object respelledMembers) ∧
      Schema.load (some respelledDocument) =
        (readSchema (settled newestSpelling? (.object respelledMembers))).mapError .document :=
  ⟨isWritten_respelledDocument, (load_of_isWritten isWritten_respelledDocument).1⟩

/-- It is refused for the value of the member before the last, though the last one is an empty
list. -/
theorem load_respelledDocument :
    ∃ written, Json.IsWritten respelledDocument written ∧
      Schema.load (some respelledDocument) = .error (.document (.entitiesNotList .object)) ∧
      (readSchema (settled lastSpelling? written)).mapError Schema.LoadFault.document =
        .ok none := by
  have hLoad : Schema.load (some respelledDocument) =
      .error (.document (.entitiesNotList .object)) := by cbv
  exact ⟨_, isWritten_respelledDocument, hLoad, by cbv⟩

end EntityForge.Document
