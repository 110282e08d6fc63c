import EntityForge.Proofs.CSharp.SheetNodes
import EntityForge.Proofs.CSharp.Verdict
import Mathlib.Data.List.Forall2
import Mathlib.Data.List.Perm.Basic
import Mathlib.Data.List.Perm.Subperm

/-! # Schemas in another order, and parts of schemas

The check goes through a schema in order, but what it comes to depends on the order only in what it
reports.  Two facts carry this.  Whatever is wrong with a part of a schema, taken in any order, is
wrong with the whole (`hasClash_of_isPartOf`, `exists_unrecognized_of_isPartOf`,
`exists_violation_of_isPartOf`): so a part of a schema that passes also passes, and two orders of
one schema, each a part of the other, fail alike.  And the cases in which a warning is due are those
of one entity after the other, so another order of a schema permutes them (`warningCases_perm`).
-/

namespace EntityForge

open List (Perm Subperm Forall₂)

/-! ### Orders and parts -/

/-- The same entity with its properties in another order. -/
structure Entity.Reorders (e other : Entity) : Prop where
  name : other.name = e.name
  tableName : other.tableName = e.tableName
  properties : Perm other.properties e.properties

/-- The same schema with its entities, and the properties of each, in another order. -/
def Schema.Reorders (schema other : Schema) : Prop :=
  ∃ moved, Perm moved schema.entities ∧ Forall₂ Entity.Reorders moved other.entities

/-- An entity with some of the properties of another, in any order. -/
structure Entity.IsPartOf (part e : Entity) : Prop where
  name : part.name = e.name
  tableName : part.tableName = e.tableName
  properties : Subperm part.properties e.properties

/-- A schema with some of the entities of another, and some of the properties of each, in any
order. -/
def Schema.IsPartOf (part schema : Schema) : Prop :=
  ∃ kept, Subperm kept schema.entities ∧ Forall₂ Entity.IsPartOf part.entities kept

namespace Entity.Reorders

variable {e other : Entity}

theorem isPartOf (h : e.Reorders other) : other.IsPartOf e :=
  ⟨h.name, h.tableName, h.properties.subperm⟩

theorem symm (h : e.Reorders other) : other.Reorders e :=
  ⟨h.name.symm, h.tableName.symm, h.properties.symm⟩

end Entity.Reorders

namespace Schema

variable {schema other part : Schema}

theorem Reorders.symm (h : schema.Reorders other) : other.Reorders schema := by
  obtain ⟨moved, hMoved, hEach⟩ := h
  obtain ⟨again, hAgain, hOther⟩ := List.perm_comp_forall₂ hMoved.symm hEach
  exact ⟨again, hOther, hAgain.flip.imp fun _ _ hEntity => Entity.Reorders.symm hEntity⟩

theorem Reorders.isPartOf (h : schema.Reorders other) : other.IsPartOf schema := by
  obtain ⟨moved, hMoved, hEach⟩ := h
  exact ⟨moved, hMoved.subperm, hEach.flip.imp fun _ _ hEntity => Entity.Reorders.isPartOf hEntity⟩

/-- What holds for one entity after the other is permuted with the entities. -/
theorem Reorders.flatMap {β : Type} {f : Entity → List β} (h : schema.Reorders other)
    (hEntity : ∀ e moved, e.Reorders moved → Perm (f moved) (f e)) :
    Perm (other.entities.flatMap f) (schema.entities.flatMap f) := by
  obtain ⟨moved, hMoved, hEach⟩ := h
  refine Perm.trans ?_ (hMoved.flatMap_right f)
  generalize other.entities = entities at hEach
  clear hMoved
  induction hEach with
  | nil => exact .refl _
  | cons hFirst _ ih => exact (hEntity _ _ hFirst).append ih

/-- Every entity of a part belongs to an entity of the whole. -/
theorem IsPartOf.exists_entity (h : part.IsPartOf schema) {e : Entity} (he : e ∈ part.entities) :
    ∃ whole ∈ schema.entities, e.IsPartOf whole := by
  obtain ⟨kept, hKept, hEach⟩ := h
  obtain ⟨i, hi, rfl⟩ := List.getElem_of_mem he
  exact ⟨kept.get ⟨i, hEach.length_eq ▸ hi⟩, hKept.subset (List.getElem_mem _),
    hEach.get hi (hEach.length_eq ▸ hi)⟩

/-- A key that entities share with their parts is not repeated in a part of a schema unless it is
in the whole. -/
theorem IsPartOf.nodup_map {β : Type} {key : Entity → β} (h : part.IsPartOf schema)
    (hKey : ∀ p e : Entity, p.IsPartOf e → key p = key e)
    (hNodup : (schema.entities.map key).Nodup) :
    (part.entities.map key).Nodup := by
  obtain ⟨kept, ⟨subset, hPerm, hSublist⟩, hEach⟩ := h
  have hSame : part.entities.map key = kept.map key := by
    rw [← List.forall₂_eq_eq_eq, List.forall₂_map_left_iff, List.forall₂_map_right_iff]
    exact hEach.imp hKey
  rw [hSame, ← (hPerm.map key).nodup_iff]
  exact hNodup.sublist (hSublist.map key)

end Schema

namespace CSharp

variable {s : Settings} {schema other part : Schema}

/-! ### What is wrong with a part is wrong with the whole -/

theorem hasClash_of_isPartOf (h : part.IsPartOf schema) (hClash : HasClash part) :
    HasClash schema := by
  by_contra hNone
  simp only [HasClash, not_or, not_not, not_exists, not_and] at hNone
  obtain ⟨hNames, hTables, hProperties⟩ := hNone
  rcases hClash with hClash | hClash | ⟨e, he, hClash⟩
  · exact hClash (h.nodup_map (fun p e hPart => by rw [hPart.name]) hNames)
  · exact hClash (h.nodup_map (fun p e hPart => hPart.tableName) hTables)
  · obtain ⟨whole, hWhole, hPart⟩ := h.exists_entity he
    obtain ⟨subset, hPerm, hSublist⟩ := hPart.properties
    have hNodup := (hProperties whole hWhole).sublist (hSublist.map Property.name)
    exact hClash ((hPerm.map Property.name).nodup_iff.mp hNodup)

theorem exists_unrecognized_of_isPartOf (h : part.IsPartOf schema)
    (hType : ∃ d ∈ declaredProperties part, IsUnrecognized s d.2) :
    ∃ d ∈ declaredProperties schema, IsUnrecognized s d.2 := by
  obtain ⟨d, hDeclared, hType⟩ := hType
  obtain ⟨e, he, hd⟩ := List.mem_flatMap.mp hDeclared
  obtain ⟨p, hp, rfl⟩ := List.mem_map.mp hd
  obtain ⟨whole, hWhole, hPart⟩ := h.exists_entity he
  refine ⟨(whole, p), List.mem_flatMap.mpr ⟨whole, hWhole, ?_⟩, hType⟩
  exact List.mem_map_of_mem (hPart.properties.subset hp)

/-- The cases of a part of an entity are among those of the entity. -/
theorem problemCases_subset {e whole : Entity} (h : e.IsPartOf whole) :
    problemCases s e ⊆ problemCases s whole := by
  rw [problemCases, problemCases, h.name, h.tableName]
  refine List.append_subset.mpr ⟨List.subset_append_left _ _, ?_⟩
  refine List.Subset.trans ?_ (List.subset_append_right _ _)
  intro v hv
  obtain ⟨p, hp, hCase⟩ := List.mem_flatMap.mp hv
  exact List.mem_flatMap.mpr ⟨p, h.properties.subset hp, hCase⟩

theorem exists_violation_of_isPartOf (h : part.IsPartOf schema)
    (hViolation : ∃ v ∈ violationCases s part, v.1 = true) :
    ∃ v ∈ violationCases s schema, v.1 = true := by
  obtain ⟨v, hCase, hHolds⟩ := hViolation
  obtain ⟨e, he, hv⟩ := List.mem_flatMap.mp hCase
  obtain ⟨whole, hWhole, hPart⟩ := h.exists_entity he
  exact ⟨v, List.mem_flatMap.mpr ⟨whole, hWhole, problemCases_subset hPart hv⟩, hHolds⟩

/-! ### Another order permutes the warnings -/

theorem generalCases_perm {e moved : Entity} (h : e.Reorders moved) :
    Perm (generalCases moved) (generalCases e) := by
  have hEmpty : moved.properties = [] ↔ e.properties = [] := by
    rw [← List.length_eq_zero_iff, h.properties.length_eq, List.length_eq_zero_iff]
  have hKeys : moved.primaryKeys.length = e.primaryKeys.length :=
    (h.properties.filter _).length_eq
  simp only [generalCases, h.name, hKeys, ne_eq, hEmpty]
  exact (h.properties.map _).append_left _

theorem classCases_perm {e moved : Entity} (h : e.Reorders moved) :
    Perm (classCases s moved) (classCases s e) := by
  simp only [classCases, h.name]
  exact ((h.properties.flatMap_right _).append_left _).append_right _

theorem warningCases_perm (h : schema.Reorders other) :
    Perm (warningCases s other) (warningCases s schema) :=
  (h.flatMap fun _ _ => generalCases_perm).append (h.flatMap fun _ _ => classCases_perm)

theorem reported_perm {α : Type} {cases more : List (Bool × α)} (h : Perm cases more) :
    Perm (reported cases) (reported more) :=
  (h.filter _).map _

/-! ### The outcome of the check -/

/-- The schema is accepted in both orders, with the same warnings in some order, or it is refused in
both for the same reason: names that clash, a type that is none, or violations of the rules for
names. -/
inductive SameOutcome :
    Except Failure (List SchemaWarning) → Except Failure (List SchemaWarning) → Prop
  | accepted {warnings moved : List SchemaWarning} (hPerm : Perm moved warnings) :
      SameOutcome (.ok warnings) (.ok moved)
  | clash {names moved : List DuplicateName} :
      SameOutcome (.error (.duplicates names)) (.error (.duplicates moved))
  | unrecognized {entity property typeName entity' property' typeName' : Text} :
      SameOutcome (.error (.unrecognizedType entity property typeName))
        (.error (.unrecognizedType entity' property' typeName'))
  | violation {problems moved : List SchemaProblem} :
      SameOutcome (.error (.schema problems)) (.error (.schema moved))

theorem exists_unrecognized_of_split {before after : List (Entity × Property)} {e : Entity}
    {p : Property} (hSplit : declaredProperties schema = before ++ (e, p) :: after)
    (hType : IsUnrecognized s p) : ∃ d ∈ declaredProperties schema, IsUnrecognized s d.2 :=
  ⟨(e, p), hSplit ▸ List.mem_append_right _ List.mem_cons_self, hType⟩

/-- A part of a schema that passes also passes. -/
theorem passed_of_isPartOf {warnings : List SchemaWarning} (h : part.IsPartOf schema)
    (hPass : Verdict s schema (.ok warnings)) :
    Verdict s part (.ok (reported (warningCases s part))) := by
  cases hPass with
  | passed hNot hNone hPass =>
      refine .passed (mt (hasClash_of_isPartOf h) hNot) (fun d hd hBad => ?_) fun v hv => ?_
      · obtain ⟨d', hd', hBad'⟩ := exists_unrecognized_of_isPartOf h ⟨d, hd, hBad⟩
        exact hNone d' hd' hBad'
      · by_contra hHolds
        obtain ⟨v', hv', hHolds'⟩ :=
          exists_violation_of_isPartOf h ⟨v, hv, by simpa using hHolds⟩
        simp [hPass v' hv'] at hHolds'

/-- The verdicts on two orders of a schema are the same. -/
theorem sameOutcome_of_verdict {a b : Except Failure (List SchemaWarning)}
    (h : schema.Reorders other) (ha : Verdict s schema a) (hb : Verdict s other b) :
    SameOutcome a b := by
  have hPart := h.isPartOf
  have hWhole := h.symm.isPartOf
  cases ha with
  | clash hClash =>
      have hOther := hasClash_of_isPartOf hWhole hClash
      cases hb with
      | clash => exact .clash
      | unrecognized hNot | violation hNot | passed hNot => exact absurd hOther hNot
  | unrecognized hNot hSplit _ hType =>
      obtain ⟨d, hd, hBad⟩ :=
        exists_unrecognized_of_isPartOf hWhole (exists_unrecognized_of_split hSplit hType)
      cases hb with
      | clash hClash => exact absurd (hasClash_of_isPartOf hPart hClash) hNot
      | unrecognized => exact .unrecognized
      | violation _ hNone | passed _ hNone => exact absurd hBad (hNone d hd)
  | violation hNot hNone hViolation =>
      obtain ⟨v, hv, hHolds⟩ := exists_violation_of_isPartOf hWhole hViolation
      cases hb with
      | clash hClash => exact absurd (hasClash_of_isPartOf hPart hClash) hNot
      | unrecognized _ hSplit _ hType =>
          obtain ⟨d, hd, hBad⟩ :=
            exists_unrecognized_of_isPartOf hPart (exists_unrecognized_of_split hSplit hType)
          exact absurd hBad (hNone d hd)
      | violation => exact .violation
      | passed _ _ hPass => exact absurd hHolds (by simp [hPass v hv])
  | passed hNot hNone hPass =>
      -- the other order is a part of a schema that passes
      have hOther := passed_of_isPartOf hPart (.passed hNot hNone hPass)
      rw [hb.unique hOther]
      exact .accepted (reported_perm (warningCases_perm h))

/-- The check does not depend on the order in which entities and their properties are declared: in
another order a schema is accepted with the same warnings in some order, or refused for the same
reason. And what is accepted stays so if any entities and any properties are removed. -/
theorem check_of_arrangement (g : Generator) (schema : Schema) :
    (∀ other, schema.Reorders other → SameOutcome (g.check schema) (g.check other)) ∧
      ∀ part, part.IsPartOf schema → ∀ warnings, g.check schema = .ok warnings →
        ∃ fewer, g.check part = .ok fewer := by
  refine ⟨fun other h => ?_, fun part h warnings hCheck => ?_⟩
  · exact sameOutcome_of_verdict h (verdict_checkSchema _ _) (verdict_checkSchema _ _)
  · have hPass : Verdict g.settings schema (.ok warnings) :=
      hCheck ▸ verdict_checkSchema g.settings schema
    exact ⟨_, (verdict_checkSchema _ _).unique (passed_of_isPartOf h hPass)⟩

/-- A property that is named by a keyword. -/
def keywordProperty : Property := { name := text "class", typeName := text "int" }

/-- A property with half of a decimal specification. -/
def weightProperty : Property :=
  { name := text "Weight", typeName := text "decimal", precision := some (.number 9) }

/-- A schema that deserves warnings of several kinds. -/
def parcelSchema : Schema := ⟨[
  ⟨text "Parcel", text "Parcels", [keywordProperty, weightProperty]⟩,
  ⟨text "Guid", text "Guids", []⟩]⟩

/-- The schema with everything in the opposite order. -/
def oppositeSchema : Schema := ⟨[
  ⟨text "Guid", text "Guids", []⟩,
  ⟨text "Parcel", text "Parcels", [weightProperty, keywordProperty]⟩]⟩

/-- The schema without one entity and one property. -/
def lightSchema : Schema := ⟨[⟨text "Parcel", text "Parcels", [keywordProperty]⟩]⟩

/-- The schema passes the check with five warnings, so it passes in the opposite order, with the
same five, and without one entity and one property. -/
theorem check_of_arrangement_parcelSchema :
    parcelSchema.Reorders oppositeSchema ∧ lightSchema.IsPartOf parcelSchema ∧
      (∃ warnings, Generator.check ⟨{}, builtinLibrary⟩ parcelSchema = .ok warnings ∧
        warnings.length = 5 ∧
        SameOutcome (.ok warnings) (Generator.check ⟨{}, builtinLibrary⟩ oppositeSchema)) ∧
      ∃ fewer, Generator.check ⟨{}, builtinLibrary⟩ lightSchema = .ok fewer := by
  have hReorders : parcelSchema.Reorders oppositeSchema :=
    ⟨[⟨text "Guid", text "Guids", []⟩,
        ⟨text "Parcel", text "Parcels", [keywordProperty, weightProperty]⟩],
      .swap _ _ [], .cons ⟨rfl, rfl, .refl _⟩ (.cons ⟨rfl, rfl, .swap _ _ []⟩ .nil)⟩
  have hPart : lightSchema.IsPartOf parcelSchema :=
    ⟨[⟨text "Parcel", text "Parcels", [keywordProperty, weightProperty]⟩],
      (List.sublist_append_left [_] [_]).subperm,
      .cons ⟨rfl, rfl, (List.sublist_append_left [_] [_]).subperm⟩ .nil⟩
  have hCheck : Generator.check ⟨{}, builtinLibrary⟩ parcelSchema = .ok [
      .noPrimaryKey (text "Parcel"), .halfDecimalSpec (text "Parcel") (text "Weight"),
      .noProperties (text "Guid"), .escapedProperty (text "Parcel") (text "class"),
      .shadowsType (text "Guid")] := rfl
  obtain ⟨hOrder, hRemoved⟩ := check_of_arrangement ⟨{}, builtinLibrary⟩ parcelSchema
  refine ⟨hReorders, hPart, ⟨_, hCheck, rfl, ?_⟩, hRemoved _ hPart _ hCheck⟩
  rw [← hCheck]
  exact hOrder _ hReorders

end CSharp

end EntityForge
