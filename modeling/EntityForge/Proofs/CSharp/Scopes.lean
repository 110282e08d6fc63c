import EntityForge.Proofs.CSharp.Checked
import EntityForge.Proofs.CSharp.Usable
import EntityForge.Proofs.Naming.Verbatim
import EntityForge.Proofs.Repeated

/-! # Scopes of generated code

Generated code declares names in three kinds of scopes: the classes of the namespace, the accessors
of the context class, and the members of each entity class; a class has its own name in its scope,
since no member may be named like it.  An at sign in front of a name is no part of the identifier
that it spells.

The check compares names as they are declared.  Escaping a keyword leaves its identifier as it is
(`identifierOf_emitName`), so in a scope of a schema that passes the check two identifiers are the
same only if a name stands there both with and without the at sign (`nodup_identifiers_iff`).
-/

namespace EntityForge.CSharp

/-- The identifier that a name spells: an at sign in front is no part of it. -/
def identifierOf (name : Text) : Text :=
  if name.head? = some (.char '@') then name.tail else name

@[simp]
theorem identifierOf_mark (name : Text) : identifierOf (.char '@' :: name) = name := rfl

theorem identifierOf_of_not_marked {name : Text} (h : name.head? ≠ some (.char '@')) :
    identifierOf name = name := by
  simp [identifierOf, h]

/-- Escaping does not change the identifier. -/
theorem identifierOf_emitName (escaping : Bool) (name : Text) :
    identifierOf (emitName escaping name) = identifierOf name := by
  rw [emitName_eq]
  split
  · next h =>
      have hKeyword : isKeyword name = true := (Bool.and_eq_true_iff.mp h).2
      rw [identifierOf_mark, identifierOf_of_not_marked (head_ne_of_isKeyword hKeyword)]
  · rfl

/-- Of two names with one identifier, one is the other behind an at sign. -/
theorem eq_or_marked_of_identifierOf_eq {a b : Text} (h : identifierOf a = identifierOf b) :
    a = b ∨ a = .char '@' :: b ∨ b = .char '@' :: a := by
  have hForm : ∀ name : Text, name = identifierOf name ∨
      name = .char '@' :: identifierOf name := by
    intro name
    cases name with
    | nil => exact .inl rfl
    | cons p rest =>
        by_cases hp : p = .char '@'
        · exact .inr (by rw [hp, identifierOf_mark])
        · exact .inl (identifierOf_of_not_marked (by simpa using hp)).symm
  rcases hForm a with ha | ha <;> rcases hForm b with hb | hb
  · exact .inl (by rw [ha, h, ← hb])
  · exact .inr (.inr (by rw [hb, ← h, ← ha]))
  · exact .inr (.inl (by rw [ha, h, ← hb]))
  · exact .inl (by rw [ha, h, ← hb])

/-- A valid name has at most one at sign in front. -/
theorem head_ne_of_isValid_mark {name : Text}
    (h : namingRule.isValid (.char '@' :: name) = true) : name.head? ≠ some (.char '@') := by
  intro hHead
  rw [NamingRule.isValid, unmarked_cons, if_pos rfl] at h
  have hWord := Text.isWord_of_mem_of_isIdentifier h (.char '@') (List.mem_of_head? hHead)
  exact absurd hWord (by decide)

/-- Different valid names have different identifiers unless one occurs both with and without the
at sign. -/
theorem nodup_map_identifierOf_iff {names : List Text} (hNodup : names.Nodup)
    (hValid : ∀ name ∈ names, namingRule.isValid name = true) :
    (names.map identifierOf).Nodup ↔ ∀ name ∈ names, .char '@' :: name ∉ names := by
  rw [List.nodup_map_iff_inj_on hNodup]
  constructor
  · intro hInj name hName hMarked
    have hSame : identifierOf name = identifierOf (.char '@' :: name) := by
      rw [identifierOf_mark,
        identifierOf_of_not_marked (head_ne_of_isValid_mark (hValid _ hMarked))]
    exact absurd (hInj name hName _ hMarked hSame) (by simp)
  · intro hUnmarked a ha b hb hSame
    rcases eq_or_marked_of_identifierOf_eq hSame with h | rfl | rfl
    · exact h
    · exact absurd ha (hUnmarked b hb)
    · exact absurd hb (hUnmarked a ha)

/-! ### The scopes -/

/-- A scope: the names in it as they are declared by the schema and the settings, and as they are
emitted. -/
structure Scope where
  declared : List Text
  emitted : List Text

/-- The classes of the namespace. -/
def classScope (s : Settings) (schema : Schema) : Scope where
  declared := s.contextName :: schema.entities.map Entity.name
  emitted := s.contextName :: schema.entities.map fun e => emitName s.escapeKeywords e.name

/-- The context class and its accessors. -/
def accessorScope (s : Settings) (schema : Schema) : Scope where
  declared := s.contextName :: schema.entities.map Entity.tableName
  emitted := s.contextName :: schema.entities.map fun e => emitName s.escapeKeywords e.tableName

/-- The class of an entity and its members. -/
def memberScope (s : Settings) (e : Entity) : Scope where
  declared := e.name :: e.properties.map Property.name
  emitted := emitName s.escapeKeywords e.name ::
    e.properties.map fun p => emitName s.escapeKeywords p.name

/-- The scopes of the code of a schema. -/
def scopes (s : Settings) (schema : Schema) : List Scope :=
  classScope s schema :: accessorScope s schema :: schema.entities.map (memberScope s)

/-- The identifiers of a scope. -/
def Scope.identifiers (scope : Scope) : List Text := scope.emitted.map identifierOf

variable {s : Settings} {schema : Schema}

theorem identifiers_eq_of_mem_scopes {scope : Scope} (h : scope ∈ scopes s schema) :
    scope.identifiers = scope.declared.map identifierOf := by
  simp only [scopes, List.mem_cons, List.mem_map] at h
  rcases h with rfl | rfl | ⟨e, _, rfl⟩ <;>
    simp [Scope.identifiers, classScope, accessorScope, memberScope, identifierOf_emitName]

/-- The names of a scope are different as they are declared, and all are valid. -/
theorem declared_of_mem_scopes {warnings : List SchemaWarning} (hs : IsUsable s)
    (hCheck : checkSchema s schema = .ok warnings) {scope : Scope}
    (h : scope ∈ scopes s schema) :
    scope.declared.Nodup ∧ ∀ name ∈ scope.declared, namingRule.isValid name = true := by
  have hNamed := isNamedWell_of_checkSchema hCheck
  have hContext : namingRule.isValid s.contextName = true :=
    (Bool.and_eq_true_iff.mp hs.contextName).1
  have hDuplicates := (checkSchema_eq_ok_iff.mp hCheck).1
  simp only [duplicateNames, List.append_eq_nil_iff, List.map_eq_nil_iff, repeated_eq_nil_iff,
    List.flatMap_eq_nil_iff, List.map_id_fun, id] at hDuplicates
  obtain ⟨⟨hNames, hTables⟩, hProperties⟩ := hDuplicates
  simp only [scopes, List.mem_cons, List.mem_map] at h
  rcases h with rfl | rfl | ⟨e, he, rfl⟩
  · refine ⟨List.nodup_cons.mpr ⟨?_, hNames.of_map⟩, ?_⟩
    · intro hMem
      obtain ⟨e, he, hSame⟩ := List.mem_map.mp hMem
      exact (hNamed e he).name_ne hSame
    · simpa [classScope, hContext] using fun e he => (hNamed e he).name.isValid
  · refine ⟨List.nodup_cons.mpr ⟨?_, hTables⟩, ?_⟩
    · intro hMem
      obtain ⟨e, he, hSame⟩ := List.mem_map.mp hMem
      exact (hNamed e he).tableName_ne hSame
    · simpa [accessorScope, hContext] using fun e he => (hNamed e he).tableName.isValid
  · refine ⟨List.nodup_cons.mpr ⟨?_, hProperties e he⟩, ?_⟩
    · intro hMem
      obtain ⟨p, hp, hSame⟩ := List.mem_map.mp hMem
      exact (hNamed e he).property_ne p hp hSame
    · simpa [memberScope, (hNamed e he).name.isValid] using
        fun p hp => ((hNamed e he).property p hp).isValid

/-- In the code of a schema that passes the check, the identifiers of a scope are different exactly
if no name is declared in it both with and without an at sign in front. -/
theorem nodup_identifiers_iff {files : FileTree} {d : Draft} {g : Generator}
    {warnings : List SchemaWarning} (hMake : Generator.ofDraft files d = .ok g)
    (hCheck : g.check schema = .ok warnings) :
    ∀ scope ∈ scopes g.settings schema,
      scope.identifiers.Nodup ↔ ∀ name ∈ scope.declared, .char '@' :: name ∉ scope.declared := by
  intro scope hScope
  obtain ⟨hNodup, hValid⟩ := declared_of_mem_scopes (isUsable_of_ofDraft hMake) hCheck hScope
  rw [identifiers_eq_of_mem_scopes hScope]
  exact nodup_map_identifierOf_iff hNodup hValid

/-- A schema with keywords among its names and at signs in front of others. -/
def verbatimSchema : Schema := ⟨[
  ⟨text "class", text "Classes", [
    { name := text "@in", typeName := text "int" },
    { name := text "out", typeName := text "int" }]⟩,
  ⟨text "@Order", text "@Orders", []⟩]⟩

/-- The schema passes the check, and no two identifiers of a scope are the same. -/
theorem nodup_identifiers_iff_verbatimSchema :
    (∃ warnings, Generator.check ⟨{}, builtinLibrary⟩ verbatimSchema = .ok warnings) ∧
      ∀ scope ∈ scopes {} verbatimSchema, scope.identifiers.Nodup := by
  have hCheck : Generator.check ⟨{}, builtinLibrary⟩ verbatimSchema = .ok [
      .noPrimaryKey (text "class"), .noProperties (text "@Order"),
      .escapedProperty (text "class") (text "out"), .escapedEntity (text "class")] := rfl
  refine ⟨⟨_, hCheck⟩, fun scope hScope => ?_⟩
  refine (nodup_identifiers_iff (ofDraft_toDraft {} rfl rfl rfl) hCheck scope hScope).mpr ?_
  revert scope
  decide

/-- A schema that has every name with an at sign and without. -/
def markedSchema : Schema := ⟨[
  ⟨text "class", text "Items", [
    { name := text "in", typeName := text "int" },
    { name := text "@in", typeName := text "int" }]⟩,
  ⟨text "@class", text "@Items", [{ name := text "class", typeName := text "int" }]⟩]⟩

/-- The schema passes the check with the standard settings, and in every scope of its code two
identifiers are the same. -/
theorem identifiers_collide_markedSchema :
    Generator.ofDraft {} ({} : Settings).toDraft = .ok ⟨{}, builtinLibrary⟩ ∧
      (∃ warnings, Generator.check ⟨{}, builtinLibrary⟩ markedSchema = .ok warnings) ∧
      ∀ scope ∈ scopes {} markedSchema, ¬ scope.identifiers.Nodup :=
  ⟨ofDraft_toDraft {} rfl rfl rfl, ⟨_, rfl⟩, by decide +kernel⟩

end EntityForge.CSharp
