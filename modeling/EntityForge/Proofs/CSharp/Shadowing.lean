import EntityForge.Proofs.CSharp.Announcements
import EntityForge.Proofs.CSharp.PageLayout
import EntityForge.Proofs.CSharp.Scopes

/-! # Classes that shadow types

Generated code refers to types and attributes by simple names: `DbSet`, the attributes of classes
and members, the types of the members, and what the context class is made from.  A class of the same
name would take their place.  `Refers` is the relation of code and names, as far as the generator
chooses the name, and each such name stands in a line of the code (`Refers.occurs`).  The standard
base class and the standard options type are among them, whether the settings leave them out or hold
them; other ones that the settings name are not.

What a name that is referred to can be is said once, in `Refers.mem`: a keyword or one of the
`shadowedNames`.  A class is never declared by a keyword, since the names that the code shows are
proper.  So an entity class takes the place of something only if its name is in the list, and then
there is a warning (`shadowsType_mem_of_refers`).  The context class is not compared with the list.
-/

namespace EntityForge.CSharp

variable {s : Settings} {schema : Schema} {warnings : List SchemaWarning}

/-! ### Names in attributes and types -/

/-- The name of an attribute: what stands behind its opening bracket as far as it is a word. -/
def attributeName (a : Text) : Text := a.tail.takeWhile CodePoint.isWord

/-- The name in a type: that of the elements for an array. -/
def TypeName.word (t : TypeName) : Text := t.token.takeWhile CodePoint.isWord

theorem attributeName_append {word rest : Text} {p : CodePoint}
    (hWord : ∀ q ∈ word, q.isWord = true) (hEnd : p.isWord = false) :
    attributeName (.char '[' :: (word ++ p :: rest)) = word := by
  rw [attributeName, List.tail_cons, List.takeWhile_append_of_pos hWord,
    List.takeWhile_cons_of_neg (by simp [hEnd]), List.append_nil]

theorem attributeName_tableAttribute (e : Entity) :
    attributeName (tableAttribute e) = text "Table" := by
  have hForm : tableAttribute e = .char '[' :: (text "Table" ++ .char '(' ::
      (Literal.quote e.tableName ++ text ")]")) := rfl
  rw [hForm, attributeName_append (by decide) (by decide)]

theorem attributeName_lengthAttribute (bound : Bound) :
    attributeName (lengthAttribute bound) = text "MaxLength" := by
  have hForm : lengthAttribute bound = .char '[' :: (text "MaxLength" ++ .char '(' ::
      (bound.shown ++ text ")]")) := rfl
  rw [hForm, attributeName_append (by decide) (by decide)]

theorem attributeName_columnAttribute (precision scale : Bound) :
    attributeName (columnAttribute precision scale) = text "Column" := by
  have hForm : ∀ rest, text "[Column(TypeName = " ++ rest =
      .char '[' :: (text "Column" ++ .char '(' :: (text "TypeName = " ++ rest)) := fun _ => rfl
  rw [columnAttribute, List.append_assoc, hForm,
    attributeName_append (by decide) (by decide)]

/-- The names of the attributes that a member can have are listed. -/
theorem attributeName_mem {p : Property} {type : TypeName} :
    ∀ a ∈ attributesOf p type, attributeName a ∈ shadowedNames.map text := by
  intro a ha
  rcases mem_attributesOf_iff.mp ha with
    ⟨_, rfl⟩ | ⟨_, rfl⟩ | ⟨bound, _, rfl⟩ | ⟨precision, scale, _, rfl⟩
  · decide
  · decide
  · rw [attributeName_lengthAttribute]
    decide
  · rw [attributeName_columnAttribute]
    decide

/-- The name in the type of a recognized property is a keyword or one of the listed types. -/
theorem word_ofScalar_mem (scalar : ScalarType) :
    (TypeName.ofScalar scalar).word ∈ (shadowedNames ++ keywords).map text := by
  cases scalar <;> decide

/-! ### References -/

/-- The code of a schema refers to a type or an attribute by a simple name that the generator
chooses. -/
inductive Refers (s : Settings) (schema : Schema) : Text → Prop
  | accessor {e : Entity} (he : e ∈ schema.entities) : Refers s schema (text "DbSet")
  | table {e : Entity} (he : e ∈ schema.entities) :
      Refers s schema (attributeName (tableAttribute e))
  | memberAttribute {e : Entity} {p : Property} {a : Text} (he : e ∈ schema.entities)
      (hp : p ∈ e.properties) (ha : a ∈ attributesOf p (.of p)) :
      Refers s schema (attributeName a)
  | memberType {e : Entity} {p : Property} {scalar : ScalarType} (he : e ∈ schema.entities)
      (hp : p ∈ e.properties) (hType : p.scalarType? = some scalar) :
      Refers s schema (TypeName.of p).word
  | standardBase (hStandard : baseClass s = text "DbContext") : Refers s schema (baseClass s)
  | standardOptions (hStandard : optionsType s = text "DbContextOptions") :
      Refers s schema (optionsType s)

/-- The names that the code refers to are keywords or listed. -/
theorem Refers.mem {name : Text} (h : Refers s schema name) :
    name ∈ (shadowedNames ++ keywords).map text := by
  cases h with
  | accessor => decide
  | table =>
      rw [attributeName_tableAttribute]
      decide
  | memberAttribute he hp ha =>
      rw [List.map_append]
      exact List.mem_append_left _ (attributeName_mem _ ha)
  | memberType he hp hType =>
      rw [TypeName.of, hType]
      exact word_ofScalar_mem _
  | standardBase hStandard =>
      rw [hStandard]
      decide
  | standardOptions hStandard =>
      rw [hStandard]
      decide

/-- The lines of all pages of a schema. -/
def pageLines (s : Settings) (schema : Schema) : List Text :=
  schema.entities.flatMap (entityLines s) ++ contextLines s schema.entities

theorem entityLines_subset {e : Entity} (he : e ∈ schema.entities) :
    entityLines s e ⊆ pageLines s schema := fun _ hLine =>
  List.mem_append_left _ (List.mem_flatMap.mpr ⟨e, he, hLine⟩)

theorem memberLines_subset {e : Entity} {p : Property} (hp : p ∈ e.properties) :
    memberLines s p ⊆ entityLines s e := by
  intro line hLine
  have hMembers : line ∈ e.properties.flatMap fun p => memberLines s p ++ [[]] :=
    List.mem_flatMap.mpr ⟨p, hp, List.mem_append_left _ hLine⟩
  exact List.mem_append_left _ (List.mem_append_right _ hMembers)

theorem attributeName_isInfix (front a : Text) : attributeName a <:+: front ++ a :=
  ((List.takeWhile_prefix _).isInfix.trans (List.tail_suffix a).isInfix).trans
    (List.suffix_append front a).isInfix

/-- What the code refers to stands in one of its lines. -/
theorem Refers.occurs {name : Text} (h : Refers s schema name) :
    ∃ line ∈ pageLines s schema, name <:+: line := by
  cases h with
  | @accessor e he =>
      refine ⟨accessorLine s e, ?_, s.indent ++ s.indent ++ text "public ",
        text "<" ++ (emitName s.escapeKeywords e.name ++ text "> " ++
          emitName s.escapeKeywords e.tableName ++ text " \x7b get; set; \x7d"), ?_⟩
      · simp only [pageLines, contextLines, List.mem_append, List.mem_map]
        exact .inr (.inl (.inr ⟨e, he, rfl⟩))
      · have hForm : text "public DbSet<" = text "public " ++ text "DbSet" ++ text "<" := rfl
        simp [accessorLine, accessorOf, hForm]
  | @table e he =>
      refine ⟨s.indent ++ tableAttribute e, entityLines_subset he ?_, attributeName_isInfix _ _⟩
      simp [entityLines]
  | @memberAttribute e p a he hp ha =>
      refine ⟨s.indent ++ s.indent ++ a, entityLines_subset he (memberLines_subset hp ?_),
        attributeName_isInfix _ _⟩
      exact List.mem_append_left _ (List.mem_map.mpr ⟨a, ha, rfl⟩)
  | @memberType e p _ he hp _ =>
      refine ⟨_, entityLines_subset he (memberLines_subset hp
        (List.mem_append_right _ (.head _))), ?_⟩
      have hWord : (TypeName.of p).word <:+: (TypeName.of p).declaration := by
        refine (List.takeWhile_prefix _).isInfix.trans ?_
        rw [TypeName.declaration]
        split
        · exact (List.prefix_append _ _).isInfix
        · exact List.infix_rfl
      refine hWord.trans ⟨s.indent ++ s.indent ++ text "public ", text " " ++
        emitName s.escapeKeywords p.name ++ text " \x7b get; set; \x7d", ?_⟩
      simp [fieldDeclaration]
  | standardBase =>
      refine ⟨_, List.mem_append_right _ (List.mem_append_left _ (List.mem_append_left _
        (List.mem_append_right _ (.head _)))), (List.suffix_append _ _).isInfix⟩
  | standardOptions =>
      refine ⟨_, List.mem_append_right _ (List.mem_append_left _ (List.mem_append_left _
        (List.mem_append_right _ (.tail _ (.tail _ (.head _)))))), ?_⟩
      exact ⟨s.indent ++ s.indent ++ text "public " ++ s.contextName ++ text "(",
        text "<" ++ s.contextName ++ text "> options)", by simp⟩

/-! ### Warnings -/

/-- No listed name begins with the mark of an escaped name. -/
theorem mark_cons_not_mem_shadowedNames (name : Text) :
    .char '@' :: name ∉ shadowedNames.map text := by
  have hHeads : ∀ listed ∈ shadowedNames.map text, listed.head? ≠ some (.char '@') := by
    decide
  exact fun h => hHeads _ h rfl

/-- If the code of a schema that passes the check declares an entity class by a name to which the
code refers, then the check warns of the entity. -/
theorem shadowsType_mem_of_refers {g : Generator} (hCheck : g.check schema = .ok warnings) :
    ∀ e ∈ schema.entities,
      Refers g.settings schema (emitName g.settings.escapeKeywords e.name) →
        .shadowsType e.name ∈ warnings := by
  intro e he hRefers
  have hProper := (isNamedWell_of_checkSchema hCheck e he).name.isProper
  have hMem := hRefers.mem
  rw [List.map_append, List.mem_append, or_iff_left hProper.not_keyword] at hMem
  refine (shadowsType_mem_iff hCheck).mpr ⟨e, he, ?_, rfl⟩
  rw [emitName_eq] at hMem
  split at hMem
  · exact absurd hMem (mark_cons_not_mem_shadowedNames _)
  · exact hMem

/-- A property that holds globally unique identifiers. -/
def guidProperty : Property :=
  { name := text "Id", typeName := text "guid", isPrimaryKey := true }

/-- A schema with one entity, which has the property. -/
def guidSchema (entity : Text) : Schema := ⟨[⟨entity, text "Items", [guidProperty]⟩]⟩

theorem refers_guidSchema (s : Settings) (entity : Text) :
    Refers s (guidSchema entity) (text "Guid") := by
  have hType : guidProperty.scalarType? = some .guid := by decide
  have hWord : text "Guid" = (TypeName.of guidProperty).word := by decide
  rw [hWord]
  exact .memberType (.head _) (.head _) hType

/-- Settings that hold the standard types of the context class. -/
def heldSettings : Settings :=
  { custom := [
      (baseClassKey, .string (text "DbContext")),
      (optionsTypeKey, .string (text "DbContextOptions"))] }

/-- An entity that is named like the type of its property is warned of, and so is one that is named
like the base class that the settings hold. -/
theorem shadowsType_mem_of_refers_guidSchema :
    (Generator.check ⟨{}, builtinLibrary⟩ (guidSchema (text "Guid")) =
        .ok [.shadowsType (text "Guid")] ∧
      Refers {} (guidSchema (text "Guid")) (emitName true (text "Guid")) ∧
      .shadowsType (text "Guid") ∈ [SchemaWarning.shadowsType (text "Guid")]) ∧
    Generator.check ⟨heldSettings, builtinLibrary⟩ (guidSchema (text "DbContext")) =
        .ok [.shadowsType (text "DbContext")] ∧
      Refers heldSettings (guidSchema (text "DbContext")) (emitName true (text "DbContext")) ∧
      .shadowsType (text "DbContext") ∈ [SchemaWarning.shadowsType (text "DbContext")] := by
  have hCheck : Generator.check ⟨{}, builtinLibrary⟩ (guidSchema (text "Guid")) =
      .ok [.shadowsType (text "Guid")] := rfl
  have hRefers : Refers {} (guidSchema (text "Guid")) (emitName true (text "Guid")) :=
    refers_guidSchema {} (text "Guid")
  have hHeldCheck : Generator.check ⟨heldSettings, builtinLibrary⟩
      (guidSchema (text "DbContext")) = .ok [.shadowsType (text "DbContext")] := rfl
  have hHeld : Refers heldSettings (guidSchema (text "DbContext"))
      (emitName true (text "DbContext")) := .standardBase rfl
  exact ⟨⟨hCheck, hRefers, shadowsType_mem_of_refers hCheck _ (.head _) hRefers⟩,
    hHeldCheck, hHeld, shadowsType_mem_of_refers hHeldCheck _ (.head _) hHeld⟩

/-- Settings with a context class that is named like a type. -/
def guidSettings : Settings := { contextName := text "Guid" }

/-- With these settings a schema passes the check without any warning, though the context class is
declared by a name to which the code refers. -/
theorem guidSettings_not_announced :
    Generator.ofDraft {} guidSettings.toDraft = .ok ⟨guidSettings, builtinLibrary⟩ ∧
      Generator.check ⟨guidSettings, builtinLibrary⟩ (guidSchema (text "Item")) = .ok [] ∧
      text "Guid" ∈ (classScope guidSettings (guidSchema (text "Item"))).emitted ∧
      Refers guidSettings (guidSchema (text "Item")) (text "Guid") :=
  ⟨ofDraft_toDraft {} rfl rfl rfl, rfl, .head _, refers_guidSchema _ _⟩

end EntityForge.CSharp
