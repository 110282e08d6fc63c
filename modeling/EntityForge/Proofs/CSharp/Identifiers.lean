import EntityForge.Proofs.CSharp.Page
import EntityForge.Proofs.Naming.Verbatim

/-! # The names in generated code

A line of generated code is put together from fragments: fixed text, literals, types and attributes
on the one hand, and on the other hand names, which stem from the schema or the settings.
`entityFragments` and `contextFragments` are the pages in fragments, and `entityData` and
`contextData` are what any templates are given, in fragments as well.

Names come in by several routes, and each has its check: the settings are refused, a name of the
schema is refused or escaped.  All meet in `IsProper`, which holds of every name in every fragment
(`isProper_of_mem_code`).
-/

namespace EntityForge.CSharp

open Template Generator

/-! ### Fragments -/

/-- A fragment of code: a name from the schema or the settings, or what is no name. -/
inductive Fragment
  | plain (t : Text)
  | name (t : Text)
  deriving DecidableEq, Repr

/-- The text of a fragment. -/
def Fragment.spelled : Fragment → Text
  | .plain t => t
  | .name t => t

/-- The text of fragments, one after the other. -/
def spell (code : List Fragment) : Text := code.flatMap Fragment.spelled

@[simp]
theorem spell_nil : spell [] = [] := rfl

@[simp]
theorem spell_plain (t : Text) (code : List Fragment) :
    spell (.plain t :: code) = t ++ spell code := rfl

@[simp]
theorem spell_name (t : Text) (code : List Fragment) :
    spell (.name t :: code) = t ++ spell code := rfl

@[simp]
theorem spell_append (a b : List Fragment) : spell (a ++ b) = spell a ++ spell b := by
  simp [spell]

/-- Names with full stops between them. -/
def dotted : List Text → List Fragment
  | [] => []
  | [part] => [.name part]
  | part :: rest => .name part :: .plain (text ".") :: dotted rest

theorem spell_dotted (parts : List Text) : spell (dotted parts) = Text.join (text ".") parts := by
  induction parts with
  | nil => rfl
  | cons part rest ih =>
      cases rest with
      | nil => simp [dotted, Text.join, List.intercalate]
      | cons next more =>
          rw [dotted, spell_name, spell_plain, ih] <;> simp [Text.join, List.intercalate]

/-- A dotted name in fragments. -/
def dottedFragments (name : Text) : List Fragment := dotted (Text.splitOn '.' name)

theorem spell_dottedFragments (name : Text) : spell (dottedFragments name) = name := by
  rw [dottedFragments, spell_dotted, Text.splitOn_eq_listSplitOn]
  exact List.intercalate_splitOn _

/-! ### Code in fragments -/

/-- The name of the class of an entity. -/
def classFragments (s : Settings) (e : Entity) : List Fragment :=
  [.name (emitName s.escapeKeywords e.name)]

/-- The declaration of the member of a property. -/
def fieldFragments (s : Settings) (p : Property) : List Fragment := [
  .plain (text "public " ++ (TypeName.of p).declaration ++ text " "),
  .name (emitName s.escapeKeywords p.name),
  .plain (text " \x7b get; set; \x7d")]

/-- The accessor of an entity: its element type and its name. -/
def accessorFragments (s : Settings) (e : Entity) : List Fragment := [
  .plain (text "public DbSet<"), .name (emitName s.escapeKeywords e.name), .plain (text "> "),
  .name (emitName s.escapeKeywords e.tableName), .plain (text " \x7b get; set; \x7d")]

/-- Lines without any name. -/
def plainLines (lines : List Text) : List (List Fragment) := lines.map fun line => [.plain line]

/-- What both pages begin with, in fragments. -/
def openingFragments (s : Settings) (imports : List String) : List (List Fragment) :=
  plainLines (headerLines s ++ imports.map importLine ++ [[]]) ++
    [.plain (text "namespace ") :: dottedFragments s.namespaceName, [.plain (text "\x7b")]]

/-- The page of an entity class, in fragments. -/
def entityFragments (s : Settings) (e : Entity) : List (List Fragment) :=
  openingFragments s entityImports ++ [
    [.plain (s.indent ++ tableAttribute e)],
    .plain (s.indent ++ text "public partial class ") :: classFragments s e,
    [.plain (s.indent ++ text "\x7b")]] ++
    e.properties.flatMap (fun p =>
      plainLines ((attributesOf p (.of p)).map (s.indent ++ s.indent ++ ·)) ++
        [.plain (s.indent ++ s.indent) :: fieldFragments s p, []]) ++
    plainLines (closingLines s)

/-- The page of the context class, in fragments. -/
def contextFragments (s : Settings) (entities : List Entity) : List (List Fragment) :=
  openingFragments s contextImports ++ [
    [.plain (s.indent ++ text "public partial class "), .name s.contextName,
      .plain (text " : ")] ++ dottedFragments (baseClass s),
    [.plain (s.indent ++ text "\x7b")],
    [.plain (s.indent ++ s.indent ++ text "public "), .name s.contextName, .plain (text "(")] ++
      dottedFragments (optionsType s) ++
      [.plain (text "<"), .name s.contextName, .plain (text "> options)")],
    [.plain (s.indent ++ s.indent ++ s.indent ++ text ": base(options)")],
    [.plain (s.indent ++ s.indent ++ text "\x7b")],
    [.plain (s.indent ++ s.indent ++ text "\x7d")],
    []] ++
    entities.map (fun e => .plain (s.indent ++ s.indent) :: accessorFragments s e) ++
    plainLines (closingLines s)

@[simp]
theorem map_spell_plainLines (lines : List Text) : (plainLines lines).map spell = lines := by
  rw [plainLines, List.map_map]
  refine (List.map_congr_left fun line _ => ?_).trans (List.map_id _)
  simp

theorem map_spell_openingFragments (s : Settings) (imports : List String) :
    (openingFragments s imports).map spell = openingLines s imports := by
  simp [openingFragments, openingLines, spell_dottedFragments]

/-- The fragments of an entity class are spelled as its page. -/
theorem map_spell_entityFragments (s : Settings) (e : Entity) :
    (entityFragments s e).map spell = entityLines s e := by
  simp [entityFragments, entityLines, map_spell_openingFragments, classFragments, memberLines,
    fieldFragments, fieldDeclaration, List.map_flatMap]

/-- The fragments of the context class are spelled as its page. -/
theorem map_spell_contextFragments (s : Settings) (entities : List Entity) :
    (contextFragments s entities).map spell = contextLines s entities := by
  simp [contextFragments, contextLines, map_spell_openingFragments, spell_dottedFragments,
    accessorFragments, accessorLine, accessorOf]

/-! ### Data in fragments -/

/-- What the templates of both pages are given. -/
def baseData (s : Settings) (imports : List String) : Template.Variables := [
  (text "header", .value (if s.addHeader then .string headerText else .null)),
  (text "usings", textList (imports.map text)),
  (text "namespace", textDatum (spell (dottedFragments s.namespaceName))),
  (text "indent", textDatum s.indent),
  (text "member_indent", textDatum (s.indent ++ s.indent))]

/-- What the template of an entity class is given. -/
def entityData (s : Settings) (e : Entity) : Template.Variables :=
  baseData s entityImports ++ [
    (text "table_annotation", textDatum (tableAttribute e)),
    (text "class_name", textDatum (spell (classFragments s e))),
    (text "members", .list (e.properties.map fun p =>
      (Member.mk (attributesOf p (.of p)) (spell (fieldFragments s p))).toDatum))]

/-- What the template of the context class is given. -/
def contextData (s : Settings) (entities : List Entity) : Template.Variables :=
  baseData s contextImports ++ [
    (text "context_name", textDatum (spell [.name s.contextName])),
    (text "base_class", customOr s baseClassKey (text "DbContext")),
    (text "options_type", customOr s optionsTypeKey (text "DbContextOptions")),
    (text "accessors", textList (entities.map fun e => spell (accessorFragments s e)))]

theorem baseVariables_eq (s : Settings) (imports : List String) :
    baseVariables s imports = baseData s imports := by
  rw [baseVariables, baseData, spell_dottedFragments]

theorem entityVariables_eq (s : Settings) (e : Entity) :
    entityVariables s e (e.properties.map (memberFor s)) = entityData s e := by
  have hField : ∀ p, memberFor s p =
      Member.mk (attributesOf p (.of p)) (spell (fieldFragments s p)) := by
    intro p
    simp [memberFor, fieldFragments, fieldDeclaration]
  rw [entityVariables, entityData, baseVariables_eq, List.map_map]
  simp only [Function.comp_def, hField, classFragments, spell_name, spell_nil, List.append_nil]

theorem contextVariables_eq (s : Settings) (entities : List Entity) :
    contextVariables s entities = contextData s entities := by
  have hAccessor : ∀ e, accessorOf s.escapeKeywords e = spell (accessorFragments s e) := by
    intro e
    simp [accessorOf, accessorFragments]
  rw [contextVariables, contextData, baseVariables_eq]
  simp only [← hAccessor, spell_name, spell_nil, List.append_nil]

/-- For an entity whose types are in order the engine is called with data in fragments. -/
theorem entityCall_of_types {s : Settings} {e : Entity} (hTypes : entityFault? s e = none) :
    entityCall s e = (do
      checkIndent s
      return ⟨entitySheetName, entityData s e⟩) := by
  rw [entityCall, membersOf_eq, hTypes, ← entityVariables_eq]
  rfl

/-- For the context class the engine is called with data in fragments. -/
theorem contextCall_eq_data (s : Settings) (entities : List Entity) :
    contextCall s entities = (do
      checkIndent s
      return ⟨contextSheetName, contextData s entities⟩) := by
  rw [contextCall, contextVariables_eq]

/-- With any templates, the code of an entity class whose types are in order is rendered from data
in fragments. -/
theorem entityCode_eq_render {g : Generator} {e : Entity}
    (hTypes : entityFault? g.settings e = none) :
    g.entityCode e = (do
      checkIndent g.settings
      g.library.render entitySheetName (entityData g.settings e)) := by
  rw [entityCode, entityCall_of_types hTypes, bind_assoc]
  rfl

/-- With any templates, the code of the context class is rendered from data in fragments. -/
theorem contextCode_eq_render (g : Generator) (entities : List Entity) :
    g.contextCode entities = (do
      checkIndent g.settings
      g.library.render contextSheetName (contextData g.settings entities)) := by
  rw [contextCode, contextCall_eq_data, bind_assoc]
  rfl

/-- With any templates, generation calls the engine with data in fragments. -/
theorem callsOf_eq_data {s : Settings} {schema : Schema}
    (hTypes : ∀ e ∈ schema.entities, entityFault? s e = none) :
    callsOf s schema =
      schema.entities.map (fun e => do
        checkIndent s
        return ⟨entitySheetName, entityData s e⟩) ++ [do
        checkIndent s
        return ⟨contextSheetName, contextData s schema.entities⟩] := by
  rw [callsOf, contextCall_eq_data,
    List.map_congr_left fun e he => entityCall_of_types (hTypes e he)]

/-! ### Names are proper -/

/-- All names in a line of code are proper. -/
def AllProper (code : List Fragment) : Prop := ∀ name, .name name ∈ code → IsProper name

@[simp]
theorem allProper_nil : AllProper [] := fun _ h => absurd h (by simp)

@[simp]
theorem allProper_plain {t : Text} {code : List Fragment} :
    AllProper (.plain t :: code) ↔ AllProper code := by
  simp [AllProper]

@[simp]
theorem allProper_name {t : Text} {code : List Fragment} :
    AllProper (.name t :: code) ↔ IsProper t ∧ AllProper code := by
  simp [AllProper]

@[simp]
theorem allProper_append {a b : List Fragment} :
    AllProper (a ++ b) ↔ AllProper a ∧ AllProper b := by
  simp only [AllProper, List.mem_append]
  exact ⟨fun h => ⟨fun name hm => h name (.inl hm), fun name hm => h name (.inr hm)⟩,
    fun h name hm => hm.elim (h.1 name) (h.2 name)⟩

theorem allProper_of_mem_plainLines {lines : List Text} :
    ∀ line ∈ plainLines lines, AllProper line := by
  intro line hLine
  obtain ⟨t, -, rfl⟩ := List.mem_map.mp hLine
  simp

theorem allProper_dotted {parts : List Text} (h : ∀ part ∈ parts, IsProper part) :
    AllProper (dotted parts) := by
  induction parts with
  | nil => simp [dotted]
  | cons part rest ih =>
      have hPart := h part List.mem_cons_self
      have hRest := ih fun other hm => h other (List.mem_cons_of_mem _ hm)
      cases rest with
      | nil => simpa [dotted] using hPart
      | cons next more => simpa [dotted] using ⟨hPart, hRest⟩

/-- The parts of a dotted name that the settings may have are proper. -/
theorem allProper_dottedFragments {name : Text} (h : isDottedName name = true) :
    AllProper (dottedFragments name) :=
  allProper_dotted fun part hPart => isFreeIdentifier_iff.mp (List.all_eq_true.mp h part hPart)

theorem IsEmittable.isProper {s : Settings} {name : Text} (h : IsEmittable s name) :
    IsProper (emitName s.escapeKeywords name) :=
  isProper_emitName (isValid_iff.mp h.isValid) h.not_keyword

section

variable {s : Settings} {e : Entity}

theorem allProper_classFragments (h : IsNamedWell s e) : AllProper (classFragments s e) := by
  simpa [classFragments] using h.name.isProper

theorem allProper_fieldFragments (h : IsNamedWell s e) :
    ∀ p ∈ e.properties, AllProper (fieldFragments s p) := by
  intro p hp
  simpa [fieldFragments] using (h.property p hp).isProper

theorem allProper_accessorFragments (h : IsNamedWell s e) : AllProper (accessorFragments s e) := by
  simpa [accessorFragments] using ⟨h.name.isProper, h.tableName.isProper⟩

theorem allProper_openingFragments (hs : IsUsable s) (imports : List String) :
    ∀ line ∈ openingFragments s imports, AllProper line := by
  simp only [openingFragments, List.forall_mem_append, List.forall_mem_cons, allProper_plain]
  exact ⟨allProper_of_mem_plainLines, allProper_dottedFragments hs.namespaceName, by simp, by simp⟩

theorem allProper_entityFragments (hs : IsUsable s) (h : IsNamedWell s e) :
    ∀ line ∈ entityFragments s e, AllProper line := by
  simp only [entityFragments, List.forall_mem_append, List.forall_mem_cons, allProper_plain,
    List.forall_mem_flatMap]
  refine ⟨⟨⟨allProper_openingFragments hs _, ?_⟩, fun p hp => ?_⟩, allProper_of_mem_plainLines⟩
  · exact ⟨by simp, allProper_classFragments h, by simp, by simp⟩
  · exact ⟨allProper_of_mem_plainLines, allProper_fieldFragments h p hp, by simp, by simp⟩

theorem allProper_contextFragments (hs : IsUsable s) {entities : List Entity}
    (h : ∀ e ∈ entities, IsNamedWell s e) :
    ∀ line ∈ contextFragments s entities, AllProper line := by
  have hContext := isFreeIdentifier_iff.mp hs.contextName
  have hBase := allProper_dottedFragments hs.baseClass
  have hOptions := allProper_dottedFragments hs.optionsType
  simp only [contextFragments, List.forall_mem_append, List.forall_mem_cons, allProper_plain,
    allProper_name, allProper_append, List.forall_mem_map]
  refine ⟨⟨⟨allProper_openingFragments hs _, ?_⟩, fun e he => ?_⟩, allProper_of_mem_plainLines⟩
  · simp [hContext, hBase, hOptions]
  · exact allProper_accessorFragments (h e he)

end

/-! ### The code of a schema -/

/-- The code with names that templates are given: the namespace and the context class, and of each
entity its class, its accessor and its members. -/
def givenCode (s : Settings) (schema : Schema) : List (List Fragment) :=
  dottedFragments s.namespaceName :: [.name s.contextName] ::
    schema.entities.flatMap fun e =>
      classFragments s e :: accessorFragments s e :: e.properties.map (fieldFragments s)

/-- A page in fragments, with the name of its artifact. -/
structure FragmentPage where
  name : Text
  lines : List (List Fragment)
  deriving DecidableEq, Repr

/-- The artifact of a page in fragments. -/
def FragmentPage.artifact (g : Generator) (page : FragmentPage) : Artifact :=
  ⟨page.name, g.format (Text.join (text "\n") (page.lines.map spell))⟩

/-- The pages of a schema in fragments, that of the context class last. -/
def fragmentPages (g : Generator) (entities : List Entity) : List FragmentPage :=
  entities.map (fun e => ⟨g.entityArtifactName e, entityFragments g.settings e⟩) ++
    [⟨g.contextArtifactName, contextFragments g.settings entities⟩]

theorem map_artifact_fragmentPages (g : Generator) (entities : List Entity) :
    (fragmentPages g entities).map (FragmentPage.artifact g) = pages g entities := by
  simp only [fragmentPages, pages, List.map_append, List.map_map, List.map_cons, List.map_nil,
    Function.comp_def, FragmentPage.artifact, map_spell_entityFragments,
    map_spell_contextFragments]
  rfl

theorem allProper_givenCode {s : Settings} {schema : Schema} (hs : IsUsable s)
    (h : ∀ e ∈ schema.entities, IsNamedWell s e) :
    ∀ code ∈ givenCode s schema, AllProper code := by
  simp only [givenCode, List.forall_mem_cons, List.forall_mem_flatMap, List.forall_mem_map]
  refine ⟨allProper_dottedFragments hs.namespaceName, ?_, fun e he => ?_⟩
  · simpa using isFreeIdentifier_iff.mp hs.contextName
  · exact ⟨allProper_classFragments (h e he), allProper_accessorFragments (h e he),
      allProper_fieldFragments (h e he)⟩

theorem allProper_fragmentPages {g : Generator} {entities : List Entity}
    (hs : IsUsable g.settings) (h : ∀ e ∈ entities, IsNamedWell g.settings e) :
    ∀ page ∈ fragmentPages g entities, ∀ line ∈ page.lines, AllProper line := by
  simp only [fragmentPages, List.forall_mem_append, List.forall_mem_map, List.forall_mem_singleton]
  exact ⟨fun e he => allProper_entityFragments hs (h e he), allProper_contextFragments hs h⟩

/-- In the code of a schema that passes the check, with keywords escaped or not, every name is an
identifier, perhaps behind an at sign, and no keyword.  Any templates are given the names in such
code, and with the built-in templates all lines of all artifacts are such code. -/
theorem isProper_of_mem_code {files : FileTree} {d : Draft} {g : Generator} {schema : Schema}
    {warnings : List SchemaWarning} (hMake : Generator.ofDraft files d = .ok g)
    (hCheck : g.check schema = .ok warnings) :
    (∀ code ∈ givenCode g.settings schema, AllProper code) ∧
      (∀ e ∈ schema.entities, g.entityCode e = do
        checkIndent g.settings
        g.library.render entitySheetName (entityData g.settings e)) ∧
      (g.contextCode schema.entities = do
        checkIndent g.settings
        g.library.render contextSheetName (contextData g.settings schema.entities)) ∧
      (callsOf g.settings schema =
        schema.entities.map (fun e => do
          checkIndent g.settings
          return ⟨entitySheetName, entityData g.settings e⟩) ++ [do
          checkIndent g.settings
          return ⟨contextSheetName, contextData g.settings schema.entities⟩]) ∧
      (g.settings.templateDir.getD [] = [] →
        g.generate schema = unlessFault (indentFailure? g.settings)
            ((fragmentPages g schema.entities).map (FragmentPage.artifact g)) ∧
          ∀ page ∈ fragmentPages g schema.entities, ∀ line ∈ page.lines, AllProper line) := by
  have hUsable := isUsable_of_ofDraft hMake
  have hNamed := isNamedWell_of_checkSchema hCheck
  have hTypes := (checkSchema_eq_ok_iff.mp hCheck).2.1
  refine ⟨allProper_givenCode hUsable hNamed, fun e he => entityCode_eq_render (hTypes e he),
    contextCode_eq_render g _, callsOf_eq_data hTypes,
    fun hDir => ⟨?_, allProper_fragmentPages hUsable hNamed⟩⟩
  rw [map_artifact_fragmentPages]
  exact generate_eq (isBuiltin_of_ofDraft hMake hDir) hTypes

/-- Settings with verbatim identifiers. -/
def verbatimSettings : Settings :=
  { namespaceName := text "Shop.@event.Model", contextName := text "@base" }

/-- A schema whose names are keywords or verbatim identifiers. -/
def keywordSchema : Schema := ⟨[
  ⟨text "class", text "@Classes", [
    { name := text "in", typeName := text "int", isPrimaryKey := true },
    { name := text "@out", typeName := text "string" }]⟩]⟩

/-- The schema passes the check, and its names are proper, keywords being escaped. -/
theorem isProper_of_mem_code_keywordSchema :
    (Generator.check ⟨verbatimSettings, builtinLibrary⟩ keywordSchema = .ok [
        .escapedProperty (text "class") (text "in"), .escapedEntity (text "class")]) ∧
      (Fragment.name (text "@class") ∈ (givenCode verbatimSettings keywordSchema).flatten) ∧
      ∀ code ∈ givenCode verbatimSettings keywordSchema, AllProper code := by
  have hCheck : Generator.check ⟨verbatimSettings, builtinLibrary⟩ keywordSchema = .ok [
      .escapedProperty (text "class") (text "in"), .escapedEntity (text "class")] := rfl
  exact ⟨hCheck, by decide,
    (isProper_of_mem_code (ofDraft_toDraft {} rfl rfl rfl) hCheck).1⟩

end EntityForge.CSharp
