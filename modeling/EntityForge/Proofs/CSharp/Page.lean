import EntityForge.Proofs.CSharp.Checked
import EntityForge.Proofs.CSharp.Usable
import EntityForge.Proofs.Template.Rendering
import EntityForge.Proofs.Text.Lines

/-! # Pages of generated code

A page is a list of lines: the one of an entity class is `entityLines`, that of the context class
is `contextLines`.  Both are written down here as they are to be read, with no template in sight.
`entityCode_eq` and `contextCode_eq` say that what the generator renders from its templates are
these lines, for any settings and any schema; the only faults are a type that is no type and an
indentation that cannot be laid out.
-/

namespace EntityForge.CSharp

open Template Generator

/-! ### The lines -/

/-- The header comment, if there is to be one. -/
def headerLines (s : Settings) : List Text :=
  if s.addHeader then [text "// " ++ headerText] else []

/-- The line that imports a namespace. -/
def importLine (name : String) : Text := text "using " ++ text name ++ text ";"

/-- The lines that both pages begin with. -/
def openingLines (s : Settings) (imports : List String) : List Text :=
  headerLines s ++ imports.map importLine ++
    [[], text "namespace " ++ s.namespaceName, text "\x7b"]

/-- The lines that both pages end with. -/
def closingLines (s : Settings) : List Text := [s.indent ++ text "\x7d", text "\x7d"] ++ [[]]

/-- The lines of a member: its attributes, then its declaration. -/
def memberLines (s : Settings) (p : Property) : List Text :=
  (attributesOf p (.of p)).map (s.indent ++ s.indent ++ ·) ++
    [s.indent ++ s.indent ++
      fieldDeclaration (TypeName.of p).declaration (emitName s.escapeKeywords p.name)]

/-- The page of an entity class. -/
def entityLines (s : Settings) (e : Entity) : List Text :=
  openingLines s entityImports ++
    [s.indent ++ tableAttribute e,
      s.indent ++ text "public partial class " ++ emitName s.escapeKeywords e.name,
      s.indent ++ text "\x7b"] ++
    e.properties.flatMap (fun p => memberLines s p ++ [[]]) ++
    closingLines s

/-- The line of an accessor. -/
def accessorLine (s : Settings) (e : Entity) : Text :=
  s.indent ++ s.indent ++ accessorOf s.escapeKeywords e

/-- The page of the context class. -/
def contextLines (s : Settings) (entities : List Entity) : List Text :=
  openingLines s contextImports ++
    [s.indent ++ text "public partial class " ++ s.contextName ++ text " : " ++ baseClass s,
      s.indent ++ text "\x7b",
      s.indent ++ s.indent ++ text "public " ++ s.contextName ++ text "(" ++ optionsType s ++
        text "<" ++ s.contextName ++ text "> options)",
      s.indent ++ s.indent ++ s.indent ++ text ": base(options)",
      s.indent ++ s.indent ++ text "\x7b",
      s.indent ++ s.indent ++ text "\x7d",
      []] ++
    entities.map (accessorLine s) ++
    closingLines s

/-! ### Both pages -/

section

variable {scope : Scope}

theorem render_nameNode {w : String} {v : Value} (h : (nameExpr w).eval scope = .ok (.value v)) :
    (nameNode w).render false scope = .ok v.plain :=
  render_print h

theorem render_dataNode (t : String) : (dataNode t).render false scope = .ok (text t) :=
  render_data _

end

/-- What a template is given that begins as both built-in templates do. -/
def scopeOf (name : Text) (s : Settings) (imports : List String) (own : Variables) : Scope :=
  ⟨name, baseVariables s imports ++ own ++ knownNames, []⟩

section

variable {name : Text} {s : Settings} {imports : List String} {own : Variables}

theorem eval_given {w : String} {d : Datum}
    (h : (baseVariables s imports ++ own ++ knownNames).lookup? (text w) = some d) :
    (nameExpr w).eval (scopeOf name s imports own) = .ok d :=
  eval_name rfl h

theorem render_given {w : String} {v : Value}
    (h : (baseVariables s imports ++ own ++ knownNames).lookup? (text w) = some (.value v)) :
    (nameNode w).render false (scopeOf name s imports own) = .ok v.plain :=
  render_nameNode (eval_given h)

end

/-- The header comment is a single line. -/
theorem commentLines_headerText :
    commentLines (text "//") headerText = text "// " ++ headerText := by
  decide

theorem render_headNodes (name : Text) (s : Settings) (imports : List String) (own : Variables)
    {rest : List Node} {back : Text}
    (hRest : renderAll false (scopeOf name s imports own) rest = .ok back) :
    renderAll false (scopeOf name s imports own) (headNodes ++ rest) =
      .ok ((openingLines s imports).flatMap (· ++ text "\n") ++ back) := by
  have hHeader : (Node.branch (nameExpr "header")
      [.print (.comment (nameExpr "header") (text "//")), dataNode "\n"] []).render false
        (scopeOf name s imports own) =
      .ok ((headerLines s).flatMap (· ++ text "\n")) := by
    have hEval : (nameExpr "header").eval (scopeOf name s imports own) =
        .ok (.value (if s.addHeader then .string headerText else .null)) := eval_given rfl
    rw [render_branch hEval]
    cases hAdd : s.addHeader with
    | false => simp [headerLines, hAdd, Datum.isTruthy, Value.isTruthy, renderAll_nil]
    | true =>
        rw [hAdd] at hEval
        refine (renderAll_cons (render_print (eval_comment hEval)) <|
          renderAll_cons (render_dataNode _) renderAll_nil).trans ?_
        simp [headerLines, hAdd, commentLines_headerText]
  have hImports : (Node.loop (text "using") (nameExpr "usings")
      [dataNode "using ", nameNode "using", dataNode ";\n"]).render false
        (scopeOf name s imports own) =
      .ok (imports.flatMap fun i => importLine i ++ text "\n") := by
    refine render_loop (fun i => .value (.string (text i))) imports _ (eval_given rfl) ?_
      fun i _ index => ?_
    · simp [textList, Datum.items?]
    · refine (renderAll_cons (render_dataNode _) <| renderAll_cons (render_print eval_target) <|
        renderAll_cons (render_dataNode _) renderAll_nil).trans ?_
      simp [importLine, text]
  refine (renderAll_cons hHeader <| renderAll_cons hImports <| renderAll_cons (render_dataNode _) <|
    renderAll_cons (render_given rfl) <|
    renderAll_cons (render_dataNode _) hRest).trans ?_
  simp [openingLines, text, List.flatMap_map]

/-! ### The page of an entity class -/

theorem render_attributeNodes {scope : Scope} {indent line : Text}
    (hIndent : (nameExpr "member_indent").eval scope = .ok (textDatum indent))
    (hAttribute : (nameExpr "attribute").eval scope = .ok (.value (.string line))) :
    renderAll false scope attributeNodes = .ok (indent ++ line ++ text "\n") := by
  refine (renderAll_cons (render_nameNode hIndent) <| renderAll_cons (render_nameNode hAttribute) <|
    renderAll_cons (render_dataNode _) renderAll_nil).trans ?_
  simp

/-- The body of the loop over members renders the lines of a member and a blank one. -/
theorem render_memberNodes {scope : Scope} {s : Settings} {p : Property}
    (hIndent : (nameExpr "member_indent").eval scope = .ok (textDatum (s.indent ++ s.indent)))
    (hMember : (nameExpr "member").eval scope = .ok (memberFor s p).toDatum) :
    renderAll false scope memberNodes =
      .ok ((memberLines s p ++ [[]]).flatMap (· ++ text "\n")) := by
  have hAttributes : (Node.loop (text "attribute")
      (.attribute (nameExpr "member") (text "attributes")) attributeNodes).render false scope =
      .ok ((memberFor s p).attributes.flatMap fun a => s.indent ++ s.indent ++ a ++ text "\n") := by
    refine render_loop (fun a => .value (.string a)) (memberFor s p).attributes _
      (eval_attribute hMember rfl) ?_ fun a _ index => ?_
    · simp [Datum.items?]
    · refine render_attributeNodes ?_ eval_target
      rw [← hIndent]
      exact eval_name_inLoop (by decide) (by decide)
  refine (renderAll_cons hAttributes <| renderAll_cons (render_nameNode hIndent) <|
    renderAll_cons (render_print (eval_attribute hMember rfl)) <|
    renderAll_cons (render_dataNode _) renderAll_nil).trans ?_
  simp [memberLines, memberFor, text, List.flatMap_map]

theorem render_members {scope : Scope} {s : Settings} {properties : List Property}
    (hIndent : (nameExpr "member_indent").eval scope = .ok (textDatum (s.indent ++ s.indent)))
    (hMembers : (nameExpr "members").eval scope =
      .ok (.list ((properties.map (memberFor s)).map Member.toDatum))) :
    (Node.loop (text "member") (nameExpr "members") memberNodes).render false scope =
      .ok (properties.flatMap fun p => (memberLines s p ++ [[]]).flatMap (· ++ text "\n")) := by
  refine render_loop (fun p => (memberFor s p).toDatum) properties _ hMembers ?_ fun p _ index => ?_
  · simp [Datum.items?, List.map_map, Function.comp_def]
  · refine render_memberNodes ?_ eval_target
    rw [← hIndent]
    exact eval_name_inLoop (by decide) (by decide)

theorem render_entityNodes (s : Settings) (e : Entity) :
    renderTemplate false entitySheetName (entityVariables s e (e.properties.map (memberFor s)))
      entityNodes = (.ok (Text.join (text "\n") (entityLines s e)), fun _ => false) := by
  rw [renderTemplate, renderTop_of_none reversed?_entityNodes, entityNodes]
  refine congrArg (·, fun _ => false) ?_
  refine (render_headNodes entitySheetName s entityImports _ <|
    renderAll_cons (render_given rfl) <|
    renderAll_cons (render_given rfl) <| renderAll_cons (render_dataNode _) <|
    renderAll_cons (render_given rfl) <| renderAll_cons (render_dataNode _) <|
    renderAll_cons (render_given rfl) <| renderAll_cons (render_dataNode _) <|
    renderAll_cons (render_given rfl) <| renderAll_cons (render_dataNode _) <|
    renderAll_cons (render_members (eval_given rfl) (eval_given rfl)) <|
    renderAll_cons (render_given rfl) <|
    renderAll_cons (render_dataNode _) renderAll_nil).trans ?_
  rw [entityLines, closingLines, ← List.append_assoc _ _ [[]], Text.join_concat_nil]
  simp [text, List.flatMap_assoc]

/-! ### The page of the context class -/

theorem render_accessorNodes {scope : Scope} {indent line : Text}
    (hIndent : (nameExpr "member_indent").eval scope = .ok (textDatum indent))
    (hAccessor : (nameExpr "accessor").eval scope = .ok (.value (.string line))) :
    renderAll false scope accessorNodes = .ok (indent ++ line ++ text "\n") := by
  refine (renderAll_cons (render_nameNode hIndent) <| renderAll_cons (render_nameNode hAccessor) <|
    renderAll_cons (render_dataNode _) renderAll_nil).trans ?_
  simp

theorem render_accessors {scope : Scope} {s : Settings} {entities : List Entity}
    (hIndent : (nameExpr "member_indent").eval scope = .ok (textDatum (s.indent ++ s.indent)))
    (hAccessors : (nameExpr "accessors").eval scope =
      .ok (textList (entities.map (accessorOf s.escapeKeywords)))) :
    (Node.loop (text "accessor") (nameExpr "accessors") accessorNodes).render false scope =
      .ok (entities.flatMap fun e => accessorLine s e ++ text "\n") := by
  refine render_loop (fun e => .value (.string (accessorOf s.escapeKeywords e))) entities _
    hAccessors ?_ fun e _ index => ?_
  · simp [textList, Datum.items?, List.map_map, Function.comp_def]
  · refine render_accessorNodes ?_ eval_target
    rw [← hIndent]
    exact eval_name_inLoop (by decide) (by decide)

theorem render_contextNodes (s : Settings) (entities : List Entity) :
    renderTemplate false contextSheetName (contextVariables s entities) contextNodes =
      (.ok (Text.join (text "\n") (contextLines s entities)), fun _ => false) := by
  rw [renderTemplate, renderTop_of_none reversed?_contextNodes, contextNodes]
  refine congrArg (·, fun _ => false) ?_
  refine (render_headNodes contextSheetName s contextImports _ <|
    -- the line that declares the class
    renderAll_cons (render_given rfl) <| renderAll_cons (render_dataNode _) <|
    renderAll_cons (render_given rfl) <| renderAll_cons (render_dataNode _) <|
    renderAll_cons (render_given rfl) <| renderAll_cons (render_dataNode _) <|
    renderAll_cons (render_given rfl) <| renderAll_cons (render_dataNode _) <|
    -- the line that declares the constructor
    renderAll_cons (render_given rfl) <| renderAll_cons (render_dataNode _) <|
    renderAll_cons (render_given rfl) <| renderAll_cons (render_dataNode _) <|
    renderAll_cons (render_given rfl) <| renderAll_cons (render_dataNode _) <|
    renderAll_cons (render_given rfl) <| renderAll_cons (render_dataNode _) <|
    -- its initializer and its empty body
    renderAll_cons (render_given rfl) <| renderAll_cons (render_given rfl) <|
    renderAll_cons (render_dataNode _) <|
    renderAll_cons (render_given rfl) <| renderAll_cons (render_dataNode _) <|
    renderAll_cons (render_given rfl) <| renderAll_cons (render_dataNode _) <|
    renderAll_cons (render_accessors (eval_given rfl) (eval_given rfl)) <|
    renderAll_cons (render_given rfl) <|
    renderAll_cons (render_dataNode _) renderAll_nil).trans ?_
  rw [contextLines, closingLines, ← List.append_assoc _ _ [[]], Text.join_concat_nil, baseClass,
    optionsType, typeNameSetting, typeNameSetting]
  simp [text, List.flatMap_map]

/-! ### What the generator gives -/

theorem render_entitySheet (s : Settings) (e : Entity) :
    builtinLibrary.renderer.render entitySheetName
      (entityVariables s e (e.properties.map (memberFor s))) =
        .ok (Text.join (text "\n") (entityLines s e)) := by
  have hMarkup : TemplateLibrary.isMarkup entitySheetName = false := by decide
  rw [TemplateLibrary.render_of_leavesLists leavesLists_builtinLibrary, TemplateLibrary.perform,
    find_entitySheetName]
  simp only [Bool.false_eq_true, if_false]
  rw [if_neg (by exact Bool.false_ne_true), hMarkup, render_entityNodes]
  rfl

theorem render_contextSheet (s : Settings) (entities : List Entity) :
    builtinLibrary.renderer.render contextSheetName (contextVariables s entities) =
      .ok (Text.join (text "\n") (contextLines s entities)) := by
  have hMarkup : TemplateLibrary.isMarkup contextSheetName = false := by decide
  rw [TemplateLibrary.render_of_leavesLists leavesLists_builtinLibrary, TemplateLibrary.perform,
    find_contextSheetName]
  simp only [Bool.false_eq_true, if_false]
  rw [if_neg (by exact Bool.false_ne_true), hMarkup, render_contextNodes]
  rfl

variable {g : Generator}

/-- The code of an entity class is its page, unless a type is no type or the indentation cannot be
laid out. -/
theorem entityCode_eq (hg : IsBuiltin g) (e : Entity) :
    g.entityCode e =
      unlessFault ((entityFault? g.settings e).or (indentFailure? g.settings))
        (Text.join (text "\n") (entityLines g.settings e)) := by
  have hSheet := render_entitySheet g.settings e
  rw [← hg.library] at hSheet
  rw [entityCode, entityCall_eq]
  exact unlessFault_bind_ok hSheet

example : entityLines { addHeader := true, indentSize := 2 }
    ⟨text "Tag", text "Tags",
      [{ name := text "Id", typeName := text "int", isPrimaryKey := true }]⟩ =
    [ "// <auto-generated />", "using System;", "using System.ComponentModel.DataAnnotations;",
      "using System.ComponentModel.DataAnnotations.Schema;", "",
      "namespace GeneratedModels", "\x7b",
      "  [Table(\"Tags\")]", "  public partial class Tag", "  \x7b", "    [Key]",
      "    public int Id \x7b get; set; \x7d", "", "  \x7d", "\x7d", "" ].map text := by
  decide +kernel

/-- The code of the context class is its page, unless the indentation cannot be laid out. -/
theorem contextCode_eq (hg : IsBuiltin g) (entities : List Entity) :
    g.contextCode entities =
      unlessFault (indentFailure? g.settings)
        (Text.join (text "\n") (contextLines g.settings entities)) := by
  have hSheet := render_contextSheet g.settings entities
  rw [← hg.library] at hSheet
  rw [contextCode, contextCall_eq]
  exact unlessFault_bind_ok hSheet

/-- The artifact of an entity with its page laid out. -/
def entityPage (g : Generator) (e : Entity) : Artifact :=
  ⟨g.entityArtifactName e, g.format (Text.join (text "\n") (entityLines g.settings e))⟩

/-- The artifact of the context with its page laid out. -/
def contextPage (g : Generator) (entities : List Entity) : Artifact :=
  ⟨g.contextArtifactName, g.format (Text.join (text "\n") (contextLines g.settings entities))⟩

/-- All artifacts of entities, the last being that of the context. -/
def pages (g : Generator) (entities : List Entity) : List Artifact :=
  entities.map (entityPage g) ++ [contextPage g entities]

theorem entityArtifact_eq (hg : IsBuiltin g) (e : Entity) :
    g.entityArtifact e =
      unlessFault ((entityFault? g.settings e).or (indentFailure? g.settings))
        (entityPage g e) := by
  rw [entityArtifact, entityCode_eq hg]
  exact unlessFault_bind_ok rfl

theorem contextArtifact_eq (hg : IsBuiltin g) (entities : List Entity) :
    g.contextArtifact entities =
      unlessFault (indentFailure? g.settings) (contextPage g entities) := by
  rw [contextArtifact, contextCode_eq hg]
  exact unlessFault_bind_ok rfl

/-- If all types are in order, the generator gives the pages of a schema, unless the indentation
cannot be laid out. -/
theorem generate_eq (hg : IsBuiltin g) {schema : Schema}
    (hTypes : ∀ e ∈ schema.entities, entityFault? g.settings e = none) :
    g.generate schema = unlessFault (indentFailure? g.settings) (pages g schema.entities) := by
  have hEntities : ∀ e ∈ schema.entities,
      g.entityArtifact e = unlessFault (indentFailure? g.settings) (entityPage g e) := by
    intro e he
    rw [entityArtifact_eq hg, hTypes e he, Option.none_or]
  have hContext : (do
      let context ← g.contextArtifact schema.entities
      return schema.entities.map (entityPage g) ++ [context]) =
      unlessFault (indentFailure? g.settings) (pages g schema.entities) := by
    rw [contextArtifact_eq hg]
    exact unlessFault_bind_ok rfl
  have hFault : ((schema.entities.findSome? fun _ => indentFailure? g.settings).or
      (indentFailure? g.settings)) = indentFailure? g.settings := by
    cases hNone : indentFailure? g.settings with
    | none => simp
    | some fault => cases schema.entities <;> simp
  calc g.generate schema
      = unlessFault ((schema.entities.findSome? fun _ => indentFailure? g.settings).or
          (indentFailure? g.settings)) (pages g schema.entities) := by
        rw [generate_of_isForgetful hg.isForgetful, mapM_unlessFault hEntities]
        exact unlessFault_bind hContext
    _ = unlessFault (indentFailure? g.settings) (pages g schema.entities) := by rw [hFault]

end EntityForge.CSharp
