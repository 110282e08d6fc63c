import EntityForge.Proofs.CSharp.Page
import EntityForge.Proofs.Layout.LaidOut
import EntityForge.Proofs.Naming.Emitted
import EntityForge.Proofs.Naming.Literal
import EntityForge.Proofs.Text.Numeral

/-! # Pages that are laid out already

The lines of a page are stripped and never blank twice in a row, whatever the names, the namespace
and the indentation that the checks let through.  So layout does nothing to a page but to put its
line ending between the lines: `content_entityPage` and `content_contextPage`.

What could spoil a line is what a schema brings along: a name with a blank at its end, a type that
is copied as it stands, a bound that is spelled out.  The checks refuse the first; the other two
are left out by `Property.IsStandard`.
-/

namespace EntityForge

/-- A recognized type, and bounds that are whole numbers. -/
structure Property.IsStandard (p : Property) : Prop where
  isRecognized : p.scalarType?.isSome = true
  maxLength : ∀ b ∈ p.maxLength, ∃ n, b = .number n
  precision : ∀ b ∈ p.precision, ∃ n, b = .number n
  scale : ∀ b ∈ p.scale, ∃ n, b = .number n

namespace CSharp

open Generator

variable {s : Settings}

theorem feed_not_mem_indent : CodePoint.char '\n' ∉ s.indent := by
  rw [Settings.indent]
  split
  · decide
  · simp [List.mem_replicate]

theorem indented {l : Text} (h : l.IsFullLine) : (s.indent ++ l).IsFullLine :=
  h.append feed_not_mem_indent

theorem feed_not_mem_ofInt (n : Int) : CodePoint.char '\n' ∉ Text.ofInt n := fun h =>
  absurd (Text.isNumeralCode_of_mem_ofInt _ h) (by decide)

/-! ### Lines of a page -/

/-- The attribute for the greatest length. -/
def lengthAttribute (bound : Bound) : Text := text "[MaxLength(" ++ bound.shown ++ text ")]"

/-- Where an attribute of a member comes from. -/
theorem mem_attributesOf_iff {p : Property} {type : TypeName} {a : Text} :
    a ∈ attributesOf p type ↔
      (p.isPrimaryKey = true ∧ a = text "[Key]") ∨
      ((p.isRequired = true ∧ type.isReference = true) ∧ a = text "[Required]") ∨
      (∃ bound, p.maxLength = some bound ∧ a = lengthAttribute bound) ∨
      ∃ precision scale, p.decimalSpec? = some (precision, scale) ∧
        a = columnAttribute precision scale := by
  simp only [attributesOf, List.mem_append, or_assoc]
  refine or_congr ?_ (or_congr ?_ (or_congr ?_ ?_))
  · split <;> simp_all
  · split <;> simp_all
  · cases p.maxLength <;> simp [lengthAttribute]
  · cases p.decimalSpec? with
    | none => simp
    | some spec =>
        obtain ⟨precision, scale⟩ := spec
        simp [and_assoc]

theorem isFullLine_of_mem_attributesOf {p : Property} {type : TypeName} (hp : p.IsStandard) :
    ∀ a ∈ attributesOf p type, a.IsFullLine := by
  have hEnd : (text ")]").IsFullLine := by decide
  intro a ha
  rcases mem_attributesOf_iff.mp ha with
    ⟨_, rfl⟩ | ⟨_, rfl⟩ | ⟨bound, hBound, rfl⟩ | ⟨precision, scale, _, rfl⟩
  · decide
  · decide
  · obtain ⟨n, rfl⟩ := hp.maxLength bound hBound
    exact hEnd.append (by simp [text, Bound.shown, feed_not_mem_ofInt])
  · have hMark : CodePoint.char '\n' ∉ text "[Column(TypeName = " := by decide
    exact hEnd.append (by simp [hMark, Literal.feed_not_mem_quote])

/-- The C# type of a recognized type is a single word. -/
theorem isSolid_declaration {p : Property} (h : p.scalarType?.isSome = true) :
    (TypeName.of p).declaration.IsSolid := by
  have hScalar : ∀ scalar, (TypeName.ofScalar scalar).declaration.IsSolid := by
    intro scalar
    cases scalar <;> decide
  obtain ⟨scalar, hType⟩ := Option.isSome_iff_exists.mp h
  rw [TypeName.of, hType]
  exact hScalar scalar

theorem isFullLine_accessEnd : (text " \x7b get; set; \x7d").IsFullLine := by
  decide

theorem isFullLine_fieldDeclaration {p : Property} (hp : p.IsStandard) {name : Text}
    (hName : name.IsSolid) :
    (fieldDeclaration (TypeName.of p).declaration name).IsFullLine := by
  have hType := (isSolid_declaration hp.isRecognized).isLine.no_feed
  have hNameFeed := hName.isLine.no_feed
  exact isFullLine_accessEnd.append (by simp [text, hType, hNameFeed])

theorem isFullLine_of_mem_memberLines {p : Property} (hp : p.IsStandard)
    (hName : IsEmittable s p.name) : ∀ l ∈ memberLines s p, l.IsFullLine := by
  intro l hl
  simp only [memberLines, List.mem_append, List.mem_map, List.mem_singleton] at hl
  rcases hl with ⟨a, ha, rfl⟩ | rfl
  · rw [List.append_assoc]
    exact indented (indented (isFullLine_of_mem_attributesOf hp a ha))
  · rw [List.append_assoc]
    exact indented (indented (isFullLine_fieldDeclaration hp (isSolid_emitName _ hName.isValid)))

theorem isFullLine_accessorLine {e : Entity} (he : IsNamedWell s e) :
    (accessorLine s e).IsFullLine := by
  have hName := (isSolid_emitName s.escapeKeywords he.name.isValid).isLine.no_feed
  have hTable := (isSolid_emitName s.escapeKeywords he.tableName.isValid).isLine.no_feed
  have hAccessor : (accessorOf s.escapeKeywords e).IsFullLine :=
    isFullLine_accessEnd.append (by simp [text, hName, hTable])
  rw [accessorLine, List.append_assoc]
  exact indented (indented hAccessor)

/-! ### Whole pages -/

open Layout

theorem isFullLine_importLine {name : String} (h : CodePoint.char '\n' ∉ text name) :
    (importLine name).IsFullLine := by
  have hMark : CodePoint.char '\n' ∉ text "using " := by decide
  have hEnd : (text ";").IsFullLine := by decide
  exact hEnd.append (by simp [hMark, h])

theorem isLaidOut_opening {imports : List String} {rest : List Text} (hs : IsUsable s)
    (hImports : ∀ i ∈ imports, CodePoint.char '\n' ∉ text i) (hRest : IsLaidOut rest) :
    IsLaidOut (openingLines s imports ++ rest) := by
  have hHeader : ∀ l ∈ headerLines s, l.IsFullLine := by
    intro l hl
    simp only [headerLines] at hl
    split at hl
    · rw [List.mem_singleton.mp hl]
      decide
    · simp at hl
  have hNamespace : (text "namespace " ++ s.namespaceName).IsFullLine :=
    .append (by decide) (isSolid_of_isDottedName hs.namespaceName).isFullLine
  have hBrace : (text "\x7b").IsFullLine := by decide
  simp only [openingLines, List.append_assoc, List.cons_append, List.nil_append]
  refine .append hHeader (.append ?_ (.blank_cons ?_ ?_))
  · simpa using fun i hi => isFullLine_importLine (hImports i hi)
  · simp [hNamespace.ne_nil]
  · exact .cons hNamespace (.cons hBrace hRest)

theorem isLaidOut_closingLines : IsLaidOut (closingLines s) := by
  have hBrace : (text "\x7d").IsFullLine := by decide
  exact .append (by simp [hBrace, indented hBrace]) (.singleton .nil)

theorem head_closingLines : ∀ l ∈ (closingLines s).head?, l ≠ [] := by
  simp [closingLines, text]

theorem isLaidOut_entityLines {e : Entity} (hs : IsUsable s) (he : IsNamedWell s e)
    (hStandard : ∀ p ∈ e.properties, p.IsStandard) : IsLaidOut (entityLines s e) := by
  have hTable : (tableAttribute e).IsFullLine := by
    have hEnd : (text ")]").IsFullLine := by decide
    exact hEnd.append (by simp [text, Literal.feed_not_mem_quote])
  have hClass : (text "public partial class " ++ emitName s.escapeKeywords e.name).IsFullLine :=
    .append (by decide) (isSolid_emitName _ he.name.isValid).isFullLine
  have hBrace : (text "\x7b").IsFullLine := by decide
  have hMember : ∀ p ∈ e.properties, memberLines s p ≠ [] ∧ ∀ l ∈ memberLines s p, l.IsFullLine :=
    fun p hp => ⟨by simp [memberLines],
      isFullLine_of_mem_memberLines (hStandard p hp) (he.property p hp)⟩
  have hRest := IsLaidOut.flatMap_append hMember head_closingLines
    (isLaidOut_closingLines (s := s))
  simp only [entityLines, List.append_assoc]
  refine isLaidOut_opening hs (by decide) (.append ?_ hRest)
  simp [indented hTable, indented hClass, indented hBrace]

theorem isLaidOut_contextLines {entities : List Entity} (hs : IsUsable s)
    (hNamed : ∀ e ∈ entities, IsNamedWell s e) : IsLaidOut (contextLines s entities) := by
  have hContext := isSolid_of_isFreeIdentifier hs.contextName
  have hContextFeed := hContext.isLine.no_feed
  have hOptionsFeed := (isSolid_of_isDottedName hs.optionsType).isLine.no_feed
  have hClass : (text "public partial class " ++ s.contextName ++ text " : " ++
      baseClass s).IsFullLine :=
    (isSolid_of_isDottedName hs.baseClass).isFullLine.append (by simp [text, hContextFeed])
  have hOptionsEnd : (text "> options)").IsFullLine := by decide
  have hConstructor : (text "public " ++ s.contextName ++ text "(" ++ optionsType s ++ text "<" ++
      s.contextName ++ text "> options)").IsFullLine :=
    hOptionsEnd.append (by simp [text, hContextFeed, hOptionsFeed])
  have hBase : (text ": base(options)").IsFullLine := by decide
  have hOpen : (text "\x7b").IsFullLine := by decide
  have hClose : (text "\x7d").IsFullLine := by decide
  have hAccessors : IsLaidOut (entities.map (accessorLine s) ++ closingLines s) :=
    .append (by simpa using fun e he => isFullLine_accessorLine (hNamed e he))
      isLaidOut_closingLines
  have hHead : ∀ l ∈ (entities.map (accessorLine s) ++ closingLines s).head?, l ≠ [] := by
    cases entities with
    | nil => exact head_closingLines
    | cons e rest => simpa using (isFullLine_accessorLine (hNamed e List.mem_cons_self)).ne_nil
  have hBody := hAccessors.blank_cons hHead
  simp only [contextLines, List.append_assoc, List.cons_append, List.nil_append]
    at hClass hConstructor hBody ⊢
  refine isLaidOut_opening hs (by decide) (.cons (indented hClass) (.cons (indented hOpen) ?_))
  exact .cons (indented (indented hConstructor)) (.cons (indented (indented (indented hBase)))
    (.cons (indented (indented hOpen)) (.cons (indented (indented hClose)) hBody)))

/-! ### Artifacts -/

theorem content_entityPage {g : Generator} {e : Entity} (hs : IsUsable g.settings)
    (he : IsNamedWell g.settings e) (hStandard : ∀ p ∈ e.properties, p.IsStandard) :
    (entityPage g e).content =
      Text.join g.settings.lineEnding (entityLines g.settings e) := by
  have hne : entityLines g.settings e ≠ [] := by simp [entityLines, closingLines]
  exact format_join hne (isLaidOut_entityLines hs he hStandard) _

theorem content_contextPage {g : Generator} {entities : List Entity} (hs : IsUsable g.settings)
    (hNamed : ∀ e ∈ entities, IsNamedWell g.settings e) :
    (contextPage g entities).content =
      Text.join g.settings.lineEnding (contextLines g.settings entities) := by
  have hne : contextLines g.settings entities ≠ [] := by simp [contextLines, closingLines]
  exact format_join hne (isLaidOut_contextLines hs hNamed) _

/-- The artifacts of a schema that passes the check are its pages line by line, with the line
ending of the settings between the lines; there are no artifacts only if the indentation cannot be
laid out. -/
theorem generate_eq_joined_lines {files : FileTree} {d : Draft} {g : Generator} {schema : Schema}
    {warnings : List SchemaWarning} (hMake : Generator.ofDraft files d = .ok g)
    (hDir : g.settings.templateDir.getD [] = []) (hCheck : g.check schema = .ok warnings)
    (hStandard : ∀ e ∈ schema.entities, ∀ p ∈ e.properties, p.IsStandard) :
    g.generate schema = unlessFault (indentFailure? g.settings)
      (schema.entities.map (fun e => Artifact.mk (g.entityArtifactName e)
          (Text.join g.settings.lineEnding (entityLines g.settings e))) ++
        [⟨g.contextArtifactName,
          Text.join g.settings.lineEnding (contextLines g.settings schema.entities)⟩]) := by
  have hg := isBuiltin_of_ofDraft hMake hDir
  have hNamed := isNamedWell_of_checkSchema hCheck
  have hEntities : schema.entities.map (entityPage g) =
      schema.entities.map (fun e => Artifact.mk (g.entityArtifactName e)
        (Text.join g.settings.lineEnding (entityLines g.settings e))) := by
    refine List.map_congr_left fun e he => ?_
    rw [← content_entityPage hg.isUsable (hNamed e he) (hStandard e he)]
    rfl
  have hContext : contextPage g schema.entities =
      ⟨g.contextArtifactName,
        Text.join g.settings.lineEnding (contextLines g.settings schema.entities)⟩ := by
    rw [← content_contextPage hg.isUsable hNamed]
    rfl
  rw [generate_eq hg (checkSchema_eq_ok_iff.mp hCheck).2.1, pages, hEntities, hContext]

/-- Settings that depart from the defaults in all that shows in the layout. -/
def tabbedSettings : Settings :=
  { addHeader := true, useTabs := true, lineEnding := text "\r\n" }

/-- An entity whose members have every attribute. -/
def orderEntity : Entity :=
  ⟨text "Order", text "Orders", [
    { name := text "Id", typeName := text "int", isPrimaryKey := true },
    { name := text "Customer", typeName := text "string", isRequired := true,
      maxLength := some (.number 40) },
    { name := text "Total", typeName := text "decimal", precision := some (.number 18),
      scale := some (.number 2) }]⟩

theorem isStandard_orderEntity : ∀ p ∈ orderEntity.properties, p.IsStandard := by
  intro p hp
  simp only [orderEntity, List.mem_cons, List.not_mem_nil, or_false] at hp
  rcases hp with rfl | rfl | rfl <;> exact ⟨by decide, by simp, by simp, by simp⟩

theorem generate_eq_joined_lines_orderEntity :
    Generator.generate ⟨tabbedSettings, builtinLibrary⟩ ⟨[orderEntity]⟩ =
      .ok [⟨text "Order.g.cs", Text.join (text "\r\n") (entityLines tabbedSettings orderEntity)⟩,
        ⟨text "GeneratedDbContext.g.cs",
          Text.join (text "\r\n") (contextLines tabbedSettings [orderEntity])⟩] :=
  generate_eq_joined_lines (ofDraft_toDraft {} rfl rfl rfl) rfl rfl
    (by simpa using isStandard_orderEntity)

end CSharp

end EntityForge
