import EntityForge.Proofs.CSharp.PageLayout

/-! # What a page tells

A page can be read back.  Its lines are known, since no line holds a line feed; the lines of a
member end at a blank one, since none of them is blank; and what stands in a line is told by the
code points that words, names and numerals do not hold.  So two entities with the same page have
the same table, the same class name and, member by member, the same of all that is generated from
a property.

The lemmas go up from the single line to the page.
-/

namespace EntityForge.CSharp

open Generator Layout

/-! ### Declarations -/

/-- No C# type has a question mark in its own name, so that the one of a nullable type tells. -/
theorem ofScalar_eq_of_declaration_eq {a b : ScalarType}
    (h : (TypeName.ofScalar a).declaration = (TypeName.ofScalar b).declaration) :
    TypeName.ofScalar a = TypeName.ofScalar b := by
  have hMark : ∀ c, CodePoint.char '?' ∉ (TypeName.ofScalar c).token := by
    intro c
    cases c <;> decide
  have hTokenA := hMark a
  have hTokenB := hMark b
  generalize TypeName.ofScalar a = s at *
  generalize TypeName.ofScalar b = t at *
  obtain ⟨sToken, sReference⟩ := s
  obtain ⟨tToken, tReference⟩ := t
  cases sReference <;> cases tReference <;>
    simp only [TypeName.declaration, Bool.false_eq_true, if_true, if_false] at h
  · rw [h]
  · simp [h, text] at hTokenA
  · simp [← h, text] at hTokenB
  · rw [List.append_cancel_right h]

theorem of_eq_of_declaration_eq {p q : Property} (hp : p.IsStandard) (hq : q.IsStandard)
    (h : (TypeName.of p).declaration = (TypeName.of q).declaration) :
    TypeName.of p = TypeName.of q := by
  obtain ⟨a, ha⟩ := Option.isSome_iff_exists.mp hp.isRecognized
  obtain ⟨b, hb⟩ := Option.isSome_iff_exists.mp hq.isRecognized
  simp only [TypeName.of, ha, hb] at h ⊢
  exact ofScalar_eq_of_declaration_eq h

/-- A declaration tells its type and its name. -/
theorem fieldDeclaration_inj {type₁ type₂ name₁ name₂ : Text} (h₁ : type₁.IsSolid)
    (h₂ : type₂.IsSolid) (h : fieldDeclaration type₁ name₁ = fieldDeclaration type₂ name₂) :
    type₁ = type₂ ∧ name₁ = name₂ := by
  have hSpace : ∀ name : Text, text " " ++ (name ++ text " \x7b get; set; \x7d") =
      CodePoint.char ' ' :: (name ++ text " \x7b get; set; \x7d") := fun _ => rfl
  simp only [fieldDeclaration, List.append_assoc, hSpace] at h
  have hRest := List.append_cancel_left h
  have hFree₁ : CodePoint.char ' ' ∉ type₁ := h₁.not_mem (by decide)
  have hFree₂ : CodePoint.char ' ' ∉ type₂ := h₂.not_mem (by decide)
  obtain ⟨hType, hName⟩ := Text.append_cons_cancel hFree₁ hFree₂ hRest
  exact ⟨hType, List.append_cancel_right hName⟩

/-! ### Attributes -/

/-! The attributes of a member differ in the letter behind the bracket, so each one tells where it
comes from. -/

theorem isPrimaryKey_iff {p : Property} {type : TypeName} :
    p.isPrimaryKey = true ↔ text "[Key]" ∈ attributesOf p type := by
  simp [mem_attributesOf_iff, lengthAttribute, columnAttribute, text]

theorem isRequired_iff {p : Property} {type : TypeName} (hType : type.isReference = true) :
    p.isRequired = true ↔ text "[Required]" ∈ attributesOf p type := by
  simp [mem_attributesOf_iff, lengthAttribute, columnAttribute, text, hType]

theorem lengthAttribute_mem_iff {p : Property} {type : TypeName} {bound : Bound} :
    lengthAttribute bound ∈ attributesOf p type ↔
      ∃ other, p.maxLength = some other ∧ lengthAttribute bound = lengthAttribute other := by
  simp [mem_attributesOf_iff, lengthAttribute, columnAttribute, text]

theorem columnAttribute_mem_iff {p : Property} {type : TypeName} {precision scale : Bound} :
    columnAttribute precision scale ∈ attributesOf p type ↔
      ∃ precision' scale', p.decimalSpec? = some (precision', scale') ∧
        columnAttribute precision scale = columnAttribute precision' scale' := by
  simp [mem_attributesOf_iff, lengthAttribute, columnAttribute, text]

theorem number_eq_of_lengthAttribute_eq {m n : Int}
    (h : lengthAttribute (.number m) = lengthAttribute (.number n)) : m = n := by
  simp only [lengthAttribute, Bound.shown, List.append_assoc] at h
  exact Text.ofInt_injective (List.append_cancel_right (List.append_cancel_left h))

/-- The literal of a decimal type tells both numbers: no numeral holds the comma between them. -/
theorem number_eq_of_columnAttribute_eq {m₁ m₂ n₁ n₂ : Int}
    (h : columnAttribute (.number m₁) (.number n₁) = columnAttribute (.number m₂) (.number n₂)) :
    m₁ = m₂ ∧ n₁ = n₂ := by
  have hComma : ∀ n, CodePoint.char ',' ∉ Text.ofInt n := fun n hn =>
    absurd (Text.isNumeralCode_of_mem_ofInt _ hn) (by decide)
  have hMark : ∀ t : Text, text ", " ++ t = CodePoint.char ',' :: (text " " ++ t) := fun _ => rfl
  simp only [columnAttribute, Bound.shown, List.append_assoc] at h
  have hLiteral := Literal.quote_injective (List.append_cancel_right (List.append_cancel_left h))
  have hNumbers := List.append_cancel_left hLiteral
  rw [hMark, hMark] at hNumbers
  obtain ⟨hPrecision, hScale⟩ := Text.append_cons_cancel (hComma _) (hComma _) hNumbers
  exact ⟨Text.ofInt_injective hPrecision,
    Text.ofInt_injective (List.append_cancel_right (List.append_cancel_left hScale))⟩

section

variable {p q : Property} {type type' : TypeName}

theorem maxLength_of_attributesOf_eq (hp : p.IsStandard) (hq : q.IsStandard)
    (h : attributesOf p type = attributesOf q type') {bound : Bound}
    (hBound : p.maxLength = some bound) : q.maxLength = some bound := by
  have hMem : lengthAttribute bound ∈ attributesOf q type' :=
    h ▸ lengthAttribute_mem_iff.mpr ⟨bound, hBound, rfl⟩
  obtain ⟨other, hOther, hSame⟩ := lengthAttribute_mem_iff.mp hMem
  obtain ⟨m, rfl⟩ := hp.maxLength bound hBound
  obtain ⟨n, rfl⟩ := hq.maxLength other hOther
  rw [hOther, number_eq_of_lengthAttribute_eq hSame]

theorem numbers_of_decimalSpec {precision scale : Bound} (hp : p.IsStandard)
    (h : p.decimalSpec? = some (precision, scale)) :
    ∃ m n, precision = .number m ∧ scale = .number n := by
  rw [Property.decimalSpec?] at h
  split at h
  · next hPrecision hScale =>
      cases h
      obtain ⟨m, hm⟩ := hp.precision _ hPrecision
      obtain ⟨n, hn⟩ := hp.scale _ hScale
      exact ⟨m, n, hm, hn⟩
  · cases h

theorem decimalSpec_of_attributesOf_eq (hp : p.IsStandard) (hq : q.IsStandard)
    (h : attributesOf p type = attributesOf q type') {spec : Bound × Bound}
    (hSpec : p.decimalSpec? = some spec) : q.decimalSpec? = some spec := by
  obtain ⟨precision, scale⟩ := spec
  have hMem : columnAttribute precision scale ∈ attributesOf q type' :=
    h ▸ columnAttribute_mem_iff.mpr ⟨precision, scale, hSpec, rfl⟩
  obtain ⟨precision', scale', hOther, hSame⟩ := columnAttribute_mem_iff.mp hMem
  obtain ⟨m, n, rfl, rfl⟩ := numbers_of_decimalSpec hp hSpec
  obtain ⟨m', n', rfl, rfl⟩ := numbers_of_decimalSpec hq hOther
  obtain ⟨hPrecision, hScale⟩ := number_eq_of_columnAttribute_eq hSame
  rw [hOther, hPrecision, hScale]

end

/-! ### Members -/

/-- Two properties of which the same is generated. -/
structure SameMember (s : Settings) (p q : Property) : Prop where
  name : emitName s.escapeKeywords p.name = emitName s.escapeKeywords q.name
  type : TypeName.of p = TypeName.of q
  isPrimaryKey : p.isPrimaryKey = q.isPrimaryKey
  maxLength : p.maxLength = q.maxLength
  isRequired : (TypeName.of p).isReference = true → p.isRequired = q.isRequired
  decimalSpec : p.decimalSpec? = q.decimalSpec?

variable {s : Settings}

/-- The lines of a member tell all that is generated from its property. -/
theorem sameMember_of_memberLines_eq {p q : Property} (hp : p.IsStandard) (hq : q.IsStandard)
    (h : memberLines s p = memberLines s q) : SameMember s p q := by
  have hIndent : Function.Injective (s.indent ++ s.indent ++ · : Text → Text) :=
    fun _ _ he => List.append_cancel_left he
  obtain ⟨hAttributes, hLine⟩ := List.append_inj' h rfl
  have hAttributes := List.map_injective_iff.mpr hIndent hAttributes
  have hDeclaration := List.append_cancel_left (List.cons.inj hLine).1
  obtain ⟨hType, hName⟩ := fieldDeclaration_inj (isSolid_declaration hp.isRecognized)
    (isSolid_declaration hq.isRecognized) hDeclaration
  exact {
    name := hName
    type := of_eq_of_declaration_eq hp hq hType
    isPrimaryKey := by
      rw [Bool.eq_iff_iff, isPrimaryKey_iff, hAttributes, ← isPrimaryKey_iff]
    maxLength := Option.ext fun bound => ⟨maxLength_of_attributesOf_eq hp hq hAttributes,
      maxLength_of_attributesOf_eq hq hp hAttributes.symm⟩
    isRequired := by
      intro hReference
      have hReference' := of_eq_of_declaration_eq hp hq hType ▸ hReference
      rw [Bool.eq_iff_iff, isRequired_iff hReference, hAttributes, ← isRequired_iff hReference']
    decimalSpec := Option.ext fun spec => ⟨decimalSpec_of_attributesOf_eq hp hq hAttributes,
      decimalSpec_of_attributesOf_eq hq hp hAttributes.symm⟩ }

/-! ### Pages -/

/-- Blocks without blank lines that end in a blank one can be told apart. -/
theorem forall₂_of_flatMap_eq {α : Type} {block : α → List Text} {R : α → α → Prop} {xs ys : List α}
    (hxs : ∀ x ∈ xs, [] ∉ block x) (hys : ∀ y ∈ ys, [] ∉ block y)
    (hR : ∀ x ∈ xs, ∀ y ∈ ys, block x = block y → R x y)
    (h : xs.flatMap (fun x => block x ++ [[]]) = ys.flatMap (fun y => block y ++ [[]])) :
    List.Forall₂ R xs ys := by
  induction xs generalizing ys with
  | nil =>
      cases ys with
      | nil => exact .nil
      | cons y more => simp at h
  | cons x rest ih =>
      cases ys with
      | nil => simp at h
      | cons y more =>
          simp only [List.flatMap_cons, List.append_assoc, List.singleton_append] at h
          simp only [List.forall_mem_cons] at hxs hys hR
          obtain ⟨hBlock, hRest⟩ := Text.append_cons_cancel hxs.1 hys.1 h
          exact .cons (hR.1.1 hBlock) (ih hxs.2 hys.2 (fun x hx y hy => (hR.2 x hx).2 y hy) hRest)

theorem tableName_eq_of_tableAttribute_eq {e₁ e₂ : Entity}
    (h : tableAttribute e₁ = tableAttribute e₂) : e₁.tableName = e₂.tableName := by
  simp only [tableAttribute, List.append_assoc] at h
  exact Literal.quote_injective (List.append_cancel_right (List.append_cancel_left h))

/-- The lines of a page are the lines of its text. -/
theorem eq_of_join_eq {ls ls' : List Text} (hne : ls ≠ []) (hne' : ls' ≠ []) (h : IsLaidOut ls)
    (h' : IsLaidOut ls') (hText : Text.join (text "\n") ls = Text.join (text "\n") ls') :
    ls = ls' := by
  rw [← Text.lines_join hne fun l hl => (h.isLine l hl).no_feed, hText,
    Text.lines_join hne' fun l hl => (h'.isLine l hl).no_feed]

/-- Two entities of which the same is generated. -/
structure SameClass (s : Settings) (e₁ e₂ : Entity) : Prop where
  tableName : e₁.tableName = e₂.tableName
  name : emitName s.escapeKeywords e₁.name = emitName s.escapeKeywords e₂.name
  members : List.Forall₂ (SameMember s) e₁.properties e₂.properties

theorem sameClass_of_entityLines_eq {e₁ e₂ : Entity} (he₁ : IsNamedWell s e₁)
    (he₂ : IsNamedWell s e₂) (hStandard₁ : ∀ p ∈ e₁.properties, p.IsStandard)
    (hStandard₂ : ∀ p ∈ e₂.properties, p.IsStandard)
    (h : entityLines s e₁ = entityLines s e₂) : SameClass s e₁ e₂ := by
  have hFull : ∀ e, IsNamedWell s e → (∀ p ∈ e.properties, p.IsStandard) →
      ∀ p ∈ e.properties, [] ∉ memberLines s p := fun e he hStandard p hp hBlank =>
    (isFullLine_of_mem_memberLines (hStandard p hp) (he.property p hp) [] hBlank).ne_nil rfl
  have hBody := List.append_cancel_right h
  simp only [List.append_assoc] at hBody
  have hRest := List.append_cancel_left hBody
  simp only [List.cons_append, List.nil_append, List.cons.injEq, true_and] at hRest
  obtain ⟨hTable, hClass, hMembers⟩ := hRest
  exact {
    tableName := tableName_eq_of_tableAttribute_eq (List.append_cancel_left hTable)
    name := List.append_cancel_left (List.append_cancel_left hClass)
    members := forall₂_of_flatMap_eq (hFull e₁ he₁ hStandard₁) (hFull e₂ he₂ hStandard₂)
      (fun p hp q hq => sameMember_of_memberLines_eq (hStandard₁ p hp) (hStandard₂ q hq))
      hMembers }

/-- The line of an accessor tells both of its names: no name holds the bracket between them. -/
theorem names_eq_of_accessorLine_eq {e₁ e₂ : Entity} (he₁ : IsNamedWell s e₁)
    (he₂ : IsNamedWell s e₂) (h : accessorLine s e₁ = accessorLine s e₂) :
    emitName s.escapeKeywords e₁.name = emitName s.escapeKeywords e₂.name ∧
      emitName s.escapeKeywords e₁.tableName = emitName s.escapeKeywords e₂.tableName := by
  have hBracket : ∀ name : Text, namingRule.isValid name = true →
      CodePoint.char '>' ∉ emitName s.escapeKeywords name := fun name hName hMem =>
    absurd (isNameCode_of_mem_emitName hName _ hMem) (by decide)
  have hMark : ∀ t : Text, text "> " ++ t = CodePoint.char '>' :: (text " " ++ t) := fun _ => rfl
  simp only [accessorLine, accessorOf, List.append_assoc, hMark] at h
  have hNames := List.append_cancel_left (List.append_cancel_left (List.append_cancel_left h))
  obtain ⟨hName, hTable⟩ := Text.append_cons_cancel (hBracket _ he₁.name.isValid)
    (hBracket _ he₂.name.isValid) hNames
  exact ⟨hName, List.append_cancel_left (List.append_cancel_right hTable)⟩

/-- The names that the context class has for an entity and its accessor. -/
def accessorNames (s : Settings) (e : Entity) : Text × Text :=
  (emitName s.escapeKeywords e.name, emitName s.escapeKeywords e.tableName)

theorem accessorNames_eq_of_map_eq {es₁ es₂ : List Entity} (h₁ : ∀ e ∈ es₁, IsNamedWell s e)
    (h₂ : ∀ e ∈ es₂, IsNamedWell s e) (h : es₁.map (accessorLine s) = es₂.map (accessorLine s)) :
    es₁.map (accessorNames s) = es₂.map (accessorNames s) := by
  induction es₁ generalizing es₂ with
  | nil =>
      cases es₂ with
      | nil => rfl
      | cons e more => simp at h
  | cons e rest ih =>
      cases es₂ with
      | nil => simp at h
      | cons e' more =>
          simp only [List.forall_mem_cons] at h₁ h₂
          obtain ⟨hLine, hRest⟩ := List.cons.inj h
          obtain ⟨hName, hTable⟩ := names_eq_of_accessorLine_eq h₁.1 h₂.1 hLine
          simp only [List.map_cons, accessorNames, hName, hTable]
          exact congrArg _ (ih h₁.2 h₂.2 hRest)

theorem accessorNames_eq_of_contextLines_eq {es₁ es₂ : List Entity}
    (h₁ : ∀ e ∈ es₁, IsNamedWell s e) (h₂ : ∀ e ∈ es₂, IsNamedWell s e)
    (h : contextLines s es₁ = contextLines s es₂) :
    es₁.map (accessorNames s) = es₂.map (accessorNames s) :=
  accessorNames_eq_of_map_eq h₁ h₂ (List.append_cancel_left (List.append_cancel_right h))

/-! ### Generated code -/

/-- Generated code loses nothing. For every generator that is made without a template directory:
if two entities that pass the check give the same code, then the same is generated of both, in all
that they declare; and if two lists of entities give the same code of the context class, then they
have the same sequence of class and accessor names. -/
theorem code_injective {files : FileTree} {d : Draft} {g : Generator}
    (hMake : Generator.ofDraft files d = .ok g) (hDir : g.settings.templateDir.getD [] = []) :
    (∀ (e₁ e₂ : Entity) (w₁ w₂ : List SchemaWarning) (code : Text),
      g.check ⟨[e₁]⟩ = .ok w₁ → g.check ⟨[e₂]⟩ = .ok w₂ →
      (∀ p ∈ e₁.properties, p.IsStandard) → (∀ p ∈ e₂.properties, p.IsStandard) →
      g.entityCode e₁ = .ok code → g.entityCode e₂ = .ok code → SameClass g.settings e₁ e₂) ∧
    ∀ (es₁ es₂ : List Entity) (w₁ w₂ : List SchemaWarning) (code : Text),
      g.check ⟨es₁⟩ = .ok w₁ → g.check ⟨es₂⟩ = .ok w₂ →
      g.contextCode es₁ = .ok code → g.contextCode es₂ = .ok code →
      es₁.map (accessorNames g.settings) = es₂.map (accessorNames g.settings) := by
  have hg := isBuiltin_of_ofDraft hMake hDir
  refine ⟨?_, ?_⟩
  · intro e₁ e₂ w₁ w₂ code hCheck₁ hCheck₂ hStandard₁ hStandard₂ hCode₁ hCode₂
    have he₁ := isNamedWell_of_checkSchema hCheck₁ e₁ List.mem_cons_self
    have he₂ := isNamedWell_of_checkSchema hCheck₂ e₂ List.mem_cons_self
    rw [entityCode_eq hg, unlessFault_eq_ok_iff] at hCode₁ hCode₂
    refine sameClass_of_entityLines_eq he₁ he₂ hStandard₁ hStandard₂ ?_
    exact eq_of_join_eq (by simp [entityLines, closingLines]) (by simp [entityLines, closingLines])
      (isLaidOut_entityLines hg.isUsable he₁ hStandard₁)
      (isLaidOut_entityLines hg.isUsable he₂ hStandard₂) (hCode₁.2.trans hCode₂.2.symm)
  · intro es₁ es₂ w₁ w₂ code hCheck₁ hCheck₂ hCode₁ hCode₂
    have hNamed₁ := isNamedWell_of_checkSchema hCheck₁
    have hNamed₂ := isNamedWell_of_checkSchema hCheck₂
    rw [contextCode_eq hg, unlessFault_eq_ok_iff] at hCode₁ hCode₂
    refine accessorNames_eq_of_contextLines_eq hNamed₁ hNamed₂ ?_
    exact eq_of_join_eq (by simp [contextLines, closingLines])
      (by simp [contextLines, closingLines]) (isLaidOut_contextLines hg.isUsable hNamed₁)
      (isLaidOut_contextLines hg.isUsable hNamed₂) (hCode₁.2.trans hCode₂.2.symm)

/-- The entity of an order with a key that is said to be required, which does not show. -/
def strictOrderEntity : Entity :=
  { orderEntity with
    properties := orderEntity.properties.map fun p =>
      if p.isPrimaryKey then { p with isRequired := true } else p }

theorem code_injective_strictOrderEntity :
    strictOrderEntity ≠ orderEntity ∧ SameClass tabbedSettings orderEntity strictOrderEntity ∧
      [orderEntity].map (accessorNames tabbedSettings) =
        [strictOrderEntity].map (accessorNames tabbedSettings) := by
  have hMake : Generator.ofDraft {} tabbedSettings.toDraft = .ok ⟨tabbedSettings, builtinLibrary⟩ :=
    ofDraft_toDraft {} rfl rfl rfl
  have hg := isBuiltin_of_ofDraft hMake rfl
  have hStandard : ∀ p ∈ strictOrderEntity.properties, p.IsStandard := by
    intro p hp
    obtain ⟨q, hq, rfl⟩ := List.mem_map.mp hp
    obtain ⟨hType, hLength, hPrecision, hScale⟩ := isStandard_orderEntity q hq
    split <;> exact ⟨hType, hLength, hPrecision, hScale⟩
  have hInjective := code_injective hMake rfl
  refine ⟨by decide, ?_, ?_⟩
  · exact hInjective.1 _ _ [] [] _ rfl rfl isStandard_orderEntity hStandard (entityCode_eq hg _)
      (entityCode_eq hg _)
  · exact hInjective.2 _ _ [] [] _ rfl rfl (contextCode_eq hg _) (contextCode_eq hg _)

end EntityForge.CSharp
