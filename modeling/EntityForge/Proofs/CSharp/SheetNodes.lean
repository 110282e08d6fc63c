import EntityForge.CSharp.Sheet
import EntityForge.Proofs.Template.Engine

/-! # The nodes of the built-in templates

Each built-in template is scanned into pieces, and the pieces are put together to nodes: this
module says which.  Every statement tag takes its line with it, so between the nodes stands no
line feed that is not to be printed; the two line feeds behind the declaration of a member are the
end of its line and the blank line below it.
-/

namespace EntityForge.CSharp

open Template

/-! ### Pieces -/

/-- A word inside a tag. -/
def wordToken (w : String) : Token := .word (text w)

/-- Text between tags. -/
def dataPiece (t : String) : Piece := .data (text t)

/-- A tag that prints the value of a name. -/
def namePiece (w : String) : Piece := .print [wordToken w]

/-- A tag that begins a loop over the values of a name. -/
def loopPiece (target items : String) : Piece :=
  .statement [wordToken "for", wordToken target, wordToken "in", wordToken items]

/-- A tag that ends a loop. -/
def endLoopPiece : Piece := .statement [wordToken "endfor"]

/-- The pieces that both templates begin with. -/
def headPieces : List Piece := [
  dataPiece "", .statement [wordToken "if", wordToken "header"], dataPiece "",
  .print [wordToken "header", .mark (.char '|'), wordToken "comment", .mark (.char '('),
    .literal (text "//"), .mark (.char ')')],
  dataPiece "\n", .statement [wordToken "endif"], dataPiece "", loopPiece "using" "usings",
  dataPiece "using ", namePiece "using", dataPiece ";\n", endLoopPiece, dataPiece "\nnamespace ",
  namePiece "namespace", dataPiece "\n\x7b\n"]

/-- The pieces of the template of an entity class. -/
def entityPieces : List Piece := headPieces ++ [
  namePiece "indent", dataPiece "", namePiece "table_annotation", dataPiece "\n",
  namePiece "indent", dataPiece "public partial class ", namePiece "class_name", dataPiece "\n",
  namePiece "indent", dataPiece "\x7b\n", loopPiece "member" "members", dataPiece "",
  .statement [wordToken "for", wordToken "attribute", wordToken "in", wordToken "member",
    .mark (.char '.'), wordToken "attributes"],
  dataPiece "", namePiece "member_indent", dataPiece "", namePiece "attribute", dataPiece "\n",
  endLoopPiece, dataPiece "", namePiece "member_indent", dataPiece "",
  .print [wordToken "member", .mark (.char '.'), wordToken "declaration"], dataPiece "\n\n",
  endLoopPiece, dataPiece "", namePiece "indent", dataPiece "\x7d\n\x7d\n"]

/-- The pieces of the template of the context class. -/
def contextPieces : List Piece := headPieces ++ [
  namePiece "indent", dataPiece "public partial class ", namePiece "context_name",
  dataPiece " : ", namePiece "base_class", dataPiece "\n",
  namePiece "indent", dataPiece "\x7b\n",
  namePiece "member_indent", dataPiece "public ", namePiece "context_name", dataPiece "(",
  namePiece "options_type", dataPiece "<", namePiece "context_name", dataPiece "> options)\n",
  namePiece "member_indent", dataPiece "", namePiece "indent", dataPiece ": base(options)\n",
  namePiece "member_indent", dataPiece "\x7b\n", namePiece "member_indent", dataPiece "\x7d\n\n",
  loopPiece "accessor" "accessors", dataPiece "", namePiece "member_indent", dataPiece "",
  namePiece "accessor", dataPiece "\n", endLoopPiece, dataPiece "",
  namePiece "indent", dataPiece "\x7d\n\x7d\n"]

theorem pieces_entitySheet : pieces? entitySheet = some entityPieces := by decide +kernel

theorem pieces_contextSheet : pieces? contextSheet = some contextPieces := by decide +kernel

/-! ### Nodes -/

/-- The expression of a name. -/
def nameExpr (w : String) : Expr := .name (text w)

/-- Text that is copied. -/
def dataNode (t : String) : Node := .data (text t)

/-- The value of a name, printed. -/
def nameNode (w : String) : Node := .print (nameExpr w)

/-- The nodes that both templates begin with. -/
def headNodes : List Node := [
  .branch (nameExpr "header")
    [.print (.comment (nameExpr "header") (text "//")), dataNode "\n"] [],
  .loop (text "using") (nameExpr "usings") [dataNode "using ", nameNode "using", dataNode ";\n"],
  dataNode "\nnamespace ", nameNode "namespace", dataNode "\n\x7b\n"]

/-- The body of the loop over the attributes of a member. -/
def attributeNodes : List Node := [nameNode "member_indent", nameNode "attribute", dataNode "\n"]

/-- The body of the loop over members. -/
def memberNodes : List Node := [
  .loop (text "attribute") (.attribute (nameExpr "member") (text "attributes")) attributeNodes,
  nameNode "member_indent", .print (.attribute (nameExpr "member") (text "declaration")),
  dataNode "\n\n"]

/-- The body of the loop over accessors. -/
def accessorNodes : List Node := [nameNode "member_indent", nameNode "accessor", dataNode "\n"]

/-- The nodes of the template of an entity class. -/
def entityNodes : List Node := headNodes ++ [
  nameNode "indent", nameNode "table_annotation", dataNode "\n",
  nameNode "indent", dataNode "public partial class ", nameNode "class_name", dataNode "\n",
  nameNode "indent", dataNode "\x7b\n",
  .loop (text "member") (nameExpr "members") memberNodes,
  nameNode "indent", dataNode "\x7d\n\x7d\n"]

/-- The nodes of the template of the context class. -/
def contextNodes : List Node := headNodes ++ [
  nameNode "indent", dataNode "public partial class ", nameNode "context_name", dataNode " : ",
  nameNode "base_class", dataNode "\n",
  nameNode "indent", dataNode "\x7b\n",
  nameNode "member_indent", dataNode "public ", nameNode "context_name", dataNode "(",
  nameNode "options_type", dataNode "<", nameNode "context_name", dataNode "> options)\n",
  nameNode "member_indent", nameNode "indent", dataNode ": base(options)\n",
  nameNode "member_indent", dataNode "\x7b\n", nameNode "member_indent", dataNode "\x7d\n\n",
  .loop (text "accessor") (nameExpr "accessors") accessorNodes,
  nameNode "indent", dataNode "\x7d\n\x7d\n"]

theorem nodes_entityPieces : nodes? entityPieces = some entityNodes := by rfl

theorem nodes_contextPieces : nodes? contextPieces = some contextNodes := by rfl

/-! ### Templates -/

/-- A source whose nodes have no faults and settle to themselves is the template of these nodes.
-/
theorem parse_eq_ok {source : Text} {pieces : List Piece} {nodes : List Node}
    (hPieces : pieces? source = some pieces) (hNodes : nodes? pieces = some nodes)
    (hTarget : anyBadTarget nodes = false) (hFilter : anyUnknownFilter false nodes = false)
    (hSettle : settleAll [.ofTemplate nodes] nodes = nodes) : parse source = .ok nodes := by
  rw [parse, hPieces, Option.bind_some, hNodes]
  simp only [hTarget, hFilter, hSettle, Bool.false_eq_true, if_false]

theorem parse_entitySheet : parse entitySheet = .ok entityNodes :=
  parse_eq_ok pieces_entitySheet nodes_entityPieces rfl rfl rfl

theorem parse_contextSheet : parse contextSheet = .ok contextNodes :=
  parse_eq_ok pieces_contextSheet nodes_contextPieces rfl rfl rfl

/-- The library without a template directory. -/
def builtinLibrary : TemplateLibrary := { sources := sheets }

theorem find_entitySheetName : builtinLibrary.find entitySheetName = .ok (.found entityNodes) := by
  have hSource : builtinLibrary.source? entitySheetName = .ok (some entitySheet) := rfl
  rw [TemplateLibrary.find, hSource]
  simp only [parse_entitySheet]

theorem find_contextSheetName :
    builtinLibrary.find contextSheetName = .ok (.found contextNodes) := by
  have hSource : builtinLibrary.source? contextSheetName = .ok (some contextSheet) := rfl
  rw [TemplateLibrary.find, hSource]
  simp only [parse_contextSheet]

theorem reversed?_entityNodes : ∀ node ∈ entityNodes, node.reversed? = none := by
  decide

theorem reversed?_contextNodes : ∀ node ∈ contextNodes, node.reversed? = none := by
  decide

/-- The built-in templates turn no list round. -/
theorem leavesLists_builtinLibrary : builtinLibrary.LeavesLists := by
  intro name nodes hFind
  by_cases hEntity : name = entitySheetName
  · rw [hEntity, find_entitySheetName] at hFind
    cases hFind
    exact reversed?_entityNodes
  · by_cases hContext : name = contextSheetName
    · rw [hContext, find_contextSheetName] at hFind
      cases hFind
      exact reversed?_contextNodes
    · have hSource : builtinLibrary.source? name = .ok none := by
        simp [TemplateLibrary.source?, TemplateLibrary.fileBytes?, builtinLibrary, sheets,
          Entries.lookup?, Ne.symm hEntity, Ne.symm hContext]
      rw [TemplateLibrary.find, hSource] at hFind
      cases hFind

end EntityForge.CSharp
