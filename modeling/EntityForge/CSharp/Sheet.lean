import EntityForge.Entries

/-! # Built-in templates

The templates of an entity class and of the context class. A file of the same name in the template
directory takes the place of either.
-/

namespace EntityForge.CSharp

/-- The name of the template of an entity class. -/
def entitySheetName : Text := text "entity.cs.j2"

/-- The name of the template of the context class. -/
def contextSheetName : Text := text "context.cs.j2"

/-- A statement tag on a line of its own. -/
def statement (body : String) : Text := text "\x7b% " ++ text body ++ text " %\x7d\n"

/-- A tag that prints a value. -/
def printed (body : String) : Text := text "\x7b\x7b " ++ text body ++ text " \x7d\x7d"

/-- What both templates begin with: the header comment, the imported namespaces and the opening of
the namespace. -/
def sheetHead : Text :=
  statement "if header" ++
    printed "header | comment(\"//\")" ++ text "\n" ++
    statement "endif" ++
    statement "for using in usings" ++
    text "using " ++ printed "using" ++ text ";\n" ++
    statement "endfor" ++
    text "\n" ++
    text "namespace " ++ printed "namespace" ++ text "\n" ++
    text "\x7b\n"

/-- The template of an entity class. -/
def entitySheet : Text :=
  sheetHead ++
    printed "indent" ++ printed "table_annotation" ++ text "\n" ++
    printed "indent" ++ text "public partial class " ++ printed "class_name" ++ text "\n" ++
    printed "indent" ++ text "\x7b\n" ++
    statement "for member in members" ++
    statement "for attribute in member.attributes" ++
    printed "member_indent" ++ printed "attribute" ++ text "\n" ++
    statement "endfor" ++
    printed "member_indent" ++ printed "member.declaration" ++ text "\n" ++
    text "\n" ++
    statement "endfor" ++
    printed "indent" ++ text "\x7d\n" ++
    text "\x7d\n"

/-- The template of the context class. -/
def contextSheet : Text :=
  sheetHead ++
    printed "indent" ++ text "public partial class " ++ printed "context_name" ++ text " : " ++
    printed "base_class" ++ text "\n" ++
    printed "indent" ++ text "\x7b\n" ++
    printed "member_indent" ++ text "public " ++ printed "context_name" ++ text "(" ++
    printed "options_type" ++ text "<" ++ printed "context_name" ++ text "> options)\n" ++
    printed "member_indent" ++ printed "indent" ++ text ": base(options)\n" ++
    printed "member_indent" ++ text "\x7b\n" ++
    printed "member_indent" ++ text "\x7d\n" ++
    text "\n" ++
    statement "for accessor in accessors" ++
    printed "member_indent" ++ printed "accessor" ++ text "\n" ++
    statement "endfor" ++
    printed "indent" ++ text "\x7d\n" ++
    text "\x7d\n"

/-- The built-in templates by name. -/
def sheets : Entries Text := [(entitySheetName, entitySheet), (contextSheetName, contextSheet)]

end EntityForge.CSharp
