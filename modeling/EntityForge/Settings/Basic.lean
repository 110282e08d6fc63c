import EntityForge.Value.Shown

/-! # Settings

What is generated, and how it looks, is governed by thirteen settings. They arrive as values of any
kind, from a file or from a caller: a draft. A draft whose values have the right kinds gives
settings; the kinds are judged setting by setting, in the order of declaration.
-/

namespace EntityForge

/-- The names of the settings, in the order of declaration. -/
inductive Setting
  | outputDir
  | namespaceName
  | contextName
  | configFileName
  | fileSuffix
  | indentSize
  | useTabs
  | lineEnding
  | strictTypes
  | escapeKeywords
  | addHeader
  | templateDir
  | custom
  deriving DecidableEq, Repr

/-- The settings of a generation run. -/
structure Settings where
  /-- Where artifacts are written, if they are. -/
  outputDir : Option Text := none
  /-- The namespace of the generated code. -/
  namespaceName : Text := text "GeneratedModels"
  /-- The name of the context class. -/
  contextName : Text := text "GeneratedDbContext"
  /-- The end of the name of a schema document in a project. -/
  configFileName : Text := text "dbconfig.json"
  /-- What follows a class name in the name of its artifact. -/
  fileSuffix : Text := text ".g.cs"
  /-- The number of spaces of a level of indentation. -/
  indentSize : Int := 4
  /-- Is a level of indentation a tab? -/
  useTabs : Bool := false
  /-- What separates the lines of an artifact. -/
  lineEnding : Text := text "\n"
  /-- Are types that are not recognized refused? -/
  strictTypes : Bool := true
  /-- Are keywords escaped? -/
  escapeKeywords : Bool := true
  /-- Does each artifact begin with a comment? -/
  addHeader : Bool := false
  /-- Where templates are looked for before the built-in ones. -/
  templateDir : Option Text := none
  /-- Settings of a target language. -/
  custom : Entries Value := []
  deriving Repr

/-- A value for every setting, of whatever kind. -/
abbrev Draft := Setting → Value

namespace Setting

/-- All settings, in the order of declaration. -/
def all : List Setting :=
  [.outputDir, .namespaceName, .contextName, .configFileName, .fileSuffix, .indentSize, .useTabs,
    .lineEnding, .strictTypes, .escapeKeywords, .addHeader, .templateDir, .custom]

theorem mem_all (s : Setting) : s ∈ all := by
  cases s <;> decide

/-- The name of a setting in files and messages. -/
def label : Setting → Text
  | .outputDir => text "output_dir"
  | .namespaceName => text "namespace"
  | .contextName => text "context_name"
  | .configFileName => text "config_file_name"
  | .fileSuffix => text "file_suffix"
  | .indentSize => text "indent_size"
  | .useTabs => text "use_tabs"
  | .lineEnding => text "line_ending"
  | .strictTypes => text "strict_types"
  | .escapeKeywords => text "escape_keywords"
  | .addHeader => text "add_header"
  | .templateDir => text "template_dir"
  | .custom => text "custom"

/-- The setting of that name. -/
def ofLabel? (name : Text) : Option Setting := all.find? fun s => s.label = name

/-- The kinds of values that settings have. -/
inductive Kind
  | text
  | optionalText
  | integer
  | boolean
  | object
  deriving DecidableEq, Repr

/-- The kind of the values of a setting. -/
def kind : Setting → Kind
  | .outputDir => .optionalText
  | .templateDir => .optionalText
  | .indentSize => .integer
  | .useTabs => .boolean
  | .strictTypes => .boolean
  | .escapeKeywords => .boolean
  | .addHeader => .boolean
  | .custom => .object
  | _ => .text

/-- Has a value that kind? A boolean is no integer here. -/
def Kind.accepts : Kind → Value → Bool
  | .text, .string _ => true
  | .optionalText, .string _ => true
  | .optionalText, .null => true
  | .integer, .int _ => true
  | .boolean, .bool _ => true
  | .object, .object _ => true
  | _, _ => false

/-- The name of a kind in messages. -/
def Kind.name : Kind → Text
  | .text => EntityForge.text "str"
  | .optionalText => EntityForge.text "str or Path or null"
  | .integer => EntityForge.text "int"
  | .boolean => EntityForge.text "bool"
  | .object => EntityForge.text "dict"

end Setting

/-- A setting whose value is of the wrong kind. -/
structure KindProblem where
  setting : Setting
  found : Value

/-- The problem in the words of a message. -/
def KindProblem.message (p : KindProblem) : Text :=
  p.setting.label ++ text " must be " ++ p.setting.kind.name ++ text ", got " ++ p.found.kind ++
    text ": " ++ p.found.shown

namespace Settings

/-- The given settings whose values are of the wrong kind, in the order of declaration. -/
def kindProblems (given : Entries Value) : List KindProblem :=
  Setting.all.filterMap fun setting =>
    match given.lookup? setting.label with
    | none => none
    | some value => if setting.kind.accepts value then none else some ⟨setting, value⟩

/-- Why a level of indentation cannot be laid out: no text has so many code points. -/
inductive IndentFault
  | notCountable
  deriving DecidableEq, Repr

/-- The least number that is no number of code points of a text. -/
def countLimit : Nat := Nat.pow 2 63

/-- What is wrong with the size of a level of indentation, if spaces make it. -/
def indentFault? (s : Settings) : Option IndentFault :=
  if s.useTabs then none
  else if countLimit ≤ s.indentSize.natAbs then some .notCountable
  else none

/-- One level of indentation. -/
def indent (s : Settings) : Text :=
  if s.useTabs then text "\t" else List.replicate s.indentSize.toNat (.char ' ')

/-- An optional text as a value. -/
def optionalValue : Option Text → Value
  | none => .null
  | some t => .string t

/-- The value of each setting. -/
def toDraft (s : Settings) : Draft
  | .outputDir => optionalValue s.outputDir
  | .namespaceName => .string s.namespaceName
  | .contextName => .string s.contextName
  | .configFileName => .string s.configFileName
  | .fileSuffix => .string s.fileSuffix
  | .indentSize => .int s.indentSize
  | .useTabs => .bool s.useTabs
  | .lineEnding => .string s.lineEnding
  | .strictTypes => .bool s.strictTypes
  | .escapeKeywords => .bool s.escapeKeywords
  | .addHeader => .bool s.addHeader
  | .templateDir => optionalValue s.templateDir
  | .custom => .object s.custom

end Settings

namespace Draft

/-- The draft of the given values; a setting that is not given keeps its default. -/
def ofEntries (given : Entries Value) : Draft := fun setting =>
  (given.lookup? setting.label).getD (({} : Settings).toDraft setting)

/-- The first of the given names that is no setting, if there is one. -/
def unknownName? (given : Entries Value) : Option Text :=
  given.names.find? fun name => (Setting.ofLabel? name).isNone

/-- The values of a draft under the names of the settings, in the order of declaration. -/
def entries (d : Draft) : Entries Value := Setting.all.map fun setting => (setting.label, d setting)

/-- The text of a value, or a default in place of a value of another kind. -/
def textOr (default : Text) : Value → Text
  | .string t => t
  | _ => default

/-- The truth value of a value, or a default in place of a value of another kind. -/
def boolOr (default : Bool) : Value → Bool
  | .bool b => b
  | _ => default

/-- The settings that a draft gives; a value of the wrong kind counts as not given. -/
def coerce (d : Draft) : Settings :=
  let default : Settings := {}
  { outputDir := (d .outputDir).text?
    namespaceName := textOr default.namespaceName (d .namespaceName)
    contextName := textOr default.contextName (d .contextName)
    configFileName := textOr default.configFileName (d .configFileName)
    fileSuffix := textOr default.fileSuffix (d .fileSuffix)
    indentSize :=
      match d .indentSize with
      | .int n => n
      | _ => default.indentSize
    useTabs := boolOr default.useTabs (d .useTabs)
    lineEnding := textOr default.lineEnding (d .lineEnding)
    strictTypes := boolOr default.strictTypes (d .strictTypes)
    escapeKeywords := boolOr default.escapeKeywords (d .escapeKeywords)
    addHeader := boolOr default.addHeader (d .addHeader)
    templateDir := (d .templateDir).text?
    custom := (d .custom).members?.getD [] }

/-- The settings of a draft, or the settings of it that are of the wrong kind. -/
def settings? (d : Draft) : Except (List KindProblem) Settings :=
  match Settings.kindProblems d.entries with
  | [] => .ok d.coerce
  | problems => .error problems

end Draft

namespace Settings

/-- A draft made from settings gives these settings. -/
@[simp]
theorem coerce_toDraft (s : Settings) : Draft.coerce s.toDraft = s := by
  cases s with
  | mk outputDir _ _ _ _ _ _ _ _ _ _ templateDir _ =>
      cases outputDir <;> cases templateDir <;> rfl

end Settings

end EntityForge
