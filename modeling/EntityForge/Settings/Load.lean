import EntityForge.Files.Machine
import EntityForge.Json.Reader
import EntityForge.Json.Writer
import EntityForge.Text.Lower

/-! # Loading and saving settings

Settings are merged from the defaults of a language, a file and explicit overrides, the later ones
winning; the language settings under `custom` are merged member by member. Names that are no
settings count as language settings. A saved file has the language settings at its top level.
-/

namespace EntityForge

namespace Settings

/-- The default settings of the known languages; a language that is not known has none. -/
def defaultsOf (language : Text) : Entries Value :=
  if language = text "csharp" then [
    (Setting.namespaceName.label, .string (text "GeneratedModels")),
    (Setting.contextName.label, .string (text "GeneratedDbContext")),
    (Setting.configFileName.label, .string (text "dbconfig.json")),
    (Setting.fileSuffix.label, .string (text ".g.cs")),
    (Setting.strictTypes.label, .bool true),
    (Setting.escapeKeywords.label, .bool true),
    (Setting.custom.label, .object [
      (text "context_base_class", .string (text "DbContext")),
      (text "context_options_type", .string (text "DbContextOptions"))])]
  else [(Setting.custom.label, .object [])]

/-- The languages that have default settings. -/
def knownLanguages : List Text := [text "csharp"]

/-- The draft of values that are given under names of settings. The name `self` is taken: it stands
for the settings as a whole. -/
def draftOf (given : Entries Value) : Except Breakdown Draft :=
  match Draft.unknownName? given with
  | none => .ok (Draft.ofEntries given)
  | some name =>
      if name = text "self" then .error (.takenName (text "GeneratorConfig.__init__") name)
      else .error (.unknownSetting name)

/-- Merges one given setting into others. An object of language settings is merged with the one
that is there; it cannot be merged with anything else. -/
def mergeOne (settings : Entries Value) (name : Text) (value : Value) :
    Except Breakdown (Entries Value) :=
  if name = Setting.custom.label then
    match value with
    | .object members =>
        match (settings.lookup? name).getD (.object []) with
        | .object old => .ok (settings.put name (.object (Entries.putAll old members)))
        | other => .error (.notMergeable other.kind)
    | _ => .ok (settings.put name value)
  else .ok (settings.put name value)

/-- Merges given settings into others, one after the other. -/
def merge (settings : Entries Value) : Entries Value → Except Breakdown (Entries Value)
  | [] => .ok settings
  | (name, value) :: rest => do
      let settings ← mergeOne settings name value
      merge settings rest

/-- The given entries that are settings by name. -/
def settingsAmong (given : Entries Value) : Entries Value :=
  given.filter fun entry => (Setting.ofLabel? entry.1).isSome

/-- The given entries that are no settings by name. -/
def othersAmong (given : Entries Value) : Entries Value :=
  given.filter fun entry => (Setting.ofLabel? entry.1).isNone

/-- Why problems cannot be put into words, if there is a reason; the first one found. -/
def unspellable? (depth : Option Nat) (problems : List SettingProblem) : Option SpellingFault :=
  problems.findSome? (SettingProblem.spellingFault? depth)

/-- The failure of settings that are refused for problems. It takes the place of another fault if a
problem cannot be put into words. -/
def refused (depth : Option Nat) (problems : List SettingProblem) (fault : SettingsFault) :
    Failure :=
  match unspellable? depth problems with
  | some fault => .breakdown (.unspellable fault)
  | none => .settings fault

/-- The settings that merged entries give; what is no setting becomes a language setting. -/
def ofMerged (depth : Option Nat) (given : Entries Value) : Except Failure Settings :=
  match kindProblems (settingsAmong given) with
  | [] =>
      let settings := (Draft.ofEntries (settingsAmong given)).coerce
      .ok { settings with custom := Entries.putAll settings.custom (othersAmong given) }
  | problems => .error (refused depth (problems.map .kind) (.wrongKinds problems))

/-- The members of a settings file. -/
def readFile (machine : Machine) (path : Path) : Except Failure (Entries Value) :=
  match machine.has path with
  | .error cause => .error (.breakdown cause)
  | .ok false => .error (.settings (.fileNotFound path))
  | .ok true =>
      if path.extension.lower ≠ text ".json" then .error (.settings (.notJsonFile path))
      else
        match machine.read path with
        | .error (.file fault) => .error (.settings (.unreadableFile path fault))
        | .error cause => .error (.breakdown cause)
        | .ok bytes =>
            match Utf8.decode bytes with
            | .error fault => .error (.breakdown (.undecodable fault))
            | .ok decoded =>
                let document := decoded.unifyNewlines
                match machine.takesIn document with
                | .error cause => .error (.breakdown cause)
                | .ok () =>
                    match Json.read document with
                    | .error (.longInteger digits) => .error (.breakdown (.longInteger digits))
                    | .error (.malformed reason offset) =>
                        .error (.settings (.malformedFile path reason
                          (Json.lineOf document offset) (Json.columnOf document offset) offset))
                    | .ok (.object members) => .ok members
                    | .ok _ => .error (.settings (.notObjectFile path))

/-- Merges given settings into others as a step of an operation that may fail in other ways. -/
def mergeStep (settings given : Entries Value) : Except Failure (Entries Value) :=
  (merge settings given).mapError .breakdown

/-- The overrides that a value gives. What counts as false gives none; anything else has to be an
object. -/
def overridesOf (given : Value) : Except Breakdown (Entries Value) :=
  match given with
  | .object members => .ok members
  | value => if value.isTruthy then .error (.noMembers value.kind) else .ok []

/-- The settings of a language with those of a file, if one is named, and the overrides on top.
The file is looked at first. -/
def load (machine : Machine) (language : Text) (overrides : Value) (file : Option Text) :
    Except Failure Settings := do
  let settings := defaultsOf language
  let settings ←
    match file with
    | none => pure settings
    | some [] => pure settings
    | some name => do
        let given ← readFile machine (Path.parse name)
        mergeStep settings given
  let overrides ← (overridesOf overrides).mapError .breakdown
  let settings ← mergeStep settings overrides
  ofMerged machine.depth settings

/-- The member that an item of a list adds to an object: it has to be a pair whose first half can
name a member. -/
def pairOf (index : Nat) : Value → Except Breakdown (Json.Key × Value)
  | .list [name, value] =>
      match Json.Key.ofValue? name with
      | some key => .ok (key, value)
      | none => .error (.notHashable name.kind)
  | .list items => .error (.pairLength index items.length)
  | .string [first, second] => .ok (.string [first], .string [second])
  | .string t => .error (.pairLength index t.length)
  | .object [(first, _), (second, _)] => .ok (.string first, .string second)
  | .object members => .error (.pairLength index members.length)
  | _ => .error (.notPair index)

/-- The members that the items of a list add to an object, counted from `index`. -/
def pairsOf (index : Nat) : List Value → Except Breakdown (List (Json.Key × Value))
  | [] => .ok []
  | item :: rest => do
      let pair ← pairOf index item
      let pairs ← pairsOf (index + 1) rest
      return pair :: pairs

/-- Members whose names are texts. -/
def textKeyed (members : Entries Value) : List (Json.Key × Value) :=
  members.map fun (name, value) => (.string name, value)

/-- The members that a value adds to an object. -/
def additionsOf : Value → Except Breakdown (List (Json.Key × Value))
  | .object members => .ok (textKeyed members)
  | .list items => pairsOf 0 items
  | .string [] => .ok []
  | .string (_ :: _) => .error (.pairLength 0 1)
  | value => .error (.notIterable value.kind)

/-- The members of the file that keeps settings: every setting but `custom`, then the language
settings. -/
def savedMembers (d : Draft) (custom : List (Json.Key × Value)) : List (Json.Key × Value) :=
  Json.Key.putAll (textKeyed (d.entries.without Setting.custom.label)) custom

/-- The bytes of the pieces of a document, up to the first piece that has none; for that one the
surrogates in it. -/
def encodePieces : List Text → Bytes × Option Utf8.SurrogateRun
  | [] => ([], none)
  | piece :: rest =>
      match Utf8.encode piece with
      | .error run => ([], some run)
      | .ok bytes =>
          let (more, run) := encodePieces rest
          (bytes ++ more, run)

/-- Writes the pieces of the file that keeps settings. What comes before a piece that has no bytes
is in the file all the same. -/
def writeFile (files : FileTree) (path : Path) (pieces : List Text) :
    FileTree × Except Failure Unit :=
  match files.write path [] with
  | .error fault => (files, .error (.settings (.unwritableFile path fault)))
  | .ok opened =>
      let (bytes, run) := encodePieces pieces
      match opened.write path bytes with
      | .error fault => (opened, .error (.settings (.unwritableFile path fault)))
      | .ok written =>
          match run with
          | some run => (written, .error (.breakdown (.unencodable run)))
          | none => (written, .ok ())

/-- Keeps settings in a file. -/
def save (files : FileTree) (d : Draft) (name : Text) : FileTree × Except Failure Unit :=
  match additionsOf (d .custom) with
  | .error cause => (files, .error (.breakdown cause))
  | .ok custom =>
      let path := Path.parse name
      match nameFault? path.toText with
      | some cause => (files, .error (.breakdown cause))
      | none => writeFile files path (Json.documentPieces (savedMembers d custom))

/-- The settings that stand in the way of any generation, whatever the language. -/
def commonProblems (s : Settings) : List SettingProblem :=
  (if s.indentSize < 1 then [.indentNotPositive s.indentSize] else []) ++
    (if s.lineEnding = text "\n" ∨ s.lineEnding = text "\r\n" then []
      else [.lineEnding s.lineEnding]) ++
    (if s.fileSuffix.isEmpty then [.emptyFileSuffix] else []) ++
    (if s.configFileName.isEmpty then [.emptyConfigFileName] else [])

/-- The problems of a draft, whatever the language: settings of the wrong kind, or else settings
that stand in the way. -/
def draftProblems (d : Draft) : List SettingProblem :=
  match d.settings? with
  | .error problems => problems.map .kind
  | .ok settings => settings.commonProblems

end Settings

end EntityForge
