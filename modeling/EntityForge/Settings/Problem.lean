import EntityForge.Files.Tree
import EntityForge.Json.Fault
import EntityForge.Settings.Basic

/-! # Problems of settings

Settings of the right kinds may still be unusable, and a settings file may be missing, unreadable
or malformed.
-/

namespace EntityForge

/-- A setting with which nothing can be generated. -/
inductive SettingProblem
  | kind (problem : KindProblem)
  | indentNotPositive (size : Int)
  | lineEnding (found : Text)
  | emptyFileSuffix
  | emptyConfigFileName
  | namespaceName (found : Text)
  | contextName (found : Text)
  | typeName (setting : Text) (found : Value)

/-- Why settings cannot be had, used or kept. -/
inductive SettingsFault
  | fileNotFound (path : Path)
  | notJsonFile (path : Path)
  | malformedFile (path : Path) (reason : Json.Reason) (line column offset : Nat)
  | unreadableFile (path : Path) (fault : FileFault)
  | notObjectFile (path : Path)
  | wrongKinds (problems : List KindProblem)
  | unusable (problems : List SettingProblem)
  | unwritableFile (path : Path) (fault : FileFault)

/-- The problem in the words of a message. -/
def SettingProblem.message : SettingProblem → Text
  | .kind problem => problem.message
  | .indentNotPositive size => text "indent_size must be positive: " ++ Text.ofInt size
  | .lineEnding found => text "Invalid line_ending: " ++ found.shown
  | .emptyFileSuffix => text "file_suffix must not be empty"
  | .emptyConfigFileName => text "config_file_name must not be empty"
  | .namespaceName found => text "Invalid C# namespace: " ++ found
  | .contextName found => text "Invalid C# context name: " ++ found
  | .typeName setting found => text "Invalid " ++ setting ++ text ": " ++ found.plain

/-- Why a problem cannot be put into words, if there is a reason: a value in them cannot be spelled
out. -/
def SettingProblem.spellingFault? (depth : Option Nat) : SettingProblem → Option SpellingFault
  | .kind problem => problem.found.spellingFault? depth
  | .indentNotPositive size => (Value.int size).spellingFault? depth
  | .typeName _ found => found.spellingFault? depth
  | _ => none

/-- The fault in the words of a message. -/
def SettingsFault.message : SettingsFault → Text
  | .fileNotFound path => text "Configuration file not found: " ++ path.toText
  | .notJsonFile path => text "Configuration file must be JSON: " ++ path.toText
  | .malformedFile path reason line column offset =>
      text "Invalid JSON in configuration file " ++ path.toText ++ text ": " ++ reason.message ++
        text ": line " ++ Text.ofNat line ++ text " column " ++ Text.ofNat column ++
        text " (char " ++ Text.ofNat offset ++ text ")"
  | .unreadableFile path fault =>
      text "Failed to load configuration file " ++ path.toText ++ text ": " ++ fault.message
  | .notObjectFile path => text "Configuration file must contain a JSON object: " ++ path.toText
  | .wrongKinds problems =>
      text "Invalid configuration: " ++ Text.join (text "; ") (problems.map KindProblem.message)
  | .unusable problems => Text.join (text "; ") (problems.map SettingProblem.message)
  | .unwritableFile path fault =>
      text "Failed to save configuration to " ++ path.toText ++ text ": " ++ fault.message

end EntityForge
