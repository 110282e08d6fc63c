import EntityForge.Expression.Literal
import EntityForge.Schema.Document
import EntityForge.Schema.Problem
import EntityForge.Settings.Problem
import EntityForge.Source.Encoding
import EntityForge.Source.Url
import EntityForge.Template.Render

/-! # Failures

Every way in which an operation of the library can fail, by its cause; the words of a message are
derived from the cause. The failures of a run are reported to the caller as its result. A breakdown
is a failure that nobody expects: it is passed on as it is.
-/

namespace EntityForge

/-- Why templates cannot be used: their directory is not there; or one of them is not there, is
malformed or reaches for what it is not given, for the reason that the engine gives. -/
inductive TemplateFault
  | directoryNotFound (path : Path)
  | missing (name reason : Text)
  | malformed (name reason : Text)
  | undefined (name reason : Text)
  deriving DecidableEq, Repr

/-- Why artifacts are not generated or delivered. -/
inductive DeliveryFault
  | cancelled
  | deliveredTwice (name : Text)
  | unwritable (path : Path) (fault : FileFault)
  deriving DecidableEq, Repr

/-- Why a language is not registered or not found. -/
inductive RegistryFault
  | notGenerator
  | aliasIsLanguage (name : Text)
  | aliasTaken (name owner : Text)
  | unknownLanguage (name : Text) (available : List Text)
  | settingsKind (kind : Text)
  deriving DecidableEq, Repr

/-- Why a schema document cannot be obtained. -/
inductive SourceFault
  | unreadableFile (path : Path) (fault : FileFault)
  | undecodableFile (path : Path) (fault : Utf8.Fault)
  | noProjectDirectory (path : Path)
  | invalidUrl (url : Text)
  | timeout (url : Text)
  | connection (url : Text)
  | status (url : Text) (code : Int)
  | request (url reason : Text)
  deriving DecidableEq, Repr

/-- A failure that nobody expects. What is `foreign` comes from outside with a kind and a message of
its own. -/
inductive Breakdown
  | foreign (kind message : Text)
  | undecodable (fault : Utf8.Fault)
  | unencodable (run : Utf8.SurrogateRun)
  | longInteger (digits : Nat)
  | unspellable (fault : SpellingFault)
  | file (fault : FileFault)
  | nullInPath
  | nullInName
  | encoding (name : Text) (fault : Encoding.Fault)
  | notMergeable (kind : Text)
  | notIterable (kind : Text)
  | noMembers (kind : Text)
  | notHashable (kind : Text)
  | notPair (index : Nat)
  | pairLength (index length : Nat)
  | unknownSetting (name : Text)
  | takenName (function name : Text)
  | unknownFilter (filter : Text)
  | malformedTemplate (fault : Template.Malformed)
  | recursivePattern
  | tooDeep
  | url (fault : UrlFault)
  | noStatus
  | abstractBackend
  | strayClosingTag (tag : Text) (offset : Nat)
  | nothingToClose (offset : Nat)
  | handler (spelling arguments : Text) (fault : Expression.LiteralFault)
  | emptyNumeral
  | noLanguage
  | noLogLevel
  | indent (fault : Settings.IndentFault)
  deriving DecidableEq, Repr

/-- Why an operation fails. -/
inductive Failure
  | json (reason : Json.Reason) (line column : Nat)
  | document (fault : Document.Fault)
  | duplicates (names : List DuplicateName)
  | schema (problems : List SchemaProblem)
  | unrecognizedType (entity property typeName : Text)
  | delivery (fault : DeliveryFault)
  | settings (fault : SettingsFault)
  | template (fault : TemplateFault)
  | registry (fault : RegistryFault)
  | source (fault : SourceFault)
  | fileNotFound (path : Path)
  | breakdown (cause : Breakdown)

/-- The fault in the words of a message. -/
def TemplateFault.message : TemplateFault → Text
  | .directoryNotFound path => text "Template directory not found: " ++ path.toText
  | .missing name reason => text "Failed to render template " ++ name ++ text ": " ++ reason
  | .malformed name reason => text "Failed to render template " ++ name ++ text ": " ++ reason
  | .undefined name reason => text "Failed to render template " ++ name ++ text ": " ++ reason

/-- The fault in the words of a message. -/
def DeliveryFault.message : DeliveryFault → Text
  | .cancelled => text "Generation was cancelled"
  | .deliveredTwice name => text "Artifact delivered twice: " ++ name
  | .unwritable path fault =>
      text "Failed to write " ++ path.toText ++ text ": " ++ fault.message

/-- The fault in the words of a message. -/
def RegistryFault.message : RegistryFault → Text
  | .notGenerator => text "Generator class must inherit from CodeGenerator"
  | .aliasIsLanguage name =>
      text "Alias '" ++ name ++ text "' conflicts with existing primary language"
  | .aliasTaken name owner =>
      text "Alias '" ++ name ++ text "' already points to '" ++ owner ++ text "'"
  | .unknownLanguage name available =>
      text "No generator registered for language: " ++ name ++ text ". Available: " ++
        Text.join (text ", ") available
  | .settingsKind kind => text "Invalid config type: <class '" ++ kind ++ text "'>"

/-- The fault in the words of a message. -/
def SourceFault.message : SourceFault → Text
  | .unreadableFile path fault =>
      text "Error reading file " ++ path.toText ++ text ": " ++ fault.message
  | .undecodableFile path fault =>
      text "Error reading file " ++ path.toText ++ text ": " ++ fault.message
  | .noProjectDirectory path => text "Project directory not found: " ++ path.toText
  | .invalidUrl url => text "Invalid URL: " ++ url
  | .timeout url => text "Request timeout for URL: " ++ url
  | .connection url => text "Connection error for URL: " ++ url
  | .status url code => text "HTTP error " ++ Text.ofInt code ++ text " for URL: " ++ url
  | .request url reason => text "Request error for URL " ++ url ++ text ": " ++ reason

/-- The breakdown in the words of a message. -/
def Breakdown.message : Breakdown → Text
  | .foreign _ message => message
  | .undecodable fault => fault.message
  | .unencodable run => run.message
  | .longInteger digits => Json.longIntegerMessage digits
  | .unspellable fault => fault.message
  | .file fault => fault.message
  | .nullInPath => text "embedded null byte"
  | .nullInName => text "embedded null character"
  | .encoding name fault => fault.message name
  | .notMergeable kind => text "'" ++ kind ++ text "' object has no attribute 'update'"
  | .notIterable kind => text "'" ++ kind ++ text "' object is not iterable"
  | .noMembers kind => text "'" ++ kind ++ text "' object has no attribute 'items'"
  | .notHashable kind => text "unhashable type: '" ++ kind ++ text "'"
  | .notPair index =>
      text "cannot convert dictionary update sequence element #" ++ Text.ofNat index ++
        text " to a sequence"
  | .pairLength index length =>
      text "dictionary update sequence element #" ++ Text.ofNat index ++ text " has length " ++
        Text.ofNat length ++ text "; 2 is required"
  | .unknownSetting name =>
      text "GeneratorConfig.__init__() got an unexpected keyword argument '" ++ name ++ text "'"
  | .takenName function name =>
      function ++ text "() got multiple values for argument '" ++ name ++ text "'"
  | .unknownFilter filter => (Template.RenderFault.unknownFilter filter).message
  | .malformedTemplate _ => text "malformed template"
  | .recursivePattern => text "Invalid pattern: '**' can only be an entire path component"
  | .tooDeep => text "maximum recursion depth exceeded"
  | .url fault => fault.message
  | .noStatus => text "'NoneType' object has no attribute 'status_code'"
  | .abstractBackend =>
      text "Can't instantiate abstract class CodeGenerator with abstract methods " ++
        text "file_extension, generate_context, generate_entity, language_name"
  | .strayClosingTag tag offset =>
      text "closing tag '" ++ tag ++ text "' at position " ++ Text.ofNat offset ++
        text " doesn't match any open tag"
  | .nothingToClose offset =>
      text "closing tag '[/]' at position " ++ Text.ofNat offset ++ text " has nothing to close"
  | .handler spelling arguments fault =>
      text "error parsing " ++
        (match fault with
        | .spelling _ => arguments.shown ++ text " in "
        | _ => []) ++
        spelling.shown ++ text "; " ++ fault.message
  | .emptyNumeral => text "invalid literal for int() with base 10: ''"
  | .noLanguage => text "'list' object has no attribute 'lower'"
  | .noLogLevel => text "Level not an integer or a valid string: []"
  | .indent .notCountable => text "cannot fit 'int' into an index-sized integer"

/-- Why no file can have that name, if there is a reason: a lone surrogate that does not stand for
a byte, or a null character. -/
def nameFault? (name : Text) : Option Breakdown :=
  match Utf8.unnameable? name with
  | some run => some (.unencodable run)
  | none => if name.contains (.char '\x00') then some .nullInPath else none

/-- A list of problems in one message. -/
def problemsMessage (problems : List Text) : Text := Text.join (text "; ") problems

/-- The failure in the words of a message. -/
def Failure.message : Failure → Text
  | .json reason line column =>
      text "Invalid JSON at line " ++ Text.ofNat line ++ text ", column " ++ Text.ofNat column ++
        text ": " ++ reason.message
  | .document fault => fault.message
  | .duplicates names => problemsMessage (names.map DuplicateName.message)
  | .schema problems => problemsMessage (problems.map SchemaProblem.message)
  | .unrecognizedType entity property typeName =>
      text "Unrecognized type '" ++ typeName ++ text "' for property " ++ entity ++ text "." ++
        property
  | .delivery fault => fault.message
  | .settings fault => fault.message
  | .template fault => fault.message
  | .registry fault => fault.message
  | .source fault => fault.message
  | .fileNotFound path => text "File not found: " ++ path.toText
  | .breakdown cause => cause.message

/-- The failure that a fault of loading a schema is. -/
def Failure.ofLoadFault : Schema.LoadFault → Failure
  | .json reason line column => .json reason line column
  | .document fault => .document fault
  | .longInteger digits => .breakdown (.longInteger digits)

/-- Is it a failure that a run reports as its result? -/
def Failure.isReported : Failure → Bool
  | .source _ => false
  | .fileNotFound _ => false
  | .breakdown _ => false
  | _ => true

/-- Is it a failure that the command line answers with a message? Among the breakdowns only a path
that leads nowhere is one. -/
def Failure.isHandled : Failure → Bool
  | .breakdown (.file fault) => fault.error = .noEntry
  | .breakdown _ => false
  | _ => true

end EntityForge
