import EntityForge.CSharp.Generator

/-! # The registry of languages

Languages are registered under a primary name, with aliases; all names are compared in lower case.
An alias can neither be the primary name of a language nor belong to another language. A language
that is found gives a generator, from settings in one of several forms.
-/

namespace EntityForge

/-- What generates the code of a language: the C# generator, or the outline that all generators
share, which generates nothing itself. -/
inductive Backend
  | csharp
  | outline
  deriving DecidableEq, Repr

/-- In what form settings are given. -/
inductive SettingsSource
  | default
  | draft (d : Draft)
  | overrides (given : Entries Value)
  | file (name : Text)
  | unsupported (kind : Text)

/-- The registered languages with their backends, and the aliases with the languages they are
for. -/
structure Registry where
  backends : Entries Backend := []
  aliases : Entries Text := []
  deriving DecidableEq, Repr

/-- What is known of a language. -/
structure LanguageInfo where
  name : Text
  backend : Text
  fileExtension : Text
  aliases : List Text
  moduleName : Text
  settings : Settings

namespace Registry

/-- Texts in order. -/
def sorted (ts : List Text) : List Text := ts.mergeSort Text.le

/-- The fault of an alias for a language, if there is one. -/
def aliasFault? (r : Registry) (primary name : Text) : Option RegistryFault :=
  if r.backends.has name then some (.aliasIsLanguage name)
  else
    match r.aliases.lookup? name with
    | none => none
    | some owner => if owner = primary then none else some (.aliasTaken name owner)

/-- The aliases to register for a language, in lower case. -/
def aliasKeys (primary : Text) (aliases : List Text) : List Text :=
  (aliases.map Text.lower).filter (· ≠ primary)

/-- Registers a language. What is not a backend cannot be registered. -/
def register (r : Registry) (language : Text) (backend : Option Backend) (aliases : List Text) :
    Except RegistryFault Registry :=
  match backend with
  | none => .error .notGenerator
  | some backend =>
      let primary := language.lower
      let keys := aliasKeys primary aliases
      match keys.findSome? (r.aliasFault? primary) with
      | some fault => .error fault
      | none => .ok {
          backends := r.backends.put primary backend
          aliases := keys.foldl (fun all key => all.put key primary) r.aliases }

/-- The registered languages, in order. -/
def languages (r : Registry) : List Text := sorted r.backends.names

/-- The primary name of the language that a name or alias stands for. -/
def resolve (r : Registry) (language : Text) : Except RegistryFault Text :=
  let key := language.lower
  if r.backends.has key then .ok key
  else
    match r.aliases.lookup? key with
    | some primary => .ok primary
    | none => .error (.unknownLanguage language r.languages)

/-- The aliases of a primary name, in order. -/
def aliasesOf (r : Registry) (language : Text) : List Text :=
  sorted ((r.aliases.filter fun entry => entry.2 = language.lower).map Prod.fst)

/-- The draft of settings that a source gives for a language. -/
def draftOf (machine : Machine) (language : Text) : SettingsSource → Except Failure Draft
  | .default => (Settings.load machine language .null none).map Settings.toDraft
  | .draft d => .ok d
  | .overrides given => (Settings.load machine language (.object given) none).map Settings.toDraft
  | .file name => (Settings.load machine language .null (some name)).map Settings.toDraft
  | .unsupported kind => .error (.registry (.settingsKind kind))

/-- A generator for a language. -/
def create (r : Registry) (host : Host) (language : Text) (source : SettingsSource) :
    Except Failure CSharp.Generator := do
  let primary ← (r.resolve language).mapError .registry
  let draft ← draftOf host.machine primary source
  match r.backends.lookup? primary with
  | some .csharp => CSharp.Generator.ofDraft host draft
  | _ => .error (.breakdown .abstractBackend)

/-- What is known of a language, going by its generator with default settings. -/
def info (r : Registry) (host : Host) (language : Text) : Except Failure LanguageInfo := do
  let primary ← (r.resolve language).mapError .registry
  let generator ← r.create host primary .default
  return {
    name := CSharp.languageName
    backend := text "CSharpGenerator"
    fileExtension := CSharp.fileExtension
    aliases := r.aliasesOf primary
    moduleName := text "dbmodel_codegen.languages.csharp.generator"
    settings := generator.settings }

/-- The registry that knows C# and its aliases. -/
def builtin : Registry where
  backends := [(text "csharp", .csharp)]
  aliases := [
    (text "cs", text "csharp"), (text "c#", text "csharp"), (text "efcore", text "csharp")]

/-- Registering C# with its aliases makes the built-in registry. -/
theorem register_builtin :
    ({} : Registry).register (text "csharp") (some .csharp)
      [text "cs", text "c#", text "efcore"] = .ok builtin := rfl

end Registry

end EntityForge
