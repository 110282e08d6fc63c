import EntityForge.Console.Arguments
import EntityForge.Console.LogLevel
import EntityForge.Console.Markup
import EntityForge.Console.Table
import EntityForge.Console.Wrap
import EntityForge.Delivery.Run
import EntityForge.Source.File
import EntityForge.Source.Project
import EntityForge.Source.Web

/-! # The command line

The command gets a document from a file, a project, the web or its input, generates the artifacts
and either writes them into a directory or prints them. A failure that is foreseen is printed, and
the command ends with code 1; arguments that cannot be read end it with code 2.

What the command depends on is around it: how arguments are read, a host, the web, a disk and a
console. Nothing is taken for granted of these, except where they are those of a file tree.
-/

namespace EntityForge.Console

/-- What is printed at a time: a message with markup, code, a table, a panel, or an empty line. -/
inductive Printed
  | message (t : Text)
  | code (t : Text)
  | table (t : Table)
  | panel (title : Text) (content : List Text)
  | gap

/-- What the command finds around it: how its arguments are read, a host, its input, what becomes of
requests, a disk in some state, and a console that prints lines. -/
structure Surroundings (σ : Type) where
  parse : List Text → Except EarlyExit Arguments
  host : Host
  input : Text
  respond : Text → Response
  disk : Disk σ
  state : σ
  print : Printed → Except Breakdown (List Text)

/-- How the command ends: its code, the lines it prints, and the state of the disk then. -/
structure Outcome (σ : Type) where
  code : Nat
  lines : List Text
  state : σ

/-- The number of columns of the console. -/
def consoleWidth : Nat := 400

/-- The version of the command. -/
def versionLine : Text := text "dbmodel-codegen 0.1.0"

/-- The lines that a console prints. A message has to have markup that can be shown. -/
def linesOf : Printed → Except Breakdown (List Text)
  | .message t => (Markup.shown t).map (messageLines consoleWidth)
  | .code t => .ok (codeLines consoleWidth t)
  | .table t => .ok t.lines
  | .panel title content => .ok (panelLines consoleWidth title content)
  | .gap => .ok [[]]

/-- The surroundings of a file tree. -/
def Surroundings.ofTree (files : FileTree) (input : Text) (respond : Text → Response) :
    Surroundings FileTree where
  parse := Arguments.parse
  host := files
  input
  respond
  disk := FileTree.disk
  state := files
  print := linesOf

/-- The overrides of the settings that the arguments give. Empty values do not count. -/
def overridesOf (a : Arguments) : Entries Value :=
  let given (setting : Setting) (value : Option Text) : Entries Value :=
    match value with
    | some (p :: rest) => [(setting.label, .string (p :: rest))]
    | _ => []
  let flagged (setting : Setting) (isGiven value : Bool) : Entries Value :=
    if isGiven then [(setting.label, .bool value)] else []
  given .namespaceName a.namespaceName ++ given .contextName a.contextName ++
    flagged .strictTypes a.noStrictTypes false ++
    flagged .escapeKeywords a.noKeywordEscaping false ++ flagged .addHeader a.header true ++
    given .outputDir a.output

/-- The document in a project, if it has one. -/
def projectDocument (machine : Machine) (directory ending : Text) :
    Except Failure (Option Text) := do
  let directory := if directory.isEmpty then text "." else directory
  match ← Source.findFile machine (Path.parse directory) ending with
  | none => return none
  | some path => return some (← Source.ofFile machine path)

/-- A name with blanks between its words and their first letters in upper case. -/
def titleOf (name : Text) : Text :=
  let titled : Text → Text
    | p :: rest => LogState.upperCode p :: rest
    | [] => []
  Text.join (text " ") ((Text.splitOn '_' name).map titled)

/-- What shows an artifact. -/
def artifactReport (a : Artifact) : List Printed :=
  let border := bar '═' 20
  [.message (text "[green]" ++ border ++ text " 📄 " ++ a.name ++ text " " ++ border ++
    text "[/green]"), .code a.content]

/-- What shows the figures of a run. -/
def metadataReport (metadata : Entries Value) : List Printed := [
  .gap,
  .table {
    frame := .light
    title := text "📊 Generation Metadata"
    headings := [text "Property", text "Value"]
    rows := metadata.map fun (name, value) => [titleOf name, value.plain] }]

/-- What shows the warnings of a run. -/
def warningReport (warnings : List Text) : List Printed :=
  if warnings.isEmpty then []
  else
    .message (text "\n[yellow]⚠️  Warnings:[/yellow]") ::
      warnings.map (fun warning => .message (text "  [yellow]•[/yellow] " ++ warning)) ++ [.gap]

/-- What closes the report on a run. -/
def closingReport (a : Arguments) (result : GenerationResult) : List Printed :=
  (if result.artifacts.isEmpty then
    [.message (text "[dim]No entities configured; nothing generated[/dim]")] else []) ++
  (if a.verbose then metadataReport result.metadata else []) ++ warningReport result.warnings

/-- What tells of artifacts that were written into a directory. -/
def deliveryReport (directory : Path) (result : GenerationResult) : List Printed :=
  result.names.map fun name => .message
    (text "[green]✓[/green] Generated [cyan]" ++ (directory.child name).toText ++ text "[/cyan]")

/-- The report on a run whose artifacts were written into a directory, or are printed. -/
def runReport (a : Arguments) (directory? : Option Path) (result : GenerationResult) :
    List Printed :=
  (match directory? with
    | some directory => deliveryReport directory result
    | none => result.artifacts.flatMap artifactReport) ++ closingReport a result

/-- The table of the languages, with what is known of each. -/
def languageReport (host : Host) : Except Failure (List Printed) := do
  let registry := Registry.builtin
  let infos ← registry.languages.mapM fun language => do
    return (language, ← registry.info host language)
  let table : Table := {
    frame := .rounded
    title := text "📋 Supported Languages"
    headings := [text "Language", text "Extension", text "Generator Class", text "Aliases"]
    rows := infos.map fun (language, info) => [
      text "🔧 " ++ language, info.fileExtension, info.backend,
      if info.aliases.isEmpty then text "none" else Text.join (text ", ") info.aliases] }
  return [.gap, .table table, .gap]

/-- The name of a truth value in a table. -/
def truthName (b : Bool) : Text := if b then text "True" else text "False"

/-- What shows all that is known of a language. -/
def languageInfoReport (host : Host) (language : Text) : Except Failure (List Printed) := do
  let info ← Registry.builtin.info host language
  let aliases :=
    if info.aliases.isEmpty then []
    else [text "Aliases: " ++ Text.join (text ", ") info.aliases]
  let content := [
    text "Language: " ++ info.name, text "File Extension: " ++ info.fileExtension,
    text "Generator Class: " ++ info.backend, text "Module: " ++ info.moduleName] ++ aliases
  let settings := info.settings
  let table : Table := {
    frame := .light
    title := text "⚙️  Default Configuration"
    headings := [text "Setting", text "Value"]
    rows := [
      [text "Namespace", settings.namespaceName], [text "Context Name", settings.contextName],
      [text "Config File Name", settings.configFileName],
      [text "File Suffix", settings.fileSuffix],
      [text "Strict Types", truthName settings.strictTypes],
      [text "Escape Keywords", truthName settings.escapeKeywords]] }
  return [.gap, .panel (text "🔧 " ++ info.name ++ text " Generator") content, .gap, .table table]

section

variable {σ : Type} (around : Surroundings σ)

/-- The document that the arguments ask for. A source with an empty name does not count. -/
def documentOf (a : Arguments) (s : Settings) : Except Failure (Option Text) :=
  match a.source with
  | some (.file (p :: name)) =>
      (Source.ofFile around.host.machine (Path.parse (p :: name))).map some
  | some (.url (p :: url)) =>
      (Source.fetch (p :: url) (around.respond (p :: url))).map some
  | some .input => .ok (some around.input)
  | some (.project directory) => projectDocument around.host.machine directory s.configFileName
  | _ => projectDocument around.host.machine [] s.configFileName

/-- Why the machine cannot take in the document of a request, if it cannot. It takes it in once
there is a generator; a blank document is none. -/
def intakeFault? (host : Host) (request : Run.Request) : Option Breakdown :=
  match request.document, Registry.builtin.create host request.language request.settings with
  | some document, .ok _ =>
      if document.isBlank then none
      else
        match host.machine.takesIn document with
        | .ok () => none
        | .error cause => some cause
  | _, _ => none

/-- Generates, and writes or shows the artifacts of a document. Files that were written stay, even
if a later one fails. -/
def generateAll (a : Arguments) (language : Text) (s : Settings) (document : Option Text) :
    σ × Except Failure (List Printed) :=
  let request : Run.Request := { document, language, settings := .draft s.toDraft }
  match intakeFault? around.host request with
  | some cause => (around.state, .error (.breakdown cause))
  | none =>
      match s.outputDir with
      | some (p :: rest) =>
          let directory := Path.parse (p :: rest)
          let (sink, result) := Run.deliver (around.disk.medium directory) .builtin around.host
            CancelSignal.never request { state := around.state }
          (sink.state, result.map (runReport a (some directory)))
      | _ =>
          (around.state, do
            let result ← Run.generate .builtin around.host CancelSignal.never request
            match Run.GenerationResult.failure? result with
            | some failure => .error failure
            | none => return runReport a none result)

/-- The language, the settings and the document that the arguments ask for. -/
def prepare (a : Arguments) (language : Text) :
    Except Failure (Text × Settings × Option Text) := do
  let language ← (Registry.builtin.resolve language).mapError Failure.registry
  let settings ←
    Settings.load around.host.machine language (.object (overridesOf a)) a.config
  let document ← documentOf around a settings
  return (language, settings, document)

/-- Generates with the settings and the document that the arguments ask for. -/
def generateFrom (a : Arguments) : σ × Except Failure (List Printed) :=
  match a.language with
  | none => (around.state, .error (.breakdown .noLanguage))
  | some language =>
      match prepare around a language with
      | .error failure => (around.state, .error failure)
      | .ok (language, settings, document) =>
          generateAll around a language settings document

/-- Does what the arguments ask for, and gives what there is to print. -/
def act (a : Arguments) : σ × Except Failure (List Printed) :=
  if a.listLanguages then (around.state, languageReport around.host)
  else
    match a.languageInfo with
    | some (p :: language) => (around.state, languageInfoReport around.host (p :: language))
    | _ => generateFrom around a

/-- Prints one thing after the other, up to the first that cannot be printed: the lines, and why it
cannot. -/
def printAll : List Printed → List Text × Option Breakdown
  | [] => ([], none)
  | item :: rest =>
      match around.print item with
      | .error cause => ([], some cause)
      | .ok lines =>
          let (more, fault) := printAll rest
          (lines ++ more, fault)

/-- The message on a failure. -/
def errorMessage (failure : Failure) : Printed :=
  .message (text "[red]✗ Error:[/red] " ++ failure.message)

/-- Ends the command after a failure, if it is one that is answered with a message. -/
def finish (state : σ) (lines : List Text) (failure : Failure) : Except Failure (Outcome σ) :=
  if failure.isHandled then
    match around.print (errorMessage failure) with
    | .error cause => .error (.breakdown cause)
    | .ok more => .ok ⟨1, lines ++ more, state⟩
  else .error failure

/-- Does what the arguments ask for, prints what there is to print, and ends. -/
def perform (a : Arguments) : Except Failure (Outcome σ) :=
  match act around a with
  | (state, .error failure) => finish around state [] failure
  | (state, .ok report) =>
      match printAll around report with
      | (lines, none) => .ok ⟨0, lines, state⟩
      | (lines, some cause) => finish around state lines (.breakdown cause)

/-- Runs the command with its arguments. -/
def run (arguments : List Text) : Except Failure (Outcome σ) :=
  match around.parse arguments with
  | .error .usage => .ok ⟨2, [], around.state⟩
  | .error .help => .ok ⟨0, [], around.state⟩
  | .error .version => .ok ⟨0, [versionLine], around.state⟩
  | .ok a =>
      if a.logLevel.isNone then .error (.breakdown .noLogLevel) else perform around a

end

end EntityForge.Console
