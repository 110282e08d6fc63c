import EntityForge.Text.Numeral

/-! # Arguments of the command line

An argument that begins with a hyphen is an option, unless it is a number or holds a space; all
arguments after two hyphens are plain. A long option may be cut short as long as it is the only one
that begins so. The value of an option is joined to it or is the next argument, which has to be a
plain one. There is at most one plain argument that is no value: the file that holds the document,
which excludes the other sources of documents.
-/

namespace EntityForge.Console

/-- The options. -/
inductive Flag
  | help
  | projectDir
  | url
  | stdin
  | language
  | output
  | config
  | namespaceName
  | contextName
  | noStrictTypes
  | noKeywordEscaping
  | header
  | verbose
  | logLevel
  | version
  | listLanguages
  | languageInfo
  deriving DecidableEq, Repr

namespace Flag

/-- How the options are spelled. -/
def spellings : List (String × Flag) := [
  ("-h", .help), ("--help", .help), ("--project-dir", .projectDir), ("--url", .url),
  ("--stdin", .stdin), ("--language", .language), ("-l", .language), ("--output", .output),
  ("-o", .output), ("--config", .config), ("--namespace", .namespaceName),
  ("--context-name", .contextName), ("--no-strict-types", .noStrictTypes),
  ("--no-keyword-escaping", .noKeywordEscaping), ("--header", .header), ("--verbose", .verbose),
  ("--log-level", .logLevel), ("--version", .version), ("--list-languages", .listLanguages),
  ("--language-info", .languageInfo)]

/-- The option that is spelled so in full. -/
def ofSpelling? (t : Text) : Option Flag :=
  (spellings.find? fun entry => text entry.1 = t).map Prod.snd

/-- The options whose spelling begins so. -/
def startingWith (t : Text) : List Flag :=
  (spellings.filter fun entry => (text entry.1).startsWith t).map Prod.snd

/-- Has the option a value? -/
def takesValue : Flag → Bool
  | .projectDir => true
  | .url => true
  | .language => true
  | .output => true
  | .config => true
  | .namespaceName => true
  | .contextName => true
  | .logLevel => true
  | .languageInfo => true
  | _ => false

end Flag

/-- What an argument is: a plain argument, the two hyphens, an option that may have a value joined
to it, short or long, or an option that is not known. -/
inductive Token
  | plain (t : Text)
  | separator
  | option (flag : Flag) (isShort : Bool) (joined : Option Text)
  | unknown
  deriving DecidableEq, Repr

/-- Why the command ends before it has begun. -/
inductive EarlyExit
  | usage
  | help
  | version
  deriving DecidableEq, Repr

namespace Token

/-- Is it a negative number: digits after the hyphen, possibly with a point among or before them?
A line feed at its end does not count. -/
def isNegativeNumber : Text → Bool
  | .char '-' :: rest =>
      let digits := if rest.getLast? = some (.char '\n') then rest.dropLast else rest
      let back := digits.dropWhile CodePoint.isDecimal
      match back with
      | [] => !digits.isEmpty
      | .char '.' :: decimals => !decimals.isEmpty && decimals.all CodePoint.isDecimal
      | _ => false
  | _ => false

/-- The text before the first equals sign and the one after it, if there is one. -/
def splitValue (t : Text) : Text × Option Text :=
  let front := t.takeWhile (· ≠ .char '=')
  match t.drop front.length with
  | [] => (t, none)
  | _ :: value => (front, some value)

/-- What an argument that begins with a hyphen is when no option is spelled like it. -/
def ofUnspelled (t : Text) : Token :=
  if isNegativeNumber t || t.contains (.char ' ') then .plain t else .unknown

/-- What an argument is that begins with two hyphens but is not spelled like an option. -/
def ofLong (t : Text) : Except EarlyExit Token :=
  let (front, value) := splitValue t
  match Flag.startingWith front with
  | [] => .ok (ofUnspelled t)
  | [flag] => .ok (.option flag false value)
  | _ => .error .usage

/-- What an argument is that begins with one hyphen but is not spelled like an option. -/
def ofShort (t : Text) : Token :=
  match Flag.ofSpelling? (t.take 2) with
  | some flag => .option flag true (some (t.drop 2))
  | none => ofUnspelled t

/-- What an argument is that does not follow the two hyphens. -/
def ofArgument (t : Text) : Except EarlyExit Token :=
  match t with
  | .char '-' :: second :: _ =>
      let isShort := second ≠ .char '-'
      match Flag.ofSpelling? t with
      | some flag => .ok (.option flag isShort none)
      | none =>
          let (front, value) := splitValue t
          match value, Flag.ofSpelling? front with
          | some value, some flag => .ok (.option flag isShort (some value))
          | _, _ => if isShort then .ok (ofShort t) else ofLong t
  | _ => .ok (.plain t)

/-- What the arguments are. -/
def ofArguments : List Text → Except EarlyExit (List Token)
  | [] => .ok []
  | t :: rest =>
      if t = text "--" then .ok (.separator :: rest.map .plain)
      else do
        let token ← ofArgument t
        let tokens ← ofArguments rest
        return token :: tokens

end Token

/-- Where the document comes from. -/
inductive Source
  | file (name : Text)
  | project (directory : Text)
  | url (address : Text)
  | input
  deriving DecidableEq, Repr

/-- What the command line asks for. A value given as two hyphens counts as missing. -/
structure Arguments where
  source : Option Source := none
  language : Option Text := some (text "csharp")
  output : Option Text := none
  config : Option Text := none
  namespaceName : Option Text := none
  contextName : Option Text := none
  noStrictTypes : Bool := false
  noKeywordEscaping : Bool := false
  header : Bool := false
  verbose : Bool := false
  logLevel : Option Text := some (text "WARNING")
  listLanguages : Bool := false
  languageInfo : Option Text := none
  deriving DecidableEq, Repr

namespace Arguments

/-- The log levels to choose from. -/
def logLevels : List Text := [text "DEBUG", text "INFO", text "WARNING", text "ERROR"]

/-- Are two sources of the same kind? -/
def isSameSource : Source → Source → Bool
  | .file _, .file _ => true
  | .project _, .project _ => true
  | .url _, .url _ => true
  | .input, .input => true
  | _, _ => false

/-- The arguments with a source, which must not be of another kind than one before. -/
def withSource (a : Arguments) (source : Source) : Except EarlyExit Arguments :=
  match a.source with
  | none => .ok { a with source := some source }
  | some earlier =>
      if isSameSource earlier source then .ok { a with source := some source } else .error .usage

/-- The arguments with the value of an option that has one. -/
def withValue (a : Arguments) (flag : Flag) (value : Option Text) : Except EarlyExit Arguments :=
  match flag with
  | .projectDir => a.withSource (.project (value.getD []))
  | .url => a.withSource (.url (value.getD []))
  | .language => .ok { a with language := value }
  | .output => .ok { a with output := value }
  | .config => .ok { a with config := value }
  | .namespaceName => .ok { a with namespaceName := value }
  | .contextName => .ok { a with contextName := value }
  | .languageInfo => .ok { a with languageInfo := value }
  | .logLevel =>
      match value with
      | none => .ok { a with logLevel := none }
      | some level =>
          if level ∈ logLevels then .ok { a with logLevel := some level } else .error .usage
  | _ => .ok a

/-- The arguments with an option that has no value. -/
def withSwitch (a : Arguments) (flag : Flag) : Except EarlyExit Arguments :=
  match flag with
  | .help => .error .help
  | .version => .error .version
  | .stdin => a.withSource .input
  | .noStrictTypes => .ok { a with noStrictTypes := true }
  | .noKeywordEscaping => .ok { a with noKeywordEscaping := true }
  | .header => .ok { a with header := true }
  | .verbose => .ok { a with verbose := true }
  | .listLanguages => .ok { a with listLanguages := true }
  | _ => .ok a

/-- A value that is written out; two hyphens stand for none. -/
def valueOf (t : Text) : Option Text := if t = text "--" then none else some t

/-- Short options joined to one without a value: the last of them, and the value joined to that
one. None of them may be unknown. -/
def lastJoined : Text → Except EarlyExit (Option (Flag × Option Text))
  | [] => .ok none
  | p :: rest =>
      match Flag.ofSpelling? [.char '-', p] with
      | none => .error .usage
      | some flag =>
          if flag.takesValue then
            .ok (some (flag, if rest.isEmpty then none else some rest))
          else if rest.isEmpty then .ok none
          else lastJoined rest

/-- How far the reading of the arguments has come. The file can only be read once; what cannot be
read is left over. -/
structure Reading where
  arguments : Arguments := {}
  fileIsOpen : Bool := true
  hasLeftovers : Bool := false

/-- The reading with other arguments. -/
def Reading.set (r : Reading) (arguments : Except EarlyExit Arguments) :
    Except EarlyExit Reading :=
  arguments.map fun arguments => { r with arguments }

/-- Reads one option without a value. The options joined to it are read first as far as they can
fail. -/
def readSwitch (r : Reading) (flag : Flag) (isShort : Bool) (joined : Option Text)
    (next : Option Token) : Except EarlyExit Reading :=
  match joined with
  | none => r.set (r.arguments.withSwitch flag)
  | some t =>
      if !isShort || t.isEmpty then .error .usage
      else
        match lastJoined t with
        | .error exit => .error exit
        | .ok (some (_, none)) =>
            match next with
            | some (.plain _) => r.set (r.arguments.withSwitch flag)
            | _ => .error .usage
        | .ok _ => r.set (r.arguments.withSwitch flag)

/-- Reads tokens one after the other. -/
def read (r : Reading) : List Token → Except EarlyExit Reading
  | [] => .ok r
  | .unknown :: rest => read { r with hasLeftovers := true } rest
  | .option flag isShort joined :: rest =>
      if flag.takesValue then
        match joined, rest with
        | some t, rest => do
            let r ← r.set (r.arguments.withValue flag (valueOf t))
            read r rest
        | none, .plain t :: rest => do
            let r ← r.set (r.arguments.withValue flag (valueOf t))
            read r rest
        | none, _ => .error .usage
      else do
        let r ← readSwitch r flag isShort joined rest.head?
        read r rest
  | .plain t :: rest =>
      if r.fileIsOpen then do
        let r ← r.set (r.arguments.withSource (.file t))
        let r := { r with fileIsOpen := false }
        match rest with
        | .separator :: rest => read r rest
        | rest => read r rest
      else read { r with hasLeftovers := true } rest
  | .separator :: rest =>
      if r.fileIsOpen then
        match rest with
        | .plain t :: rest => do
            let r ← r.set (r.arguments.withSource (.file t))
            read { r with fileIsOpen := false } rest
        | rest => read { r with fileIsOpen := false } rest
      else read { r with hasLeftovers := true } rest

/-- Reads the arguments of a command line. -/
def parse (arguments : List Text) : Except EarlyExit Arguments := do
  let tokens ← Token.ofArguments arguments
  let r ← read {} tokens
  if r.hasLeftovers then .error .usage else .ok r.arguments

end Arguments

end EntityForge.Console
