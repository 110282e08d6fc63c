import EntityForge.Text.Basic

/-! # Log levels

The log is configured with a level, which is given by name or by number. A name that is not known
stands for the level of warnings.
-/

namespace EntityForge

/-- How a log level is given. -/
inductive LevelChoice
  | name (t : Text)
  | number (n : Int)

/-- The state of the log: the level from which messages are shown, whether they are passed on, and
how many handlers of the console show them. -/
structure LogState where
  level : Int := 0
  propagates : Bool := true
  handlers : Nat := 0
  deriving DecidableEq, Repr

namespace LogState

/-- The name of the log. -/
def name : Text := text "dbmodel_codegen"

/-- The names of the levels. -/
def levels : List (String × Int) := [
  ("CRITICAL", 50), ("FATAL", 50), ("ERROR", 40), ("WARN", 30), ("WARNING", 30), ("INFO", 20),
  ("DEBUG", 10), ("NOTSET", 0)]

/-- The level of warnings. -/
def warning : Int := 30

/-- The upper case of a code point if that is an ASCII letter. Besides the ASCII letters themselves
that is so for the dotless i and for the long s. -/
def upperCode (p : CodePoint) : CodePoint :=
  let n := p.toNat
  if 0x61 ≤ n ∧ n ≤ 0x7A then .ofNat (n - 0x20)
  else if n = 0x131 then .char 'I'
  else if n = 0x17F then .char 'S'
  else p

/-- The number of a level. -/
def levelOf : LevelChoice → Int
  | .number n => n
  | .name t =>
      ((levels.find? fun level => text level.1 = t.map upperCode).map Prod.snd).getD warning

/-- The log after its configuration. -/
def configure (_ : LogState) (choice : LevelChoice) : LogState where
  level := levelOf choice
  propagates := false
  handlers := 1

end LogState

end EntityForge
