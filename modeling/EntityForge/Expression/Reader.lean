import Std.Data.HashMap
import EntityForge.Expression.Tree
import EntityForge.Text.Compatible

/-! # Readers of expressions

A reader goes through the tokens of a source from a place on. It reads something, refuses, or finds
a fault; a fault ends everything, while after a refusal another reader may try from the same place.
What a rule of the grammar gives at a place is kept and not found out again.

Reading is done twice if need be: the second time, readers that know common mistakes look for them
where they might stand.
-/

namespace EntityForge.Expression

/-- The rules of the grammar whose results are kept. -/
inductive Rule
  | expression
  | disjunction
  | conjunction
  | inversion
  | bitOr
  | bitXor
  | bitAnd
  | shift
  | sum
  | term
  | factor
  | awaited
  | primary
  | quoted
  | arguments
  | spreadable
  | target
  | targetAtom
  | targetPrimary
  | misnamed
  deriving DecidableEq, Hashable, Repr

/-- What a reader has to go by: the tokens, what is said where they stop, and a judgement of text
literals. -/
structure Source where
  tokens : Array Placed
  stop : TokenFault
  inField : Bool
  judge : List Quoted → Option Fault

/-- How far reading has come: the place of the next token, the number of tokens looked at, whether
mistakes are looked for, and the results of rules so far. -/
structure Progress where
  place : Nat := 0
  reached : Nat := 0
  seeks : Bool := false
  results : Std.HashMap (Rule × Nat) (Option (Tree × Nat)) := {}

/-- What a reader gives. -/
inductive Outcome (α : Type)
  | read (a : α)
  | refused
  | broken (fault : Fault)

/-- A reader. -/
def Reader (α : Type) : Type := Source → Progress → Outcome α × Progress

namespace Reader

variable {α β : Type}

instance : Monad Reader where
  pure a := fun _ progress => (.read a, progress)
  bind reader next := fun source progress =>
    match reader source progress with
    | (.read a, progress) => next a source progress
    | (.refused, progress) => (.refused, progress)
    | (.broken fault, progress) => (.broken fault, progress)

/-- Refuses. -/
def refuse : Reader α := fun _ progress => (.refused, progress)

/-- Finds a fault of the order of tokens. -/
def complain (fault : OrderFault) : Reader α := fun source progress =>
  (.broken (.order source.inField fault), progress)

/-- Tries a reader, and another one from the same place if it refuses. -/
def orElse (first second : Reader α) : Reader α := fun source progress =>
  match first source progress with
  | (.refused, after) => second source { after with place := progress.place }
  | result => result

instance : OrElse (Reader α) := ⟨fun first second => first.orElse (second ())⟩

/-- What a reader reads, or nothing if it refuses. -/
def optional (reader : Reader α) : Reader (Option α) := (some <$> reader) <|> pure none

/-- Looks ahead: reads something and goes back. -/
def ahead (reader : Reader α) : Reader α := fun source progress =>
  let (outcome, after) := reader source progress
  (outcome, { after with place := progress.place })

/-- Looks ahead for something that must not be there. -/
def absent (reader : Reader α) : Reader Unit := fun source progress =>
  match reader source progress with
  | (.read _, after) => (.refused, { after with place := progress.place })
  | (.refused, after) => (.read (), { after with place := progress.place })
  | (.broken fault, after) => (.broken fault, after)

/-- Reads only where mistakes are looked for. -/
def seeking (reader : Reader α) : Reader α := fun source progress =>
  if progress.seeks then reader source progress else (.refused, progress)

/-- Reads without looking for mistakes. -/
def trusting (reader : Reader α) : Reader α := fun source progress =>
  let (outcome, after) := reader source { progress with seeks := false }
  (outcome, { after with seeks := progress.seeks })

/-- Reads at most that many times, as often as something is read. -/
def repeated (reader : Reader α) : Nat → Reader (List α)
  | 0 => pure []
  | count + 1 => do
      match ← reader.optional with
      | none => return []
      | some a => return a :: (← repeated reader count)

/-- Reads as often as something is read. -/
def many (reader : Reader α) : Reader (List α) := fun source progress =>
  reader.repeated (source.tokens.size + 1) source progress

/-- Reads as often as something is read, at least once. -/
def atLeastOnce (reader : Reader α) : Reader (List α) := do
  let first ← reader
  return first :: (← reader.many)

/-- Reads items with something between them, at least one. -/
def between (reader : Reader α) (separator : Reader β) : Reader (List α) := do
  let first ← reader
  return first :: (← many do let _ ← separator; reader)

/-- The next token, which is not passed. -/
def next : Reader Token := fun source progress =>
  let after := { progress with reached := max progress.reached (progress.place + 1) }
  match source.tokens[progress.place]? with
  | some placed => (.read placed.token, after)
  | none => (.broken (.token source.stop), progress)

/-- Passes the next token. -/
def pass : Reader Unit := fun _ progress =>
  (.read (), { progress with place := progress.place + 1 })

/-- Reads a token. -/
def token (t : Token) : Reader Unit := do
  if (← next) = t then pass else refuse

/-- Reads a sign. -/
def sign (s : String) : Reader Unit := token (.sign s)

/-- Reads a reserved word. -/
def word (w : String) : Reader Unit := token (.word (text w))

/-- Reads a name, of which the form that compatible names have in common is kept. -/
def name : Reader Tree := do
  match ← next with
  | .word t => if isFreeWord t then do pass; return .name t.compatible else refuse
  | _ => refuse

/-- The number of brackets open behind the token passed last. -/
def depth : Reader Nat := fun source progress =>
  (.read ((source.tokens[progress.place - 1]?).elim 0 Placed.depth), progress)

/-- The result of a rule, kept. -/
def kept (rule : Rule) (reader : Reader Tree) : Reader Tree := fun source progress =>
  match progress.results[(rule, progress.place)]? with
  | some (some (tree, place)) => (.read tree, { progress with place })
  | some none => (.refused, progress)
  | none =>
      let keep (after : Progress) (result : Option (Tree × Nat)) : Progress :=
        { after with results := after.results.insert (rule, progress.place) result }
      match reader source progress with
      | (.read tree, after) => (.read tree, keep after (some (tree, after.place)))
      | (.refused, after) => (.refused, keep after none)
      | (.broken fault, after) => (.broken fault, after)

end Reader

end EntityForge.Expression
