import BenchRelay.Failure
import BenchRelay.Shell.Arithmetic
import BenchRelay.Shell.Channel
import BenchRelay.Shell.CommandReader
import BenchRelay.Shell.Glob

/-!
# The state of a shell

A shell has a memory of its own, with its parameters, variables, functions and options, which a
subshell gets a copy of. The world is what all of them share: the files, what is open and what was
written, the time, the commands that were started and not waited for. An action changes both, and
ends with a value or with a stop.
-/

namespace BenchRelay.Shell

/-- A variable. -/
structure Variable where
  /-- Its value; a variable without one may still be exported or read-only. -/
  value? : Option Text
  /-- Whether programs see it. -/
  exported : Bool := false
  readOnly : Bool := false
  /-- Whether it is kept when it loses its value. -/
  kept : Bool := false
  deriving Repr

/-- What a variable was before a function or a command changed it for itself. -/
structure Saved where
  name : Text
  entry? : Option Variable

/-- What is to be given back at the end of a function or a command. -/
structure Scope where
  saved : List Saved := []
  /-- The options, if they are to be given back too. -/
  options? : Option (List Char) := none

/-- What the commands ahead are skipped for. -/
inductive Skip where
  | nothing
  /-- To leave so many loops. -/
  | leave (loops : Nat)
  /-- To begin the next round of a loop, so many further out. -/
  | again (loops : Nat)
  /-- To leave a function or a script with an exit code that was given. -/
  | returning
  /-- To leave it with the exit code of the last command. -/
  | returningLast
  deriving Repr, DecidableEq

/-- A command that goes on beside the shell. -/
structure JobRecord where
  /-- The number that the shell gives it. -/
  number : Nat
  process : Nat
  /-- Whether its end was asked for. -/
  waited : Bool := false
  deriving Repr

/-- A program that was looked for and found. -/
structure Tracked where
  name : Text
  path : Text
  /-- Whether the shell was in another directory then. -/
  isStale : Bool := false
  deriving Repr

/-- What a shell knows for itself. -/
structure Memory where
  /-- The name that the shell goes by. -/
  name : Text
  /-- The positional parameters. -/
  positional : List Text := []
  /-- The variables by their names. -/
  entries : List (Text × Variable) := []
  functions : List (Text × Nat × Command) := []
  /-- What functions and commands at hand will give back, the innermost first. -/
  scopes : List Scope := []
  /-- The letters of the options that are set. -/
  options : List Char := []
  /-- Scripts to run at signals, and at the end under the number 0; an empty one ignores a
  signal. -/
  traps : List (Nat × Text) := []
  /-- The signals that were ignored from the beginning. -/
  ignored : List Nat := []
  /-- Signals that came and whose scripts did not run yet. -/
  arrived : List Nat := []
  /-- The exit code of the last command. -/
  status : Nat := 0
  /-- The exit code of the last command substitution in the command at hand. -/
  substituted : Nat := 0
  /-- The exit code to end with where a script that runs at the end gives no other one. -/
  kept? : Option Nat := none
  skip : Skip := .nothing
  /-- How many loops the command at hand is in. -/
  loops : Nat := 0
  /-- How many functions the command at hand is in. -/
  depth : Nat := 0
  /-- The number of the line that messages name. -/
  line : Nat := 0
  /-- The command that messages name. -/
  speaker? : Option Text := none
  /-- The working directory, and the path by which the shell came there. -/
  directory : Place
  path : Text := []
  aliases : List (Text × Text) := []
  /-- The texts within the scripts that were read, and the number of the next one. -/
  hereTexts : List (Nat × Word) := []
  nextText : Nat := 0
  /-- Where reading options of a script goes on: the word, and how many letters of it are done. -/
  optionWord : Nat := 1
  optionLetters? : Option Nat := none
  /-- The permissions that new files do not get. -/
  mask : Nat := 18
  descriptors : Descriptors := []
  /-- What was printed and not passed on yet, the last piece first. -/
  buffer : List Text := []
  /-- Why something that was printed could not be passed on. -/
  outputError? : Option ChannelError := none
  process : Nat := 0
  /-- The process that the shell itself takes for its own. -/
  mainProcess : Nat := 0
  /-- The processes that this one is a copy of, the last one first. -/
  ancestors : List Nat := []
  /-- The process of the last command that was not waited for. -/
  lastJob? : Option Nat := none
  jobs : List JobRecord := []
  /-- The programs that were looked for and found. -/
  tracked : List Tracked := []
  /-- Whether what is expanded is to stand in front of a traced command. -/
  isTracing : Bool := false

/-- What it means for a command where it stands. -/
structure Position where
  /-- Whether the shell has nothing to do behind it. -/
  isLast : Bool := false
  /-- Whether its failure is looked at, and so does not end the shell. -/
  isTested : Bool := false
  deriving Repr

/-- A command that was started and has not run yet. -/
structure Job where
  process : Nat
  memory : Memory
  body : Command
  position : Position
  /-- When it was started. -/
  time : Nat

/-- A signal that was sent to a process. -/
structure Sent where
  process : Nat
  signal : Nat
  time : Nat

/-- What all shells and programs share. -/
structure World where
  files : Files
  openFiles : Array OpenFile := #[]
  pipes : Array Pipe := #[]
  /-- The time in thousandths of a second. -/
  time : Nat := 0
  jobs : List Job := []
  /-- How the jobs that ran ended, and when. -/
  ended : List (Nat × ExitStatus × Nat) := []
  sent : List Sent := []
  /-- The number of the next process. -/
  nextProcess : Nat
  /-- How many rounds of loops and pieces of output there may still be. -/
  budget : Nat

/-- A shell and the world around it. -/
structure State where
  memory : Memory
  world : World

/-- Why an action does not go on. -/
inductive Stop where
  /-- An error; the message was printed. -/
  | error
  /-- The shell ends as a command says. -/
  | exit
  /-- The shell ends as it has nothing left to do, or must not go on. -/
  | finish
  /-- The process is gone, with nothing more to do for the shell. -/
  | gone (status : ExitStatus)
  deriving Repr, DecidableEq

/-- Something that a shell or a program does. -/
abbrev Action (α : Type) := EStateM Stop State α

/-- How to run a command, with its exit code for a value. -/
abbrev Evaluator := Command → Position → Action Nat

namespace Action

/-- Look something up in the memory. -/
def fromMemory {α : Type} (look : Memory → α) : Action α := return look (← get).memory

/-- Change the memory. -/
def change (alter : Memory → Memory) : Action Unit :=
  modify fun state => { state with memory := alter state.memory }

/-- Look something up in the world. -/
def observe {α : Type} (look : World → α) : Action α := return look (← get).world

/-- Change the world. -/
def changeWorld (alter : World → World) : Action Unit :=
  modify fun state => { state with world := alter state.world }

/-- The files, seen from the working directory. -/
def files : Action Files := do
  let directory ← fromMemory Memory.directory
  return { (← observe World.files) with workingDirectory := directory }

/-- Spend some of what there may still be; behind that the process is gone. -/
def spend : Action Unit := do
  let budget ← observe World.budget
  if budget = 0 then throw (.gone (.signal 9))
  changeWorld fun world => { world with budget := world.budget - 1 }

/-- Do something, and something else behind it in any case. -/
def ensuring {α : Type} (body : Action α) (behind : Action Unit) : Action α := do
  let value ← try body catch stop => do
    behind
    throw stop
  behind
  return value

/-- Whether an option is set. -/
def isSet (letter : Char) : Action Bool := fromMemory fun memory => memory.options.contains letter

end Action

end BenchRelay.Shell
