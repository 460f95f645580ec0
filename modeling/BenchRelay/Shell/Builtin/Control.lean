import BenchRelay.Shell.Builtin.Jobs
import BenchRelay.Shell.Builtin.Limits
import BenchRelay.Shell.Builtin.Names
import BenchRelay.Shell.Builtin.Printing
import BenchRelay.Shell.Builtin.Condition
import BenchRelay.Shell.Execute

/-!
# Commands of the shell

The commands that change how a script goes on, and the table of all commands that a shell has by
itself.
-/

namespace BenchRelay.Shell.Builtin

open Shell.Action

/-- Leave loops, or begin their next rounds. -/
def leaveLoops (skip : Nat → Skip) (arguments : List Text) : Action Nat := do
  let n ← match arguments with
    | [] => pure 1
    | argument :: _ => do
      let n ← count argument
      if n = 0 then raiseIllegalNumber argument
      pure n
  let loops ← fromMemory Memory.loops
  if 0 < loops then change fun memory => { memory with skip := skip (min n loops) }
  return 0

/-- Leave a function or a script. -/
def «return» (arguments : List Text) : Action Nat := do
  match arguments with
  | [] =>
    change fun memory => { memory with skip := .returningLast }
    fromMemory Memory.status
  | argument :: _ =>
    let n ← count argument
    change fun memory => { memory with skip := .returning }
    return n

/-- Leave the shell. -/
def exit (arguments : List Text) : Action Nat := do
  match arguments with
  | [] => throw .exit
  | argument :: _ =>
    let n ← count argument
    change fun memory => { memory with kept? := some n }
    throw .exit

/-- Run a text as a script. -/
def eval (run : Evaluator) (isTested : Bool) (arguments : List Text) : Action Nat :=
  if arguments.isEmpty then return 0
  else runText run (Text.join [' '] arguments) { isTested }

/-- The path of a script, which is looked for if it is a name alone. -/
def scriptPath (name : Text) : Action Text := do
  if name.contains '/' then return name
  let files ← files
  let directories := ((← fromMemory Memory.searchPath?).getD []).splitOn ':'
  let paths := directories.map fun directory => Files.join directory name
  let isScript (path : Text) : Bool :=
    match files.find? (toText path) with
    | some (.file _) => true
    | some (.program _) => true
    | _ => false
  match paths.find? isScript with
  | some path => return path
  | none => raise (name ++ ": not found".toList)

/-- Run a script of a file. -/
def dot (run : Evaluator) (arguments : List Text) : Action Nat := do
  match ← noOptions arguments with
  | [] => return 0
  | name :: _ =>
    let path ← scriptPath name
    let text ← match ← contentOf path with
      | .ok text => pure text
      | .error .isDirectory => pure []
      | .error error =>
        raise ("cannot open ".toList ++ path ++ ": ".toList ++ error.shellMessage false)
    change fun memory => { memory with speaker? := some path }
    let status ← runText run text {}
    change fun memory =>
      match memory.skip with
      | .returning | .returningLast => { memory with skip := .nothing }
      | _ => memory
    return status

/-- Let a program take the place of the shell. -/
def exec (run : Evaluator) (arguments : List Text) : Action Nat := do
  match ← noOptions arguments with
  | [] => return 0
  | words => execute run none words

/-- Judge a condition, in brackets or not. -/
def test (isBracket : Bool) (arguments : List Text) : Action Nat := do
  if isBracket && arguments.getLast? ≠ some [']'] then raise "missing ]".toList
  let words := if isBracket then arguments.dropLast else arguments
  match Condition.judge (← files) words with
  | .ok holds => return if holds then 0 else 1
  | .error flaw => raise flaw.message

/-- Say what a name stands for, where a command is not to be run. -/
def command (arguments : List Text) : Action Nat := do
  let chosen ← options "pvV" arguments
  match chosen.arguments with
  | name :: _ =>
    let path? := if chosen.has 'p' then some standardPath else none
    if chosen.has 'V' then describe true path? name
    else if chosen.has 'v' then describe false path? name
    else return 0
  | [] => return 0

/-- Run a command of the shell by its name. -/
def run (run : Evaluator) (isTested : Bool) (name : Text) (arguments : List Text) : Action Nat :=
  match String.ofList name with
  | "." => dot run arguments
  | ":" | "true" => return 0
  | "false" => return 1
  | "[" => test true arguments
  | "alias" => «alias» arguments
  | "bg" | "fg" => resume arguments
  | "break" => leaveLoops Skip.leave arguments
  | "cd" | "chdir" => cd arguments
  | "command" => command arguments
  | "continue" => leaveLoops Skip.again arguments
  | "echo" => echo arguments
  | "eval" => eval run isTested arguments
  | "exec" => exec run arguments
  | "exit" => exit arguments
  | "export" => «export» arguments
  | "getopts" => getopts arguments
  | "hash" => hash arguments
  | "jobs" => jobs arguments
  | "kill" => kill arguments
  | "local" => «local» arguments
  | "printf" => printf arguments
  | "pwd" => pwd arguments
  | "read" => read arguments
  | "readonly" => readonly arguments
  | "return" => «return» arguments
  | "set" => Builtin.set arguments
  | "shift" => shift arguments
  | "test" => test false arguments
  | "times" => times
  | "trap" => trap arguments
  | "type" => type arguments
  | "ulimit" => ulimit arguments
  | "umask" => umask arguments
  | "unalias" => unalias arguments
  | "unset" => unset arguments
  | "wait" => wait run arguments
  | _ => return 127

end BenchRelay.Shell.Builtin
