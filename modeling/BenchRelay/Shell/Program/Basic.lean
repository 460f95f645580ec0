import BenchRelay.Shell.Stream

/-!
# Programs

A program sees its arguments, its environment and the name that it was called by, reads its input
and files and prints. What it prints goes out when it ends or tells of an error.
-/

namespace BenchRelay.Shell

/-- How a program was called. -/
structure Invocation where
  name : Text
  arguments : List Text
  environment : List (Text × Text)

/-- A program, with its exit code for a value. -/
abbrev Program := Invocation → Action Nat

namespace Program

open Shell.Action

/-- Tell of an error, behind what was printed so far. -/
def complain (call : Invocation) (wording : Text) : Action Unit := do
  flush
  tell (call.name ++ ": ".toList ++ wording ++ ['\n'])

/-- Tell of an error and fail. -/
def fail (call : Invocation) (wording : Text) : Action Nat := do
  complain call wording
  return 1

/-- Tell of arguments that are wrong, and fail. -/
def refuse (call : Invocation) (wording : Text) : Action Nat := do
  complain call wording
  tell ("Try '".toList ++ call.name ++ " --help' for more information.\n".toList)
  return 1

/-- Pass on what was printed at the end of a program; if that fails, so does the program. -/
def close (call : Invocation) (status : Nat) : Action Nat := do
  flush
  match ← fromMemory Memory.outputError? with
  | some error =>
    complain call ("write error: ".toList ++ error.message)
    return 1
  | none => return status

/-- The content of a file, or of the input by the name of a dash. -/
def content (path : Text) : Action (Except Text Text) := do
  if path = ['-'] then
    match ← readAll 0 with
    | .ok text => return .ok text
    | .error error => return .error error.message
  else
    match ← contentOf path with
    | .ok text => return .ok text
    | .error error => return .error error.message

/-- The contents of files, or of the input if there are none, one after the other; those that cannot
be read are told of in a wording of the program's own, and the exit code is 1 if there are any. -/
def contents (call : Invocation) (wording : Text → Text) (paths : List Text) :
    Action (List (Text × Text) × Nat) := do
  let mut read := []
  let mut status := 0
  for path in if paths.isEmpty then [['-']] else paths do
    match ← content path with
    | .ok text => read := (path, text) :: read
    | .error reason =>
      complain call (wording path ++ ": ".toList ++ reason)
      status := 1
  return (read.reverse, status)

end Program

end BenchRelay.Shell
