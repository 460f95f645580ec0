import BenchRelay.Shell.Builtin.Options
import BenchRelay.Shell.Format

/-!
# Commands that print

Printing arguments, and laying them out by a format.
-/

namespace BenchRelay.Shell.Builtin

open Shell.Action

/-- Print arguments with blanks between them. -/
def echo (arguments : List Text) : Action Nat := do
  print (echoText arguments)
  return 0

/-- Print arguments by a format. -/
def printf (arguments : List Text) : Action Nat := do
  match ← noOptions arguments with
  | [] => raise "usage: printf format [arg ...]".toList
  | format :: arguments =>
    let result := Format.result .shell format arguments
    result.complaints.forM complain
    print result.text
    match result.flaw? with
    | some flaw => raise flaw
    | none => return if result.succeeded then 0 else 1

end BenchRelay.Shell.Builtin
