import BenchRelay.Files.Program
import BenchRelay.Shell.Process

/-!
# Looking for commands

A command is named by a path or by a name alone. A name alone is that of a command of the shell that
comes before all others, of a function, of any other command of the shell, or of a program, which is
looked for in the directories of a search path. Programs that were found are remembered until the
path changes.
-/

namespace BenchRelay.Shell

/-- What a name stands for. -/
inductive Found where
  /-- A command of the shell. -/
  | builtin (name : Text)
  | function (line : Nat) (body : Command)
  /-- A program at a path, if anything is there. -/
  | program (path : Text)
  /-- Nothing, for a reason. -/
  | nothing (error : OpenError)

/-- The commands of the shell that come behind functions; those that come before them are the
special ones. -/
def plainBuiltins : List String :=
  ["[", "alias", "bg", "cd", "chdir", "command", "echo", "false", "fg", "getopts", "hash", "jobs",
    "kill", "printf", "pwd", "read", "test", "true", "type", "ulimit", "umask", "unalias", "wait"]

/-- Whether a text is the name of a command of the shell. -/
def isBuiltin (name : Text) : Bool :=
  isSpecialBuiltin name || plainBuiltins.contains (String.ofList name)

/-- Whether a command of the shell takes assignments. -/
def takesAssignments (name : Text) : Bool :=
  ["export", "readonly", "local"].contains (String.ofList name)

/-- The wording of why a command is not found or not run. -/
def OpenError.commandMessage : OpenError → Text
  | .missing | .notDirectory => "not found"
  | error => error.message

/-- The error of a program that is not run. -/
def OpenError.ofRefusal : Refusal → OpenError
  | .missing | .holdsNul => .missing
  | .notDirectory => .notDirectory
  | .tooLong | .argumentTooLong => .tooLong
  | .denied => .denied

/-- The exit code of a command that is not run. -/
def OpenError.commandStatus : OpenError → Nat
  | .missing | .notDirectory | .tooLong => 127
  | _ => 126

/-- Where programs are looked for if nothing else is said. -/
def standardPath : Text :=
  "/usr/local/sbin:/usr/local/bin:/usr/sbin:/usr/bin:/sbin:/bin".toList

/-- The first path of a program of a name in some directories, or why there is none, given what was
found before. -/
def searchPaths (files : Files) (name : Text) (error : OpenError) :
    List Text → Except OpenError Text
  | [] => .error error
  | directory :: directories =>
    let path := Files.join directory name
    match files.find? (toText path) with
    | some (.program _) => .ok path
    | some _ => searchPaths files name .denied directories
    | none => searchPaths files name error directories

namespace Action

/-- Look for a program in the directories of a search path. -/
def searchProgram (path? : Option Text) (name : Text) : Action (Except OpenError Text) := do
  let path ← match path? with
    | some path => pure path
    | none => fromMemory fun memory => memory.searchPath?.getD []
  return searchPaths (← files) name .missing (path.splitOn ':')

/-- Remember where a program was found. -/
def track (name path : Text) : Action Unit :=
  change fun memory =>
    { memory with tracked := memory.tracked.filter (·.name ≠ name) ++ [{ name, path }] }

/-- The path of a program that was found before. -/
def tracked? (name : Text) : Action (Option Tracked) :=
  fromMemory fun memory => memory.tracked.find? (·.name = name)

/-- Look for a program that may have been found before, unless another search path is given. -/
def trackedProgram (path? : Option Text) (name : Text) : Action (Except OpenError Text) := do
  let known? ← tracked? name
  match known?.filter fun known => path?.isNone && !known.isStale with
  | some known => return .ok known.path
  | none =>
    let found ← searchProgram path? name
    match found with
    | .ok path => if path?.isNone then track name path
    | .error _ => pure ()
    return found

/-- What a name stands for if no program is looked for; functions may be passed over. -/
def findInShell (passesFunctions : Bool) (name : Text) : Action (Option Found) := do
  if name.contains '/' then return some (.program name)
  if isSpecialBuiltin name then return some (.builtin name)
  let functions ← fromMemory Memory.functions
  match if passesFunctions then none else functions.lookup name with
  | some (line, body) => return some (.function line body)
  | none => return if isBuiltin name then some (.builtin name) else none

/-- What a name stands for; functions may be passed over. -/
def find (passesFunctions : Bool) (path? : Option Text) (name : Text) : Action Found := do
  match ← findInShell passesFunctions name with
  | some found => return found
  | none =>
    match ← trackedProgram path? name with
    | .ok path => return .program path
    | .error error => return .nothing error

/-- The program that a path leads to. -/
def programAt (path : Text) : Action (Except OpenError Text) := do
  match (← files).programAt (toText path) with
  | .ok name => return .ok name
  | .error refusal => return .error (.ofRefusal refusal)

end Action

end BenchRelay.Shell
