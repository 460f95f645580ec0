import BenchRelay.Shell.Builtin.Directory
import BenchRelay.Shell.Builtin.Variables
import BenchRelay.Shell.Program.Small
import BenchRelay.Shell.Script
import BenchRelay.Shell.Search

/-!
# Running programs

A program takes the place of the process that runs it: what the shell knew is gone, but for its open
files, its working directory and the signals that it ignored. The shell is a program too; its
arguments say whether its script is an argument, a file or its input.
-/

namespace BenchRelay.Shell

/-- The variables that a shell begins with, whatever it is given. -/
def firstVariables : List (Text × Variable) :=
  let kept (name value : String) : Text × Variable :=
    (name.toList, { value? := some value.toList, kept := true })
  [kept "PATH" (String.ofList standardPath), kept "PS1" "# ", kept "PS2" "> ", kept "PS4" "+ "]

/-- The variables of a shell in an environment: those with names, and some that it sets itself. -/
def variablesIn (environment : List (Text × Text)) (parent : Nat) : List (Text × Variable) :=
  let put (entries : List (Text × Variable)) (name value : Text) (marking : Marking) :
      List (Text × Variable) :=
    let old? := entries.lookup name
    let old : Variable := old?.getD { value? := none }
    Memory.putVariable name
      { value? := some value
        exported := old.exported || marking.exported
        kept := old.kept || marking.kept }
      entries
  let given := (environment.filter fun pair => isName pair.1).foldl
    (fun entries (name, value) => put entries name value { exported := true }) firstVariables
  let separated := put given "IFS".toList defaultSeparators { kept := true }
  let counted := put separated "OPTIND".toList ['1'] { kept := true }
  put counted "PPID".toList (Text.decimal parent) {}

/-- The memory of a shell that takes the place of a process. -/
def shellMemory (call : Invocation) (files : Files) (memory : Memory) : Memory :=
  let entries := variablesIn call.environment (memory.ancestors.head?.getD 1)
  let path := Builtin.startPath files (call.environment.lookup "PWD".toList)
  let ignored := (memory.traps.filter (·.2.isEmpty)).map Prod.fst
  { name := call.name
    entries := Memory.putVariable "PWD".toList { value? := some path, exported := true } entries
    ignored := ignored ++ memory.ignored
    directory := memory.directory
    path
    mask := memory.mask
    descriptors := memory.descriptors
    process := memory.process
    mainProcess := memory.process
    ancestors := memory.ancestors }

/-- What the arguments of a shell say: whether the script is an argument, and what is left. -/
structure ShellCall where
  hasScript : Bool := false
  arguments : List Text

namespace Action

/-- Set the options of letters at the start of a shell: whether the script is an argument. -/
def startLetters (isOn : Bool) : (letters : Text) → List Text → Action (Bool × List Text)
  | [], arguments => return (false, arguments)
  | 'c' :: letters, arguments => do
    return (true, (← startLetters isOn letters arguments).2)
  | 'l' :: letters, arguments => startLetters isOn letters arguments
  | letter :: letters, arguments => do
    let arguments ← Builtin.setLetters isOn [letter] arguments
    startLetters isOn letters arguments

/-- Set options at the start of a shell. -/
def startOptions : (fuel : Nat) → ShellCall → Action ShellCall
  | 0, call => return call
  | fuel + 1, call => do
    match call.arguments with
    | ['-'] :: arguments | ['-', '-'] :: arguments => return { call with arguments }
    | (sign :: letters) :: rest =>
      if sign = '-' || sign = '+' then
        let (hasScript, arguments) ← startLetters (sign = '-') letters rest
        startOptions fuel { hasScript := hasScript || call.hasScript, arguments }
      else return call
    | _ => return call

/-- Run the script that the arguments of a shell say. -/
def runArguments (run : Evaluator) (arguments : List Text) : Action Unit := do
  let call ← startOptions (arguments.length + 1) { arguments }
  let readsInput ← isSet 's'
  match call.hasScript, call.arguments with
  | true, [] => raise "-c requires an argument".toList
  | true, script :: rest =>
    match rest with
    | name :: positional => change fun memory => { memory with name, positional }
    | [] => pure ()
    let _ ← runText run script { isLast := !readsInput }
    if readsInput then runInput
  | false, [] => runInput
  | false, file :: positional =>
    if readsInput then
      change fun memory => { memory with positional := call.arguments }
      runInput
    else
      match ← openPath file .read with
      | .error error =>
        raise ("cannot open ".toList ++ file ++ ": ".toList ++ error.shellMessage false)
      | .ok number =>
        change fun memory => { memory with name := file, positional }
        let former ← fromMemory fun memory => memory.descriptors
        lead 0 number
        let text ← readAll 0
        change fun memory => { memory with descriptors := former }
        let _ ← runText run (text.toOption.getD []) {}
where
  /-- Run the script that is the input. -/
  runInput : Action Unit := do
    let text ← readAll 0
    let _ ← runText run (text.toOption.getD []) {}

/-- Run a shell in the place of a process. -/
def runShell (run : Evaluator) (call : Invocation) : Action ExitStatus := do
  let files ← files
  change (shellMemory call files)
  leaving run (runArguments run call.arguments)

/-- Let a program take the place of a process. -/
def replace (program : Program) (call : Invocation) : Action ExitStatus := do
  change fun memory =>
    { memory with
      traps := memory.traps.filter (·.2.isEmpty)
      buffer := []
      outputError? := none }
  return .code (← program call)

/-- Wait for a while. -/
def sleep (run : Evaluator) : Program := fun call => do
  match call.arguments.mapM Program.duration? with
  | none => Program.refuse call "invalid time interval".toList
  | some [] => Program.refuse call "missing operand".toList
  | some durations =>
    pass run (durations.foldr (· + ·) 0)
    return 0

/-- The programs that are no shell, by their names. -/
def programs (run : Evaluator) : List (String × Program) :=
  [("true", fun _ => return 0), ("false", fun _ => return 1), ("echo", Program.echo),
    ("printf", Program.printf), ("cat", Program.cat), ("pwd", Program.pwd),
    ("head", Program.head), ("tail", Program.tail), ("tr", Program.tr), ("seq", Program.seq),
    ("sleep", sleep run), ("yes", Program.yes), ("wc", Program.wc),
    ("printenv", Program.printenv), ("basename", Program.basename),
    ("dirname", Program.dirname), ("test", Program.test), ("[", Program.test)]

/-- What a program is told to change of its environment before another one takes its place. -/
structure Changed where
  environment : List (Text × Text)
  arguments : List Text

/-- Read the changes of an environment. -/
def changes : Changed → Changed
  | { environment, arguments } =>
    let rec go (environment : List (Text × Text)) : List Text → Changed
      | [] => { environment, arguments := [] }
      | argument :: arguments =>
        if argument = ['-', 'i'] || argument = ['-'] then go [] arguments
        else match assigned? argument with
          | some (name, value) =>
            go ((environment.filter (·.1 ≠ name)) ++ [(name, value)]) arguments
          | none =>
            match argument, arguments with
            | ['-', 'u'], name :: arguments => go (environment.filter (·.1 ≠ name)) arguments
            | ['-', '-'], arguments => go environment arguments
            | _, arguments => { environment, arguments := argument :: arguments }
    go environment arguments
where
  /-- A name and a value with an equals sign between them. -/
  assigned? (argument : Text) : Option (Text × Text) :=
    match argument.dropWhile (· ≠ '=') with
    | _ :: value => some (argument.takeWhile (· ≠ '='), value)
    | [] => none

mutual

/-- Let the program of a name take the place of a process. -/
def runProgram (run : Evaluator) : (fuel : Nat) → (name : Text) → Invocation → Action ExitStatus
  | 0, _, _ => return .code 126
  | fuel + 1, name, call =>
    if name = "sh".toList then runShell run call
    else if name = "env".toList then runChanged run fuel call
    else
      match (programs run).lookup (String.ofList name) with
      | some program => replace program call
      | none => return .code 127

/-- Print an environment with some changes, or let a program that gets it take the place. -/
def runChanged (run : Evaluator) : (fuel : Nat) → Invocation → Action ExitStatus
  | 0, _ => return .code 126
  | fuel + 1, call => do
    let changed := changes { environment := call.environment, arguments := call.arguments }
    let environment := changed.environment
    match changed.arguments with
    | [] => replace Program.printenv { call with arguments := [], environment }
    | name :: arguments =>
      let searchPath? := (environment.lookup "PATH".toList).map toText
      match (← files).findProgram searchPath? (toText name) with
      | .ok program => runProgram run fuel program { name, arguments, environment }
      | .error refusal =>
        let error := OpenError.ofRefusal refusal
        Program.complain call ('\'' :: name ++ "': ".toList ++ error.message)
        return .code error.commandStatus

end

/-- How many programs may take the place of each other. -/
def programLimit : Nat := 1000

/-- Let the program that the first of some words names take the place of the shell, looked for in a
search path if one is given. -/
def execute {α : Type} (run : Evaluator) (path? : Option Text) (words : List Text) :
    Action α := do
  let name := words.head?.getD []
  let environment ← fromMemory Memory.environment
  let found ←
    if name.contains '/' then programAt name
    else do
      match ← searchProgram path? name with
      | .ok path => programAt path
      | .error error => pure (.error error)
  match found with
  | .ok program =>
    flush
    throw (.gone (← runProgram run programLimit program
      { name, arguments := words.tail, environment }))
  | .error error =>
    setStatus error.commandStatus
    complain (name ++ ": ".toList ++ error.commandMessage)
    throw .finish

end Action

end BenchRelay.Shell
