import BenchRelay.Files.Program
import BenchRelay.Payload.Command
import BenchRelay.Shell.Run

/-!
# Starting commands

A command starts in a tree of files, where the program is found and works, and which it leaves
behind. The child gets the variables of the worker and over them those of the command. The working
directory is looked at first, then the texts that the child would be given, then the program. Room
for its output is made when it runs.
-/

namespace BenchRelay

/-- What commands work on. -/
structure Machine where
  files : Files
  /-- What each run so far printed as errors, the oldest first. -/
  errors : List Bytes := []

namespace Command

/-- Whether a text that the child would be given holds U+0000. -/
def holdsNul (command : Command) : Bool :=
  let texts := command.program :: command.args ++
    command.environment.flatMap fun (name, value) => [name, value]
  texts.any (·.contains '\x00')

/-- How many bytes a text that a child is given has at most. -/
def argumentLimit : Nat := 131071

/-- Whether a text that the child would be given is too long. -/
def isTooLong (command : Command) : Bool :=
  let texts := command.program :: command.args ++
    command.environment.map fun (name, value) => name ++ '=' :: value
  texts.any (·.utf8.length > argumentLimit)

/-- The variables that the child sees. -/
def childEnvironment (inherited : Environment) (command : Command) : Environment :=
  command.environment.foldl (fun environment pair => environment.set pair.1 pair.2) inherited

/-- The files as the child sees them, or the working directory that is none. -/
def enter (command : Command) (files : Files) : Except Text Files :=
  match command.directory with
  | none => .ok files
  | some directory =>
    match files.resolve directory with
    | .error _ => .error directory
    | .ok place =>
      if files.isDirectoryAt place then .ok { files with workingDirectory := place }
      else .error directory

/-- The program to run. -/
def findProgram (inherited : Environment) (command : Command) (files : Files) :
    Except Refusal Text :=
  if command.holdsNul then .error .holdsNul
  else
    let searchPath := (command.childEnvironment inherited).get? "PATH"
    match files.findProgram searchPath command.program with
    | .ok program => if command.isTooLong then .error .argumentTooLong else .ok program
    | .error refusal => .error refusal

/-- Output in pieces of a size, the last one shorter if need be. No read brings anything where no
bytes are asked for. -/
def readsOf (size : Nat) (output : Bytes) : List Delivery :=
  if h : size = 0 ∨ output = [] then []
  else
    have : (output.drop size).length < output.length := by
      have := List.length_pos_iff.mpr (not_or.mp h).2
      simp only [List.length_drop]
      omega
    .bytes (output.take size) :: readsOf size (output.drop size)
termination_by output.length

/-- A variable as the child sees it: its name ends at the first equals sign. -/
def entry (name value : Text) : Text × Text :=
  match name.dropWhile (· ≠ '=') with
  | [] => (name, value)
  | _ :: rest => (name.takeWhile (· ≠ '='), rest ++ '=' :: value)

/-- Run a program that was found to its end. -/
def execute (inherited : Environment) (command : Command) (files : Files) (program : Text) :
    Shell.Completion :=
  let environment := (command.childEnvironment inherited).map fun (name, value) =>
    let (name, value) := entry name value
    (Shell.ofText name, Shell.ofText value)
  Shell.execute environment files program (Shell.ofText command.program)
    (command.args.map Shell.ofText)

/-- How many bytes there is never room for at once. -/
def roomLimit : Nat := Nat.pow 2 47

/-- How starting a program that was found comes out. -/
def started (command : Command) (completion : Shell.Completion) : Launch :=
  if roomLimit ≤ command.readChunkBytes then .noRoom command.readChunkBytes
  else .started ⟨readsOf command.readChunkBytes completion.output, completion.status⟩

/-- Start the command on a machine. -/
def launch (inherited : Environment) (command : Command) (machine : Machine) : Launch × Machine :=
  let quiet : Machine := { machine with errors := machine.errors ++ [[]] }
  match command.enter machine.files with
  | .error directory => (.missingDirectory directory, quiet)
  | .ok there =>
    match command.findProgram inherited there with
    | .error refusal => (.refused refusal.message, quiet)
    | .ok program =>
      let completion := command.execute inherited there program
      (command.started completion,
        { files := { machine.files with nodes := completion.files.nodes }
          errors := machine.errors ++ [completion.errors] })

/-- A command as a benchmark, whose memory is the machine. -/
def payload (inherited : Environment) (command : Command) : Payload Machine :=
  Child.payload command.program (command.launch inherited)

end Command

end BenchRelay
