import BenchRelay.Worker

/-!
# The program

Finds out what a worker is started with, lets it work, and passes on what it prints and logs. The
worker runs its command among its own programs and sees of the real files only those that its
configuration and its command name.
-/

namespace BenchRelay.Console

/-- The variables that a worker looks at or hands on to its command. -/
def variableNames : List String :=
  ["BENCHWORKER_LOG", "HOME", "LANG", "PATH", "RUST_LOG", "XDG_CONFIG_HOME"]

/-- The environment of the program. -/
def readEnvironment : IO Environment := do
  let pairs ← variableNames.filterMapM fun name => do
    return (← IO.getEnv name).map fun value => (name.toList, value.toList)
  return Environment.ofList pairs

/-- What stands at a path, if anything can be seen there. -/
def look (path : Text) : IO (Option FileNode) := do
  try
    return some (.file (← IO.FS.readBinFile (String.ofList path)).toList)
  catch
    | .inappropriateType .. => return some .directory
    | _ => return none

/-- Take over what stands at some paths. -/
def lookAll (files : Files) (paths : List Text) : IO Files :=
  paths.foldlM (fun files path => do
    if path.isEmpty || (files.find? path).isSome then return files
    match ← look path with
    | none => return files
    | some node =>
      let place := Files.placeOf files.workingDirectory path
      return { files with nodes := (place, node) :: files.nodes })
    files

/-- The paths that a command names. -/
def pathsOf (command : Command) : List Text :=
  let named := command.program :: command.args
  match command.directory with
  | none => named
  | some directory => directory :: named.map (Files.join directory)

/-- Files with nothing but what every system has, and the working directory. -/
def readFiles : IO Files := do
  let here := Files.placeOf [] (toString (← IO.currentDir)).toList
  return { nodes := (here, .directory) :: Files.system Shell.programs, workingDirectory := here }

/-- What the worker is started with, as far as its configuration goes. -/
def readStartup (arguments : List String) : IO Startup := do
  let environment ← readEnvironment
  let parents := (environment.get? "BENCHWORKER_LOG").toList.map fun path =>
    (Files.splitLast path).1
  let stamp := "." ++ toString (← IO.monoMsNow) ++ "." ++ toString (← IO.rand 1 99999)
  return {
    arguments := ("benchworker" :: arguments).map String.toList
    environment
    files := ← lookAll (← readFiles) parents
    stamp := stamp.toList }

/-- Pass on what shows on the console. -/
def passNotice : Log.Notice → IO Unit
  | .line text => do (← IO.getStderr).putStrLn (String.ofList text)
  | .errors printed => do (← IO.getStderr).write ⟨printed.toArray⟩

/-- Pass on the log, and what the runs in it printed as errors. -/
def passLog (journal : Log.Journal) (log : List Event) (errors : List Bytes) : IO Unit := do
  for notice in journal.notices log errors do passNotice notice
  match journal.file? log with
  | none => return
  | some (place, lines) =>
    let handle ← IO.FS.Handle.mk (String.ofList (Files.pathOf place)) .append
    for line in lines do handle.putStrLn (String.ofList line)

/-- Pass on what was printed. -/
def passOutput (output : Bytes) : IO Unit := do
  let out ← IO.getStdout
  out.write ⟨output.toArray⟩
  out.flush

/-- How much of a job was passed on. -/
structure Passed where
  bytes : Nat := 0
  runs : Nat := 0

/-- Pass on what a job did behind what was passed on before. -/
def passServed (journal : Log.Journal) (passed : Passed) (served : Served Worker.Job) :
    IO Passed := do
  let errors := served.after.memory.errors
  let output := served.after.relay.sink.written
  passLog journal served.log (errors.drop passed.runs)
  passOutput (output.drop passed.bytes)
  return { bytes := output.length, runs := errors.length }

/-- End in the way of an exit status. -/
def leave : ExitStatus → UInt32
  | .code n => n.toUInt32
  | .signal n => (128 + n).toUInt32

/-- Report a failure. -/
def fail (error : WorkerError) : IO UInt32 := do
  for complaint in error.complaint?.toList do passNotice (.line complaint)
  return leave error.status

/-- Serve the rest of the input behind an unfinished frame. -/
partial def serveFrom (journal : Log.Journal) (passed : Passed) (job : Worker.Job) (runs : Nat)
    (rest : Bytes) : IO UInt32 := do
  let chunk := (← (← IO.getStdin).read 8192).toList
  let lines := (Lines.split Frames.terminator chunk).after rest
  let served :=
    if chunk.isEmpty then Frames.serveEnd job runs rest .closed
    else Frames.runEach job runs lines.complete
  let passed ← passServed journal passed served
  match served.result with
  | .error error => fail (.service error)
  | .ok runs =>
    if chunk.isEmpty then return 0
    else serveFrom journal passed served.after runs lines.rest

/-- Run a command once, or serve the input. -/
def work (journal : Log.Journal) (options : Options) (job : Worker.Job) : IO UInt32 := do
  if options.once then
    let served := Worker.runOnce job
    let _ ← passServed journal {} served
    match served.result with
    | .error error => fail (.service error)
    | .ok _ => return 0
  else
    passLog journal [.workerStarted] []
    serveFrom journal {} job 0 []

/-- Say why there is nothing to do. -/
def halt (startup : Startup) (reason : Options.Halt) : IO UInt32 := do
  let ending := Worker.endEarly startup reason
  passOutput ending.output
  match reason with
  | .misuse misuse => passNotice (.line misuse.message)
  | .help | .version => pure ()
  return leave ending.status

/-- Start a worker with a journal. -/
def start (startup : Startup) (options : Options) (journal : Log.Journal) : IO UInt32 := do
  for warning in journal.target.warning?.toList do passNotice (.line warning)
  let files ← lookAll startup.files [Worker.configPath startup options]
  let startup := { startup with files }
  let (command, log) := Worker.prepare startup options
  passLog journal log []
  match command with
  | .error error => fail error
  | .ok command =>
    let files ← lookAll startup.files (pathsOf command)
    work journal options (Worker.jobOf { startup with files } command)

end BenchRelay.Console

open BenchRelay in
/-- Run the worker. -/
def main (arguments : List String) : IO UInt32 := do
  let startup ← Console.readStartup arguments
  match Options.parse startup.arguments with
  | .error reason => Console.halt startup reason
  | .ok options =>
    match Log.Journal.ofEnvironment? startup.environment startup.files startup.stamp with
    | none => Console.fail .filter
    | some journal => Console.start startup options journal
