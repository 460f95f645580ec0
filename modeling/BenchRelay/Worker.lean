import BenchRelay.CommandLine.Help
import BenchRelay.CommandLine.Options
import BenchRelay.Config.Load
import BenchRelay.Dispatch.Frames
import BenchRelay.Log.Target
import BenchRelay.Payload.Launch
import BenchRelay.Session
import BenchRelay.Sink.Writer

/-!
# The worker

A worker reads its command line, loads its configuration, puts what the command line says in its
place, and runs the command that comes of it: once, or once for every frame of its input. It prints
the messages as lines of JSON. The first failure ends it, and its wording is the worker's last word;
but a failure that breaks the worker off leaves it no last word.
-/

namespace BenchRelay

/-- What a worker is started with. -/
structure Startup where
  /-- The words of the command line, the program's own name first. -/
  arguments : List Text
  environment : Environment
  files : Files
  /-- What makes the name of its log file its own. -/
  stamp : Text

/-- Why a worker fails. -/
inductive WorkerError where
  /-- The filter of the log is torn. -/
  | filter
  /-- There is no valid configuration. -/
  | config (error : ConfigError)
  /-- The configuration says no command. -/
  | command (error : ChildError)
  /-- Running the benchmark failed. -/
  | service (error : ServeError)
  deriving Repr, DecidableEq

namespace WorkerError

/-- The wording of a worker's failure: that of its cause. -/
def message : WorkerError → Text
  | .filter => "Failed to read log filter"
  | .config error => error.message
  | .command error => error.message
  | .service error => error.message

/-- The exit code of a worker that fails. -/
def failureCode : Nat := 1

/-- The exit code of a worker that breaks off. -/
def breakCode : Nat := 101

/-- The signal that ends a worker for which there is no room. -/
def roomSignal : Nat := 6

/-- How many bytes nobody can ask for at once. -/
def requestLimit : Nat := Nat.pow 2 63

/-- How a failure breaks the worker off, if it does. Room that may be asked for but is not there
makes the system end the worker. -/
def breaksOff? : WorkerError → Option ExitStatus
  | .filter => some (.code breakCode)
  | .service (.run (.child (.noRoom bytes))) =>
    some (if requestLimit ≤ bytes then .code breakCode else .signal roomSignal)
  | _ => none

/-- How a worker that fails ends. -/
def status (error : WorkerError) : ExitStatus := error.breaksOff?.getD (.code failureCode)

/-- The last word of a worker that fails, if it has one. -/
def complaint? (error : WorkerError) : Option Text :=
  if error.breaksOff?.isSome then none else some ("Error: " ++ error.message)

end WorkerError

namespace Worker

/-- A session whose benchmark is a command and whose sink is what the worker prints. -/
abbrev Job := Session Machine Writer

/-- The path of the configuration file. -/
def configPath (startup : Startup) (options : Options) : Text :=
  options.config.getD
    (Config.defaultPath (startup.environment.get? "XDG_CONFIG_HOME")
      (startup.environment.get? "HOME"))

/-- The command that a loaded configuration and the options ask for. -/
def commandOf (options : Options) (config : Config) : Except WorkerError Command := do
  let config ← (options.apply config).mapError .config
  (Command.ofConfig config).mapError .command

/-- The command that a worker is started for, and what is logged on the way to it. -/
def prepare (startup : Startup) (options : Options) : Except WorkerError Command × List Event :=
  let (loaded, log) := Config.load startup.files (configPath startup options)
  ((loaded.mapError .config).bind (commandOf options), log)

/-- The job of running a command. -/
def jobOf (startup : Startup) (command : Command) : Job where
  payload := command.payload startup.environment
  memory := { files := startup.files }
  relay := { sink := {} }

/-- Do a job once without being asked. -/
def runOnce (job : Job) : Served Job :=
  let report := job.run
  { result := (report.outcome.mapError .run).map fun () => 1
    after := report.after
    log := report.log }

/-- Do a job once, or once for every frame of the input. -/
def serve (options : Options) (job : Job) (input : List Bytes) : Served Job :=
  if options.once then runOnce job else Frames.serve job input .closed

/-- How a worker ends. -/
structure Ending where
  status : ExitStatus
  /-- What it printed. -/
  output : Bytes := []
  /-- Why it failed. -/
  error? : Option WorkerError := none
  /-- Where it logged; a worker that gives no more than information about itself does not. -/
  journal? : Option Log.Journal := none
  log : List Event := []
  machine : Machine

/-- What shows on the console: a warning about the log, then what the log and the runs have to say,
and the worker's last word. -/
def Ending.notices (ending : Ending) : List Log.Notice :=
  let logged := match ending.journal? with
    | none => []
    | some journal =>
      journal.target.warning?.toList.map .line ++
        journal.notices ending.log ending.machine.errors
  logged ++ (ending.error?.bind WorkerError.complaint?).toList.map .line

/-- The exit code of a worker whose command line makes no sense. -/
def misuseCode : Nat := 2

/-- End at the command line. -/
def endEarly (startup : Startup) (halt : Options.Halt) : Ending :=
  let machine : Machine := { files := startup.files }
  match halt with
  | .help =>
    { status := .code 0
      output := (CommandLine.help (CommandLine.calledName startup.arguments)).utf8
      machine }
  | .version => { status := .code 0, output := CommandLine.version.utf8, machine }
  | .misuse _ => { status := .code misuseCode, machine }

/-- End after the job. -/
def endAfter (journal : Log.Journal) (log : List Event) (served : Served Job) : Ending :=
  let error? := match served.result with
    | .ok _ => none
    | .error error => some (WorkerError.service error)
  { status := (error?.map WorkerError.status).getD (.code 0)
    output := served.after.relay.sink.written
    error?
    journal? := some journal
    log := log ++ served.log
    machine := served.after.memory }

/-- Run a worker that has a journal on an input that arrives in chunks. -/
def work (startup : Startup) (options : Options) (journal : Log.Journal) (input : List Bytes) :
    Ending :=
  match prepare startup options with
  | (.error error, log) =>
    { status := error.status
      error? := some error
      journal? := some journal
      log
      machine := { files := startup.files } }
  | (.ok command, log) => endAfter journal log (serve options (jobOf startup command) input)

/-- Run a worker on an input that arrives in chunks. -/
def run (startup : Startup) (input : List Bytes) : Ending :=
  match Options.parse startup.arguments with
  | .error halt => endEarly startup halt
  | .ok options =>
    match Log.Journal.ofEnvironment? startup.environment startup.files startup.stamp with
    | none =>
      { status := WorkerError.filter.status
        error? := some .filter
        machine := { files := startup.files } }
    | some journal => work startup options journal input

end Worker

end BenchRelay
