import BenchRelay.Config.Basic
import BenchRelay.Files
import BenchRelay.Log.Filter

/-!
# Where the log goes

The log goes to the console unless a setting that is not blank names a file. The name of the file is
that of the setting with a stamp behind it, so that every worker has a file of its own. If the file
cannot be made the log is lost and a warning says so. On the console the log meets what the
benchmarks print as errors.
-/

namespace BenchRelay.Log

/-- Where the log goes. -/
inductive Target where
  | console
  /-- To a new file. -/
  | file (place : Place)
  /-- Nowhere, as no file can be made at a path. -/
  | lost (path : Text)
  deriving Repr, DecidableEq

/-- The target that a setting names. -/
def Target.ofSetting (files : Files) (stamp : Text) : Option Text → Target
  | none => .console
  | some setting =>
    if setting.isBlank then .console
    else match files.newPlace? (setting ++ stamp) with
      | some place => .file place
      | none => .lost (setting ++ stamp)

/-- The warning about a lost log. -/
def Target.warning? : Target → Option Text
  | .lost path => some ("Warning: Failed to create log file: " ++ path)
  | .console | .file _ => none

/-- Where the log goes and which events it has. -/
structure Journal where
  target : Target
  filter : Filter

/-- The journal that the variables of an environment ask for, if their filter is whole. -/
def Journal.ofEnvironment? (environment : Environment) (files : Files) (stamp : Text) :
    Option Journal :=
  (Filter.ofSetting? (environment.get? "RUST_LOG")).map fun filter =>
    { filter, target := .ofSetting files stamp (environment.get? "BENCHWORKER_LOG") }

/-- The lines that events make in a journal. -/
def Journal.lines (journal : Journal) (log : List Event) : List Text :=
  (log.filter journal.filter.lets).map line

/-- The lines that events make on the console. -/
def Journal.consoleLines (journal : Journal) (log : List Event) : List Text :=
  match journal.target with
  | .console => journal.lines log
  | .file _ | .lost _ => []

/-- The file that events are written to, with its lines. -/
def Journal.file? (journal : Journal) (log : List Event) : Option (Place × List Text) :=
  match journal.target with
  | .file place => some (place, journal.lines log)
  | .console | .lost _ => none

/-- Something that shows on the console. -/
inductive Notice where
  /-- A line of the worker's own. -/
  | line (text : Text)
  /-- What a benchmark printed as errors, which need not end a line. -/
  | errors (printed : Bytes)
  deriving Repr, DecidableEq

/-- What shows on the console: the lines of the log, and behind the start of each run what the
benchmark printed as errors in it. -/
def Journal.notices (journal : Journal) : List Event → List Bytes → List Notice
  | [], _ => []
  | event :: log, errors =>
    let own := (journal.consoleLines [event]).map Notice.line
    match event, errors with
    | .runStarted _, printed :: errors => own ++ .errors printed :: notices journal log errors
    | _, errors => own ++ notices journal log errors

end BenchRelay.Log
