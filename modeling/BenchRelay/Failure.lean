import BenchRelay.Text.Basic

/-!
# What can go wrong in a run

Failures are causes; their wording is in one `message` function per type. A sink fails to deliver a
message, a child program fails to start or to end well, and a benchmark may fail by itself.
-/

namespace BenchRelay

/-- Why a sink did not deliver a message. -/
inductive SinkError where
  /-- Nobody receives any more. -/
  | disconnected
  /-- Writing the end of the line, or handing the line over, failed. -/
  | io (reason : Text)
  /-- Writing the message itself failed. -/
  | encode (reason : Text)
  deriving Repr, DecidableEq

/-- The wording of a sink's failure. -/
def SinkError.message : SinkError → Text
  | .disconnected => "IPC channel disconnected"
  | .io reason => "Failed to write message to host: " ++ reason
  | .encode reason => "Failed to encode message: " ++ reason

/-- How a child program ended. -/
inductive ExitStatus where
  /-- It returned an exit code. -/
  | code (n : Nat)
  /-- A signal ended it. -/
  | signal (n : Nat)
  deriving Repr, DecidableEq

/-- Whether a child program ended well: with exit code 0. -/
def ExitStatus.isSuccess : ExitStatus → Bool
  | .code n => n == 0
  | .signal _ => false

/-- The name of a signal, for the signals that have one. -/
def signalName? : Nat → Option Text
  | 1 => some "SIGHUP"
  | 2 => some "SIGINT"
  | 3 => some "SIGQUIT"
  | 4 => some "SIGILL"
  | 5 => some "SIGTRAP"
  | 6 => some "SIGABRT"
  | 7 => some "SIGBUS"
  | 8 => some "SIGFPE"
  | 9 => some "SIGKILL"
  | 10 => some "SIGUSR1"
  | 11 => some "SIGSEGV"
  | 12 => some "SIGUSR2"
  | 13 => some "SIGPIPE"
  | 14 => some "SIGALRM"
  | 15 => some "SIGTERM"
  | 16 => some "SIGSTKFLT"
  | 17 => some "SIGCHLD"
  | 18 => some "SIGCONT"
  | 19 => some "SIGSTOP"
  | 20 => some "SIGTSTP"
  | 21 => some "SIGTTIN"
  | 22 => some "SIGTTOU"
  | 23 => some "SIGURG"
  | 24 => some "SIGXCPU"
  | 25 => some "SIGXFSZ"
  | 26 => some "SIGVTALRM"
  | 27 => some "SIGPROF"
  | 28 => some "SIGWINCH"
  | 29 => some "SIGIO"
  | 30 => some "SIGPWR"
  | 31 => some "SIGSYS"
  | _ => none

/-- The wording of an exit status. -/
def ExitStatus.text : ExitStatus → Text
  | .code n => "exit status: " ++ Text.decimal n
  | .signal n =>
    "signal: " ++ Text.decimal n ++
      match signalName? n with
      | some name => " (" ++ name ++ ")"
      | none => []

/-- Why running a child program failed. -/
inductive ChildError where
  /-- No command says what to run. -/
  | missingCommand
  /-- The operating system did not start the command. -/
  | spawn (command reason : Text)
  /-- Its output could not be read. -/
  | read (reason : Text)
  /-- There is no room for as many bytes of its output as are to be read at once. -/
  | noRoom (bytes : Nat)
  /-- It did not end well. -/
  | exit (command : Text) (status : ExitStatus)
  /-- Its working directory is no directory. -/
  | missingDirectory (directory : Text)
  deriving Repr, DecidableEq

/-- The wording of a child program's failure. -/
def ChildError.message : ChildError → Text
  | .missingCommand =>
    "No payload command configured (set [payload] command or pass one after --)"
  | .spawn command reason => "Failed to spawn payload '" ++ command ++ "': " ++ reason
  | .read reason => "Failed to read payload output: " ++ reason
  | .noRoom bytes => "No room for " ++ Text.decimal bytes ++ " bytes of payload output"
  | .exit command status => "Payload '" ++ command ++ "' exited with " ++ status.text
  | .missingDirectory directory =>
    "Payload working directory '" ++ directory ++ "' does not exist"

/-- Why a run failed. -/
inductive RunError where
  /-- A message was not delivered. -/
  | sink (error : SinkError)
  /-- The child program failed. -/
  | child (error : ChildError)
  /-- The benchmark failed for a reason of its own. -/
  | other (reason : Text)
  deriving Repr, DecidableEq

/-- The wording of a failed run: that of its cause. -/
def RunError.message : RunError → Text
  | .sink error => error.message
  | .child error => error.message
  | .other reason => reason

end BenchRelay
