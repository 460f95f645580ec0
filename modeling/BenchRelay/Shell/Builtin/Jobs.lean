import BenchRelay.Shell.Builtin.Options
import BenchRelay.Shell.Script

/-!
# Commands about signals and about commands that go on beside the shell

Sending signals, saying what to do when they come, waiting for commands and listing them.
-/

namespace BenchRelay.Shell.Builtin

open Shell.Action

/-- The job that a text names: by its number, or as the current or the previous one. -/
def job (text? : Option Text) : Action JobRecord := do
  let jobs ← fromMemory Memory.jobs
  let orFail (job? : Option JobRecord) (wording : String) : Action JobRecord :=
    match job? with
    | some job => return job
    | none => raise wording.toList
  match text? with
  | none => orFail jobs.head? "No current job"
  | some text =>
    let noSuch : Action JobRecord := raise ("No such job: ".toList ++ text)
    match text with
    | ['%'] | ['%', '+'] | ['%', '%'] => orFail jobs.head? "No current job"
    | ['%', '-'] => orFail jobs.tail.head? "No previous job"
    | '%' :: digits =>
      let numbered? :=
        if digits.all Char.isDigit then jobs.find? (·.number = ofDigits 10 digits) else none
      match numbered? with
      | some job => return job
      | none => noSuch
    | _ => noSuch

/-- Note that the end of a command was asked for. -/
def noteWaited (process : Nat) : Action Unit :=
  change fun memory =>
    { memory with
      jobs := memory.jobs.map fun job =>
        if job.process = process then { job with waited := true } else job }

/-- Wait for commands: the exit code of the last one. -/
def waitFor (run : Evaluator) : List Text → (status : Nat) → Action Nat
  | [], status => return status
  | argument :: arguments, _ => do
    let process ←
      if argument.head? = some '%' then some <$> (JobRecord.process <$> job (some argument))
      else do
        let process ← count argument
        pure (if (← fromMemory Memory.jobs).any (·.process = process) then some process else none)
    match process with
    | none => waitFor run arguments 127
    | some process =>
      match ← awaitJob run process with
      | none => waitFor run arguments 127
      | some (.error signal) => return Signal.exitCode signal
      | some (.ok status) =>
        noteWaited process
        waitFor run arguments (← awaited status)

/-- Wait for all commands. -/
def waitForAll (run : Evaluator) : List JobRecord → Action Nat
  | [] => return 0
  | job :: jobs => do
    let ended? ← if job.waited then pure none else awaitJob run job.process
    match ended? with
    | some (.error signal) => return Signal.exitCode signal
    | _ =>
      noteWaited job.process
      waitForAll run jobs

/-- Wait for commands that go on beside the shell. -/
def wait (run : Evaluator) (arguments : List Text) : Action Nat := do
  match ← noOptions arguments with
  | [] => waitForAll run (← fromMemory Memory.jobs).reverse
  | arguments => waitFor run arguments 127

/-- List the commands that go on beside the shell. -/
def jobs (arguments : List Text) : Action Nat := do
  let chosen ← options "lp" arguments
  let records ← fromMemory Memory.jobs
  let shown ← match chosen.arguments with
    | [] => pure records
    | arguments => arguments.mapM fun argument => job (some argument)
  for record in shown do
    let sign := if records.head?.any (·.number = record.number) then '+'
      else if records.tail.head?.any (·.number = record.number) then '-' else ' '
    let ended? := (← observe World.ended).find? (·.1 = record.process)
    let state : Text := match ended? with
      | none => "Running"
      | some (_, .code 0, _) => "Done"
      | some (_, .code n, _) => "Done(".toList ++ Text.decimal n ++ [')']
      | some (_, .signal n, _) => Signal.wording n
    let process := if chosen.has 'l' then Text.decimal record.process ++ [' '] else []
    let start := '[' :: Text.decimal record.number ++ "] ".toList ++ sign :: ' ' :: process ++ state
    if chosen.has 'p' then print (Text.decimal record.process ++ ['\n'])
    else print (start ++ List.replicate (max 1 (33 - start.length)) ' ' ++ ['\n'])
    if ended?.isSome then
      change fun memory =>
        { memory with jobs := memory.jobs.filter (·.number ≠ record.number) }
  return 0

/-- Fail to go on with a command in the foreground or in the background. -/
def resume (arguments : List Text) : Action Nat := do
  let name? := (← noOptions arguments).head?
  let _ ← job name?
  raise ("job ".toList ++ name?.getD "(null)".toList ++
    " not created under job control".toList)

/-- The wording of how signals are sent. -/
def killUsage : Text :=
  "Usage: kill [-s sigspec | -signum | -sigspec] [pid | job]... or\nkill -l [exitstatus]"

/-- List the names of signals, or print that of one. -/
def listSignals : List Text → Action Nat
  | [] => do
    print ((['0', '\n'] :: (List.range Signal.count).tail.map
      fun signal => Signal.name signal ++ ['\n']).flatten)
    return 0
  | argument :: _ => do
    let n ← count argument
    let signal := if n > 128 then n - 128 else n
    if 0 < signal && signal < Signal.count then
      print (Signal.name signal ++ ['\n'])
      return 0
    else raise ("invalid signal number or exit status: ".toList ++ argument)

/-- Send a signal to processes. -/
def sendAll (signal : Nat) : List Text → (status : Nat) → Action Nat
  | [], status => return status
  | argument :: arguments, status => do
    let isKnown ← match argument with
      | '%' :: _ => do send (← job (some argument)).process signal
      | '-' :: digits => do send (← count digits) signal
      | _ => do send (← count argument) signal
    if isKnown then sendAll signal arguments status
    else
      complain "No such process\n".toList
      sendAll signal arguments 1

/-- What the arguments of a command that sends signals say: whether to list them, the signal, and
the arguments left. -/
def killOptions (arguments : List Text) : Action (Bool × Option Nat × List Text) := do
  match arguments with
  | ('-' :: name) :: rest =>
    match Signal.ofText? 1 name with
    | some signal => return (false, some signal, rest)
    | none =>
      let chosen ← options "ls:" arguments
      let signal? ← match chosen.argument? 's' with
        | none => pure none
        | some name =>
          match Signal.ofText? 1 name with
          | some signal => pure (some signal)
          | none => raise ("invalid signal number or name: ".toList ++ name)
      return (chosen.has 'l', signal?, chosen.arguments)
  | arguments => return (false, none, arguments)

/-- Send a signal, or list signals. -/
def kill (arguments : List Text) : Action Nat := do
  let (lists, signal?, arguments) ← killOptions arguments
  if lists then
    if signal?.isSome then raise killUsage
    listSignals arguments
  else
    if arguments.isEmpty then raise killUsage
    sendAll (signal?.getD 15) arguments 0

/-- Set or take away the scripts for signals. -/
def setTraps (script? : Option Text) : List Text → Action Nat
  | [] => return 0
  | name :: names => do
    match Signal.ofText? 0 name with
    | none =>
      tell ("trap: ".toList ++ name ++ ": bad trap\n".toList)
      return 1
    | some signal =>
      change fun memory =>
        let others := memory.traps.filter (·.1 ≠ signal)
        { memory with
          traps := match script? with
            | some script => (signal, script) :: others
            | none => others }
      setTraps script? names

/-- Say what to do when signals come, or print what is done. -/
def trap (arguments : List Text) : Action Nat := do
  match ← noOptions arguments with
  | [] =>
    for signal in List.range Signal.count do
      match (← fromMemory Memory.traps).lookup signal with
      | some script =>
        print ("trap -- ".toList ++ singleQuoted script ++ ' ' :: Signal.name signal ++ ['\n'])
      | none => pure ()
    return 0
  | [name] => setTraps none [name]
  | first :: names =>
    if !first.isEmpty && first.all Char.isDigit && (Signal.ofText? 0 first).isSome then
      setTraps none (first :: names)
    else setTraps (if first = ['-'] then none else some first) names

end BenchRelay.Shell.Builtin
