import BenchRelay.Shell.Process

/-!
# Running scripts

A script is read and run line by line. Where signals came, their scripts run between commands, and
at the end of a shell its last script runs, whose own exit code counts only if it says one. Commands
that go on beside a shell are run when their end is asked for, or when so much time has passed, each
from its own start on; what they print carries the time.
-/

namespace BenchRelay.Shell.Action

/-- How many lines of a script are run at most. -/
def lineLimit : Nat := 1000000000

/-- Run a script from where it was read to: the exit code of its last command. -/
def runLines (run : Evaluator) (position : Position) :
    (fuel : Nat) → (status : Nat) → Reading → Action Nat
  | 0, status, _ => return status
  | fuel + 1, status, reading => do
    let aliases ← fromMemory Memory.aliases
    match Read.readLine.run { reading with aliases } with
    | .error misreading _ =>
      change fun memory => { memory with line := misreading.line }
      raise misreading.message
    | .ok line reading =>
      change fun memory =>
        { memory with
          hereTexts := reading.hereTexts ++ memory.hereTexts
          nextText := reading.nextNumber }
      match line with
      | .ended => return status
      | .commands body isLast =>
        let isLast := position.isLast && isLast
        let ended ← run body { position with isLast }
        let status := match body with
          | .nothing => status
          | _ => ended
        if (← fromMemory Memory.skip) ≠ .nothing then return status
        let nextNumber ← fromMemory Memory.nextText
        runLines run position fuel status { reading with hereTexts := [], nextNumber }

/-- Run a script. -/
def runText (run : Evaluator) (text : Text) (position : Position) : Action Nat := do
  let nextNumber ← fromMemory Memory.nextText
  runLines run position lineLimit 0 { excerpts := [{ rest := text }], nextNumber }

/-- Run the script of a signal that came, and keep the exit code. -/
def runTrap (run : Evaluator) (status signal : Nat) : Action Unit := do
  match (← fromMemory Memory.traps).lookup signal with
  | none => return
  | some script =>
    let _ ← runText run script {}
    if (← fromMemory Memory.skip) ≠ .returning then setStatus status

/-- Run the scripts of the signals that came. -/
def runTraps (run : Evaluator) : Action Unit := do
  let memory ← fromMemory id
  unless memory.arrived.isEmpty do
    let status := memory.kept?.getD memory.status
    change fun memory => { memory with kept? := some status, arrived := [] }
    for signal in memory.arrived do
      if (← fromMemory Memory.skip) ≠ .nothing then
        change fun memory => { memory with arrived := memory.arrived ++ [signal] }
      else runTrap run status signal
    change fun now => { now with kept? := memory.kept? }

/-- Run the script for the end of a shell. -/
def runEndTrap (run : Evaluator) : Action (Option ExitStatus) := do
  let memory ← fromMemory id
  match memory.traps.lookup 0 with
  | none => return none
  | some script =>
    change fun memory =>
      { memory with
        kept? := some memory.status
        traps := memory.traps.filter (·.1 ≠ 0)
        skip := .nothing }
    let keeps : Action Unit := do
      setStatus ((← fromMemory Memory.kept?).getD memory.status)
    try
      let _ ← runText run script {}
      keeps
      return none
    catch
      | .gone status => return some status
      | .exit => do
        keeps
        return none
      | _ => return none

/-- Do something as the last thing that a shell does: how its process ends. -/
def leaving (run : Evaluator) (body : Action Unit) : Action ExitStatus := do
  let gone? : Option ExitStatus ←
    try
      body
      pure none
    catch
      | .gone status => pure (some status)
      | .exit => do
        change fun memory => { memory with status := memory.kept?.getD memory.status }
        pure none
      | _ => pure none
  match gone? with
  | some status => return status
  | none =>
    let gone? ← runEndTrap run
    flush
    return gone?.getD (.code ((← fromMemory Memory.status) % 256))

/-- Run a command in a copy of the shell: how it ends. -/
def runCopy (run : Evaluator) (begin : Memory → Memory) (body : Action Unit) :
    Action ExitStatus :=
  inCopy begin (leaving run body)

/-- Run a command as the last one of a shell. -/
def runLast (run : Evaluator) (body : Command) (isTested : Bool) : Action Unit := do
  let _ ← run body { isLast := true, isTested }

/-- Start a command that is not waited for: its process. -/
def startJob (body : Command) (begin : Memory → Memory) : Action Nat := do
  let number ← newJobNumber
  let process ← newProcess
  let memory ← fromMemory id
  let time ← observe World.time
  let job : Job :=
    { process
      memory := begin (copied memory process)
      body
      position := { isLast := true }
      time }
  changeWorld fun world => { world with jobs := world.jobs ++ [job] }
  change fun memory =>
    { memory with
      jobs := { number, process } :: memory.jobs
      lastJob? := some process }
  return process

/-- Run a command that was started, from its start to its end. -/
def runJob (run : Evaluator) (job : Job) : Action Unit := do
  let memory ← fromMemory id
  let time ← observe World.time
  change fun _ => job.memory
  changeWorld fun world =>
    { world with
      time := job.time
      jobs := world.jobs.filter (·.process ≠ job.process) }
  let status ← leaving run (do
    receiveSent
    runLast run job.body false)
  changeWorld fun world =>
    { world with
      time
      ended := (job.process, status, world.time) :: world.ended }
  change fun _ => memory

/-- Run the started commands that end before a time, as far as they are known. -/
def catchUp (run : Evaluator) (time : Nat) : Action Unit := do
  for job in ← observe World.jobs do
    let before ← get
    if job.time ≤ time && before.world.jobs.any (·.process = job.process) then
      runJob run job
      let ended ← observe World.ended
      if ended.any fun (process, _, last) => process = job.process && time < last then
        modify fun _ => before

/-- Let time pass. -/
def pass (run : Evaluator) (duration : Nat) : Action Unit := do
  let time := (← observe World.time) + duration
  catchUp run time
  changeWorld fun world => { world with time }

/-- How many started commands are run in a row. -/
def jobLimit : Nat := 100000

/-- Run all started commands to their ends. -/
def runJobs (run : Evaluator) : (fuel : Nat) → Action Unit
  | 0 => return
  | fuel + 1 => do
    match ← observe World.jobs with
    | [] => return
    | job :: _ =>
      runJob run job
      runJobs run fuel

/-- How a started command ended; the shell waits until then. A signal in the meantime ends waiting
before: its number. -/
def awaitJob (run : Evaluator) (process : Nat) : Action (Option (Except Nat ExitStatus)) := do
  match (← observe World.jobs).find? (·.process = process) with
  | some job => runJob run job
  | none => pure ()
  match (← observe World.ended).find? (·.1 = process) with
  | none => return none
  | some (_, status, last) =>
    let own ← fromMemory Memory.process
    let traps ← fromMemory Memory.traps
    let time ← observe World.time
    let last := max last time
    let early? := (← observe World.sent).find? fun sent =>
      sent.process = own && sent.time ≤ last && (traps.lookup sent.signal).any (!·.isEmpty)
    match early? with
    | some sent =>
      changeWorld fun world => { world with time := max sent.time world.time }
      receiveSent
      return some (.error sent.signal)
    | none =>
      changeWorld fun world => { world with time := last }
      receiveSent
      return some (.ok status)

end BenchRelay.Shell.Action
