import BenchRelay.Shell.Signal
import BenchRelay.Shell.Variable

/-!
# Processes

A shell runs some commands in copies of itself, which are processes of their own. A copy has a copy
of the memory, knows nothing of the commands that the shell started, and handles no signal unless it
says so itself; the shell goes on with the memory that it had. Signals that a process sends to
another one are kept until that one goes on.
-/

namespace BenchRelay.Shell.Action

/-- The numbers of commands that go on beside the shell, as a new one begins: the first number that
nobody has or needs any more is free. -/
def withRoom (jobs : List JobRecord) : (fuel : Nat) → (number : Nat) → List JobRecord × Nat
  | 0, number => (jobs, number)
  | fuel + 1, number =>
    match jobs.find? (·.number = number) with
    | none => (jobs, number)
    | some job =>
      if job.waited then (jobs.filter (·.number ≠ number), number)
      else withRoom jobs fuel (number + 1)

/-- A number for a command that begins. -/
def newJobNumber : Action Nat :=
  modifyGet fun state =>
    let (jobs, number) := withRoom state.memory.jobs (state.memory.jobs.length + 1) 1
    (number, { state with memory := { state.memory with jobs } })

/-- The number of a new process. -/
def newProcess : Action Nat := do
  let process ← observe World.nextProcess
  changeWorld fun world => { world with nextProcess := process + 1 }
  return process

/-- The memory of a copy of a shell. -/
def copied (memory : Memory) (process : Nat) : Memory :=
  { memory with
    process
    ancestors := memory.process :: memory.ancestors
    traps := memory.traps.filter fun (signal, script) => signal ≠ 0 && script.isEmpty
    arrived := []
    jobs := []
    buffer := [] }

/-- Whether scripts are to run at signals or at the end. -/
def hasTraps : Action Bool := fromMemory fun memory => memory.traps.any fun trap => !trap.2.isEmpty

/-- Take a signal: it is ignored, its script is to run, or the process ends. -/
def receive (signal : Nat) : Action Unit := do
  if signal = 19 then return
  if !Signal.isCertain signal then
    if ← ignores signal then return
    if ((← fromMemory Memory.traps).lookup signal).isSome then
      return ← change fun memory =>
        { memory with arrived := (signal :: memory.arrived.erase signal).mergeSort (· ≤ ·) }
  if Signal.isHarmless signal then return
  throw (.gone (.signal signal))

/-- Take the signals that were sent in the meantime. -/
def receiveSent : Action Unit := do
  let process ← fromMemory Memory.process
  let time ← observe World.time
  let isDue (sent : Sent) : Bool := sent.process = process && sent.time ≤ time
  let sent ← observe World.sent
  if sent.any isDue then
    changeWorld fun world => { world with sent := sent.filter (!isDue ·) }
    for sent in sent.reverse.filter isDue do receive sent.signal

/-- Send a signal: whether there is a process to get it. -/
def send (process signal : Nat) : Action Bool := do
  let memory ← fromMemory id
  if process = memory.process || process = 0 then
    receive signal
    return true
  let world ← observe id
  let isKnown := memory.ancestors.contains process || memory.mainProcess = process ||
    world.jobs.any (·.process = process) || memory.jobs.any (·.process = process)
  if isKnown then
    changeWorld fun world =>
      { world with sent := { process, signal, time := world.time } :: world.sent }
  return isKnown

/-- Run something in a process of its own, which begins with a change of its memory. -/
def inCopy (begin : Memory → Memory) (body : Action ExitStatus) : Action ExitStatus := do
  let _ ← newJobNumber
  let parent ← fromMemory id
  let process ← newProcess
  change fun memory => begin (copied memory process)
  let status ← try body catch
    | .gone status => pure status
    | _ => pure (.code (← fromMemory Memory.status))
  change fun _ => parent
  return status

/-- The exit code that a process is known by which was waited for; an end by a signal is told of. -/
def awaited (status : ExitStatus) : Action Nat := do
  receiveSent
  match status with
  | .code n => return n
  | .signal n =>
    unless n = 2 || n = 13 do tell (Signal.wording n ++ ['\n'])
    return Signal.exitCode n

/-- Make a pipe: the numbers of the open files that are written to and read from. -/
def openPipe : Action (Nat × Nat) := do
  let pipe ← observe (·.pipes.size)
  changeWorld fun world => { world with pipes := world.pipes.push {} }
  let written ← openChannel { channel := .pipe pipe, readable := false }
  let read ← openChannel { channel := .pipe pipe, writable := false }
  return (written, read)

end BenchRelay.Shell.Action
