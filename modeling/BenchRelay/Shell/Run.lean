import BenchRelay.Shell.Simple

/-!
# Running commands

How each kind of command runs, given how the commands in it run. A command ends with an exit code;
one that fails may end the shell, and behind the last one the shell ends in any case. How deeply
commands may stand in each other is limited, and so is how often loops go round in all.
-/

namespace BenchRelay.Shell

/-- How a loop goes on behind a command. -/
inductive Turn where
  | onward
  /-- With the next round. -/
  | again
  /-- Not at all; `returned` says whether a function or a script is left with a given exit code. -/
  | over (returned : Bool)

namespace Action

/-- How the loop at hand goes on. -/
def turn : Action Turn := do
  match ← fromMemory Memory.skip with
  | .nothing => return .onward
  | .leave n =>
    change fun memory => { memory with skip := if n ≤ 1 then .nothing else .leave (n - 1) }
    return .over false
  | .again n =>
    change fun memory => { memory with skip := if n ≤ 1 then .nothing else .again (n - 1) }
    return if n ≤ 1 then .again else .over false
  | .returning => return .over true
  | .returningLast => return .over false

/-- Whether commands are skipped. -/
def skips : Action Bool := return (← fromMemory Memory.skip) ≠ .nothing

/-- Run something within a loop. -/
def inLoop (body : Action Nat) : Action Nat := do
  change fun memory => { memory with loops := memory.loops + 1 }
  ensuring body (change fun memory => { memory with loops := memory.loops - 1 })

/-- How often a loop goes round at most. -/
def roundLimit : Nat := 1000000000

/-- Run a body as long as a condition succeeds, or fails: the exit code of the body. -/
def loop (run : Evaluator) (untilSuccess isTested : Bool) (condition body : Command) :
    (fuel : Nat) → (status : Nat) → Action Nat
  | 0, status => return status
  | fuel + 1, status => do
    spend
    let judged ← run condition { isTested := true }
    match ← turn with
    | .over returned => return if returned then judged else status
    | .again => loop run untilSuccess isTested condition body fuel status
    | .onward =>
      if (judged = 0) = untilSuccess then return status
      let status ← run body { isTested }
      match ← turn with
      | .over _ => return status
      | _ => loop run untilSuccess isTested condition body fuel status

/-- Run a body for each item: its last exit code. -/
def forEach (run : Evaluator) (isTested : Bool) (name : Text) (body : Command) :
    List Text → (status : Nat) → Action Nat
  | [], status => return status
  | item :: items, _ => do
    spend
    assignNamed name (some item) {}
    let status ← run body { isTested }
    match ← turn with
    | .over _ => return status
    | _ => forEach run isTested name body items status

/-- Whether a text fits one of some patterns. -/
def fitsAny (substitute : Command → Action Text) (text : Text) : List Word → Action Bool
  | [] => return false
  | word :: words => do
    if Glob.fits (← expandToPattern substitute word) text then return true
    fitsAny substitute text words

/-- Run the first branch with a pattern that a text fits. -/
def select (run : Evaluator) (substitute : Command → Action Text) (position : Position)
    (text : Text) : List (List Word × Command) → Action Nat
  | [] => return 0
  | (patterns, body) :: branches => do
    if ← skips then return 0
    if ← fitsAny substitute text patterns then
      match body with
      | .nothing => return 0
      | body => if ← skips then return 0 else run body position
    else select run substitute position text branches

/-- Do something with half of what there may still be, of which the rest is given back: whether all
of that half was used up. -/
def withinHalf (body : Action ExitStatus) : Action (ExitStatus × Bool) := do
  let budget ← observe World.budget
  changeWorld fun world => { world with budget := budget / 2 }
  let status ← body
  let left ← observe World.budget
  changeWorld fun world => { world with budget := left + (budget - budget / 2) }
  return (status, left = 0)

/-- Run the commands to their ends that were started by processes from a number on. -/
def settleJobs (run : Evaluator) (first : Nat) : (fuel : Nat) → Action Unit
  | 0 => return
  | fuel + 1 => do
    match (← observe World.jobs).find? (first ≤ ·.process) with
    | none => return
    | some job =>
      runJob run job
      settleJobs run first fuel

/-- Run the stages of a pipeline, each in a process of its own and with what the one before wrote
for its input: the exit code of the last one. -/
def pipeline (run : Evaluator) (isTested : Bool) (input? : Option Nat) : List Command → Action Nat
  | [] => return 0
  | [stage] => do
    let begin (memory : Memory) : Memory :=
      match input? with
      | some input => { memory with descriptors := memory.descriptors.lead 0 input }
      | none => memory
    awaited (← runCopy run begin (runLast run stage isTested))
  | stage :: stages => do
    let (written, read) ← openPipe
    let begin (memory : Memory) : Memory :=
      let descriptors := match input? with
        | some input => memory.descriptors.lead 0 input
        | none => memory.descriptors
      { memory with descriptors := descriptors.lead 1 written }
    let first ← observe World.nextProcess
    let (status, isEndless) ← withinHalf (runCopy run begin (runLast run stage isTested))
    settleJobs run first jobLimit
    let _ ← awaited (if isEndless then .signal 13 else status)
    pipeline run isTested (some read) stages

/-- What a command prints. -/
def output (run : Evaluator) (body : Command) : Action Text := do
  match body with
  | .nothing => return []
  | body =>
    let (written, read) ← openPipe
    let begin (memory : Memory) : Memory :=
      { memory with descriptors := memory.descriptors.lead 1 written }
    let first ← observe World.nextProcess
    let status ← runCopy run begin (runLast run body false)
    settleJobs run first jobLimit
    let substituted ← awaited status
    change fun memory => { memory with substituted }
    match ← observe (·.openFiles[read]?) with
    | some { channel := .pipe pipe, .. } =>
      changePipe pipe Pipe.settle
      let text ← observe fun world => (world.pipes[pipe]?.map Pipe.unread).getD []
      changePipe pipe fun pipe => { pipe with unread := [] }
      return text
    | _ => return []

/-- Start a command that is not waited for. -/
def background (body : Command) : Action Nat := do
  let null ← openChannel { channel := .device .null, writable := false }
  let _ ← startJob body fun memory =>
    { memory with
      descriptors := memory.descriptors.lead 0 null
      ignored := 2 :: 3 :: memory.ignored }
  return 0

/-- Run a command in a copy of the shell, or in the shell itself if that has nothing to do behind
it. -/
def subshell (run : Evaluator) (substitute : Command → Action Text) (position : Position)
    (body : Command) (redirections : List Redirect) : Action Nat := do
  let targets ← redirections.mapM (target substitute)
  let inside : Action Unit := do
    redirectAll substitute targets
    runLast run body position.isTested
  if position.isLast && !(← hasTraps) then
    inside
    throw .finish
  awaited (← runCopy run id inside)

/-- Run a command with redirections. -/
def redirected (run : Evaluator) (substitute : Command → Action Text) (isTested : Bool)
    (body : Command) (redirections : List Redirect) : Action Nat := do
  let targets ← redirections.mapM (target substitute)
  let former ← former (targets.map Prod.fst)
  ensuring (do
    if ← redirects substitute targets then run body { isTested } else return errorStatus)
    (giveBackDescriptors former)

/-- Run a command by its kind: its exit code. -/
def runKind (run : Evaluator) (position : Position) (command : Command) : Action Nat := do
  let isTested := position.isTested
  let substitute := output run
  match command with
  | .nothing => fromMemory Memory.status
  | .simple line assignments words redirections =>
    setLine line
    simple run substitute position assignments words redirections
  | .pipeline isBackground stages =>
    if isBackground then background (.pipeline false stages)
    else pipeline run isTested none stages
  | .redirected line body redirections =>
    setLine line
    redirected run substitute isTested body redirections
  | .subshell line body redirections =>
    setLine line
    subshell run substitute position body redirections
  | .background line body redirections =>
    if line ≠ 0 then setLine line
    background (if redirections.isEmpty then body else .subshell line body redirections)
  | .not body =>
    let status ← run body { isTested := true }
    if ← skips then return status
    return if status = 0 then 1 else 0
  | .chain link first second =>
    let status ← run first { isTested := isTested || link ≠ .always }
    let goesOn := match link with
      | .always => true
      | .ifSuccess => status = 0
      | .ifFailure => status ≠ 0
    if !goesOn || (← skips) then return status
    run second position
  | .choice condition yes no =>
    let status ← run condition { isTested := true }
    if ← skips then return status
    if status = 0 then run yes position
    else match no with
      | .nothing => return 0
      | no => run no position
  | .loop untilSuccess condition body =>
    inLoop (loop run untilSuccess isTested condition body roundLimit 0)
  | .forEach line name items body =>
    setLine line
    let items ← items.mapM (expandToFields substitute)
    inLoop (forEach run isTested name body items.flatten 0)
  | .select line subject branches =>
    setLine line
    select run substitute position (← expandToText substitute subject) branches
  | .define line name body =>
    change fun memory =>
      { memory with
        functions := (name, line, body) :: memory.functions.filter (·.1 ≠ name) }
    return 0

/-- Whether the failure of a command ends the shell where that was asked for. -/
def isJudged : Command → Bool
  | .simple .. | .pipeline .. | .subshell .. | .background .. => true
  | _ => false

/-- Run a command and all that stands between it and the next one: its exit code. -/
def step (run : Evaluator) : Evaluator := fun command position => do
  let isIdle ← match command with
    | .nothing => pure true
    | _ => isSet 'n'
  unless isIdle do
    runTraps run
    setStatus (← runKind run position command)
  runTraps run
  let status ← fromMemory Memory.status
  if status ≠ 0 && !isIdle && isJudged command && !position.isTested && (← isSet 'e') then
    throw .finish
  if position.isLast then throw .finish
  return status

/-- Run a command in which commands stand so deeply in each other at most. -/
def evaluate : (depth : Nat) → Evaluator
  | 0, _, _ => throw (.gone (.signal 11))
  | depth + 1, command, position => step (evaluate depth) command position

/-- How deeply commands may stand in each other. -/
def nestingLimit : Nat := 5000

/-- Run a program and all commands that it started to their ends: how it ends. -/
def runAll (path : Text) (call : Invocation) : Action ExitStatus := do
  let run := evaluate nestingLimit
  let status ← try runProgram run programLimit path call catch
    | .gone status => pure status
    | _ => pure (.code 1)
  runJobs run jobLimit
  return status

end Action

/-- What comes of running a program. -/
structure Completion where
  output : Bytes
  errors : Bytes
  status : ExitStatus
  files : Files

/-- The process that a program is run in, and the one that runs it. -/
def firstProcess : Nat := 4242

/-- How many rounds of loops and pieces of output there may be in all. -/
def budget : Nat := 400000

/-- All that was written to a pipe. -/
def writtenTo (world : World) (pipe : Nat) : Bytes :=
  toBytes ((world.pipes[pipe]?.map fun pipe => pipe.settle.unread).getD [])

/-- Run a program with arguments in an environment, without any input. -/
def execute (environment : List (Text × Text)) (files : Files) (program name : Text)
    (arguments : List Text) : Completion :=
  let world : World :=
    { files
      openFiles := #[{ channel := .device .null },
        { channel := .pipe 0, readable := false }, { channel := .pipe 1, readable := false }]
      pipes := #[{}, {}]
      nextProcess := firstProcess + 1
      budget }
  let memory : Memory :=
    { name
      directory := files.workingDirectory
      descriptors := [(0, 0), (1, 1), (2, 2)]
      process := firstProcess
      ancestors := [firstProcess - 1] }
  match (Action.runAll program { name, arguments, environment }).run { memory, world } with
  | .ok status state | .error (.gone status) state =>
    { output := writtenTo state.world 0
      errors := writtenTo state.world 1
      status
      files := { state.world.files with workingDirectory := files.workingDirectory } }
  | .error _ state =>
    { output := writtenTo state.world 0
      errors := writtenTo state.world 1
      status := .code 1
      files := { state.world.files with workingDirectory := files.workingDirectory } }

/-- The names of the programs there are. -/
def programs : List Text :=
  (["sh", "env"] ++ (Action.programs (Action.evaluate 0)).map Prod.fst).map String.toList

end BenchRelay.Shell
