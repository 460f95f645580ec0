import BenchRelay.Shell.Builtin.Control
import BenchRelay.Shell.Redirection

/-!
# Simple commands

A simple command is a row of words, with variables to set and redirections. First its words are
expanded, then its redirections, then the values of its variables; then what its first word stands
for is run: a command of the shell, a function or a program. Without words the variables are set for
good; with words they are set for the command alone, unless it is one of the special commands of the
shell.
-/

namespace BenchRelay.Shell

/-- What the first words of a simple command say. -/
structure Addressed where
  /-- The fields of the words that were expanded, from the name of the command on. -/
  fields : List Text
  /-- All fields, with the commands in front that only say how to look for the name. -/
  shown : List Text
  /-- The words that were not expanded. -/
  rest : List Word
  /-- What the name stands for; nothing if a program is to be looked for. -/
  found? : Option Found := none
  /-- Whether a command of the shell stands in front, and whether it is a special one. -/
  isSpecial? : Option Bool := none
  passesFunctions : Bool := false
  /-- Where programs are looked for. -/
  path? : Option Text := none

/-- What options in front of the name of a command say. -/
inductive Prefixed where
  /-- The fields from the name on, the words that were not expanded, and where programs are looked
  for. -/
  | named (fields : List Text) (rest : List Word) (path? : Option Text)
  /-- There is no name, or it is not to be run. -/
  | unnamed (fields : List Text) (rest : List Word)

namespace Action

/-- Note the number of the line that messages name. -/
def setLine (line : Nat) : Action Unit := change fun memory => { memory with line }

/-- Expand words up to the first one that gives any fields. -/
def someFields (substitute : Command → Action Text) : List Word → Action (List Text × List Word)
  | [] => return ([], [])
  | word :: rest => do
    let fields ← expandToFields substitute word
    if fields.isEmpty then someFields substitute rest else return (fields, rest)

/-- Read options behind the field of a command that only says how to look for a name: the fields
behind it, and whether all of them were looked at. -/
def prefixOptions (substitute : Command → Action Text) (fuel : Nat) (path? : Option Text)
    (seen fields : List Text) (rest : List Word) : Action Prefixed := do
  match fuel with
  | 0 => return .unnamed (seen ++ fields) rest
  | fuel + 1 =>
    match fields with
    | [] =>
      let (more, rest) ← someFields substitute rest
      if more.isEmpty then return .unnamed seen rest
      prefixOptions substitute fuel path? seen more rest
    | ['-', '-'] :: behind =>
      match behind with
      | _ :: _ => return .named behind rest path?
      | [] =>
        let (more, rest) ← someFields substitute rest
        if more.isEmpty then return .unnamed (seen ++ fields) rest
        return .named more rest path?
    | ('-' :: c :: letters) :: behind =>
      if (c :: letters).all (· == 'p') then
        prefixOptions substitute fuel (some standardPath) (seen ++ ['-' :: c :: letters]) behind
          rest
      else return .unnamed (seen ++ fields) rest
    | fields => return .named fields rest path?

/-- Find out what the name of a command stands for, behind the commands in front that only say how
to look for it. -/
def address (substitute : Command → Action Text) : (fuel : Nat) → Addressed → Action Addressed
  | 0, addressed => return addressed
  | fuel + 1, addressed => do
    let name := addressed.fields.head?.getD []
    let found? ← findInShell addressed.passesFunctions name
    let addressed := { addressed with found? }
    match found? with
    | some (.builtin _) =>
      let isSpecial := addressed.isSpecial?.getD (isSpecialBuiltin name)
      let addressed := { addressed with isSpecial? := some isSpecial }
      if name ≠ "command".toList then return addressed
      let limit := addressed.fields.length + addressed.rest.length + 2
      match ← prefixOptions substitute limit addressed.path? [] addressed.fields.tail
        addressed.rest with
      | .unnamed fields rest =>
        let fields := name :: fields
        let isFirst := addressed.shown.length = addressed.fields.length
        let shown := if isFirst then fields
          else addressed.shown.take (addressed.shown.length - addressed.fields.length) ++ fields
        return { addressed with fields, shown, rest }
      | .named fields rest path? =>
        let before := addressed.shown.take (addressed.shown.length - addressed.fields.length)
        address substitute fuel
          { addressed with
            fields
            shown := before ++ name :: fields
            rest
            path?
            passesFunctions := true }
    | _ => return addressed

/-- The fields that words give for a command, of which some were expanded. -/
def moreFields (substitute : Command → Action Text) (addressed : Addressed) :
    Action (List Text) := do
  let takes := match addressed.found? with
    | some (.builtin name) => takesAssignments name
    | _ => false
  let fields ← addressed.rest.mapM fun word =>
    if takes then expandDeclared substitute word else expandToFields substitute word
  return fields.flatten

/-- The text in front of a traced command. -/
def traceStart (substitute : Command → Action Text) : Action Text := do
  let text := (← valueOf "PS4".toList).getD []
  if !text.any ("$`\\".toList.contains ·) then return text
  let read := Read.readText (Read.readSubstitution Read.fuel) { line? := none } true
  match read.run { excerpts := [{ rest := text }], nextNumber := ← fromMemory Memory.nextText } with
  | .error _ _ => return text
  | .ok word _ =>
    change fun memory => { memory with isTracing := true }
    let shown ← expandQuoted substitute word
    change fun memory => { memory with isTracing := false }
    return shown

/-- Show a command before it runs, where a descriptor led to before. -/
def trace (substitute : Command → Action Text) (errors? : Option Nat) (fields : List Text) :
    Action Unit := do
  let memory ← fromMemory id
  if memory.options.contains 'x' && !memory.isTracing then
    let start ← traceStart substitute
    let former ← former [2]
    giveBackDescriptors [(2, errors?)]
    tell (start ++ Text.join [' '] fields ++ ['\n'])
    giveBackDescriptors former

/-- Run a command of the shell: its exit code. An error ends more than the command only if it stands
for itself and is a special one. -/
def runBuiltin (run : Evaluator) (isTested isSpecial : Bool) (name : Text)
    (arguments : List Text) : Action Nat := do
  let speaker? ← fromMemory Memory.speaker?
  change fun memory => { memory with speaker? := some name }
  let tidy : Action Unit :=
    change fun memory => { memory with speaker?, buffer := [], outputError? := none }
  try
    let status ← Builtin.run run isTested name arguments
    flush
    let failed := (← fromMemory Memory.outputError?).isSome
    if failed then complain (name ++ ": I/O error".toList)
    setStatus (if failed then status ||| 1 else status)
    tidy
  catch stop =>
    tidy
    unless stop = .error && !isSpecial do throw stop
  fromMemory Memory.status

/-- How many functions may be in use within each other. -/
def depthLimit : Nat := 1000

/-- Call a function. -/
def callFunction (run : Evaluator) (isTested : Bool) (body : Command) (arguments : List Text) :
    Action Nat := do
  let before ← fromMemory id
  if depthLimit ≤ before.depth then
    raise ("Maximum function recursion depth (".toList ++ Text.decimal depthLimit ++
      ") reached".toList)
  change fun memory =>
    { memory with
      positional := arguments
      optionWord := 1
      optionLetters? := none
      loops := 0
      depth := memory.depth + 1 }
  ensuring (do let _ ← run body { isTested }) (change fun memory =>
    { memory with
      positional := before.positional
      optionWord := before.optionWord
      optionLetters? := before.optionLetters?
      loops := before.loops
      depth := before.depth
      skip := match memory.skip with
        | .returning | .returningLast => .nothing
        | skip => skip })
  fromMemory Memory.status

/-- Run a program that words name, in the place of the shell or in a process of its own. -/
def runWords (run : Evaluator) (inPlace : Bool) (path? : Option Text) (words : List Text) :
    Action Nat := do
  if inPlace && !(← hasTraps) then execute run path? words
  else awaited (← runCopy run id (execute run path? words))

/-- Run what a command stands for: its exit code. -/
def runFound (run : Evaluator) (position : Position) (addressed : Addressed) (fields : List Text) :
    Action Nat := do
  match fields with
  | [] =>
    let status ← fromMemory Memory.substituted
    setStatus status
    return status
  | name :: arguments =>
    match addressed.found? with
    | some (.builtin name) =>
      runBuiltin run position.isTested (addressed.isSpecial? = some true) name arguments
    | some (.function _ body) => callFunction run position.isTested body arguments
    | some (.program _) => runWords run position.isLast addressed.path? fields
    | _ =>
      match ← trackedProgram addressed.path? name with
      | .ok _ => runWords run position.isLast addressed.path? fields
      | .error error =>
        complain (name ++ ": ".toList ++ error.commandMessage)
        setStatus 127
        return 127

/-- Set the variables of a command: what was set, as it is shown. -/
def setVariables (substitute : Command → Action Text) (isLocal exports : Bool) :
    List (Text × Word) → Action (List Text)
  | [] => return []
  | (name, word) :: rest => do
    let value ← expandAssigned substitute word
    if isLocal then assignLocally name (some value) { exported := true }
    else assign name (some value) { exported := exports }
    return (name ++ '=' :: value) :: (← setVariables substitute isLocal exports rest)

/-- How many commands in front may say how to look for a name. -/
def prefixLimit : Nat := 10000

/-- Run a simple command: its exit code. -/
def simple (run : Evaluator) (substitute : Command → Action Text) (position : Position)
    (assignments : List (Text × Word)) (words : List Word) (redirections : List Redirect) :
    Action Nat := do
  change fun memory => { memory with substituted := 0 }
  let (fields, rest) ← someFields substitute words
  let addressed ←
    if fields.isEmpty then pure { fields, shown := fields, rest }
    else address substitute prefixLimit { fields, shown := fields, rest }
  let more ← moreFields substitute addressed
  let fields := addressed.fields ++ more
  let isSpecial := addressed.isSpecial? = some true
  let isLocal := !fields.isEmpty && !isSpecial
  let isExec := match addressed.found? with
    | some (.builtin name) => name = "exec".toList
    | _ => false
  let body : Action Nat := do
    let targets ← redirections.mapM (target substitute)
    let former ← former (targets.map Prod.fst)
    let errors? ← fromMemory fun memory => memory.descriptors.lookup 2
    let inside : Action Nat := do
      if ← redirects substitute targets then
        let set ← setVariables substitute isLocal (isExec && fields.length > 1) assignments
        trace substitute errors? (set ++ addressed.shown ++ more)
        runFound run position addressed fields
      else
        setStatus errorStatus
        if isSpecial then throw .error
        return errorStatus
    if isExec then
      let status ← try inside catch stop =>
        giveBackDescriptors former
        throw stop
      return status
    else ensuring inside (giveBackDescriptors former)
  if isLocal then inScope body else body

end Action

end BenchRelay.Shell
