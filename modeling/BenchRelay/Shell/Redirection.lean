import BenchRelay.Shell.Expansion
import BenchRelay.Shell.Process

/-!
# Redirections

The words in redirections are expanded before any of them takes effect; texts within the script are
expanded as their turn comes. What descriptors led to before is noted, to be given back behind the
command.
-/

namespace BenchRelay.Shell

/-- Where a descriptor is to lead to. -/
inductive Target where
  | file (access : Access) (path : Text)
  /-- Where another descriptor leads to, or nowhere. -/
  | copy (source? : Option Nat)
  | text (number : Nat)

/-- What descriptors led to, if anywhere. -/
abbrev Former := List (Nat × Option Nat)

namespace Action

/-- The target that the word behind a copying sign says. -/
def copyTarget (text : Text) : Action Target := do
  match text with
  | ['-'] => return .copy none
  | [c] =>
    if c.isDigit then return .copy (some (c.toNat - '0'.toNat))
    else raise "Syntax error: Bad fd number".toList
  | _ => raise "Syntax error: Bad fd number".toList

/-- Expand the word of a redirection: the descriptor and its target. -/
def target (substitute : Command → Action Text) : Redirect → Action (Nat × Target)
  | .file descriptor access path => do
    return (descriptor, .file access (← expandToText substitute path))
  | .copy descriptor source? => return (descriptor, .copy source?)
  | .copyNamed descriptor source => do
    return (descriptor, ← copyTarget (← expandToText substitute source))
  | .hereText descriptor number => return (descriptor, .text number)

/-- Whether a path leads to a file that must not be written anew. -/
def isClobbered (access : Access) (path : Text) : Action Bool := do
  if access = .write && (← isSet 'C') then
    match (← files).find? (toText path) with
    | some (.file _) => return true
    | some (.program _) => return true
    | _ => return false
  else return false

/-- Open the file of a redirection. -/
def openTarget (access : Access) (path : Text) : Action Nat := do
  let cannot (error : OpenError) : Action Nat :=
    let creating := access.creates
    raise ((if creating then "cannot create ".toList else "cannot open ".toList) ++ path ++
      ": ".toList ++ error.shellMessage creating)
  if ← isClobbered access path then cannot .exists
  else match ← openPath path access with
    | .ok number => return number
    | .error error => cannot error

/-- Open a text to be read. -/
def openText (text : Text) : Action Nat := do
  let (_, read) ← openPipe
  match ← observe (·.openFiles[read]?) with
  | some { channel := .pipe pipe, .. } =>
    changePipe pipe fun pipe => { pipe with unread := text }
  | _ => pure ()
  return read

/-- Let a descriptor lead to its target. -/
def redirect (substitute : Command → Action Text) (descriptor : Nat) : Target → Action Unit
  | .file access path => do lead descriptor (← openTarget access path)
  | .copy none =>
    change fun memory => { memory with descriptors := memory.descriptors.close descriptor }
  | .copy (some source) => do
    unless source = descriptor do
      match (← fromMemory Memory.descriptors).lookup source with
      | some number => lead descriptor number
      | none => raise (Text.decimal source ++ ": Bad file descriptor".toList)
  | .text number => do
    let word := ((← fromMemory Memory.hereTexts).lookup number).getD []
    lead descriptor (← openText (← expandQuoted substitute word))

/-- What descriptors lead to. -/
def former (descriptors : List Nat) : Action Former := do
  let current ← fromMemory Memory.descriptors
  return descriptors.map fun descriptor => (descriptor, current.lookup descriptor)

/-- Let descriptors lead where they led to. -/
def giveBackDescriptors (former : Former) : Action Unit :=
  for (descriptor, file?) in former do
    match file? with
    | some file => lead descriptor file
    | none =>
      change fun memory => { memory with descriptors := memory.descriptors.close descriptor }

/-- Let descriptors lead to their targets, one after the other. -/
def redirectAll (substitute : Command → Action Text) (targets : List (Nat × Target)) :
    Action Unit :=
  targets.forM fun (descriptor, target) => redirect substitute descriptor target

/-- Let descriptors lead to their targets: whether that went well. -/
def redirects (substitute : Command → Action Text) (targets : List (Nat × Target)) :
    Action Bool := do
  try
    redirectAll substitute targets
    return true
  catch
    | .error => return false
    | stop => throw stop

end Action

end BenchRelay.Shell
