import BenchRelay.Shell.Builtin.Options
import BenchRelay.Shell.Search

/-!
# Commands about names

Aliases, and what a name stands for as a command.
-/

namespace BenchRelay.Shell.Builtin

open Shell.Action

/-- An alias as a script would have to set it. -/
def aliasLine (name value : Text) : Text := name ++ '=' :: singleQuoted value ++ ['\n']

/-- The aliases with one of them replaced or added. -/
def putAlias (name value : Text) : List (Text × Text) → List (Text × Text)
  | [] => [(name, value)]
  | (other, old) :: rest =>
    if other = name then (name, value) :: rest else (other, old) :: putAlias name value rest

/-- Set aliases and print them. -/
def «alias» (arguments : List Text) : Action Nat := do
  if arguments.isEmpty then
    for (name, value) in Memory.grouped Memory.groupCount Prod.fst (← fromMemory Memory.aliases) do
      print (aliasLine name value)
    return 0
  else
    let mut status := 0
    for argument in arguments do
      match argument with
      | [] =>
        tell "alias:  not found\n".toList
        status := 1
      | c :: rest =>
        match rest.dropWhile (· ≠ '=') with
        | _ :: value =>
          let name := c :: rest.takeWhile (· ≠ '=')
          change fun memory => { memory with aliases := putAlias name value memory.aliases }
        | [] =>
          match (← fromMemory Memory.aliases).lookup argument with
          | some value => print (aliasLine argument value)
          | none =>
            tell ("alias: ".toList ++ argument ++ " not found\n".toList)
            status := 1
    return status

/-- Take away aliases. -/
def unalias (arguments : List Text) : Action Nat := do
  let chosen ← options "a" arguments
  if chosen.has 'a' then
    change fun memory => { memory with aliases := [] }
    return 0
  let mut status := 0
  for name in chosen.arguments do
    if ((← fromMemory Memory.aliases).lookup name).isSome then
      change fun memory => { memory with aliases := memory.aliases.filter (·.1 ≠ name) }
    else
      tell ("unalias: ".toList ++ name ++ " not found\n".toList)
      status := 1
  return status

/-- Print what a name stands for, in words or as a command would have to be said, and give an exit
code. -/
def describe (inWords : Bool) (path? : Option Text) (name : Text) : Action Nat := do
  let say (words short : Text) : Action Nat := do
    print ((if inWords then name ++ words else short) ++ ['\n'])
    return 0
  if (reserved? name).isSome then return ← say " is a shell keyword".toList name
  match (← fromMemory Memory.aliases).lookup name with
  | some value =>
    if inWords then say (" is an alias for ".toList ++ value) []
    else
      print ("alias ".toList ++ aliasLine name value)
      return 0
  | none =>
    let isTracked := path?.isNone && (← tracked? name).isSome
    match ← find false path? name with
    | .builtin _ =>
      let special := if isSpecialBuiltin name then "special " else ""
      say (" is a ".toList ++ special.toList ++ "shell builtin".toList) name
    | .function _ _ => say " is a shell function".toList name
    | .program path =>
      if ((← files).find? (toText path)).isSome then
        say ((if isTracked then " is a tracked alias for " else " is ").toList ++ path) path
      else missing
    | .nothing _ => missing
where
  /-- Say that a name stands for nothing. -/
  missing : Action Nat := do
    if inWords then print (name ++ ": not found\n".toList)
    return 127

/-- Say what names stand for. -/
def type (arguments : List Text) : Action Nat := do
  let mut status := 0
  for name in arguments do
    let described ← describe true none name
    if status = 0 then status := described
  return status

/-- How many groups there are of programs that were found. -/
def trackedGroups : Nat := 31

/-- Remember where programs are, or forget it, or print what is remembered. -/
def hash (arguments : List Text) : Action Nat := do
  let chosen ← options "r" arguments
  if chosen.has 'r' then
    change fun memory => { memory with tracked := [] }
    return 0
  if chosen.arguments.isEmpty then
    for known in Memory.grouped trackedGroups Tracked.name (← fromMemory Memory.tracked) do
      print (known.path ++ if known.isStale then ['*', '\n'] else ['\n'])
    return 0
  let mut status := 0
  for name in chosen.arguments do
    change fun memory => { memory with tracked := memory.tracked.filter (·.name ≠ name) }
    match ← find false none name with
    | .nothing error =>
      complain (name ++ ": ".toList ++ error.commandMessage)
      status := 1
    | _ => pure ()
  return status

end BenchRelay.Shell.Builtin
