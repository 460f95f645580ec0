import BenchRelay.Shell.Stream

/-!
# Variables and parameters

A variable may be exported to programs and may be read-only; it keeps both when its value changes.
What a command or a function changes for itself is noted in a scope, and given back at its end.
Parameters are the variables, the positional parameters and some that the shell has by itself.
-/

namespace BenchRelay.Shell

/-- What an assignment does to a variable beside giving it a value. -/
structure Marking where
  exported : Bool := false
  readOnly : Bool := false
  kept : Bool := false

namespace Memory

/-- The variable of a name. -/
def entry? (memory : Memory) (name : Text) : Option Variable := memory.entries.lookup name

/-- The value of the variable of a name. -/
def value? (memory : Memory) (name : Text) : Option Text :=
  (memory.entry? name).bind Variable.value?

/-- The variables with one of them replaced or added. -/
def putVariable (name : Text) (entry : Variable) :
    List (Text × Variable) → List (Text × Variable)
  | [] => [(name, entry)]
  | (other, old) :: rest =>
    if other = name then (name, entry) :: rest
    else (other, old) :: putVariable name entry rest

/-- Set a variable. -/
def setVariable (memory : Memory) (name : Text) (entry : Variable) : Memory :=
  { memory with entries := putVariable name entry memory.entries }

/-- Take a variable away. -/
def removeVariable (memory : Memory) (name : Text) : Memory :=
  { memory with entries := memory.entries.filter (·.1 ≠ name) }

/-- The characters that separate fields. -/
def separators (memory : Memory) : Text := (memory.value? "IFS".toList).getD defaultSeparators

/-- Where programs are looked for. -/
def searchPath? (memory : Memory) : Option Text := memory.value? "PATH".toList

/-- The group of a name among so many groups, in which names are kept. -/
def group (count : Nat) (name : Text) : Nat :=
  let first := (name.head?.map Char.toNat).getD 0
  (first * 16 + (name.map Char.toNat).foldr (· + ·) 0) % count

/-- Named things, group by group. -/
def grouped {α : Type} (count : Nat) (name : α → Text) (all : List α) : List α :=
  (List.range count).flatMap fun number => all.filter fun a => group count (name a) = number

/-- How many groups there are of variables and of aliases. -/
def groupCount : Nat := 39

/-- The variables that programs see, group by group. -/
def environment (memory : Memory) : List (Text × Text) :=
  let seen := memory.entries.filterMap fun (name, entry) =>
    if entry.exported then entry.value?.map (name, ·) else none
  grouped groupCount Prod.fst seen

/-- The letters of the options that are set. -/
def optionLetters (memory : Memory) : Text :=
  "pubaCEVvxsnmiIfe".toList.filter memory.options.contains

end Memory

namespace Action

/-- The value of a variable. -/
def valueOf (name : Text) : Action (Option Text) := fromMemory fun memory => memory.value? name

/-- Begin reading the options of a script anew, from the word that a text says. -/
def restartOptions (text : Text) : Action Unit := do
  let word ← count text
  change fun memory =>
    { memory with optionWord := if word = 0 then 1 else word, optionLetters? := none }

/-- Note what a new value of a variable means to the shell itself. -/
def noteChange (name : Text) (value? : Option Text) : Action Unit := do
  if name = "OPTIND".toList then restartOptions (value?.getD ['1'])
  if name = "PATH".toList then change fun memory => { memory with tracked := [] }

/-- Give a variable a value or take it away, and mark it; `notes` says whether the shell itself
takes note. -/
def assignWith (notes : Bool) (name : Text) (value? : Option Text) (marking : Marking) :
    Action Unit := do
  let memory ← fromMemory id
  let exported := marking.exported || memory.options.contains 'a'
  let marked := exported || marking.readOnly || marking.kept
  match memory.entry? name with
  | some old =>
    if old.readOnly then raise (name ++ ": is read only".toList)
    if notes then noteChange name value?
    if value?.isNone && !marked && !old.kept then
      change fun memory => memory.removeVariable name
    else
      change fun memory => memory.setVariable name
        { value?
          exported := exported || old.exported
          readOnly := marking.readOnly
          kept := marking.kept || old.kept }
  | none =>
    if value?.isSome || marked then
      change fun memory => memory.setVariable name
        { value?, exported, readOnly := marking.readOnly, kept := marking.kept }

/-- Give a variable a value or take it away, and mark it. -/
def assign (name : Text) (value? : Option Text) (marking : Marking) : Action Unit :=
  assignWith true name value? marking

/-- Stop unless a text is a name. -/
def checkName (name : Text) : Action Unit := do
  unless isName name do raise (name ++ ": bad variable name".toList)

/-- Give the variable of a text a value, provided that the text is a name. -/
def assignNamed (name : Text) (value? : Option Text) (marking : Marking) : Action Unit := do
  checkName name
  assign name value? marking

/-- Give a variable a value. -/
def giveValue (name value : Text) : Action Unit := assignNamed name (some value) {}

/-- Note in the innermost scope what a variable is, to be given back later. -/
def save (name : Text) : Action Unit :=
  change fun memory =>
    match memory.scopes with
    | [] => memory
    | scope :: scopes =>
      let saved : Saved := { name, entry? := memory.entry? name }
      { memory with scopes := { scope with saved := saved :: scope.saved } :: scopes }

/-- Change a variable in the innermost scope alone. -/
def assignLocally (name : Text) (value? : Option Text) (marking : Marking) : Action Unit := do
  let known := (← fromMemory fun memory => memory.entry? name).isSome
  if known then
    save name
    change fun memory =>
      match memory.entry? name with
      | some entry => memory.setVariable name { entry with kept := true }
      | none => memory
    if value?.isSome then assign name value? marking
  else
    if value?.isNone then checkName name
    save name
    assign name value? { marking with kept := true }

/-- Give back what a variable was. -/
def giveBack (saved : Saved) : Action Unit := do
  match saved.entry? with
  | none =>
    change fun memory => memory.removeVariable saved.name
  | some entry => change fun memory => memory.setVariable saved.name entry
  let value? := saved.entry?.bind Variable.value?
  noteChange saved.name (if saved.name = "OPTIND".toList then value?.filter (count? · |>.isSome)
    else value?)

/-- Begin a scope. -/
def openScope : Action Unit :=
  change fun memory => { memory with scopes := {} :: memory.scopes }

/-- End the innermost scope. -/
def closeScope : Action Unit := do
  match ← fromMemory Memory.scopes with
  | [] => return
  | scope :: scopes =>
    change fun memory => { memory with scopes }
    scope.saved.forM giveBack
    match scope.options? with
    | some options => change fun memory => { memory with options }
    | none => return

/-- Do something in a scope of its own. -/
def inScope {α : Type} (body : Action α) : Action α := do
  openScope
  ensuring body closeScope

/-- The positional parameters as one text with a separator between them. -/
def joined (separator : Text) : Action Text := do
  return Text.join separator (← fromMemory Memory.positional)

/-- The value of the parameter of a name that is none of a list of parameters. -/
def parameter? (name : Text) : Action (Option Text) := do
  let memory ← fromMemory id
  match name with
  | ['$'] => return some (Text.decimal memory.mainProcess)
  | ['?'] => return some (Text.decimal memory.status)
  | ['#'] => return some (Text.decimal memory.positional.length)
  | ['!'] => return memory.lastJob?.map Text.decimal
  | ['-'] => return some memory.optionLetters
  | name =>
    if name.all Char.isDigit then
      let number := ofDigits 10 name
      return if number = 0 then some memory.name else memory.positional[number - 1]?
    else return memory.value? name

end Action

end BenchRelay.Shell
