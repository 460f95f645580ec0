import BenchRelay.Shell.Builtin.Options
import BenchRelay.Shell.Field
import BenchRelay.Shell.Glob
import BenchRelay.Shell.Setting
import BenchRelay.Shell.Variable

/-!
# Commands about variables and parameters

Marking variables, taking them away, keeping them within a function, setting options and positional
parameters, and reading values from arguments and from lines of input.
-/

namespace BenchRelay.Shell.Builtin

open Shell.Action

/-- A text cut at its first equals sign: a name, and a value if there is a sign. -/
def declared (text : Text) : Text × Option Text :=
  match text.dropWhile (· ≠ '=') with
  | _ :: value => (text.takeWhile (· ≠ '='), some value)
  | [] => (text, none)

/-- Print variables as a script would have to set them, behind a word for each. -/
def list (word : Text) (isShown : Variable → Bool) : Action Unit := do
  let entries := (← fromMemory Memory.entries).filter fun (_, entry) => isShown entry
  let lines := entries.map fun (name, entry) =>
    match entry.value? with
    | some value => name ++ '=' :: singleQuoted value
    | none => name
  let ordered := (entries.map Prod.fst |>.zip lines).mergeSort fun a b => Glob.isBefore a.1 b.1
  for (_, line) in ordered do
    print ((if word.isEmpty then [] else word ++ [' ']) ++ line ++ ['\n'])

/-- Mark variables, and set those that have a value. -/
def mark (word : String) (marking : Marking) (isMarked : Variable → Bool) (arguments : List Text) :
    Action Nat := do
  let chosen ← options "p" arguments
  if chosen.has 'p' || chosen.arguments.isEmpty then list word.toList isMarked
  else
    for argument in chosen.arguments do
      let (name, value?) := declared argument
      match value?, ← fromMemory fun memory => memory.entry? name with
      | none, some entry =>
        change fun memory => memory.setVariable name
          { entry with
            exported := entry.exported || marking.exported
            readOnly := entry.readOnly || marking.readOnly }
      | _, _ => assignNamed name value? marking
  return 0

/-- Let programs see variables. -/
def «export» (arguments : List Text) : Action Nat :=
  mark "export" { exported := true } Variable.exported arguments

/-- Let variables not be changed any more. -/
def readonly (arguments : List Text) : Action Nat :=
  mark "readonly" { readOnly := true } Variable.readOnly arguments

/-- Take away variables or functions. -/
def unset (arguments : List Text) : Action Nat := do
  let chosen ← options "vf" arguments
  let ofFunctions := (chosen.letters.getLast?.map Prod.fst) = some 'f'
  for name in chosen.arguments do
    if ofFunctions then
      change fun memory => { memory with functions := memory.functions.filter (·.1 ≠ name) }
    else assignNamed (declared name).1 none {}
  return 0

/-- Keep variables or options within the function at hand. -/
def «local» (arguments : List Text) : Action Nat := do
  if (← fromMemory Memory.scopes).isEmpty then raise "not in a function".toList
  for argument in arguments do
    if argument = ['-'] then
      change fun memory =>
        match memory.scopes with
        | scope :: scopes =>
          let options? := scope.options? <|> some memory.options
          { memory with scopes := { scope with options? } :: scopes }
        | [] => memory
    else
      let (name, value?) := declared argument
      assignLocally name value? {}
  return 0

/-- Set the positional parameters. -/
def setPositional (positional : List Text) : Action Unit :=
  change fun memory => { memory with positional, optionWord := 1, optionLetters? := none }

/-- Set an option or take it away. -/
def setOption (letter : Char) (isOn : Bool) : Action Unit := do
  change fun memory => { memory with options := Setting.put memory.options letter isOn }
  if letter = 'm' && isOn then
    complain "can't access tty; job control turned off".toList
    change fun memory => { memory with options := Setting.put memory.options letter false }

/-- Set the option of a name, or take it away. -/
def setNamedOption (name : Text) (isOn : Bool) : Action Unit := do
  match Setting.letter? name with
  | none => raise ("Illegal option -o ".toList ++ name)
  | some letter => setOption letter isOn

/-- Set the options of letters or take them away, where some take the next argument for a name: the
arguments left. -/
def setLetters (isOn : Bool) : (letters : Text) → List Text → Action (List Text)
  | [], arguments => return arguments
  | 'o' :: letters, arguments => do
    match arguments with
    | [] =>
      let options ← fromMemory Memory.options
      print (if isOn then Setting.table options else Setting.commands options)
      setLetters isOn letters []
    | name :: arguments =>
      setNamedOption name isOn
      setLetters isOn letters arguments
  | letter :: letters, arguments => do
    unless Setting.isLetter letter do raise ("Illegal option -".toList ++ [letter])
    setOption letter isOn
    setLetters isOn letters arguments

/-- Set options up to the first argument that is none: the arguments left, and whether they are to
become the positional parameters even if there are none. -/
def setOptions : (fuel : Nat) → List Text → Action (List Text × Bool)
  | 0, arguments => return (arguments, false)
  | fuel + 1, arguments => do
    match arguments with
    | ['-'] :: rest =>
      change fun memory =>
        { memory with options := memory.options.filter fun c => c ≠ 'x' && c ≠ 'v' }
      return (rest, false)
    | ['-', '-'] :: rest => return (rest, true)
    | ('-' :: letters) :: rest => setOptions fuel (← setLetters true letters rest)
    | ('+' :: letters) :: rest => setOptions fuel (← setLetters false letters rest)
    | arguments => return (arguments, false)

/-- Set options and positional parameters, or print all variables. -/
def set (arguments : List Text) : Action Nat := do
  if arguments.isEmpty then list [] fun entry => entry.value?.isSome
  else
    let (positional, inAnyCase) ← setOptions (arguments.length + 1) arguments
    if inAnyCase || !positional.isEmpty then setPositional positional
  return 0

/-- Drop positional parameters. -/
def shift (arguments : List Text) : Action Nat := do
  let n ← match arguments with
    | [] => pure 1
    | argument :: _ => count argument
  let positional ← fromMemory Memory.positional
  if positional.length < n then raise "can't shift that many".toList
  setPositional (positional.drop n)
  return 0

/-- What reading an option of a script finds. -/
structure OptionRead where
  /-- The letter, or a sign that says why there is none. -/
  letter : Char
  /-- What to do with the variable for arguments: nothing, or give it a value or take it away. -/
  argument? : Option (Option Text) := none
  /-- What is wrong. -/
  complaint? : Option Text := none
  /-- The word to go on with, counted from 1, and how many letters of the one before it are done. -/
  word : Nat
  letters? : Option Nat := none
  done : Bool := false

/-- Read the next option of a script behind the dash of a word: `rest` is what is left of it, of
which `seen` characters are done, and `word` the number of the next one. -/
def readLetter (letters : Text) (words : List Text) (word seen : Nat) (rest : Text) :
    OptionRead :=
  let silent := letters.head? = some ':'
  match rest with
  | [] => { letter := '?', word, done := true }
  | letter :: behind =>
    match allowed? letters letter with
    | none =>
      let letters? := some (seen + 1)
      if silent then { letter := '?', argument? := some (some [letter]), word, letters? }
      else
        { letter := '?'
          argument? := some none
          complaint? := some ("Illegal option -".toList ++ [letter])
          word
          letters? }
    | some false =>
      { letter, argument? := some (some []), word, letters? := some (seen + 1) }
    | some true =>
      match behind, words[word - 1]? with
      | [], none =>
        let letters? := some (seen + 1)
        if silent then { letter := ':', argument? := some (some [letter]), word, letters? }
        else
          { letter := '?'
            argument? := some none
            complaint? := some ("No arg for -".toList ++ letter :: " option".toList)
            word
            letters? }
      | [], some argument => { letter, argument? := some (some argument), word := word + 1 }
      | behind, _ => { letter, argument? := some (some behind), word }

/-- Read the next option of a script. -/
def readOption (letters : Text) (words : List Text) (word : Nat) (letters? : Option Nat) :
    OptionRead :=
  let current := (words[word - 2]?).getD []
  let inWord? := letters?.bind fun seen =>
    if word ≤ 1 || current.length ≤ seen then none else some (seen, current.drop seen)
  match inWord? with
  | some (seen, rest) => readLetter letters words word seen rest
  | none =>
    match words[word - 1]? with
    | some ['-', '-'] => { letter := '?', word := word + 1, done := true }
    | some ('-' :: c :: rest) => readLetter letters words (word + 1) 1 (c :: rest)
    | _ => { letter := '?', word, done := true }

/-- Read the next option of a script, or of arguments, into variables. -/
def getopts (arguments : List Text) : Action Nat := do
  let memory ← fromMemory id
  match ← noOptions arguments with
  | letters :: name :: given =>
    let words := if given.isEmpty then memory.positional else given
    let isOver := memory.optionWord > words.length + 1
    let word := if isOver then 1 else memory.optionWord
    let found := readOption letters words word (if isOver then none else memory.optionLetters?)
    match found.argument? with
    | some value? =>
      if value?.isNone then tell (found.complaint?.getD [] ++ ['\n'])
      assignNamed "OPTARG".toList value? {}
    | none => pure ()
    assignWith false "OPTIND".toList (some (Text.decimal found.word)) {}
    giveValue name [found.letter]
    change fun memory =>
      { memory with optionWord := found.word, optionLetters? := found.letters? }
    return if found.done then 1 else 0
  | _ => raise "Usage: getopts optstring var [arg...]".toList

/-- A line of input: its pieces, of which those behind backslashes are not cut, how many bytes it
takes and whether it was ended. -/
structure InputLine where
  pieces : List Piece
  size : Nat
  isWhole : Bool

/-- Read a line from a text, behind its pieces so far and the text of the piece at hand, the last
ones first; nothing if the text ends and may go on. -/
def inputLine (raw : Bool) : (text : Text) → List Piece → Text → (size : Nat) → InputLine
  | [], pieces, seen, size => finish pieces seen size false
  | '\n' :: _, pieces, seen, size => finish pieces seen (size + 1) true
  | '\x00' :: rest, pieces, seen, size => inputLine raw rest pieces seen (size + 1)
  | ['\\'], pieces, seen, size =>
    if raw then finish pieces ('\\' :: seen) (size + 1) false
    else finish pieces seen (size + 1) false
  | '\\' :: c :: rest, pieces, seen, size =>
    if raw then inputLine raw (c :: rest) pieces ('\\' :: seen) (size + 1)
    else
      let piece : Piece := { glyphs := glyphs seen.reverse false, cut := .atSeparators }
      let kept : Piece := { glyphs := glyphs [c] true, cut := .never }
      let pieces := if c = '\n' then piece :: pieces else kept :: piece :: pieces
      inputLine raw rest pieces [] (size + 2)
  | c :: rest, pieces, seen, size => inputLine raw rest pieces (c :: seen) (size + 1)
where
  /-- The line behind all its pieces. -/
  finish (pieces : List Piece) (seen : Text) (size : Nat) (isWhole : Bool) : InputLine :=
    let piece : Piece := { glyphs := glyphs seen.reverse false, cut := .atSeparators }
    { pieces := (piece :: pieces).reverse, size, isWhole }

/-- How many bytes of input are looked at for a line, at first and at most. -/
def lineSizes : List Nat := [256, 8192, 262144, deviceLimit]

/-- Read a line of input, looked for in so many bytes, and in more if it is not found there. -/
def takeLine (raw : Bool) : List Nat → Action InputLine
  | [] => return inputLine raw [] [] [] 0
  | limit :: limits => do
    match ← peek 0 limit with
    | .error _ => return inputLine raw [] [] [] 0
    | .ok text =>
      let line := inputLine raw text [] [] 0
      if line.isWhole || text.length < limit then
        skipRead 0 line.size
        return line
      else takeLine raw limits

/-- Give variables the fields of a line. -/
def setFields : List Text → List (List Glyph) → Action Unit
  | [], _ => return
  | name :: names, [] => do
    giveValue name []
    setFields names []
  | name :: names, field :: fields => do
    giveValue name (textOf field)
    setFields names fields

/-- Read a line of input into variables. -/
def read (arguments : List Text) : Action Nat := do
  let chosen ← options "p:r" arguments
  if chosen.arguments.isEmpty then raise "arg count".toList
  spend
  let line ← takeLine (chosen.has 'r') lineSizes
  let separators ← fromMemory Memory.separators
  setFields chosen.arguments
    (splitFields separators (some chosen.arguments.length) line.pieces)
  return if line.isWhole then 0 else 1

end BenchRelay.Shell.Builtin
