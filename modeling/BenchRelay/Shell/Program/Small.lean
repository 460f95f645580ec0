import BenchRelay.Shell.Builtin.Condition
import BenchRelay.Shell.Format
import BenchRelay.Shell.Program.Cat
import BenchRelay.Shell.Program.Portion
import BenchRelay.Shell.Variable

/-!
# Small programs

Programs that print their arguments or a little more, that compare, count, and replace characters.
-/

namespace BenchRelay.Shell.Program

open Shell.Action

/-- Print arguments. -/
def echo : Program := fun call => do
  print (echoProgramText call.arguments)
  close call 0

/-- Print arguments by a format. -/
def printf : Program := fun call => do
  let arguments := match call.arguments with
    | ['-', '-'] :: rest => rest
    | arguments => arguments
  match arguments with
  | [] => refuse call "missing operand".toList
  | format :: arguments =>
    let result := Format.result .formatter format arguments
    for event in result.events do
      match event with
      | .printed text => print text
      | .complained wording => complain call wording
    match result.flaw? with
    | some flaw => complain call flaw
    | none => pure ()
    close call (if result.succeeded && result.flaw?.isNone then 0 else 1)

/-- Print the working directory, by the path of a variable if that leads there and is asked for. -/
def pwd : Program := fun call => do
  let files ← files
  let own := ofText (Files.pathOf files.workingDirectory)
  let path := match call.environment.lookup "PWD".toList with
    | some path =>
      let isDirect := !(path.splitOn '/').any fun name => name = ['.'] || name = ['.', '.']
      let isHere := (files.resolve (toText path)).toOption = some files.workingDirectory
      if call.arguments.contains ['-', 'L'] && Files.isAbsolute path && isDirect && isHere then path
      else own
    | none => own
  print (path ++ ['\n'])
  close call 0

/-- Judge a condition. -/
def test : Program := fun call => do
  let isBracket : Bool := call.name.getLast? = some '['
  if isBracket && call.arguments.getLast? ≠ some [']'] then
    complain call "missing ']'".toList
    return 2
  let words := (if isBracket then call.arguments.dropLast else call.arguments).map fun word =>
    if word = ['=', '='] then ['='] else word
  match Condition.judge (← files) words with
  | .ok holds => return if holds then 0 else 1
  | .error flaw =>
    complain call flaw.message
    return 2

/-- Print a sequence of integers. -/
def seq : Program := fun call => do
  let list (first step last : Int) : Action Nat := do
    if step = 0 then refuse call "invalid Zero increment value: '0'".toList
    else
      let count := if step > 0 then (last - first) / step + 1 else (first - last) / (-step) + 1
      for i in List.range count.toNat do
        print (integerText (first + step * Int.ofNat i) ++ ['\n'])
      close call 0
  match call.arguments.mapM decimalInteger? with
  | some [last] => list 1 1 last
  | some [first, last] => list first 1 last
  | some [first, step, last] => list first step last
  | some [] => refuse call "missing operand".toList
  | _ => refuse call "invalid argument".toList

/-- How many bytes a program prints that would print for ever. -/
def endlessLimit : Nat := 9000000

/-- Print a line for ever. -/
def yes : Program := fun call => do
  let line := (if call.arguments.isEmpty then ['y'] else Text.join [' '] call.arguments) ++ ['\n']
  let block := (List.replicate (65536 / line.length + 1) line).flatten
  for _ in List.range (endlessLimit / block.length + 1) do
    unless ← writeOut call block do return 1
  return 0

/-- The last name in a path. -/
def lastName (path : Text) : Text :=
  let trimmed := (path.reverse.dropWhile (· == '/')).reverse
  if trimmed.isEmpty then (if path.isEmpty then [] else ['/'])
  else (trimmed.reverse.takeWhile (· ≠ '/')).reverse

/-- Print the last name in a path, less an ending. -/
def basename : Program := fun call => do
  match call.arguments with
  | [] => refuse call "missing operand".toList
  | path :: rest =>
    let name := lastName path
    let ending := rest.head?.getD []
    let name :=
      if ending.isSuffixOf name && ending ≠ name then name.take (name.length - ending.length)
      else name
    print (name ++ ['\n'])
    close call 0

/-- A path without its last name. -/
def parentPath (path : Text) : Text :=
  let trimmed := (path.reverse.dropWhile (· == '/')).dropWhile (· ≠ '/')
  let parent := (trimmed.dropWhile (· == '/')).reverse
  if parent.isEmpty then (if trimmed.isEmpty && path.head? ≠ some '/' then ['.'] else ['/'])
  else parent

/-- Print paths without their last names. -/
def dirname : Program := fun call => do
  if call.arguments.isEmpty then refuse call "missing operand".toList
  else
    for path in call.arguments do print (parentPath path ++ ['\n'])
    close call 0

/-- Print the environment, or the values of some variables. -/
def printenv : Program := fun call => do
  if call.arguments.isEmpty then
    for (name, value) in call.environment do print (name ++ '=' :: value ++ ['\n'])
    close call 0
  else
    let values := call.arguments.map fun name => call.environment.lookup name
    for value in values.filterMap id do print (value ++ ['\n'])
    close call (if values.all Option.isSome then 0 else 1)

/-- The characters from one to another. -/
def charRange (first last : Char) : Text :=
  (List.range (last.toNat + 1 - first.toNat)).map fun i => Char.ofNat (first.toNat + i)

/-- The classes of characters that have names. -/
def classes : List (String × Text) :=
  [("[:upper:]", charRange 'A' 'Z'), ("[:lower:]", charRange 'a' 'z'),
    ("[:digit:]", charRange '0' '9'), ("[:alpha:]", charRange 'A' 'Z' ++ charRange 'a' 'z'),
    ("[:alnum:]", charRange '0' '9' ++ charRange 'A' 'Z' ++ charRange 'a' 'z'),
    ("[:blank:]", ['\t', ' ']), ("[:space:]", ['\t', '\n', '\x0b', '\x0c', '\r', ' ']),
    ("[:punct:]", (charRange '!' '~').filter fun c => !c.isAlphanum)]

/-- The character at the start of a set, and what is left of the set. -/
def setMember : Text → Text × Text
  | [] => ([], [])
  | '\\' :: rest =>
    match upTo 8 3 rest with
    | some (n, rest) => ([Char.ofNat (n % 256)], rest)
    | none =>
      match rest with
      | [] => (['\\'], [])
      | c :: rest => ([((letterEscape? .printer c).filter fun _ => c ≠ 'e').getD c], rest)
  | c :: rest => ([c], rest)

/-- The characters that a set names. -/
def setOf : (fuel : Nat) → Text → Text
  | 0, _ => []
  | _ + 1, [] => []
  | fuel + 1, text =>
    match classes.findSome? fun (name, members) =>
        (Text.dropStart? (String.toList name) text).map (members, ·) with
    | some (members, rest) => members ++ setOf fuel rest
    | none =>
      match setMember text with
      | ([first], '-' :: last :: rest) =>
        match setMember (last :: rest) with
        | ([last], rest) => charRange first last ++ setOf fuel rest
        | (members, rest) => members ++ setOf fuel rest
      | (members, rest) => members ++ setOf fuel rest

/-- Replace the characters of a set by those at the same places in another one. -/
def replaced (complement : Bool) (first second : Text) (c : Char) : Char :=
  if complement then (if first.contains c then c else second.getLast?.getD c)
  else match first.reverse.idxOf? c with
    | none => c
    | some i => (second[first.length - 1 - i]?).getD (second.getLast?.getD c)

/-- Replace, delete or squeeze characters of the input. -/
def tr : Program := fun call => do
  let isOption (argument : Text) : Bool := argument.head? = some '-' && argument.length > 1
  let options := (call.arguments.takeWhile isOption).flatten
  let sets := (call.arguments.dropWhile isOption).map fun set => setOf (set.length + 1) set
  let complement := options.contains 'c' || options.contains 'C'
  match sets with
  | [] => refuse call "missing operand".toList
  | first :: rest =>
    match ← readAll 0 with
    | .error error => fail call ("read error: ".toList ++ error.message)
    | .ok input =>
      let isIn (c : Char) : Bool := first.contains c != complement
      let deletes := options.contains 'd'
      let output :=
        if deletes then input.filter (!isIn ·)
        else match rest.head? with
          | none => input
          | some second => input.map (replaced complement first second)
      let repeats (c : Char) : Bool := match rest.head? with
        | none => isIn c
        | some second => second.contains c
      let squeeze (c : Char) (later : Text) : Text :=
        if later.head? = some c && repeats c then later else c :: later
      let shown := if options.contains 's' then output.foldr squeeze [] else output
      print shown
      close call 0

/-- The thousandths of a second that an argument stands for. -/
def duration? (argument : Text) : Option Nat :=
  let unit := match argument.getLast? with
    | some 'm' => 60
    | some 'h' => 3600
    | some 'd' => 86400
    | _ => 1
  let digits := if argument.getLast?.any Char.isAlpha then argument.dropLast else argument
  match RealNumeral.digits? 10 digits with
  | some (n, places, []) => some (n * unit * 1000 / Nat.pow 10 places)
  | _ => none

end BenchRelay.Shell.Program
