import BenchRelay.Shell.Program.Basic

/-!
# Parts of files

Programs that print the start or the end of files, or count what is in them.
-/

namespace BenchRelay.Shell.Program

open Shell.Action

/-- Which part of a file is printed. -/
structure Portion where
  /-- Whether bytes are counted, and not lines. -/
  bytes : Bool := false
  count : Nat := 10
  /-- Whether the count says what is not printed, or in front of what printing begins. -/
  reversed : Bool := false
  paths : List Text := []

namespace Portion

/-- Take a count of bytes or lines, and the sign in front of it that reverses it. -/
def counting (given : Portion) (bytes : Bool) (sign : Char) (count : Text) : Portion :=
  match count with
  | c :: rest =>
    if c = sign then { given with bytes, count := ofDigits 10 rest, reversed := true }
    else
      let digits := if c = '+' || c = '-' then rest else count
      { given with bytes, count := ofDigits 10 digits, reversed := false }
  | [] => given

/-- Read the options of a program that prints a part of files. -/
def read (sign : Char) (given : Portion) : List Text → Portion
  | [] => { given with paths := given.paths.reverse }
  | ['-', 'n'] :: count :: rest => read sign (given.counting false sign count) rest
  | ['-', 'c'] :: count :: rest => read sign (given.counting true sign count) rest
  | ('-' :: 'n' :: count) :: rest => read sign (given.counting false sign count) rest
  | ('-' :: 'c' :: count) :: rest => read sign (given.counting true sign count) rest
  | ('-' :: c :: count) :: rest =>
    read sign (if c.isDigit then given.counting false sign (c :: count) else given) rest
  | path :: rest => read sign { given with paths := path :: given.paths } rest

end Portion

/-- A text cut behind each newline. -/
def linesOf (text : Text) : List Text :=
  text.foldr (fun c lines =>
    if c = '\n' then ['\n'] :: lines
    else match lines with
      | first :: rest => (c :: first) :: rest
      | [] => [[c]]) []

/-- Print a part of each file, behind its name if there are several. -/
def printParts (call : Invocation) (given : Portion) (part : {α : Type} → List α → List α) :
    Action Nat := do
  let (read, status) ← contents call (fun path =>
    "cannot open '".toList ++ path ++ "' for reading".toList) given.paths
  for (path, text) in read do
    if read.length > 1 then
      print ("==> ".toList ++ (if path = ['-'] then "standard input".toList else path) ++
        " <==\n".toList)
    print (if given.bytes then part text else (part (linesOf text)).flatten)
  close call status

/-- Print the start of files. -/
def head : Program := fun call =>
  let given := Portion.read '-' {} call.arguments
  printParts call given fun all =>
    if given.reversed then all.take (all.length - given.count) else all.take given.count

/-- Print the end of files. -/
def tail : Program := fun call =>
  let given := Portion.read '+' {} call.arguments
  printParts call given fun all =>
    if given.reversed then all.drop (given.count - 1) else all.drop (all.length - given.count)

/-- The words of a text. -/
def wordCount (text : Text) : Nat :=
  ((text.map fun c => if isSpace c then ' ' else c).splitOn ' ').countP (!·.isEmpty)

/-- The counts of a text that options ask for: lines, words and bytes. -/
def counts (options : Text) (text : Text) : List Nat :=
  let asked (c : Char) : Bool := options.isEmpty || options.contains c
  (if asked 'l' then [text.count '\n'] else []) ++
    (if asked 'w' then [wordCount text] else []) ++
    (if asked 'c' || options.contains 'm' then [text.length] else [])

/-- Print counts in columns, and a name. -/
def printCounts (width : Nat) (counts : List Nat) (name : Text) : Action Unit := do
  let columns := counts.map fun n =>
    let digits := Text.decimal n
    List.replicate (width - digits.length) ' ' ++ digits
  print (Text.join [' '] columns ++ (if name.isEmpty then [] else ' ' :: name) ++ ['\n'])

/-- Count the lines, words or bytes of files. -/
def wc : Program := fun call => do
  let isOption (argument : Text) : Bool := argument.head? = some '-' && argument.length > 1
  let options := ((call.arguments.filter isOption).flatMap (List.drop 1))
  let paths := call.arguments.filter (!isOption ·)
  let (read, status) ← contents call id paths
  let shown := read.map fun (path, text) =>
    (if paths.isEmpty then [] else path, counts options text)
  let total := shown.foldl (fun sums (_, counts) =>
    if sums.isEmpty then counts else sums.zipWith (· + ·) counts) []
  let single := total.length ≤ 1 && read.length ≤ 1
  let width :=
    if single then 0
    else if paths.isEmpty then 7
    else ((total.map fun n => (Text.decimal n).length).foldl max 1)
  for (path, counts) in shown do printCounts width counts path
  if paths.length > 1 then printCounts width total "total".toList
  close call status

end BenchRelay.Shell.Program
