import BenchRelay.Text.Basic

/-!
# What the command line prints about itself

The help text names the program as it was called, by the last name in the path that it was called
by. Control characters and the sequences that colour a terminal are left out of that name.
-/

namespace BenchRelay.CommandLine

/-- The program's own name. -/
def ownName : Text := "benchworker"

/-- The name that a path ends in, unless it ends in a step to a parent or has no name at all. -/
def lastName? (path : Text) : Option Text :=
  match ((path.splitOn '/').filter fun name => !(name.isEmpty || name == ['.'])).getLast? with
  | some name => if name = ['.', '.'] then none else some name
  | none => none

/-- The name that the program is called by. -/
def calledName (arguments : List Text) : Text :=
  (arguments.head?.bind lastName?).getD ownName

/-- Whether a character ends a sequence that colours a terminal. -/
def endsColouring (c : Char) : Bool := '@' ≤ c && c ≤ '~'

/-- Whether a character is shown, or sets the place of what is shown next. -/
def isShown (c : Char) : Bool := ' ' ≤ c || "\t\n\x0c\r".toList.contains c

/-- A text less control characters and the sequences that colour a terminal, within such a sequence
or not. -/
def shownFrom (colouring : Bool) : Text → Text
  | [] => []
  | '\x1b' :: '[' :: rest => shownFrom true rest
  | c :: rest =>
    if colouring then shownFrom (!endsColouring c) rest
    else if isShown c then c :: shownFrom false rest
    else shownFrom false rest

/-- The lines of the help text behind the usage. -/
def helpLines : List String :=
  ["",
    "Arguments:",
    "  [COMMAND]...  Payload command and arguments, overriding [payload] in the config",
    "",
    "Options:",
    "  -c, --config <PATH>    Config file (default: <config dir>/benchworker/config.toml)",
    "      --once             Run the benchmark once immediately instead of waiting for run " ++
      "signals on stdin",
    "      --chunk-bytes <N>  Bytes per read from the payload's stdout",
    "  -h, --help             Print help",
    "  -V, --version          Print version"]

/-- What the program is for. -/
def purpose : Text :=
  "Run a benchmark payload and forward its output line by line as JSON messages"

/-- How the program of a name is called. -/
def usage (name : Text) : Text :=
  "Usage: ".toList ++ shownFrom false name ++ " [OPTIONS] [-- <COMMAND>...]"

/-- The help text of the program under a name. -/
def help (name : Text) : Text :=
  let lines := purpose :: [] :: usage name :: helpLines.map String.toList
  lines.flatMap (· ++ ['\n'])

/-- The program's name and version. -/
def version : Text := ownName ++ " 0.1.0\n".toList

end BenchRelay.CommandLine
