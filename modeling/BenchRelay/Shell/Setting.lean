import BenchRelay.Text.Basic

/-!
# Options of a shell

An option of a shell has a name and most have a letter.
-/

namespace BenchRelay.Shell.Setting

/-- The names of the options and their letters. An option without a letter is kept under a letter
that no script can say. -/
def names : List (String × Char) :=
  [("errexit", 'e'), ("noglob", 'f'), ("ignoreeof", 'I'), ("interactive", 'i'), ("monitor", 'm'),
    ("noexec", 'n'), ("stdin", 's'), ("xtrace", 'x'), ("verbose", 'v'), ("vi", 'V'),
    ("emacs", 'E'), ("noclobber", 'C'), ("allexport", 'a'), ("notify", 'b'), ("nounset", 'u'),
    ("privileged", 'p'), ("nolog", '\x01'), ("debug", '\x02')]

/-- The letter that the option of a name is kept under. -/
def letter? (name : Text) : Option Char := names.lookup (String.ofList name)

/-- Whether a letter is that of an option. -/
def isLetter (c : Char) : Bool := ' ' < c && names.any (·.2 == c)

/-- The options with one of them set or not. -/
def put (options : List Char) (letter : Char) (isOn : Bool) : List Char :=
  let others := options.filter (· ≠ letter)
  let others := if isOn && letter = 'V' then others.filter (· ≠ 'E')
    else if isOn && letter = 'E' then others.filter (· ≠ 'V')
    else others
  if isOn then letter :: others else others

/-- A name filled up with blanks. -/
def padded (name : String) : Text := name.toList ++ List.replicate (16 - name.length) ' '

/-- All options and whether they are set. -/
def table (options : List Char) : Text :=
  "Current option settings\n".toList ++ names.flatMap fun (name, letter) =>
    padded name ++ (if options.contains letter then "on\n" else "off\n").toList

/-- All options as a script would have to set them. -/
def commands (options : List Char) : Text :=
  names.flatMap fun (name, letter) =>
    (if options.contains letter then "set -o " else "set +o ").toList ++ name.toList ++ ['\n']

end BenchRelay.Shell.Setting
