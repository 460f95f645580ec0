import BenchRelay.Shell.Stream

/-!
# Options of commands

The options of a command of the shell are letters behind a dash, in one word or several; a letter
may take what is behind it in the word, or the next word, for its argument. Two dashes end the
options.
-/

namespace BenchRelay.Shell

/-- The options of a command and the arguments behind them. -/
structure Chosen where
  /-- The letters, with their arguments if they take any. -/
  letters : List (Char × Text) := []
  arguments : List Text

namespace Chosen

/-- Whether a letter is among the options. -/
def has (chosen : Chosen) (letter : Char) : Bool := chosen.letters.any (·.1 == letter)

/-- The argument of a letter, where it was given last. -/
def argument? (chosen : Chosen) (letter : Char) : Option Text :=
  chosen.letters.reverse.lookup letter

end Chosen

/-- Whether a letter is allowed, and whether it takes an argument, by a text of the allowed letters
with colons behind those that do. -/
def allowed? (letters : Text) (letter : Char) : Option Bool :=
  match letters with
  | [] => none
  | c :: ':' :: rest => if c = letter then some true else allowed? rest letter
  | c :: rest => if c = letter then some false else allowed? rest letter

namespace Action

/-- Read options, within a word behind its dash if there is one. -/
def optionsFrom (letters : Text) :
    (fuel : Nat) → List (Char × Text) → Option Text → List Text → Action Chosen
  | 0, seen, _, arguments => return { letters := seen.reverse, arguments }
  | fuel + 1, seen, some (letter :: rest), arguments => do
    match allowed? letters letter with
    | none => raise ("Illegal option -".toList ++ [letter])
    | some false => optionsFrom letters fuel ((letter, []) :: seen) (some rest) arguments
    | some true =>
      match rest, arguments with
      | [], [] => raise ("No arg for -".toList ++ letter :: " option".toList)
      | [], argument :: arguments =>
        optionsFrom letters fuel ((letter, argument) :: seen) none arguments
      | rest, arguments => optionsFrom letters fuel ((letter, rest) :: seen) none arguments
  | fuel + 1, seen, _, arguments =>
    match arguments with
    | ['-', '-'] :: arguments => return { letters := seen.reverse, arguments }
    | ('-' :: c :: rest) :: arguments =>
      optionsFrom letters fuel seen (some (c :: rest)) arguments
    | arguments => return { letters := seen.reverse, arguments }

/-- Read the options of a command by the letters that it knows. -/
def options (letters : String) (arguments : List Text) : Action Chosen :=
  let fuel := 2 * (arguments.map (List.length · + 2)).foldr (· + ·) 0 + 2
  optionsFrom letters.toList fuel [] none arguments

/-- Read no options: the arguments. -/
def noOptions (arguments : List Text) : Action (List Text) := do
  return (← options "" arguments).arguments

end Action

end BenchRelay.Shell
