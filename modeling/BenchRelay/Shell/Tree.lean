import BenchRelay.Text.Basic

/-!
# Shell scripts

A script is a tree of commands whose leaves are simple commands, lists of words. A word is a list of
parts, which expansion replaces by what they stand for; the edges of quotes stay in it as marks, so
that a quoted word without any text is a word all the same.
-/

namespace BenchRelay.Shell

/-- What to take of a parameter. -/
inductive Use where
  /-- Its value. -/
  | value
  /-- The length of its value. -/
  | length
  /-- Its value, or a word where it has none; `emptyToo` says whether an empty value counts as
  none. -/
  | orElse (emptyToo : Bool)
  /-- A word where it has a value, and else nothing. -/
  | ifPresent (emptyToo : Bool)
  /-- Its value, or that of a word, which it is given where it has none. -/
  | assign (emptyToo : Bool)
  /-- Its value; to have none is an error, and the word says which. -/
  | demand (emptyToo : Bool)
  /-- Its value less the part at its start or end that fits a pattern. -/
  | trim (fromEnd longest : Bool)
  /-- Nothing, as the script does not say what. -/
  | malformed
  deriving Repr, DecidableEq

/-- How a file is opened. -/
inductive Access where
  | read
  /-- To be written anew, unless that is forbidden. -/
  | write
  /-- To be written anew in any case. -/
  | overwrite
  /-- To be written behind what it holds. -/
  | append
  | readWrite
  deriving Repr, DecidableEq

/-- How two commands in a row belong together. -/
inductive Link where
  | always
  | ifSuccess
  | ifFailure
  deriving Repr, DecidableEq

mutual

/-- A part of a word. -/
inductive Part where
  /-- A character; an escaped one stands for itself wherever it would mean more. -/
  | char (c : Char) (escaped : Bool)
  /-- The edge of quotes. -/
  | mark
  | parameter (name : Text) (use : Use) (word : List Part)
  /-- What commands print. -/
  | output (body : Command)
  /-- The value of an expression. -/
  | arithmetic (expression : List Part)

/-- Where a descriptor of a command leads to. -/
inductive Redirect where
  | file (descriptor : Nat) (access : Access) (path : List Part)
  /-- Where another descriptor leads to, or nowhere. -/
  | copy (descriptor : Nat) (source : Option Nat)
  /-- Where the descriptor that a word names leads to. -/
  | copyNamed (descriptor : Nat) (source : List Part)
  /-- To a text of the script, known by its number. -/
  | hereText (descriptor : Nat) (number : Nat)

/-- A command, with the number of the line that it begins in where messages need it. -/
inductive Command where
  /-- Nothing. -/
  | nothing
  /-- Variables to set, and the words of a command. -/
  | simple (line : Nat) (assignments : List (Text × List Part)) (words : List (List Part))
    (redirects : List Redirect)
  | pipeline (background : Bool) (stages : List Command)
  | redirected (line : Nat) (body : Command) (redirects : List Redirect)
  | subshell (line : Nat) (body : Command) (redirects : List Redirect)
  /-- Go on without waiting for the end. -/
  | background (line : Nat) (body : Command) (redirects : List Redirect)
  | not (body : Command)
  | chain (link : Link) (first second : Command)
  | choice (condition yes no : Command)
  | loop (untilSuccess : Bool) (condition body : Command)
  /-- Once for each word. -/
  | forEach (line : Nat) (name : Text) (items : List (List Part)) (body : Command)
  | select (line : Nat) (subject : List Part) (branches : List (List (List Part) × Command))
  | define (line : Nat) (name : Text) (body : Command)

end

instance : Inhabited Command := ⟨.nothing⟩

/-- A word before its parts are replaced by what they stand for. -/
abbrev Word := List Part

/-- The text of a word that is nothing but text without quotes. -/
def plainText? : Word → Option Text
  | [] => some []
  | .char c false :: rest => (plainText? rest).map (c :: ·)
  | _ => none

/-- The name and the value in a word that begins as an assignment does. -/
def assignmentOf? (word : Word) : Option (Text × Word) :=
  let rec from? : Word → Option (Text × Word)
    | .char '=' false :: value => some ([], value)
    | .char c false :: rest =>
      if c.isAlphanum || c == '_' then (from? rest).map fun (name, value) => (c :: name, value)
      else none
    | _ => none
  match from? word with
  | some (c :: name, value) => if c.isDigit then none else some (c :: name, value)
  | _ => none

/-- All positional parameters, each as a word of its own. -/
def allParameters : Word := [.mark, .parameter ['@'] .value [], .mark]

end BenchRelay.Shell
