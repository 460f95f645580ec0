import BenchRelay.Files
import BenchRelay.Shell.Number

/-!
# Conditions

A condition compares texts or integers, or says what stands at a path. Conditions are negated, put
in parentheses and joined. What a word means depends on how many words there are and on what follows
it.
-/

namespace BenchRelay.Shell.Condition

/-- What a word of a condition is. -/
inductive Kind where
  /-- An operator in front of its operand. -/
  | unary
  /-- An operator between its operands. -/
  | binary
  | not
  | and
  | or
  | openParen
  | closeParen
  deriving Repr, DecidableEq

/-- What a word is, unless it is an operand. -/
def kind? (word : Text) : Option Kind :=
  let text := String.ofList word
  if text = "!" then some .not
  else if text = "-a" then some .and
  else if text = "-o" then some .or
  else if text = "(" then some .openParen
  else if text = ")" then some .closeParen
  else if ["=", "!=", "<", ">", "-eq", "-ne", "-ge", "-gt", "-le", "-lt", "-nt", "-ot",
      "-ef"].contains text then some .binary
  else if ["-r", "-w", "-x", "-e", "-f", "-d", "-c", "-b", "-p", "-u", "-g", "-k", "-s", "-t", "-z",
      "-n", "-h", "-O", "-G", "-L", "-S"].contains text then some .unary
  else none

/-- Why a condition has no value. -/
inductive Flaw where
  /-- An operand is no integer. -/
  | illegalNumber (text : Text)
  /-- An operator lacks an operand. -/
  | argumentExpected (operator : Text)
  | parenExpected
  | unexpectedOperator (word : Text)
  deriving Repr, DecidableEq

/-- The wording of a flaw. -/
def Flaw.message : Flaw → Text
  | .illegalNumber text => "Illegal number: ".toList ++ text
  | .argumentExpected operator => operator ++ ": argument expected".toList
  | .parenExpected => "closing paren expected"
  | .unexpectedOperator [] => "unexpected operator"
  | .unexpectedOperator word => word ++ ": unexpected operator".toList

/-- Finding out whether a condition holds: the words from the one at hand on. -/
abbrev Judge (α : Type) := EStateM Flaw (List Text) α

/-- The value of an integer in a condition. -/
def integer (text : Text) : Judge Int :=
  match decimalInteger? text with
  | some n => return n
  | none => throw (.illegalNumber text)

/-- Whether a text stands before another one, byte by byte. -/
def isBefore : Text → Text → Bool
  | _, [] => false
  | [], _ :: _ => true
  | a :: s, b :: t => a < b || (a == b && isBefore s t)

/-- What a file is to the operators in front of a path. -/
def fileTest (files : Files) (operator : Char) (path : Text) : Bool :=
  let found? := files.find? (toText path)
  match operator with
  | 'd' => found? == some .directory
  | 'f' =>
    match found? with
    | some (.file _) => true
    | some (.program _) => true
    | _ => false
  | 'x' =>
    match found? with
    | some .directory => true
    | some (.program _) => true
    | _ => false
  | 's' =>
    match found? with
    | some (.file content) => !content.isEmpty
    | some .directory => true
    | some (.program _) => true
    | _ => false
  | 'c' =>
    match found? with
    | some (.device _) => true
    | _ => false
  | 'h' | 'L' =>
    match files.findLink? (toText path) with
    | some (.link _) => true
    | _ => false
  | 'r' | 'w' | 'e' | 'O' | 'G' => found?.isSome
  | _ => false

/-- Whether a condition with an operator in front holds. -/
def unary (files : Files) (operator operand : Text) : Judge Bool := do
  match operator with
  | ['-', 'z'] => return operand.isEmpty
  | ['-', 'n'] => return !operand.isEmpty
  | ['-', 't'] =>
    let _ ← integer operand
    return false
  | ['-', c] => return fileTest files c operand
  | _ => return false

/-- Whether two paths lead to the same place. -/
def isSame (files : Files) (a b : Text) : Bool :=
  match files.resolve (toText a), files.resolve (toText b) with
  | .ok a, .ok b => a = b && (files.at? a).isSome
  | _, _ => false

/-- Whether a condition with an operator between its operands holds. -/
def binary (files : Files) (left operator right : Text) : Judge Bool := do
  let compare (holds : Int → Int → Bool) : Judge Bool := do
    let a ← integer left
    return holds a (← integer right)
  match String.ofList operator with
  | "=" => return left = right
  | "!=" => return left ≠ right
  | "<" => return isBefore left right
  | ">" => return isBefore right left
  | "-eq" => compare (· == ·)
  | "-ne" => compare (· != ·)
  | "-ge" => compare (· ≥ ·)
  | "-gt" => compare (· > ·)
  | "-le" => compare (· ≤ ·)
  | "-lt" => compare (· < ·)
  | "-ef" => return isSame files left right
  | _ => return false

/-- Whether the first of some words is an operand although it looks like an operator with one
operand. -/
def isOperand : List Text → Bool
  | _ :: second :: _ :: _ => kind? second = some .binary
  | [_, _] => false
  | _ => true

/-- What the first of some words is; nothing stands for an operand. -/
def lex (words : List Text) : Option Kind :=
  match words with
  | [] => none
  | word :: rest =>
    match kind? word with
    | some .unary => if isOperand words then none else some .unary
    | some .openParen => if rest.isEmpty then none else some .openParen
    | kind? => kind?

/-- The words from the next one on. -/
def step : Judge Unit := modify (List.drop 1)

mutual

/-- Read conditions of which one is to hold, the first one of a kind, up to its last word. -/
def any (files : Files) : (fuel : Nat) → Option Kind → Judge Bool
  | 0, _ => return false
  | fuel + 1, kind? => do
    let first ← all files fuel kind?
    if lex ((← get).drop 1) = some .or then
      modify (List.drop 2)
      let rest ← any files fuel (lex (← get))
      return first || rest
    else return first

/-- Read conditions that are all to hold. -/
def all (files : Files) : (fuel : Nat) → Option Kind → Judge Bool
  | 0, _ => return false
  | fuel + 1, kind? => do
    let first ← negation files fuel kind?
    if lex ((← get).drop 1) = some .and then
      modify (List.drop 2)
      let rest ← all files fuel (lex (← get))
      return first && rest
    else return first

/-- Read a condition that may be negated. -/
def negation (files : Files) : (fuel : Nat) → Option Kind → Judge Bool
  | 0, _ => return false
  | fuel + 1, kind? => do
    if kind? ≠ some .not then primary files fuel kind?
    else
      let rest := (← get).drop 1
      unless rest.isEmpty do set rest
      if rest.isEmpty then return true
      return !(← negation files fuel (lex rest))

/-- Read a single condition. -/
def primary (files : Files) : (fuel : Nat) → Option Kind → Judge Bool
  | 0, _ => return false
  | fuel + 1, kind? => do
    match ← get with
    | [] => return false
    | word :: rest =>
      match kind? with
      | some .openParen =>
        set rest
        let inner := lex rest
        if inner = some .closeParen then return false
        let holds ← any files fuel inner
        step
        unless lex (← get) = some .closeParen do throw .parenExpected
        return holds
      | some .unary =>
        match rest with
        | [] => throw (.argumentExpected word)
        | operand :: _ =>
          set rest
          unary files word operand
      | _ =>
        match rest with
        | operator :: behind =>
          if lex rest = some .binary then
            match behind with
            | [] => throw (.argumentExpected operator)
            | right :: _ =>
              set behind
              binary files word operator right
          else return !word.isEmpty
        | [] => return !word.isEmpty

end

/-- Whether the words of a condition hold, of which the first is of a kind. -/
def whole (files : Files) (kind? : Option Kind) (words : List Text) : Except Flaw Bool :=
  match (any files (6 * words.length + 6) kind?).run words with
  | .error flaw _ => .error flaw
  | .ok _ (word :: _ :: _) => .error (.unexpectedOperator word)
  | .ok holds _ => .ok holds

/-- Whether a condition of two words or less, or of five or more, holds. -/
def plain (files : Files) (words : List Text) : Except Flaw Bool := whole files (lex words) words

/-- Whether a condition holds, or does not if it is negated, by the number of its words. -/
def judgeFrom (files : Files) (negated : Bool) : List Text → Except Flaw Bool
  | [] => .ok negated
  | first :: rest =>
    let words := first :: rest
    let result (holds : Except Flaw Bool) : Except Flaw Bool := holds.map (· != negated)
    if rest.length = 2 && (rest.head?.bind kind?) = some .binary then
      result (whole files none words)
    else if rest.length = 2 || rest.length = 3 then
      if first = ['('] && rest.getLast? = some [')'] then result (plain files rest.dropLast)
      else if first = ['!'] then judgeFrom files true rest
      else result (plain files words)
    else result (plain files words)

/-- Whether a condition holds. -/
def judge (files : Files) (words : List Text) : Except Flaw Bool := judgeFrom files false words

end BenchRelay.Shell.Condition
