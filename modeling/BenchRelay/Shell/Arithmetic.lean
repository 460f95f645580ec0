import BenchRelay.Shell.Number

/-!
# Arithmetic of a shell

Expressions over integers of 64 bits, which go around the corner where a result does not fit. Names
stand for variables, which may be assigned to; an unset or empty one counts as 0. The part of an
expression that does not matter for its value is read, but neither divides nor looks at variables
nor assigns to them.
-/

namespace BenchRelay.Shell

/-- The operators between two operands. -/
inductive Operator where
  | times
  | over
  | modulo
  | plus
  | minus
  | shiftLeft
  | shiftRight
  | less
  | atMost
  | greater
  | atLeast
  | equal
  | unequal
  | bitAnd
  | bitXor
  | bitOr
  deriving Repr, DecidableEq

namespace Operator

/-- How loosely an operator binds its operands. -/
def looseness : Operator → Nat
  | .times | .over | .modulo => 0
  | .plus | .minus => 1
  | .shiftLeft | .shiftRight => 2
  | .less | .atMost | .greater | .atLeast => 3
  | .equal | .unequal => 4
  | .bitAnd => 5
  | .bitXor => 6
  | .bitOr => 7

end Operator

/-- A word of an expression. -/
inductive Term where
  | number (n : Int64)
  /-- The name of something with a value. -/
  | named (name : Text)
  | binary (operator : Operator)
  /-- An assignment, of the result of an operator on the value so far or of the right side alone. -/
  | assign (operator? : Option Operator)
  | bothHold
  | oneHolds
  | question
  | colon
  | not
  | complement
  | openParen
  | closeParen
  | endOfText
  /-- A character that means nothing. -/
  | unknown
  deriving Repr, DecidableEq

namespace Term

/-- The signs that are terms; of those that begin alike the longest stands first. -/
def signs : List (String × Term) :=
  [("<<=", .assign (some .shiftLeft)), (">>=", .assign (some .shiftRight)),
    ("*=", .assign (some .times)), ("/=", .assign (some .over)), ("%=", .assign (some .modulo)),
    ("+=", .assign (some .plus)), ("-=", .assign (some .minus)), ("&=", .assign (some .bitAnd)),
    ("^=", .assign (some .bitXor)), ("|=", .assign (some .bitOr)), ("==", .binary .equal),
    ("!=", .binary .unequal), ("<=", .binary .atMost), (">=", .binary .atLeast),
    ("<<", .binary .shiftLeft), (">>", .binary .shiftRight), ("&&", .bothHold), ("||", .oneHolds),
    ("=", .assign none), ("<", .binary .less), (">", .binary .greater), ("&", .binary .bitAnd),
    ("|", .binary .bitOr), ("^", .binary .bitXor), ("*", .binary .times), ("/", .binary .over),
    ("%", .binary .modulo), ("+", .binary .plus), ("-", .binary .minus), ("!", .not),
    ("~", .complement), ("(", .openParen), (")", .closeParen), ("?", .question), (":", .colon)]

/-- The term at the front of a text, and the text behind it. -/
def read (text : Text) : Term × Text :=
  match text.dropWhile fun c => c == ' ' || c == '\t' || c == '\n' with
  | [] => (.endOfText, [])
  | c :: rest =>
    if c.isDigit then
      let numeral := Numeral.read (c :: rest)
      let n := clamp leastInteger greatestInteger numeral.value
      (.number (Int64.ofInt n), numeral.rest)
    else if isNameStart c then
      (.named (c :: rest.takeWhile isNameChar), rest.dropWhile isNameChar)
    else
      let sign? := signs.findSome? fun (sign, term) =>
        (Text.dropStart? (String.toList sign) (c :: rest)).map (term, ·)
      sign?.getD (.unknown, rest)

end Term

/-- Why an expression has no value. -/
inductive ArithmeticError where
  /-- It is none, or divides by zero. -/
  | malformed (reason : String)
  /-- A variable in it is not a number. -/
  | illegalNumber (value : Text)
  /-- A variable that it assigns to may not be changed. -/
  | readOnly (name : Text)
  /-- The least integer is divided by minus one. -/
  | overflow
  deriving Repr, DecidableEq

/-- What is known of variables. -/
structure Variables where
  value? : Text → Option Text
  isReadOnly : Text → Bool

/-- A place in an expression. -/
structure Calculation where
  rest : Text
  /-- The term behind what was read. -/
  term : Term := .endOfText
  /-- The values that variables were given, the last one first. -/
  assigned : List (Text × Text) := []

/-- A step in reading an expression and finding its value. -/
abbrev Calculate (α : Type) := EStateM ArithmeticError Calculation α

namespace Calculate

/-- Take the next term. -/
def next : Calculate Term :=
  modifyGet fun calculation =>
    let (term, rest) := Term.read calculation.rest
    (term, { calculation with rest })

/-- Note the term behind what was read. -/
def note (term : Term) : Calculate Unit := modify fun calculation => { calculation with term }

/-- The term behind what was read. -/
def term : Calculate Term := return (← get).term

/-- Give up. -/
def fail {α : Type} (reason : String) : Calculate α := throw (.malformed reason)

/-- The value of a condition. -/
def truth (holds : Bool) : Int64 := if holds then 1 else 0

/-- The value of a variable. -/
def valueOf (known : Variables) (name : Text) : Calculate Int64 := do
  match (← get).assigned.lookup name <|> known.value? name with
  | none => return 0
  | some text =>
    let numeral := Numeral.read text
    if numeral.isWhole && isInteger64 numeral.value then return Int64.ofInt numeral.value
    else throw (.illegalNumber text)

/-- Give a variable a value. -/
def assign (known : Variables) (name : Text) (n : Int64) : Calculate Int64 := do
  if known.isReadOnly name then throw (.readOnly name)
  modify fun calculation =>
    { calculation with assigned := (name, integerText n.toInt) :: calculation.assigned }
  return n

/-- Divide, and take the quotient or the rest. -/
def divide (a b : Int64) (quotient : Bool) : Calculate Int64 := do
  if b = 0 then fail "division by zero"
  if a.toInt = leastInteger && b = -1 then throw .overflow
  return if quotient then a / b else a % b

/-- Apply an operator. -/
def apply (a : Int64) : Operator → Int64 → Calculate Int64
  | .times, b => return a * b
  | .over, b => divide a b true
  | .modulo, b => divide a b false
  | .plus, b => return a + b
  | .minus, b => return a - b
  | .shiftLeft, b => return a <<< b
  | .shiftRight, b => return a >>> b
  | .less, b => return truth (a < b)
  | .atMost, b => return truth (a ≤ b)
  | .greater, b => return truth (b < a)
  | .atLeast, b => return truth (b ≤ a)
  | .equal, b => return truth (a = b)
  | .unequal, b => return truth (a ≠ b)
  | .bitAnd, b => return a &&& b
  | .bitXor, b => return a ^^^ b
  | .bitOr, b => return a ||| b

/-- The looseness that no operator has. -/
def loosest : Nat := 8

mutual

/-- Read an operand that begins with a term, and note the term behind it. `skips` says whether the
value does not matter. -/
def operand (known : Variables) : (fuel : Nat) → (skips : Bool) → Term → Calculate Int64
  | 0, _, _ => fail "expecting primary"
  | fuel + 1, skips, first => do
    match first with
    | .openParen =>
      let value ← assignment known fuel skips (← next)
      unless (← term) = .closeParen do fail "expecting ')'"
      note (← next)
      return value
    | .number n =>
      note (← next)
      return n
    | .named name =>
      note (← next)
      if skips then return 0 else valueOf known name
    | .binary .plus => operand known fuel skips (← next)
    | .binary .minus => return -(← operand known fuel skips (← next))
    | .not => return truth ((← operand known fuel skips (← next)) = 0)
    | .complement => return ~~~(← operand known fuel skips (← next))
    | _ => fail "expecting primary"

/-- Read operators and their operands behind a value, as long as they bind more tightly than
given. -/
def operatorsBehind (known : Variables) :
    (fuel : Nat) → (skips : Bool) → (value : Int64) → Operator → (looseness : Nat) → Calculate Int64
  | 0, _, _, _, _ => fail "expecting primary"
  | fuel + 1, skips, value, operator, looseness => do
    let right ← operand known fuel skips (← next)
    let right ← match ← term with
      | .binary tighter =>
        if tighter.looseness < operator.looseness then
          operatorsBehind known fuel skips right tighter operator.looseness
        else pure right
      | _ => pure right
    let value ← if skips then pure right else apply value operator right
    match ← term with
    | .binary later =>
      if later.looseness ≥ looseness then return value
      operatorsBehind known fuel skips value later looseness
    | _ => return value

/-- Read operands with operators between them. -/
def operands (known : Variables) : (fuel : Nat) → (skips : Bool) → Term → Calculate Int64
  | 0, _, _ => fail "expecting primary"
  | fuel + 1, skips, first => do
    let value ← operand known fuel skips first
    match ← term with
    | .binary operator => operatorsBehind known fuel skips value operator loosest
    | _ => return value

/-- Read conditions that are all to hold. -/
def conjunction (known : Variables) : (fuel : Nat) → (skips : Bool) → Term → Calculate Int64
  | 0, _, _ => fail "expecting primary"
  | fuel + 1, skips, first => do
    let left ← operands known fuel skips first
    unless (← term) = .bothHold do return left
    let right ← conjunction known fuel (skips || left = 0) (← next)
    return truth (left ≠ 0 && right ≠ 0)

/-- Read conditions of which one is to hold. -/
def disjunction (known : Variables) : (fuel : Nat) → (skips : Bool) → Term → Calculate Int64
  | 0, _, _ => fail "expecting primary"
  | fuel + 1, skips, first => do
    let left ← conjunction known fuel skips first
    unless (← term) = .oneHolds do return left
    let right ← disjunction known fuel (skips || left ≠ 0) (← next)
    return truth (left ≠ 0 || right ≠ 0)

/-- Read a condition and the values that it chooses from, or a value alone. -/
def choice (known : Variables) : (fuel : Nat) → (skips : Bool) → Term → Calculate Int64
  | 0, _, _ => fail "expecting primary"
  | fuel + 1, skips, first => do
    let condition ← disjunction known fuel skips first
    unless (← term) = .question do return condition
    let yes ← assignment known fuel (skips || condition = 0) (← next)
    unless (← term) = .colon do fail "expecting ':'"
    let no ← choice known fuel (skips || condition ≠ 0) (← next)
    return if condition ≠ 0 then yes else no

/-- Read an assignment or a choice. -/
def assignment (known : Variables) : (fuel : Nat) → (skips : Bool) → Term → Calculate Int64
  | 0, _, _ => fail "expecting primary"
  | fuel + 1, skips, first => do
    match first with
    | .named name =>
      let behind := (← get).rest
      match ← next with
      | .assign operator? =>
        let right ← assignment known fuel skips (← next)
        if skips then return right
        match operator? with
        | none => assign known name right
        | some operator =>
          let left ← valueOf known name
          assign known name (← apply left operator right)
      | _ =>
        modify fun calculation => { calculation with rest := behind }
        choice known fuel skips first
    | _ => choice known fuel skips first

end

/-- Read a whole expression. -/
def whole (known : Variables) (fuel : Nat) : Calculate Int64 := do
  let value ← assignment known fuel false (← next)
  unless (← term) = .endOfText do fail "expecting EOF"
  return value

end Calculate

/-- The value of an expression or why it has none, and the values that variables were given on the
way, the first one first. -/
def calculate (known : Variables) (expression : Text) :
    Except ArithmeticError Int64 × List (Text × Text) :=
  let fuel := 16 * expression.length + 64
  match (Calculate.whole known fuel).run { rest := expression } with
  | .ok value after => (.ok value, after.assigned.reverse)
  | .error error after => (.error error, after.assigned.reverse)

/-- The wording of why an expression has no value. -/
def ArithmeticError.message (expression : Text) : ArithmeticError → Text
  | .malformed reason =>
    "arithmetic expression: ".toList ++ reason.toList ++ ": \"".toList ++ expression ++ ['"']
  | .illegalNumber value => "Illegal number: ".toList ++ value
  | .readOnly name => name ++ ": is read only".toList
  | .overflow => "Floating point exception"

end BenchRelay.Shell
