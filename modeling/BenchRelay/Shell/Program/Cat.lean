import BenchRelay.Shell.Program.Basic

/-!
# Putting files together

A program that prints files one after another, and may number their lines, leave out empty ones and
show characters that cannot be seen.
-/

namespace BenchRelay.Shell.Program

open Shell.Action

/-- How files are shown. -/
structure Showing where
  /-- Whether lines are numbered, and whether empty ones are not. -/
  numbers : Bool := false
  onlyFilled : Bool := false
  /-- Whether ends of lines are shown. -/
  ends : Bool := false
  /-- Whether of several empty lines one is left. -/
  squeezes : Bool := false
  tabs : Bool := false
  /-- Whether characters that cannot be seen are shown. -/
  hidden : Bool := false
  deriving DecidableEq

namespace Showing

/-- Take an option by its letter. -/
def letter? (showing : Showing) : Char → Option Showing
  | 'b' => some { showing with numbers := true, onlyFilled := true }
  | 'e' => some { showing with ends := true, hidden := true }
  | 'n' => some { showing with numbers := true }
  | 's' => some { showing with squeezes := true }
  | 't' => some { showing with tabs := true, hidden := true }
  | 'u' => some showing
  | 'v' => some { showing with hidden := true }
  | 'A' => some { showing with ends := true, tabs := true, hidden := true }
  | 'E' => some { showing with ends := true }
  | 'T' => some { showing with tabs := true }
  | _ => none

/-- The letters of the options that have names. -/
def names : List (String × Char) :=
  [("number-nonblank", 'b'), ("number", 'n'), ("squeeze-blank", 's'), ("show-nonprinting", 'v'),
    ("show-ends", 'E'), ("show-tabs", 'T'), ("show-all", 'A')]

/-- Take options by their letters: how files are shown, or the letter that is none. -/
def letters (showing : Showing) : Text → Except Char Showing
  | [] => .ok showing
  | c :: rest =>
    match showing.letter? c with
    | some showing => letters showing rest
    | none => .error c

/-- How a character is shown that cannot be seen as it is. -/
def visible (c : Char) : Text :=
  let low (n : Nat) : Text :=
    if n < 32 then ['^', Char.ofNat (n + 64)]
    else if n = 127 then ['^', '?']
    else [Char.ofNat n]
  if c.toNat < 128 then low c.toNat else 'M' :: '-' :: low (c.toNat - 128)

end Showing

/-- Where showing files is. -/
structure ShowState where
  /-- The number of the last line. -/
  line : Nat := 0
  /-- Whether a line has begun. -/
  inLine : Bool := false
  /-- How many empty lines stood in a row, at most two; a line that has ended counts as none. -/
  empty : Nat := 0
  /-- What is shown, the last piece first. -/
  shown : List Text := []

namespace ShowState

/-- Show a text. -/
def push (state : ShowState) (text : Text) : ShowState :=
  { state with shown := text :: state.shown }

/-- Show the number of the next line. -/
def number (state : ShowState) : ShowState :=
  let digits := Text.decimal (state.line + 1)
  { state with line := state.line + 1 }.push
    (List.replicate (6 - digits.length) ' ' ++ digits ++ ['\t'])

/-- Show the end of a line. -/
def endLine (state : ShowState) (showing : Showing) : ShowState :=
  let isEmpty := !state.inLine
  let repeated := isEmpty && 1 ≤ state.empty
  if repeated && showing.squeezes then { state with empty := 2 }
  else
    let state := if isEmpty && showing.numbers && !showing.onlyFilled then state.number else state
    let state := { state with inLine := false, empty := if isEmpty then state.empty + 1 else 0 }
    state.push (if showing.ends then ['$', '\n'] else ['\n'])

/-- Show a character, in front of another one. -/
def char (state : ShowState) (showing : Showing) (c : Char) (next? : Option Char) : ShowState :=
  let state := if state.inLine || !showing.numbers then state else state.number
  let state := { state with inLine := true, empty := 0 }
  state.push
    (if c = '\t' then if showing.tabs then ['^', 'I'] else ['\t']
    else if showing.hidden then Showing.visible c
    else if c = '\r' && showing.ends && next? = some '\n' then ['^', 'M']
    else [c])

/-- Show a text to its end. -/
def text (showing : Showing) : ShowState → Text → ShowState
  | state, [] => state
  | state, '\n' :: rest => text showing (state.endLine showing) rest
  | state, c :: rest => text showing (state.char showing c rest.head?) rest

end ShowState

/-- The options and paths of a program that shows files, or what is wrong with them. -/
def catOptions : Showing → List Text → List Text → Except Text (Showing × List Text)
  | showing, paths, [] => .ok (showing, paths.reverse)
  | showing, paths, ['-', '-'] :: rest => .ok (showing, paths.reverse ++ rest)
  | showing, paths, ('-' :: '-' :: name) :: rest =>
    match Showing.names.find? fun (option : String × Char) => name.isPrefixOf option.1.toList with
    | some (_, letter) => catOptions ((showing.letter? letter).getD showing) paths rest
    | none => .error ("unrecognized option '--".toList ++ name ++ ['\''])
  | showing, paths, ('-' :: c :: letters) :: rest =>
    match showing.letters (c :: letters) with
    | .ok showing => catOptions showing paths rest
    | .error c => .error ("invalid option -- '".toList ++ [c, '\''])
  | showing, paths, path :: rest => catOptions showing (path :: paths) rest

/-- Write at once what a program has to print. -/
def writeOut (call : Invocation) (text : Text) : Action Bool := do
  match ← writeTo 1 text with
  | none => return true
  | some error =>
    complain call ("write error: ".toList ++ error.message)
    return false

/-- Show files. -/
def showFiles (call : Invocation) (showing : Showing) :
    List Text → ShowState → (status : Nat) → Action Nat
  | [], _, status => return status
  | path :: paths, state, status => do
    match ← content path with
    | .error reason =>
      complain call (path ++ ": ".toList ++ reason)
      showFiles call showing paths state 1
    | .ok text =>
      if showing = {} then
        if ← writeOut call text then showFiles call showing paths state status else return 1
      else
        let state := ShowState.text showing state text
        if ← writeOut call state.shown.reverse.flatten then
          showFiles call showing paths { state with shown := [] } status
        else return 1

/-- Print files one after another. -/
def cat : Program := fun call => do
  match catOptions {} [] call.arguments with
  | .error flaw => refuse call flaw
  | .ok (showing, paths) =>
    match ← opened? 1 with
    | none => fail call "standard output: Bad file descriptor".toList
    | some _ => showFiles call showing (if paths.isEmpty then [['-']] else paths) {} 0

end BenchRelay.Shell.Program
