import BenchRelay.Shell.Format.Escape
import BenchRelay.Shell.Format.Layout
import BenchRelay.Shell.Format.Quoted

/-!
# Formats

A format is a text with conversions, each of which takes an argument and lays it out. As long as
arguments are left, it is gone through again. The shell's own formats and those of a program differ
in their escapes, in what a conversion may look like and in the wording of errors.
-/

namespace BenchRelay.Shell

/-- How going through a format ended before its end. -/
inductive FormatStop where
  /-- An escape ended all output. -/
  | stopped
  /-- Something in the format is wrong. -/
  | failed (reason : Text)

/-- Something that happens on the way through a format. -/
inductive FormatEvent where
  | printed (text : Text)
  | complained (wording : Text)

/-- What going through a format has come to. -/
structure Formatting where
  /-- What happened, the last event first. -/
  events : List FormatEvent := []
  arguments : List Text
  /-- Whether an argument was asked for. -/
  converted : Bool := false
  /-- Whether an argument was not what it should be. -/
  failed : Bool := false

/-- A step in going through a format. -/
abbrev Format (α : Type) := EStateM FormatStop Formatting α

namespace Format

/-- Print a text. -/
def print (text : Text) : Format Unit :=
  modify fun formatting => { formatting with events := .printed text :: formatting.events }

/-- Complain about an argument. -/
def complain (wording : Text) : Format Unit :=
  modify fun formatting =>
    { formatting with events := .complained wording :: formatting.events, failed := true }

/-- Note a thing that is no error. -/
def warn (wording : Text) : Format Unit :=
  modify fun formatting => { formatting with events := .complained wording :: formatting.events }

/-- The next argument, if there is one. -/
def next? : Format (Option Text) :=
  modifyGet fun formatting =>
    match formatting.arguments with
    | argument :: arguments => (some argument, { formatting with arguments, converted := true })
    | [] => (none, { formatting with converted := true })

/-- How messages call an argument. -/
def quoted (dialect : Dialect) (argument : Text) : Text :=
  if dialect = .shell then argument else visiblyQuoted argument

/-- Complain where an argument is not a number to its end, or out of range. -/
def checkNumber (dialect : Dialect) (argument rest : Text) (inRange : Bool) : Format Unit := do
  let isShell : Bool := dialect = .shell
  let say (wording : String) : Format Unit :=
    complain (quoted dialect argument ++ ": ".toList ++ wording.toList)
  if !rest.isEmpty then
    if rest = argument then
      say (if isShell then "expected numeric value" else "expected a numeric value")
    else say (if isShell then "not completely converted" else "value not completely converted")
  else if !inRange then say "Numerical result out of range"

/-- The byte that an argument in quotes stands for. -/
def quotedByte? (dialect : Dialect) (argument : Text) : Option (Nat × Text) :=
  match argument with
  | c :: rest =>
    if c = '"' || c = '\'' then
      match rest with
      | byte :: rest => some (byte.toNat, rest)
      | [] => if dialect = .shell then some (0, []) else none
    else none
  | [] => none

/-- The byte that an argument in quotes stands for; what is behind it is passed over. -/
def byteOf? (dialect : Dialect) (argument : Text) : Format (Option Nat) := do
  match quotedByte? dialect argument with
  | none => return none
  | some (n, rest) =>
    unless dialect = .shell || rest.isEmpty do
      warn ("warning: ".toList ++ rest ++
        ": character(s) following character constant have been ignored".toList)
    return some n

/-- The next argument as an integer between two limits. -/
def integer (dialect : Dialect) (least greatest : Int) : Format Int := do
  match ← next? with
  | none => return 0
  | some argument =>
    match ← byteOf? dialect argument with
    | some n => return n
    | none =>
      let numeral := Numeral.read argument
      checkNumber dialect argument numeral.rest
        (least ≤ numeral.value && numeral.value ≤ greatest)
      return if numeral.value < least then least
        else if greatest < numeral.value then greatest
        else numeral.value

/-- The next argument as an integer with a sign. -/
def signed (dialect : Dialect) : Format Int := integer dialect leastInteger greatestInteger

/-- How many natural numbers of 64 bits there are. -/
def naturals : Int := Int.ofNat (Nat.pow 2 64)

/-- The next argument as a natural number; a negative one counts from the greatest one down. -/
def unsigned (dialect : Dialect) : Format Nat := do
  return ((← integer dialect (1 - naturals) (naturals - 1)) % naturals).toNat

/-- The next argument as a binary number. -/
def real (dialect : Dialect) (format : BinaryFormat) : Format SignedReal := do
  match ← next? with
  | none => return { magnitude := .finite 0 0 }
  | some argument =>
    match ← byteOf? dialect argument with
    | some n => return { magnitude := .finite n 0 }
    | none =>
      let numeral := RealNumeral.read format argument
      checkNumber dialect argument numeral.rest numeral.inRange
      return numeral.value

/-- Print a text with its escapes replaced. -/
def printUnescaped (dialect : Dialect) (layout : Layout) (argument : Text) : Format Unit := do
  let shown := unescape dialect argument
  print (layout.text shown.text)
  match shown.flaw? with
  | some flaw => throw (.failed flaw)
  | none => if shown.stopped then throw .stopped

/-- Lay out the next argument by the letter of its conversion. -/
def convert (dialect : Dialect) (layout : Layout) (letter : Char) : Format Unit := do
  let format := if dialect = .shell then BinaryFormat.double else BinaryFormat.extended
  if letter = 'd' || letter = 'i' then print (layout.integer (← signed dialect))
  else if "ouxX".toList.contains letter then print (layout.natural letter (← unsigned dialect))
  else if "aAeEfFgG".toList.contains letter then
    print (layout.real format letter (← real dialect format))
  else
    let argument := (← next?).getD []
    if letter = 'b' then printUnescaped dialect layout argument
    else if letter = 'q' then print (shellQuoted argument)
    else if letter = 'c' then
      print ({ layout with precision? := none }.text [argument.head?.getD '\x00'])
    else print (layout.text argument)

/-- Read flags; a program knows two more that mean nothing here. -/
def flags (dialect : Dialect) (layout : Layout) : Text → Layout × Text
  | [] => (layout, [])
  | c :: rest =>
    match layout.flag? c with
    | some layout => flags dialect layout rest
    | none =>
      if dialect ≠ .shell && (c = 'I' || c = '\'') then flags dialect layout rest
      else (layout, c :: rest)

/-- Read a width or a precision, given by digits or by the next argument. -/
def measure? (dialect : Dialect) (text : Text) : Format (Option Int × Text) := do
  match text with
  | '*' :: rest => return (some (← signed dialect), rest)
  | text =>
    let digits := text.takeWhile Char.isDigit
    if digits.isEmpty then return (none, text)
    return (some (Int.ofNat (ofDigits 10 digits)), text.dropWhile Char.isDigit)

/-- Read a layout behind its percent sign. -/
def readLayout (dialect : Dialect) (text : Text) : Format (Layout × Text) := do
  let (layout, text) := flags dialect {} text
  let (width?, text) ← measure? dialect text
  let layout := match width? with
    | some width => layout.withWidth width
    | none => layout
  match text with
  | '.' :: text =>
    let (precision?, text) ← measure? dialect text
    return (layout.withPrecision (precision?.getD 0), text)
  | text => return (layout, text)

/-- What is written between the percent sign of a conversion and its letter in a format that gives
no lengths. -/
def spelling (text rest : Text) : Text := text.take (text.length - rest.length)

/-- Whether the shell knows the letter of a conversion. -/
def isShellConversion (c : Char) : Bool := "bcsdiouxXaAeEfFgG".toList.contains c

/-- Whether a program knows the letter of a conversion behind some flags. -/
def isProgramConversion (behind : Text) (c : Char) : Bool :=
  let flags := behind.takeWhile fun c => "-+ #0'I".toList.contains c
  let refused : Text :=
    (if flags.contains '\'' || flags.contains 'I' then "aAceEosxX".toList else []) ++
    (if flags.contains '#' then "cdisu".toList else []) ++
    (if flags.contains '0' then "cs".toList else []) ++
    (if behind.contains '.' then ['c'] else [])
  "aAcdeEfFgGiosuxX".toList.contains c && !refused.contains c

/-- Convert behind a percent sign, as the shell does: the text behind. -/
def shellConversion (text : Text) : Format Text := do
  let (layout, rest) ← readLayout .shell text
  match rest with
  | [] => throw (.failed "missing format character".toList)
  | letter :: behind =>
    if isShellConversion letter then
      convert .shell layout letter
      return behind
    throw (.failed ('%' :: spelling text behind ++ ": invalid directive".toList))

/-- Convert behind a percent sign, as a program does: the text behind. -/
def programConversion (text : Text) : Format Text := do
  match text with
  | 'b' :: rest =>
    convert .formatter {} 'b'
    return rest
  | 'q' :: rest =>
    convert .formatter {} 'q'
    return rest
  | text =>
    let (layout, rest) ← readLayout .formatter text
    let rest := rest.dropWhile ("lLhjtz".toList.contains ·)
    let behind := rest.drop 1
    match rest.head? with
    | some letter =>
      if isProgramConversion (spelling text rest) letter then
        convert .formatter layout letter
        return behind
    | none => pure ()
    throw (.failed
      ('%' :: spelling text behind ++ ": invalid conversion specification".toList))

/-- Go through a format once. -/
def once (dialect : Dialect) : (fuel : Nat) → Text → Format Unit
  | 0, _ => return
  | _ + 1, [] => return
  | fuel + 1, '\\' :: rest => do
    match escapeAt dialect true rest with
    | .text text rest =>
      print text
      once dialect fuel rest
    | .stop => throw .stopped
    | .malformed reason => throw (.failed reason)
  | fuel + 1, '%' :: '%' :: rest => do
    print ['%']
    once dialect fuel rest
  | fuel + 1, '%' :: rest => do
    let rest ← if dialect = .shell then shellConversion rest else programConversion rest
    once dialect fuel rest
  | fuel + 1, c :: rest => do
    print [c]
    once dialect fuel rest

/-- Go through a format again as long as arguments are left and it takes any. -/
def repeated (dialect : Dialect) (format : Text) : (fuel : Nat) → Format Unit
  | 0 => return
  | fuel + 1 => do
    once dialect (format.length + 1) format
    let formatting ← get
    match formatting.arguments with
    | [] => return
    | argument :: _ =>
      if formatting.converted then repeated dialect format fuel
      else if dialect = .formatter then
        warn ("warning: ignoring excess arguments, starting with ".toList ++ visiblyQuoted argument)

/-- What came of a format and its arguments. -/
structure Result where
  /-- What happened, the first event first. -/
  events : List FormatEvent
  /-- Whether all arguments were what they should be. -/
  succeeded : Bool
  /-- What is wrong with the format. -/
  flaw? : Option Text

/-- All that was printed. -/
def Result.text (result : Result) : Text :=
  result.events.flatMap fun
    | .printed text => text
    | .complained _ => []

/-- All that was complained about. -/
def Result.complaints (result : Result) : List Text :=
  result.events.filterMap fun
    | .printed _ => none
    | .complained wording => some wording

/-- Lay out arguments by a format. -/
def result (dialect : Dialect) (format : Text) (arguments : List Text) : Result :=
  let finish (formatting : Formatting) (flaw? : Option Text) : Result :=
    { events := formatting.events.reverse
      succeeded := !formatting.failed
      flaw? }
  match (repeated dialect format (arguments.length + 1)).run { arguments } with
  | .ok _ formatting => finish formatting none
  | .error .stopped formatting => finish formatting none
  | .error (.failed reason) formatting => finish formatting (some reason)

end Format

end BenchRelay.Shell
