import BenchRelay.Log.Event
import BenchRelay.Log.Quoted
import BenchRelay.Pattern.Flags

/-!
# Log filters

A filter is a list of directives between commas. A directive may name a target, fields that an event
has to have, and the least important level that it lets through; one that asks for a span lets no
event through. Of the directives that an event falls under the most specific one decides: the one
with the longest target, then the one with the most fields. A later directive takes the place of an
earlier one with the same target and fields.
-/

namespace BenchRelay.Log

/-- How much a directive lets through: nothing, or everything down to a level. -/
abbrev Threshold := Option Level

/-- Whether a level gets over a threshold. -/
def passes (threshold : Threshold) (level : Level) : Bool :=
  match threshold with
  | none => false
  | some least => level.verbosity ≤ least.verbosity

/-- One directive of a filter. -/
structure Directive where
  target : Option Text := none
  /-- Fields that an event has to have. -/
  fields : List Text := []
  /-- Whether it asks for a span, or for a field with a value. -/
  spanOnly : Bool := false
  threshold : Threshold := some .trace
  deriving Repr, DecidableEq

/-- The thresholds by number. -/
def thresholds : List Threshold :=
  [none, some .error, some .warn, some .info, some .debug, some .trace]

/-- The name of a threshold, in lowercase. -/
def thresholdName (threshold : Threshold) : Text :=
  match threshold with
  | none => "off"
  | some level => level.name.map Char.toLower

/-- The threshold given by its number or its name. -/
def threshold? (text : Text) : Option Threshold :=
  let digits := match text with
    | '+' :: rest => rest
    | _ => text
  if !digits.isEmpty && digits.all Char.isDigit then
    thresholds[digits.foldl (fun n c => n * 10 + (c.toNat - '0'.toNat)) 0]?
  else if text.isEmpty then some (some .error)
  else thresholds.find? fun threshold => thresholdName threshold == text.map Char.toLower

/-- Whether a text is a decimal number, with a point and an exponent or without. -/
def isDecimalNumber (text : Text) : Bool :=
  let isMark (c : Char) : Bool := c == 'e' || c == 'E'
  let digits := (text.takeWhile (!isMark ·)).filter (· ≠ '.')
  let points := (text.takeWhile (!isMark ·)).count '.'
  let exponent := match text.dropWhile (!isMark ·) with
    | _ :: '+' :: rest => some rest
    | _ :: '-' :: rest => some rest
    | _ :: rest => some rest
    | [] => none
  !digits.isEmpty && digits.all Char.isDigit && points ≤ 1 &&
    exponent.all fun digits => !digits.isEmpty && digits.all Char.isDigit

/-- Whether a text is a number, which may have a sign and need not be finite. -/
def isNumber (text : Text) : Bool :=
  let unsigned := match text with
    | '+' :: rest => rest
    | '-' :: rest => rest
    | text => text
  isDecimalNumber unsigned ||
    ["inf".toList, "infinity".toList, "nan".toList].contains (unsigned.map Char.toLower)

/-- Why a filter is not taken. -/
inductive FilterFlaw where
  /-- It is no filter. -/
  | malformed
  /-- A part of it would begin or end within a character. -/
  | torn
  deriving Repr, DecidableEq

/-- How far the reading of a directive has come. Positions count bytes. -/
inductive Reading where
  | start
  /-- Within a level or a target that began at a position. -/
  | levelOrTarget (start : Nat)
  /-- Within the name of a span. -/
  | span (start : Nat)
  /-- Within a field. -/
  | field (start : Nat)
  /-- Behind the fields. -/
  | fields
  /-- Behind the span. -/
  | target
  /-- Within a level. -/
  | level (start : Nat)
  deriving Repr, DecidableEq

/-- The part of a text from a position on. -/
def tailFrom (text : Text) (start : Nat) : Except FilterFlaw Text :=
  ((text.dropBytes? start).map .ok).getD (.error .torn)

/-- The part of a text between two positions. -/
def slice (text : Text) (start stop : Nat) : Except FilterFlaw Text :=
  (((text.dropBytes? start).bind (Text.takeBytes? (stop - start))).map .ok).getD (.error .torn)

/-- Take a field into a directive. One with a value, a number or a pattern, shows in spans alone. -/
def takeField (directive : Directive) (field : Text) : Except FilterFlaw Directive :=
  if field.isEmpty then .error .malformed
  else
    let named := { directive with fields := directive.fields ++ [field.takeWhile (· ≠ '=')] }
    match field.splitOn '=' with
    | _ :: value :: _ =>
      if isNumber value || Pattern.isSound value then .ok { named with spanOnly := true }
      else .error .malformed
    | _ => .ok named

/-- Whether a character may begin a directive. -/
def mayBegin (c : Char) : Bool := c == '-' || c == ':' || c == '_' || isAlphanumeric c

/-- Go on with the character at a position. -/
def readChar (text : Text) (position : Nat) (c : Char) (directive : Directive) :
    Reading → Except FilterFlaw (Directive × Reading)
  | .start =>
    if c = '[' then .ok (directive, .span (position + 1))
    else if mayBegin c then .ok (directive, .levelOrTarget position)
    else .error .malformed
  | .levelOrTarget start =>
    if c = '=' then do
      .ok ({ directive with target := some (← slice text start position) }, .level (position + 1))
    else if c = '[' then do
      .ok ({ directive with target := some (← slice text start position) }, .span (position + 1))
    else .ok (directive, .levelOrTarget start)
  | .span start =>
    if c = ']' then do
      let _ ← slice text start position
      .ok ({ directive with spanOnly := true }, .target)
    else if c = '\x7b' then do
      let name ← slice text start position
      let spanOnly := directive.spanOnly || !name.isEmpty
      .ok ({ directive with spanOnly }, .field (position + 1))
    else .ok (directive, .span start)
  | .field start =>
    if c = '\x7d' then do .ok (← takeField directive (← slice text start position), .fields)
    else .ok (directive, .field start)
  | .fields => if c = ']' then .ok (directive, .target) else .error .malformed
  | .target => if c = '=' then .ok (directive, .level (position + 1)) else .error .malformed
  | .level start => .ok (directive, .level start)

/-- Go on with all characters from a position. -/
def readFrom (text : Text) (position : Nat) (directive : Directive) (reading : Reading) :
    Text → Except FilterFlaw (Directive × Reading)
  | [] => .ok (directive, reading)
  | c :: rest => do
    let (directive, reading) ← readChar text position c directive reading
    readFrom text (position + c.utf8Size) directive reading rest

/-- Read one directive. Its bytes are counted without the blanks around it, and taken from the text
with them. -/
def readDirective (text : Text) : Except FilterFlaw Directive := do
  let trimmed := (((text.dropWhile isBlankChar).reverse).dropWhile isBlankChar).reverse
  let (directive, reading) ← readFrom text 0 {} .start trimmed
  match reading with
  | .levelOrTarget start =>
    let rest ← tailFrom text start
    match threshold? rest with
    | some threshold => .ok { directive with threshold }
    | none => .ok { directive with target := some rest }
  | .level start =>
    let rest ← tailFrom text start
    if rest.isEmpty then .ok directive
    else
      match threshold? rest with
      | some threshold => .ok { directive with threshold }
      | none => .error .malformed
  | .target => .ok directive
  | _ => .error .malformed

/-- The directives of a filter. -/
abbrev Filter := List Directive

/-- The directive of a filter without any. -/
def onlyErrors : Directive := { threshold := some .error }

/-- Read a filter. -/
def Filter.read (text : Text) : Except FilterFlaw Filter := do
  let directives ← ((text.splitOn ',').filter (!·.isEmpty)).mapM readDirective
  .ok (if directives.isEmpty then [onlyErrors] else directives)

/-- The filter that holds where none is given or the one given is malformed. -/
def Filter.default : Filter := [{ threshold := some .info }]

/-- The filter that a setting asks for; none at all where the setting is torn. -/
def Filter.ofSetting? : Option Text → Option Filter
  | none => some Filter.default
  | some setting =>
    match Filter.read setting with
    | .ok filter => some filter
    | .error .malformed => some Filter.default
    | .error .torn => none

/-- The names of the fields of an event. -/
def fieldsOf : Event → List Text
  | .configAbsent _ => ["message", "path"]
  | .workerStarted => ["message"]
  | .signalReceived _ => ["message", "frame_bytes"]
  | .streamClosed _ | .channelClosed _ => ["message", "runs"]
  | .runStarted _ => ["message", "payload"]
  | .runFinished _ => ["message", "payload", "elapsed_ms"]
  | .childExited .. => ["message", "payload", "status"]
  | .forwardingFailed .. => ["message", "payload", "error"]

/-- Whether an event falls under a directive. -/
def Directive.covers (directive : Directive) (event : Event) : Bool :=
  !directive.spanOnly &&
    (match directive.target with
      | none => true
      | some target => target.isPrefixOf event.target) &&
    directive.fields.all (fieldsOf event).contains

/-- Whether a directive is at least as specific as another. -/
def Directive.asSpecificAs (directive other : Directive) : Bool :=
  let rank (d : Directive) : Nat := match d.target with
    | none => 0
    | some target => target.length + 1
  if rank directive ≠ rank other then rank other < rank directive
  else if directive.fields.length ≠ other.fields.length then
    other.fields.length < directive.fields.length
  else !decide (directive.fields < other.fields)

/-- The directive that decides about an event. -/
def Filter.decisive (filter : Filter) (event : Event) : Option Directive :=
  (filter.filter (·.covers event)).foldl (fun best directive =>
    match best with
    | none => some directive
    | some best => some (if directive.asSpecificAs best then directive else best)) none

/-- Whether a filter lets an event through. -/
def Filter.lets (filter : Filter) (event : Event) : Bool :=
  match filter.decisive event with
  | none => false
  | some directive => passes directive.threshold event.level

/-- The line of an event in a log. -/
def line (event : Event) : Text :=
  event.level.name ++ " " ++ event.target ++ ": " ++ event.body Text.inQuotes

end BenchRelay.Log
