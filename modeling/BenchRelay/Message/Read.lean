import BenchRelay.Json.Reader
import BenchRelay.Message.Basic

/-!
# Reading messages

A message is an object with a member `type` that says which message it is, and for output a member
`data` that is a string; other members are read and ignored. It may also be an array of the two. A
`type` that is repeated, or names no message, is a fault on the spot; everything about `data`, and a
`type` that is missing, are judged at the end of the object. What follows the message is judged
last.
-/

namespace BenchRelay.Message

open BenchRelay.Json (Fault)

/-- Which message it is. -/
inductive Kind where
  | stdout
  | done
  deriving Repr, DecidableEq

/-- The name of a kind of message. -/
def Kind.name : Kind → Text
  | .stdout => "stdout"
  | .done => "done"

/-- The kind of message with a given name. -/
def Kind.ofName? (name : Text) : Option Kind :=
  if name = Kind.stdout.name then some .stdout
  else if name = Kind.done.name then some .done
  else none

/-- How deep arrays and objects may be nested. -/
def depthLimit : Nat := 127

/-- How deep the values in a message may be nested. -/
def innerDepth : Nat := depthLimit - 1

/-- Read the kind of a message. An array or an object is refused where it begins. -/
def readKind (text : Text) : Except Fault (Kind × Text) :=
  match text with
  | '[' :: _ => .error .unfit
  | '\x7b' :: _ => .error .unfit
  | _ => do
    let (read, rest) ← Json.readValue innerDepth text
    match read with
    | .string name =>
      match Kind.ofName? name with
      | some kind => .ok (kind, rest)
      | none => .error .unfit
    | _ => .error .unfit

/-- The members of an object: its kind, if it says one, and all others. -/
structure Members where
  kind : Option Kind := none
  others : List (Text × Json) := []

/-- The message that an object says by its members. -/
def Members.message (members : Members) : Except Fault Message :=
  match members.kind with
  | none => .error .unfit
  | some .done => .ok .done
  | some .stdout =>
    match members.others.filter (·.1 == "data".toList) with
    | [(_, .string data)] => .ok (.stdout data)
    | _ => .error .unfit

/-- Read the members of an object up to its end, behind those already read. -/
def readMembers : (fuel : Nat) → Members → Text → Except Fault (Members × Text)
  | 0, _, _ => .error .cutShort
  | fuel + 1, members, text => do
    let (key, rest) ← Json.readName text
    let (members, rest) ←
      if key = "type".toList then
        match members.kind with
        | some _ => Except.error Fault.unfit
        | none => do
          let (kind, rest) ← readKind rest
          Except.ok ({ members with kind := some kind }, rest)
      else do
        let (value, rest) ← Json.readValue innerDepth rest
        Except.ok ({ members with others := members.others ++ [(key, value)] }, rest)
    match ← Json.readAfter '\x7d' rest with
    | .last rest => .ok (members, rest)
    | .next rest => readMembers fuel members rest

/-- Read a message written as an object, behind its first bracket. -/
def readObject (text : Text) : Except Fault (Message × Text) := do
  let (members, rest) ←
    match Json.skipSpaces text with
    | '\x7d' :: rest => Except.ok (({} : Members), rest)
    | rest => readMembers (rest.length + 1) {} rest
  .ok (← members.message, rest)

/-- The message that an array says by its kind and its other items. -/
def ofItems : Kind → List Json → Except Fault Message
  | .done, [] => .ok .done
  | .stdout, [.string data] => .ok (.stdout data)
  | _, _ => .error .unfit

/-- Read a message written as an array, behind its first bracket. -/
def readArray (text : Text) : Except Fault (Message × Text) :=
  match Json.skipSpaces text with
  | ']' :: _ => .error .unfit
  | rest => do
    let (kind, rest) ← readKind rest
    let (items, rest) ← match ← Json.readAfter ']' rest with
      | .last rest => Except.ok ([], rest)
      | .next rest => Json.readItemsFrom (Json.fuelFor rest) innerDepth rest
    .ok (← ofItems kind items, rest)

/-- Read a text that is one message and nothing else. -/
def read (text : Text) : Except Fault Message := do
  let text := Json.skipSpaces text
  let (message, rest) ←
    match text with
    | '\x7b' :: rest => readObject rest
    | '[' :: rest => readArray rest
    | _ => do
      let _ ← Json.readValue depthLimit text
      Except.error Fault.unfit
  if Json.skipSpaces rest = [] then .ok message else .error .malformed

end BenchRelay.Message
