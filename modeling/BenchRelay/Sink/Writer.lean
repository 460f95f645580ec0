import BenchRelay.Message.Json
import BenchRelay.Sink.Basic

/-!
# A sink that writes lines

A writer takes bytes until it is full; the bytes that still fit always arrive. As a sink it writes
each message as a line of JSON and flushes once the newline is written. A failure inside the JSON
text and one at the newline or the flush are told apart.
-/

namespace BenchRelay

/-- What a full writer does with more bytes. -/
inductive WhenFull where
  /-- It reports an error. -/
  | refuse
  /-- It takes none of them. -/
  | takeNothing
  deriving Repr, DecidableEq

/-- Why a write of all given bytes fails on a full writer. -/
def WhenFull.reason : WhenFull → Text
  | .refuse => "writer full"
  | .takeNothing => "failed to write whole buffer"

/-- A byte stream that may run full and whose flushes may fail. -/
structure Writer where
  /-- How many bytes fit in all; `none` if it never runs full. -/
  capacity : Option Nat := none
  whenFull : WhenFull := .refuse
  /-- Which flushes fail, by number from 1. -/
  failsFlush : Nat → Bool := fun _ => false
  /-- How many flushes were asked for. -/
  flushes : Nat := 0
  /-- The bytes that arrived, the last one first. -/
  backwards : Bytes := []

namespace Writer

/-- The bytes that arrived. -/
def written (writer : Writer) : Bytes := writer.backwards.reverse

/-- How many of the next bytes fit. -/
def room (writer : Writer) (wanted : Nat) : Nat :=
  match writer.capacity with
  | none => wanted
  | some capacity => min wanted (capacity - writer.backwards.length)

/-- Write all the given bytes, or as many as fit. -/
def write (writer : Writer) (b : Bytes) : Except Text Unit × Writer :=
  let fitting := writer.room b.length
  let writer := { writer with backwards := (b.take fitting).reverseAux writer.backwards }
  if b.length ≤ fitting then (.ok (), writer) else (.error writer.whenFull.reason, writer)

/-- The bytes that fit arrive behind those before. -/
@[simp] theorem written_write (writer : Writer) (b : Bytes) :
    (writer.write b).2.written = writer.written ++ b.take (writer.room b.length) := by
  simp only [write, written]
  split <;> simp [List.reverseAux_eq]

/-- Hand over what was written. -/
def flush (writer : Writer) : Except Text Unit × Writer :=
  let flushes := writer.flushes + 1
  (if writer.failsFlush flushes then .error "flush failed" else .ok (), { writer with flushes })

/-- Write a message as a line and hand it over. -/
def post (writer : Writer) (message : Message) : Except SinkError Unit × Writer :=
  match writer.write message.toJson.utf8 with
  | (.error reason, writer) => (.error (.encode reason), writer)
  | (.ok (), writer) =>
    match writer.write [Message.newline] with
    | (.error reason, writer) => (.error (.io reason), writer)
    | (.ok (), writer) =>
      match writer.flush with
      | (.error reason, writer) => (.error (.io reason), writer)
      | (.ok (), writer) => (.ok (), writer)

end Writer

instance : Sink Writer := ⟨Writer.post⟩

end BenchRelay
