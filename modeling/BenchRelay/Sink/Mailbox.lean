import BenchRelay.Sink.Basic

/-!
# A sink into a queue

A mailbox is an unbounded queue whose receiver may go away after a number of posts. From then on
every post is refused.
-/

namespace BenchRelay

/-- A queue of messages with a receiver that may go away. -/
structure Mailbox where
  /-- How many posts are made before the receiver goes away; `none` if it stays. -/
  receivesFor : Option Nat := none
  /-- How many posts were made. -/
  posts : Nat := 0
  /-- What was delivered, in order. -/
  delivered : List Message := []
  deriving Repr, DecidableEq

/-- Whether the receiver is still there. -/
def Mailbox.isOpen (mailbox : Mailbox) : Bool :=
  match mailbox.receivesFor with
  | none => true
  | some n => mailbox.posts < n

/-- Queue a message while the receiver is there. -/
def Mailbox.post (mailbox : Mailbox) (message : Message) : Except SinkError Unit × Mailbox :=
  let posts := mailbox.posts + 1
  if mailbox.isOpen then
    (.ok (), { mailbox with posts, delivered := mailbox.delivered ++ [message] })
  else (.error .disconnected, { mailbox with posts })

instance : Sink Mailbox := ⟨Mailbox.post⟩

end BenchRelay
