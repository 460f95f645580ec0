import BenchRelay.Sink.Basic

/-!
# A sink that records

The recorder keeps every delivered message in order. It refuses the posts whose numbers a given
condition names; posts are numbered from 1 and refused ones count.
-/

namespace BenchRelay

/-- A sink that keeps what it is given. -/
structure Recorder where
  /-- Which posts are refused, by number. -/
  refuses : Nat → Bool := fun _ => false
  /-- How many posts were made. -/
  posts : Nat := 0
  /-- What was delivered, in order. -/
  delivered : List Message := []

/-- Record a message unless its post is refused. -/
def Recorder.post (recorder : Recorder) (message : Message) :
    Except SinkError Unit × Recorder :=
  let posts := recorder.posts + 1
  if recorder.refuses posts then (.error .disconnected, { recorder with posts })
  else (.ok (), { recorder with posts, delivered := recorder.delivered ++ [message] })

instance : Sink Recorder := ⟨Recorder.post⟩

end BenchRelay
