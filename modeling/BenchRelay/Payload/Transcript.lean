import BenchRelay.Relay

/-!
# Transcripts

A transcript is an outlet that keeps every text written to it as it came, also those that it
refuses.
-/

namespace BenchRelay

/-- An outlet that keeps all texts. -/
structure Transcript where
  /-- Which texts are refused, by number from 1. -/
  refuses : Nat → Bool := fun _ => false
  /-- The texts so far, the oldest first. -/
  texts : List Text := []

/-- Keep a text. -/
def Transcript.put (transcript : Transcript) (text : Text) :
    Except SinkError Unit × Transcript :=
  let texts := transcript.texts ++ [text]
  (if transcript.refuses texts.length then .error .disconnected else .ok (),
    { transcript with texts })

instance : Outlet Transcript := ⟨Transcript.put⟩

end BenchRelay
