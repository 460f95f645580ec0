import BenchRelay.Proofs.LinkSteps
import Mathlib.Data.Finset.Basic
import Mathlib.Data.Finset.Range

/-!
# The ends of a link

Which ends of a link are left is told from the steps alone, whatever came of them. A step needs some
of the ends: it is done if these are left, and nothing changes otherwise. What a step changes, and
what an end can do, depends on them and on what is queued between them.
-/

namespace BenchRelay

namespace Link

/-- Which ends of a link are left. -/
structure Ends where
  /-- The host's sending end. -/
  sender : Bool := true
  /-- The host's receiving end. -/
  receiver : Bool := true
  /-- The worker's signal receiver. -/
  signals : Bool := true
  /-- How many sinks were ever made. -/
  made : ℕ := 1
  /-- The sinks that are left. -/
  sinks : Finset ℕ := {0}

namespace Ends

/-- Whether the ends that a step needs are left. Nothing is needed to drop the host. -/
@[simp] def allow (ends : Ends) : Step → Bool
  | .requestRun | .closeSignals => ends.sender
  | .receive => ends.receiver
  | .dropHost => true
  | .post sink _ | .cloneSink sink | .dropSink sink => sink ∈ ends.sinks
  | .dropSignals | @Step.serve _ _ _ => ends.signals
  | @Step.serveOn sink _ _ _ => sink ∈ ends.sinks && ends.signals

/-- The ends that are left when a step is done. A clone takes the number behind all sinks made
before it, and whatever serves takes the signal receiver with it. -/
@[simp] def change (ends : Ends) : Step → Ends
  | .closeSignals => { ends with sender := false }
  | .dropHost => { ends with sender := false, receiver := false }
  | .cloneSink _ => { ends with made := ends.made + 1, sinks := insert ends.made ends.sinks }
  | .dropSink sink => { ends with sinks := ends.sinks.erase sink }
  | .dropSignals | @Step.serve _ _ _ | @Step.serveOn _ _ _ _ => { ends with signals := false }
  | .requestRun | .receive | .post _ _ => ends

/-- The ends that a step leaves: all of them if one that it needs is gone. -/
def after (ends : Ends) (s : Step) : Ends := if ends.allow s then ends.change s else ends

/-- The ends that some steps leave of a new link. -/
def afterSteps (steps : List Step) : Ends := steps.foldl after {}

theorem afterSteps_append_singleton (steps : List Step) (s : Step) :
    afterSteps (steps ++ [s]) = (afterSteps steps).after s := by
  rw [afterSteps, List.foldl_append, List.foldl_cons, List.foldl_nil, ← afterSteps]

theorem after_of_allow {ends : Ends} {s : Step} (h : ends.allow s = true) :
    ends.after s = ends.change s := if_pos h

theorem after_of_gone {ends : Ends} {s : Step} (h : ends.allow s = false) :
    ends.after s = ends := if_neg (Bool.not_eq_true _ ▸ h)

theorem sender_after (ends : Ends) (s : Step) : (ends.after s).sender = true ↔
    ends.sender = true ∧ s ≠ .closeSignals ∧ s ≠ .dropHost := by
  cases s <;> simp only [after] <;> split <;> simp_all

theorem receiver_after (ends : Ends) (s : Step) :
    (ends.after s).receiver = true ↔ ends.receiver = true ∧ s ≠ .dropHost := by
  cases s <;> simp only [after] <;> split <;> simp_all

theorem signals_of_after {ends : Ends} {s : Step} (h : (ends.after s).signals = true) :
    ends.signals = true := by
  cases s <;> simp only [after] at h <;> split at h <;> simp_all

/-- The host can send until it gives that up or is dropped. -/
theorem sender_afterSteps (steps : List Step) :
    (afterSteps steps).sender = true ↔ .closeSignals ∉ steps ∧ .dropHost ∉ steps := by
  induction steps using List.reverseRecOn with
  | nil => simp [afterSteps]
  | append_singleton steps s ih =>
    rw [afterSteps_append_singleton, sender_after, ih]
    simp only [List.mem_append, List.mem_singleton, not_or, ne_eq, @eq_comm _ s]
    exact and_and_and_comm

/-- The host can receive until it is dropped. -/
theorem receiver_afterSteps (steps : List Step) :
    (afterSteps steps).receiver = true ↔ .dropHost ∉ steps := by
  induction steps using List.reverseRecOn with
  | nil => simp [afterSteps]
  | append_singleton steps s ih =>
    rw [afterSteps_append_singleton, receiver_after, ih]
    simp only [List.mem_append, List.mem_singleton, not_or, ne_eq, @eq_comm _ s]

/-- A step makes one sink at most. -/
theorem made_after (ends : Ends) (s : Step) :
    ends.made ≤ (ends.after s).made ∧ (ends.after s).made ≤ ends.made + 1 := by
  unfold after
  split
  · cases s <;> simp
  · simp

theorem made_mono {before steps : List Step} (h : before <+: steps) :
    (afterSteps before).made ≤ (afterSteps steps).made := by
  induction steps using List.reverseRecOn with
  | nil => rw [List.prefix_nil.mp h]
  | append_singleton steps s ih =>
    obtain rfl | hbefore := List.prefix_concat_iff.mp h
    · exact Nat.le_refl _
    · rw [afterSteps_append_singleton]
      exact (ih hbefore).trans (made_after _ s).1

/-- A step leaves the sinks that it does not drop, and one that it makes. -/
theorem mem_sinks_after (ends : Ends) (s : Step) (sink : ℕ) :
    sink ∈ (ends.after s).sinks ↔ (sink ∈ ends.sinks ∧ s ≠ .dropSink sink) ∨
      (sink = ends.made ∧ sink < (ends.after s).made) := by
  have hold : ¬ (sink = ends.made ∧ sink < ends.made) := by omega
  cases hallow : ends.allow s with
  | false =>
    have hother (h : sink ∈ ends.sinks) : s ≠ .dropSink sink := by
      rintro rfl
      exact of_decide_eq_false hallow h
    rw [after_of_gone hallow, and_iff_left_of_imp hother, or_iff_left hold]
  | true =>
    rw [after_of_allow hallow]
    cases s with
    | cloneSink parent =>
      have hnew : sink = ends.made ∧ sink < ends.made + 1 ↔ sink = ends.made := by omega
      rw [change, Finset.mem_insert, hnew]
      simp [or_comm]
    | dropSink dropped => simp [hold, and_comm, eq_comm]
    | _ => simp [hold]

/-- A sink is left if it was made and no step dropped it since. -/
theorem mem_sinks_afterSteps (steps : List Step) (sink : ℕ) :
    sink ∈ (afterSteps steps).sinks ↔ sink < (afterSteps steps).made ∧
      ∀ before, before ++ [.dropSink sink] <+: steps → (afterSteps before).made ≤ sink := by
  induction steps using List.reverseRecOn with
  | nil => simp [afterSteps]
  | append_singleton steps s ih =>
    have hdrops : (∀ before, before ++ [.dropSink sink] <+: steps ++ [s] →
        (afterSteps before).made ≤ sink) ↔
        (∀ before, before ++ [.dropSink sink] <+: steps → (afterSteps before).made ≤ sink) ∧
          (s = .dropSink sink → (afterSteps steps).made ≤ sink) := by
      simp only [List.prefix_concat_iff, List.append_singleton_inj, or_imp, forall_and,
        and_imp, forall_eq, @eq_comm _ s]
      exact and_comm
    have hmade := made_after (afterSteps steps) s
    rw [afterSteps_append_singleton, mem_sinks_after, ih, hdrops]
    constructor
    · rintro (⟨⟨hlt, hkept⟩, hother⟩ | ⟨rfl, hnew⟩)
      · exact ⟨by omega, hkept, fun hdrop => absurd hdrop hother⟩
      · refine ⟨hnew, fun before hbefore => ?_, fun _ => Nat.le_refl _⟩
        exact made_mono ((List.prefix_append _ _).trans hbefore)
    · rintro ⟨hlt, hkept, hlast⟩
      obtain hold | hnew := Nat.lt_or_ge sink (afterSteps steps).made
      · exact .inl ⟨⟨hold, hkept⟩, fun hdrop => absurd (hlast hdrop) (by omega)⟩
      · exact .inr ⟨by omega, hlt⟩

end Ends

/-- The sinks that a list says are there. -/
def present (sinks : List Bool) : Finset ℕ :=
  {sink ∈ Finset.range sinks.length | sinks[sink]?.getD false}

theorem mem_present {sinks : List Bool} {sink : ℕ} :
    sink ∈ present sinks ↔ sinks[sink]?.getD false = true := by
  rw [present, Finset.mem_filter, Finset.mem_range, and_iff_right_iff_imp]
  intro hthere
  by_contra hbeyond
  rw [List.getElem?_eq_none (Nat.le_of_not_lt hbeyond)] at hthere
  exact Bool.false_ne_true hthere

theorem present_append (sinks : List Bool) :
    present (sinks ++ [true]) = insert sinks.length (present sinks) := by
  ext sink
  rw [Finset.mem_insert, mem_present, mem_present]
  obtain hlt | rfl | hgt := Nat.lt_trichotomy sink sinks.length
  · simp [List.getElem?_append_left hlt, Nat.ne_of_lt hlt]
  · simp
  · have hbeyond : (sinks ++ [true]).length ≤ sink := by
      rw [List.length_append]
      exact hgt
    simp [List.getElem?_eq_none hbeyond, List.getElem?_eq_none (Nat.le_of_lt hgt),
      Nat.ne_of_gt hgt]

theorem present_set (sinks : List Bool) (dropped : ℕ) :
    present (sinks.set dropped false) = (present sinks).erase dropped := by
  ext sink
  rw [Finset.mem_erase, mem_present, mem_present]
  by_cases h : sink = dropped
  · subst h
    simp [List.getElem?_set]
    split <;> simp
  · simp [List.getElem?_set_ne (Ne.symm h), h]

/-- The ends that a link has. -/
def ends (link : Link) : Ends where
  sender := link.hostSends
  receiver := link.outbox.received
  signals := link.workerListens
  made := link.sinks.length
  sinks := present link.sinks

theorem mem_sinks_ends {link : Link} {sink : ℕ} :
    sink ∈ link.ends.sinks ↔ link.hasSink sink = true := mem_present

theorem decide_mem_sinks_ends (link : Link) (sink : ℕ) :
    decide (sink ∈ link.ends.sinks) = link.hasSink sink := by
  rw [Bool.eq_iff_iff, decide_eq_true_iff, mem_sinks_ends]

/-- No signal is queued once the worker's signal receiver is gone. -/
def Quiet (link : Link) : Prop := link.workerListens = false → link.signals = 0

theorem attempts_of_gone {link : Link} {s : Step} (h : link.ends.allow s = false) :
    link.attempts s = [] := by
  cases s with
  | post sink message =>
    rw [Ends.allow, decide_mem_sinks_ends] at h
    simp [h]
  | serveOn sink handler =>
    rw [Ends.allow, decide_mem_sinks_ends] at h
    exact if_neg (Bool.not_eq_true _ ▸ h)
  | _ => rfl

/-- A step that needs an end that is gone is not done and changes nothing. -/
theorem step_of_gone {link : Link} {s : Step} (hquiet : link.Quiet)
    (h : link.ends.allow s = false) :
    (link.step s).1.isDone = false ∧ (link.step s).2 = link := by
  obtain ⟨hostSends, workerListens, signals, outbox, sinks⟩ := link
  cases s with
  | requestRun => simp_all [step, requestRun, ends]
  | receive => simp_all [step, receive, ends]
  | closeSignals => simp_all [step, closeSignals, ends]
  | dropHost => cases h
  | post sink message => simp_all [step, post, mem_sinks_ends]
  | cloneSink sink => simp_all [step, cloneSink, mem_sinks_ends]
  | dropSink sink => simp_all [step, dropSink, mem_sinks_ends]
  | dropSignals => simp_all [step, dropSignals, ends, Quiet]
  | serve runner => simp_all [step, serve, ends]
  | serveOn sink handler =>
    rw [Ends.allow, decide_mem_sinks_ends] at h
    simp [step, serveOn_of_gone h]

/-- What one step does to a link: whether it is done, which ends it leaves, and what is then queued
between them. -/
structure Effect (link : Link) (s : Step) (answer : Answer) (after : Link) : Prop where
  done : answer.isDone = link.ends.allow s
  ends : after.ends = link.ends.after s
  waiting : after.outbox.received = true → answer.messages ++ after.outbox.waiting =
    link.outbox.waiting ++ Sink.delivered link.outbox (link.attempts s)
  signals : after.workerListens = true → after.signals = link.signals + answer.isSent.toNat
  capacity : link.signals ≤ signalCapacity → after.signals ≤ signalCapacity
  quiet : after.Quiet

theorem effect_of_allow {link : Link} {s : Step} (hquiet : link.Quiet)
    (h : link.ends.allow s = true) : Effect link s (link.step s).1 (link.step s).2 := by
  -- What the ends are to become, to be compared with those of the link that the step leaves.
  have hends := Ends.after_of_allow h
  cases s with
  | requestRun =>
    have hsends : link.hostSends = true := h
    simp only [step, requestRun, hsends, Bool.not_true, Bool.false_eq_true, if_false, Prod.map]
    split
    · constructor <;> simp_all [ends, Sink.delivered]
    split
    · next hroom =>
      constructor
      case capacity => exact fun _ => hroom
      all_goals simp_all [ends, Sink.delivered, Quiet]
    · constructor <;> simp_all [ends, Sink.delivered]
  | receive =>
    have hreceived : link.outbox.received = true := h
    simp only [step, receive, hreceived, Bool.not_true, Bool.false_eq_true, if_false, Prod.map]
    split
    · constructor <;> simp_all [ends, Sink.delivered, Quiet]
    · cases link.sinks.any id <;> constructor <;> simp_all [ends, Sink.delivered]
  | closeSignals =>
    constructor <;> simp_all [step, closeSignals, ends, Sink.delivered, Quiet]
  | dropHost => constructor <;> simp_all [step, dropHost, ends, Quiet]
  | post sink message =>
    have hsink : link.hasSink sink = true := mem_sinks_ends.mp (of_decide_eq_true h)
    simp only [step, post, hsink, if_true, Prod.map, Outbox.post]
    cases hreceived : link.outbox.received <;> constructor <;>
      simp_all [ends, Outbox.post, Sink.post, Sink.delivered, Quiet]
  | cloneSink sink =>
    have hsink : link.hasSink sink = true := mem_sinks_ends.mp (of_decide_eq_true h)
    simp only [step, cloneSink, hsink, if_true, Prod.map]
    constructor <;> simp_all [ends, present_append, Sink.delivered, Quiet]
  | dropSink sink =>
    have hsink : link.hasSink sink = true := mem_sinks_ends.mp (of_decide_eq_true h)
    simp only [step, dropSink, hsink, if_true, Prod.map]
    constructor <;> simp_all [ends, present_set, Sink.delivered, Quiet]
  | dropSignals =>
    constructor <;> simp_all [step, dropSignals, ends, Sink.delivered, Quiet]
  | serve runner =>
    have hlistens : link.workerListens = true := h
    simp only [step, serve_of_listens hlistens, Prod.map]
    constructor <;> simp_all [ends, Sink.delivered, Quiet]
  | serveOn sink handler =>
    obtain ⟨hsink, hlistens⟩ := Bool.and_eq_true_iff.mp h
    replace hsink : link.hasSink sink = true := mem_sinks_ends.mp (of_decide_eq_true hsink)
    simp only [step, serveOn_of_listens hsink hlistens, Prod.map, outbox_serve hsink hlistens,
      Outbox.afterPosts_eq]
    constructor
    case done => exact h.symm
    all_goals simp_all [ends, Quiet]

theorem effect_of_step {link : Link} (hquiet : link.Quiet) (s : Step) :
    Effect link s (link.step s).1 (link.step s).2 := by
  cases hallow : link.ends.allow s with
  | true => exact effect_of_allow hquiet hallow
  | false =>
    obtain ⟨hdone, hafter⟩ := step_of_gone hquiet hallow
    rw [hafter]
    refine ⟨hdone.trans hallow.symm, (Ends.after_of_gone hallow).symm, fun _ => ?_, fun _ => ?_,
      id, hquiet⟩
    · rw [Answer.messages_of_not_isDone hdone, attempts_of_gone hallow, Sink.delivered,
        List.nil_append, List.append_nil]
    · rw [Answer.isSent_of_not_isDone hdone, Bool.toNat_false, Nat.add_zero]

section Ends

variable {link : Link}

theorem any_sinks_eq_false_iff : link.sinks.any id = false ↔ link.ends.sinks = ∅ := by
  rw [List.any_eq_false, Finset.eq_empty_iff_forall_notMem]
  simp only [mem_sinks_ends, hasSink, Bool.not_eq_true]
  constructor
  · intro hnone sink
    cases hsink : link.sinks[sink]? with
    | none => rfl
    | some there => simpa using hnone there (List.mem_of_getElem? hsink)
  · intro hnone there hmem
    obtain ⟨sink, hsink⟩ := List.mem_iff_getElem?.mp hmem
    simpa [hsink] using hnone sink

/-- A post to a sink succeeds while the receiver is there. -/
theorem post_of_mem_sinks {sink : ℕ} (h : sink ∈ link.ends.sinks) (message : Message) :
    (link.post sink message).1 =
      some (if link.ends.receiver then .ok () else .error .disconnected) := by
  have hsink := mem_sinks_ends.mp h
  cases hreceived : link.outbox.received <;>
    simp [post, hsink, Outbox.post, ends, hreceived]

/-- The message that has waited longest comes first. -/
theorem receive_eq_message_iff (h : link.outbox.received = true) (message : Message) :
    link.receive.1 = some (.message message) ↔ link.outbox.waiting.head? = some message := by
  cases hwaiting : link.outbox.waiting with
  | nil => cases hany : link.sinks.any id <;> simp [receive, h, hwaiting, hany]
  | cons first waiting => simp [receive, h, hwaiting]

/-- Nothing more can come once nothing is queued and no sink is left. -/
theorem receive_eq_closed_iff (h : link.outbox.received = true) :
    link.receive.1 = some .closed ↔ link.outbox.waiting = [] ∧ link.ends.sinks = ∅ := by
  rw [← any_sinks_eq_false_iff]
  cases hwaiting : link.outbox.waiting with
  | nil => cases hany : link.sinks.any id <;> simp only [receive, h, hwaiting, hany] <;> simp
  | cons message waiting => simp [receive, h, hwaiting]

/-- What comes of asking for a run while the host can send. -/
theorem requestRun_of_sender (h : link.ends.sender = true) :
    (link.requestRun.1 = some .sent ↔
        link.ends.signals = true ∧ link.signals < signalCapacity) ∧
      (link.requestRun.1 = some .refused ↔ link.ends.signals = false) ∧
      (link.requestRun.1 ≠ some .sent → link.requestRun.2 = link) := by
  replace h : link.hostSends = true := h
  cases hlistens : link.workerListens with
  | false => simp [requestRun, ends, h, hlistens]
  | true =>
    by_cases hroom : link.signals < signalCapacity <;>
      simp [requestRun, ends, h, hlistens, hroom]

end Ends

end Link

end BenchRelay
