/-
What can still go wrong in a step once the invariants hold: a thread that does not hold the function
reads the record after its deletion, or the JS thread uses the wrapper after its destruction for a
job that came too late. No delivery is ever signalled twice, and no consumer job has a null pointer.
-/
import PulsarNode.Listener.Jobs

namespace PulsarNode.Listener

variable {n : Nat} {k : Kind} {own : WrapperPtr} {al : Allowed} {s s' : State n} {φ : Fin n → Phase}

/-- The uses of freed memory that the invariants leave possible. -/
inductive Misuse (k : Kind) (s : State n) : Action n → Fault → Prop
  | readPointer {t : Fin n} {m : Msg} (hpc : (s.threads t).pc = .entered m) (hd : s.recordDeleted = true) :
    Misuse k s (.readPointer t) .recordDeleted
  | acquire {t : Fin n} {m : Msg} {p : Option WrapperPtr} (hpc : (s.threads t).pc = .read m p)
      (hd : s.recordDeleted = true) : Misuse k s (.acquire t) .recordDeleted
  | dispatch {j : Job n} (hj : j ∈ s.queue) (hp : j.wrapper ≠ none) (hw : s.wrapper = .destroyed) :
    Misuse k s .dispatch .wrapperDestroyed
  | settle {j : Job n} (hk : k = .consumer) (hj : j ∈ s.pending) (hw : s.wrapper = .destroyed) :
    Misuse k s (.settle j false) .wrapperDestroyed

/-- The signal of a job finds its delivery waiting, so it is no second one. -/
theorem JobInv.fault_signal {j : Job n} {s₁ : State n} (h : JobInv own al s φ) (hw : s.Without j s₁) (e : Event) :
    (State.signal j (s₁.setThread j.thread ((s₁.threads j.thread).log e))).fault = s₁.fault := by
  obtain ⟨hseq, ha, hready⟩ := (h.threads j.thread).job j hw.mem rfl
  rw [← hw.threads] at hseq ha hready
  rw [State.signal_log e hseq ha hready]
  rfl

/-- A step leaves the fault as it is, unless it is a misuse. -/
theorem Step.fault {a : Action n} (hF : FnInv k own s) (hJ : JobInv own al s φ)
    (hnull : k = .consumer → ¬ al.null) (hs : Step k own s a s') :
    s'.fault = s.fault ∨ ∃ f, s'.fault = some f ∧ Misuse k s a f := by
  cases hs with
  | readDeleted hpc hd => exact .inr ⟨_, rfl, .readPointer hpc hd⟩
  | acquireDeleted hpc hd => exact .inr ⟨_, rfl, .acquire hpc hd⟩
  -- a thread that holds the function keeps the record
  | callDeleted hpc hd =>
    rw [hF.record_of_open (hF.open_of_holds (by rw [Thread.holds, hpc]))] at hd
    cases hd
  | releaseDeleted hpc hd =>
    rw [hF.record_of_open (hF.open_of_holds (by rw [Thread.holds, hpc]))] at hd
    cases hd
  | publishDeleted hh hd =>
    rw [hF.record_of_open (hF.open_of_holder (by rw [hh]; rintro ⟨⟩))] at hd
    cases hd
  | @callDestroyed j rest p hq hw hdead =>
    have hmem : j ∈ s.queue := by rw [hq]; exact List.mem_cons_self
    obtain ⟨-, hptr⟩ := (hJ.threads j.thread).queued j hmem rfl
    refine .inr ⟨_, rfl, .dispatch hmem (by rw [hw]; rintro ⟨⟩) ?_⟩
    rcases hptr with ⟨-, hmade⟩ | ⟨hnone, -⟩
    · cases hst : s.wrapper with
      | absent => exact absurd hst hmade
      | alive => exact absurd hst hdead
      | destroyed => rfl
    · rw [hw] at hnone
      cases hnone
  | @callNull j rest hq hw hk =>
    have hmem : j ∈ s.queue := by rw [hq]; exact List.mem_cons_self
    obtain ⟨-, hptr⟩ := (hJ.threads j.thread).queued j hmem rfl
    rcases hptr with ⟨hsome, -⟩ | ⟨-, hn⟩
    · rw [hw] at hsome
      cases hsome
    · exact absurd hn (hnull hk)
  -- a running listener keeps its wrapper
  | throwsDestroyed hr hk hw =>
    have halive := (hF.running (by rw [hr]; rintro ⟨⟩)).2
    rw [hw] at halive
    cases halive
  | rejectsDestroyed hj hk hw => exact .inr ⟨_, rfl, .settle hk hj hw⟩
  -- no handler is kept by a `then` of a promise's own
  | signals hj | logsDestroyed hj hk hw =>
    rw [hJ.kept] at hj
    cases hj
  | skip hr hq hw hk => exact .inl (hJ.fault_signal (.of_queue hq) _)
  | ends hr ho => exact .inl (hJ.fault_signal (.of_running hr) _)
  | settles hj hr hb => exact .inl (hJ.fault_signal (.of_pending hr hj) _)
  | _ => exact .inl rfl

end PulsarNode.Listener
