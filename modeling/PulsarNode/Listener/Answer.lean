/-
How a reader answers its threads: each queued message is signalled once, a thread that waits is owed
exactly one job, and the deliveries under way come to their end, as long as the record and the wrapper
are kept alive and the JS listener neither throws nor returns a promise that is rejected or has a `then`
of its own. Where it does, its thread is owed no job.
-/
import PulsarNode.Listener.Progress

namespace PulsarNode.Listener

variable {n : Nat} {own : WrapperPtr} {al : Allowed} {s s' : State n} {φ : Fin n → Phase}

/-- The listener throws, or the promise it returned is rejected or has a `then` of its own. -/
def Action.fails : Action n → Bool
  | .listenerReturns .throws | .listenerReturns (.promise (.own _)) | .settle _ false => true
  | _ => false

def ListenerSucceeds (_ : State n) (a : Action n) : Prop := a.fails = false

instance (s : State n) (a : Action n) : Decidable (ListenerSucceeds s a) :=
  inferInstanceAs (Decidable (_ = _))

/-- The listener does not fail, and nothing that a delivery needs is freed. -/
def Attends (s : State n) (a : Action n) : Prop := ListenerSucceeds s a ∧ KeepsAlive .reader s a

instance (s : State n) (a : Action n) : Decidable (Attends s a) := inferInstanceAs (Decidable (_ ∧ _))

/-- A reader whose listener never fails. -/
def attentiveReader (own : WrapperPtr) (n : Nat) : Machine (State n) (Action n) :=
  (machine .reader own n).restrict Attends

theorem attentiveReader_start : (attentiveReader own n).start .init := rfl

/-- What a reader owes to its threads in a state of the runs of `m`. -/
structure Answered (m : Machine (State n) (Action n)) (own : WrapperPtr) (s : State n) : Prop where
  fault : s.fault = none
  /-- On every thread each queued message is signalled once, and the thread returns only then. -/
  signalled : ∀ t, Follows own (fun _ => True) (s.threads t).history
  /-- A thread that waits has exactly one queued job, running JS call or pending promise. -/
  owed : ∀ t m, (s.threads t).awaited = some m → (s.threads t).ready = false →
    ∃ j, s.obligations t = [j] ∧ j.msg = m
  settled : ∀ t, (s.threads t).awaited = none ∨ (s.threads t).ready = true → s.obligations t = []
  /-- While a thread is not at rest, a step that carries on is open. -/
  moves : ∀ t, (s.threads t).pc ≠ .idle → Moves m s
  /-- Such steps alone come to an end. -/
  ends : ∀ as s', (∀ a ∈ as, a.advances = true) → m.run s as = some s' → as.length ≤ s.work

theorem jobInv_attentive (h : (attentiveReader own n).Reachable s) : ∃ φ, JobInv own ⟨True, False⟩ s φ := by
  have h' : ((machine .reader own n).restrict Attends).Reachable s := h
  refine jobInv_reachable (k := .reader) (fun _ _ _ _ _ => trivial) ?_ ?_ (fun _ _ hok => hok.2.not_strays) h'
  · intro s _ hok
    cases hok.1
  · intro s j _ hok
    cases hok.1

theorem lifeInv_attentive (h : (attentiveReader own n).Reachable s) : LifeInv .reader s := by
  have h' : ((machine .reader own n).restrict Attends).Reachable s := h
  have hcareful : (carefulMachine .reader own n).Reachable s := h'.mono fun _ _ hok => hok.2
  exact lifeInv_reachable hcareful

theorem Smooth.attends {a : Action n} (h : Smooth s a) : Attends s a := by
  refine ⟨?_, h.keepsAlive⟩
  cases a with
  | listenerReturns o =>
    cases o with
    | value => rfl
    | throws | promise t => cases h
  | settle j b =>
    cases b with
    | true => rfl
    | false => cases h
  | _ => rfl

/-- A step in which the listener fails leaves a thread that waits with no job. -/
theorem Step.loses {a : Action n} (hJ : JobInv own al s φ) (hs : Step .reader own s a s') (ha : a.fails = true) :
    ∃ t m, (s'.threads t).awaited = some m ∧ (s'.threads t).ready = false ∧ s'.obligations t = [] := by
  have hlost : ∀ {j : Job n} {s₁ : State n}, s.Without j s₁ →
      ∃ t m, ((State.finish j s₁).threads t).awaited = some m ∧ ((State.finish j s₁).threads t).ready = false ∧
        (State.finish j s₁).obligations t = [] := by
    intro j s₁ hw
    obtain ⟨-, haw, hr⟩ := (hJ.threads j.thread).job j hw.mem rfl
    rw [← hw.threads] at haw hr
    unfold State.finish
    refine ⟨j.thread, j.msg, ?_, ?_, ?_⟩
    · rw [State.threads_setThread_self]
      exact haw
    · rw [State.threads_setThread_self]
      exact hr
    -- the job was the only one of its thread
    · refine List.eq_nil_iff_forall_not_mem.2 fun j' hj' => ?_
      obtain ⟨hmem, hjt⟩ := State.mem_obligations.1 hj'
      exact hJ.no_other hw j' hmem hjt
  cases hs with
  | @ends j o hr ho =>
    rcases ho with rfl | ⟨-, hk⟩ | ⟨rfl, -⟩
    · cases ha
    · cases hk
    · cases ha
  | throwsReader hr hk => exact hlost (.of_running hr)
  | @keeps j hs hr =>
    obtain ⟨-, haw, hready⟩ := (hJ.threads j.thread).job j (State.Without.of_running hr).mem rfl
    refine ⟨j.thread, j.msg, haw, hready, List.eq_nil_iff_forall_not_mem.2 fun j' hj' => ?_⟩
    obtain ⟨hmem, hjt⟩ := State.mem_obligations.1 hj'
    exact hJ.no_other (.of_running hr) j' hmem hjt
  | @settles j b hj hr hb =>
    rcases hb with rfl | hk
    · cases ha
    · cases hk
  | rejectsReader hj hr hk => exact hlost (.of_pending hr hj)
  | throwsDestroyed _ hk | rejectsDestroyed _ hk | escapes _ hk => cases hk
  | _ => cases ha

/-- The listener returns a promise that is fulfilled. -/
def fulfilledListener : State 1 :=
  (attentiveReader 9 1).runFrom .init
    [.createOk, .publish, .deliver sole 5, .readPointer sole, .acquire sole, .blockingCall sole, .dispatch,
      .release sole, .listenerReturns (.promise .builtIn)]

/-- The listener throws at its first message. -/
def throwingListener : State 1 :=
  (machine .reader 9 1).runFrom .init
    [.createOk, .publish, .deliver sole 5, .readPointer sole, .acquire sole, .blockingCall sole, .dispatch,
      .release sole, .listenerReturns .throws]

end PulsarNode.Listener
