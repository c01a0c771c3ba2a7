/-
The listener of a consumer that is created and not closed. Where the promises of the JS listener have
the built-in `then`, every delivery takes the one course in which the listener is called once with the
consumer and the thread returns after the signal, a thread that waits is owed exactly one job, and the
deliveries under way always come to their end. A promise with a `then` of its own may leave its thread
waiting, for the built-in `catch` and `finally` call that `then`.
-/
import PulsarNode.Listener.Progress

namespace PulsarNode.Listener

variable {n : Nat} {own : WrapperPtr} {s : State n}

/-- The consumer is created and not closed. -/
def StaysOpen (_ : State n) (a : Action n) : Prop := a ≠ .createFail ∧ a ≠ .close

instance (s : State n) (a : Action n) : Decidable (StaysOpen s a) := inferInstanceAs (Decidable (_ ∧ _))

def consumer (own : WrapperPtr) (n : Nat) : Machine (State n) (Action n) :=
  (machine .consumer own n).restrict StaysOpen

theorem consumer_start : (consumer own n).start .init := rfl

/-- And its promises have the built-in `then`. -/
def ServesPlain (s : State n) (a : Action n) : Prop := StaysOpen s a ∧ a.strays .consumer = false

instance (s : State n) (a : Action n) : Decidable (ServesPlain s a) := inferInstanceAs (Decidable (_ ∧ _))

def plainConsumer (own : WrapperPtr) (n : Nat) : Machine (State n) (Action n) :=
  (machine .consumer own n).restrict ServesPlain

theorem plainConsumer_start : (plainConsumer own n).start .init := rfl

/-- What a consumer that stays open promises in a state of the runs of `m`. -/
structure Served (m : Machine (State n) (Action n)) (own : WrapperPtr) (s : State n) : Prop where
  fault : s.fault = none
  /-- On every thread each message is passed on once, with the consumer, and signalled once after
  that, and the thread returns only then. -/
  passed : ∀ t, Follows own (fun c => ∃ m, c = .handled .called m) (s.threads t).history
  /-- A thread at rest has no delivery left unfinished. -/
  rested : ∀ t, (s.threads t).pc = .idle → ∃ cs : List Course,
    (∀ c ∈ cs, ∃ m, c = .handled .called m) ∧ (s.threads t).history = cs.flatMap (Course.events own)
  owed : ∀ t m, (s.threads t).awaited = some m → (s.threads t).ready = false →
    ∃ j, s.obligations t = [j] ∧ j.msg = m
  settled : ∀ t, (s.threads t).awaited = none ∨ (s.threads t).ready = true → s.obligations t = []
  /-- While a thread is not at rest, a step that carries on is open. -/
  moves : ∀ t, (s.threads t).pc ≠ .idle → Moves m s
  /-- Such steps alone come to an end. -/
  ends : ∀ as s', (∀ a ∈ as, a.advances = true) → m.run s as = some s' → as.length ≤ s.work

/-- The initial reference is not released in a run without `close`. -/
theorem holder_reachable (h : (plainConsumer own n).Reachable s) : s.holder ≠ .released := by
  refine h.invariantWhere (I := fun s => s.holder ≠ .released) ?_ ?_
  · rintro s rfl
    nofun
  · intro s a s' hI hok hs
    cases (Step.of_step hs).2 with
    | createOk hh => nofun
    | createFail hh => exact absurd rfl hok.1.1
    | publish hh hr => nofun
    | close hh => exact absurd rfl hok.1.2
    | skip => exact (State.holder_signal _ _).trans_ne hI
    | ends => exact (State.holder_signal _ _).trans_ne hI
    | settles => exact (State.holder_signal _ _).trans_ne hI
    | signals => exact (State.holder_signal _ _).trans_ne hI
    | _ => exact hI

/-- A consumer reads no null pointer, and loses no thread. -/
theorem jobInv_consumer (h : (plainConsumer own n).Reachable s) : ∃ φ, JobInv own ⟨False, False⟩ s φ := by
  have h' : ((machine .consumer own n).restrict ServesPlain).Reachable s := h
  refine jobInv_reachable (k := .consumer) ?_ ?_ ?_ (fun _ _ hok => hok.2) h'
  · intro s t hk
    cases hk
  · intro s hk
    cases hk
  · intro s j hk
    cases hk

/-- A consumer that stays open does not fault. -/
theorem consumer_fault (h : (plainConsumer own n).Reachable s) : s.fault = none := by
  refine h.invariant (I := fun s => s.fault = none) ?_ ?_
  · rintro s rfl
    rfl
  · intro s a s' hr hI hs
    have hs' := (Step.of_step (Machine.restrict_step hs).2).2
    have hF := fnInv_reachable hr.unrestrict
    obtain ⟨φ, hJ⟩ := jobInv_consumer hr
    have hh := holder_reachable hr
    -- whoever has the initial reference keeps the record, and a wrapper that has it is alive
    have hd := hF.record_of_open (hF.open_of_holder hh)
    have hw : s.wrapper ≠ .destroyed := by
      cases hst : s.holder with
      | config => rw [hF.absent (.inl hst)]; nofun
      | resolver => rw [hF.absent (.inr hst)]; nofun
      | wrapper => rw [hF.alive hst]; nofun
      | released => exact absurd hst hh
    rcases hs'.fault hF hJ (fun _ => id) with hf | ⟨f, -, hm⟩
    · rw [hf, hI]
    · cases hm with
      | readPointer _ hd' | acquire _ hd' =>
        rw [hd] at hd'
        cases hd'
      | dispatch _ _ hw' | settle _ _ hw' => exact absurd hw' hw

theorem Smooth.servesPlain {a : Action n} (h : Smooth s a) : ServesPlain s a := by
  refine ⟨⟨?_, ?_⟩, h.keepsAlive.not_strays⟩
  · rintro rfl
    exact h
  · rintro rfl
    exact h

/-- Two deliveries to a consumer, one of them before the wrapper exists; the listener throws at one
message, and the promise that it returns for the other is rejected. -/
def twoDeliveries : State 2 :=
  (plainConsumer 9 2).runFrom .init
    [.deliver 0 5, .createOk, .publish, .deliver 1 6, .readPointer 0, .acquire 0, .blockingCall 0, .dispatch,
      .readPointer 1, .acquire 1, .blockingCall 1, .listenerReturns (.promise .builtIn), .dispatch, .release 0,
      .listenerReturns .throws, .settle ⟨0, 1, 5, some 9⟩ false, .wake 0, .release 1, .wake 1]

/-- The listener returns a promise whose own `then` throws. -/
def ownThen : State 1 :=
  (consumer 9 1).runFrom .init
    [.createOk, .publish, .deliver sole 5, .readPointer sole, .acquire sole, .blockingCall sole, .dispatch,
      .release sole, .listenerReturns (.promise (.own []))]

end PulsarNode.Listener
