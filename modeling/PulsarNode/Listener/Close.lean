/-
What `Consumer::Close` and `Consumer::Unsubscribe` do to the listener of a consumer, call by call:
each changes it when it is called, before the native operation has an outcome, and the callback of
the operation only settles the promise. `Close` cleans up first, `Unsubscribe` pauses and never
cleans up; a call that fails undoes nothing.
-/
import PulsarNode.Machine.Run
import PulsarNode.Native.Setters

namespace PulsarNode.Listener

/-! ## The listener and the two calls -/

/-- What a consumer has of its listener: the record, its references to the thread-safe function, the
reference count of its own JS object, and whether the native client is paused. -/
structure Held where
  listener : Option Handle
  functionRefs : Nat
  selfRefs : Nat
  paused : Bool
  deriving DecidableEq, Repr

namespace Held

/-- `SetCConsumer`: the consumer has no listener yet; the native one delivers. -/
def new : Held := ⟨none, 0, 0, false⟩

/-- `Consumer::SetListenerCallback`: the reference that the function was made with is the consumer's. -/
def setListenerCallback (listener : Option Handle) (h : Held) : Held :=
  match h.listener, listener with
  | none, some l => { h with listener := some l, functionRefs := h.functionRefs + 1, selfRefs := h.selfRefs + 1 }
  | _, _ => h

/-- `pulsar_consumer_pause_message_listener`. -/
def pauseMessageListener (h : Held) : Held := { h with paused := true }

/-- `Consumer::Cleanup`. -/
def cleanup (h : Held) : Held :=
  match h.listener with
  | none => h
  | some _ =>
    { h.pauseMessageListener with listener := none, functionRefs := h.functionRefs - 1, selfRefs := h.selfRefs - 1 }

end Held

inductive CloseOp
  | close | unsubscribe
  deriving DecidableEq, Repr

/-- What a call does before it starts the native operation. -/
def CloseOp.begin : CloseOp → Held → Held
  | close, h => h.cleanup
  | unsubscribe, h => h.pauseMessageListener

/-! ## Runs -/

/-- A call: what the consumer had before it, and the calls made since. -/
structure CloseCall where
  op : CloseOp
  before : Held
  since : List CloseOp
  deriving DecidableEq, Repr

/-- A call that has completed: whether the native operation succeeded, and what the consumer has then. -/
structure Closed where
  call : CloseCall
  ok : Bool
  after : Held
  deriving DecidableEq, Repr

structure Closing where
  held : Held
  pending : List CloseCall
  completed : List Closed
  deriving DecidableEq, Repr

inductive ClosingAction
  | call (op : CloseOp)
  | complete (i : Nat) (ok : Bool)
  deriving DecidableEq, Repr

namespace Closing

/-- The callbacks touch the promise only. -/
def step (s : Closing) : ClosingAction → Option Closing
  | .call op => some { s with
      held := op.begin s.held
      pending := (s.pending.map fun c => { c with since := c.since ++ [op] }) ++ [⟨op, s.held, []⟩] }
  | .complete i ok =>
    match s.pending[i]? with
    | none => none
    | some c => some { s with
        pending := s.pending.eraseIdx i
        completed := s.completed ++ [⟨c, ok, s.held⟩] }

/-- A consumer made with the listener `l`; the native operations end in any order, in any way. -/
def machine (l : Handle) : Machine Closing ClosingAction where
  start s := s = ⟨Held.new.setListenerCallback (some l), [], []⟩
  step := step

end Closing

/-! ## What a listener can be -/

namespace Held

/-- The listener is recorded, with the references that go with it. -/
def recorded (l : Handle) (paused : Bool) : Held := ⟨some l, 1, 1, paused⟩

/-- The listener is gone, and what it held. -/
def dropped : Held := ⟨none, 0, 0, true⟩

/-- A consumer has its listener, or nothing of it. -/
def Sound (l : Handle) (h : Held) : Prop := (∃ paused, h = recorded l paused) ∨ h = dropped

variable {l : Handle} {paused : Bool} {h : Held}

@[simp] theorem begin_dropped (op : CloseOp) : op.begin dropped = dropped := by cases op <;> rfl

@[simp] theorem close_recorded : CloseOp.close.begin (recorded l paused) = dropped := rfl

@[simp] theorem unsubscribe_recorded : CloseOp.unsubscribe.begin (recorded l paused) = recorded l true := rfl

theorem Sound.begin (hs : h.Sound l) (op : CloseOp) : (op.begin h).Sound l := by
  rcases hs with ⟨paused, rfl⟩ | rfl
  · cases op with
    | close => exact .inr rfl
    | unsubscribe => exact .inl ⟨true, rfl⟩
  · exact .inr (begin_dropped op)

theorem foldl_dropped (ops : List CloseOp) : ops.foldl (fun h op => op.begin h) dropped = dropped := by
  induction ops with
  | nil => rfl
  | cons op rest ih => rw [List.foldl_cons, begin_dropped, ih]

/-- After calls of which one is a close, nothing is left; after others the listener is paused. -/
theorem foldl_recorded (ops : List CloseOp) :
    ops.foldl (fun h op => op.begin h) (recorded l paused) =
      if .close ∈ ops then dropped else recorded l (paused || !ops.isEmpty) := by
  induction ops generalizing paused with
  | nil => simp
  | cons op rest ih =>
    rw [List.foldl_cons]
    cases op with
    | close => rw [close_recorded, foldl_dropped, if_pos List.mem_cons_self]
    | unsubscribe => simp [ih]

end Held

/-! ## The invariant -/

/-- What the consumer has when nothing but the calls so far has changed it. -/
def CloseCall.held (c : CloseCall) : Held := c.since.foldl (fun h op => op.begin h) (c.op.begin c.before)

/-- Each call has what it and the later calls made of what there was before it. -/
structure ClosingInv (l : Handle) (s : Closing) : Prop where
  sound : s.held.Sound l
  pending : ∀ c ∈ s.pending, c.before.Sound l ∧ s.held = c.held
  completed : ∀ d ∈ s.completed, d.call.before.Sound l ∧ d.after = d.call.held

theorem ClosingInv.init {l : Handle} : ClosingInv l ⟨Held.new.setListenerCallback (some l), [], []⟩ :=
  ⟨.inl ⟨false, rfl⟩, by simp, by simp⟩

theorem ClosingInv.step {l : Handle} {s s' : Closing} {a : ClosingAction} (h : ClosingInv l s)
    (hs : s.step a = some s') : ClosingInv l s' := by
  cases a with
  | call op =>
    cases hs
    refine ⟨h.sound.begin op, fun c hc => ?_, h.completed⟩
    rcases List.mem_append.1 hc with hc | hc
    · obtain ⟨c', hc', rfl⟩ := List.mem_map.1 hc
      obtain ⟨hbefore, hheld⟩ := h.pending c' hc'
      refine ⟨hbefore, ?_⟩
      rw [hheld]
      simp [CloseCall.held]
    · obtain rfl := List.mem_singleton.1 hc
      exact ⟨h.sound, rfl⟩
  | complete i ok =>
    unfold Closing.step at hs
    dsimp only at hs
    split at hs
    · cases hs
    · rename_i c hc
      cases hs
      refine ⟨h.sound, fun c' hc' => h.pending c' (List.mem_of_mem_eraseIdx hc'), fun d hd => ?_⟩
      rcases List.mem_append.1 hd with hd | hd
      · exact h.completed d hd
      · obtain rfl := List.mem_singleton.1 hd
        exact h.pending c (List.mem_of_getElem? hc)

theorem closingInv_reachable {l : Handle} {s : Closing} (h : (Closing.machine l).Reachable s) : ClosingInv l s :=
  h.invariant (fun _ h0 => h0 ▸ ClosingInv.init) fun _ _ _ _ hI hs => hI.step hs

/-! ## All or nothing -/

/-- The listener is let go: it is not recorded, and nothing is kept alive for it. -/
structure Held.LetGo (h : Held) : Prop where
  listener : h.listener = none
  functionRefs : h.functionRefs = 0
  selfRefs : h.selfRefs = 0

theorem Held.letGo_dropped : Held.dropped.LetGo := ⟨rfl, rfl, rfl⟩

theorem Held.not_letGo_recorded {l : Handle} {paused : Bool} : ¬ (Held.recorded l paused).LetGo := fun h =>
  absurd h.listener (by simp [Held.recorded])

theorem Held.dropped_ne_recorded {l : Handle} {paused : Bool} : Held.dropped ≠ Held.recorded l paused := by
  simp [Held.dropped, Held.recorded]

/-- A call that succeeded has let the listener go, a call that failed has left it as it was. -/
structure Closed.AllOrNothing (d : Closed) : Prop where
  ok : d.ok = true → d.after.LetGo
  failed : d.ok = false → d.after = d.call.before

/-- The call was a success of `close`, or one after or beside a close; or it failed when there was
no listener any more, or, without a close beside it, on a listener that was paused and stayed so. -/
def Closed.Covered (d : Closed) : Prop :=
  if d.ok then d.call.before.listener = none ∨ d.call.op = .close ∨ .close ∈ d.call.since
  else d.call.before.listener = none ∨
    d.call.op = .unsubscribe ∧ d.call.before.paused = true ∧ .close ∉ d.call.since

section

variable {l : Handle} {paused : Bool} {d : Closed}

/-- What lets the listener go is right when the call succeeded. -/
theorem allOrNothing_of_dropped (hbefore : d.call.before = .recorded l paused) (hafter : d.after = .dropped) :
    d.AllOrNothing ↔ d.ok = true := by
  constructor
  · intro hall
    by_contra hok
    have heq := hall.failed (by simpa using hok)
    rw [hbefore, hafter] at heq
    exact Held.dropped_ne_recorded heq
  · intro hok
    exact ⟨fun _ => hafter ▸ Held.letGo_dropped, fun hfailed => by simp [hok] at hfailed⟩

/-- What pauses the listener is right when the call failed and there was a pause before. -/
theorem allOrNothing_of_paused (hbefore : d.call.before = .recorded l paused) (hafter : d.after = .recorded l true) :
    d.AllOrNothing ↔ d.ok = false ∧ paused = true := by
  constructor
  · intro hall
    have hok : d.ok = false := by
      by_contra hok
      have hgone := hall.ok (by simpa using hok)
      rw [hafter] at hgone
      exact Held.not_letGo_recorded hgone
    have heq := hall.failed hok
    rw [hbefore, hafter] at heq
    exact ⟨hok, (congrArg Held.paused heq).symm⟩
  · rintro ⟨hok, rfl⟩
    exact ⟨fun h => by simp [hok] at h, fun _ => hafter.trans hbefore.symm⟩

/-- Where there was nothing of the listener any more, every call is right. -/
theorem allOrNothing_of_gone (hbefore : d.call.before = .dropped) (hafter : d.after = .dropped) : d.AllOrNothing :=
  ⟨fun _ => hafter ▸ Held.letGo_dropped, fun _ => hafter.trans hbefore.symm⟩

end

/-- Every call of `close` or `unsubscribe` that completes, whatever happens beside it, is all or nothing
exactly when it is covered. -/
theorem allOrNothing_iff {l : Handle} {s : Closing} (h : (Closing.machine l).Reachable s) {d : Closed}
    (hd : d ∈ s.completed) : d.AllOrNothing ↔ d.Covered := by
  obtain ⟨hsound, hafter⟩ := (closingInv_reachable h).completed d hd
  unfold CloseCall.held at hafter
  unfold Closed.Covered
  rcases hsound with ⟨paused, hbefore⟩ | hbefore
  · have hlistener : d.call.before.listener ≠ none := by simp [hbefore, Held.recorded]
    have hpaused : d.call.before.paused = paused := by rw [hbefore]; rfl
    rw [hbefore] at hafter
    cases hop : d.call.op with
    | close =>
      rw [hop, Held.close_recorded, Held.foldl_dropped] at hafter
      rw [allOrNothing_of_dropped hbefore hafter]
      cases d.ok <;> simp [hlistener]
    | unsubscribe =>
      rw [hop, Held.unsubscribe_recorded, Held.foldl_recorded] at hafter
      by_cases hclose : CloseOp.close ∈ d.call.since
      · rw [if_pos hclose] at hafter
        rw [allOrNothing_of_dropped hbefore hafter]
        cases d.ok <;> simp [hlistener, hclose]
      · rw [if_neg hclose, Bool.true_or] at hafter
        rw [allOrNothing_of_paused hbefore hafter]
        cases d.ok <;> simp [hlistener, hclose, hpaused]
  · rw [hbefore, Held.begin_dropped, Held.foldl_dropped] at hafter
    refine iff_of_true (allOrNothing_of_gone hbefore hafter) ?_
    have hlistener : d.call.before.listener = none := by rw [hbefore]; rfl
    split
    · exact .inl hlistener
    · exact .inl hlistener

/-- A close that succeeds. -/
theorem close_allOrNothing :
    ∃ s d, (Closing.machine 7).Reachable s ∧ d ∈ s.completed ∧ d.call.op = .close ∧ d.ok = true ∧ d.AllOrNothing := by
  have hrun : (Closing.machine 7).run ⟨Held.new.setListenerCallback (some 7), [], []⟩
      [.call .close, .complete 0 true] = some _ := rfl
  have hreach := Machine.Reachable.run (.start rfl) hrun
  exact ⟨_, _, hreach, List.mem_singleton_self _, rfl, rfl,
    (allOrNothing_iff hreach (List.mem_singleton_self _)).2 (.inr (.inl rfl))⟩

/-- An unsubscribe that succeeds leaves the listener where it was, and the wrapper and the process alive. -/
theorem unsubscribe_keepsListener :
    ∃ s d, (Closing.machine 7).Reachable s ∧ d ∈ s.completed ∧ d.call.op = .unsubscribe ∧ d.ok = true ∧
      d.after = ⟨some 7, 1, 1, true⟩ ∧ ¬ d.AllOrNothing := by
  have hrun : (Closing.machine 7).run ⟨Held.new.setListenerCallback (some 7), [], []⟩
      [.call .unsubscribe, .complete 0 true] = some _ := rfl
  refine ⟨_, _, Machine.Reachable.run (.start rfl) hrun, List.mem_singleton_self _, rfl, rfl, rfl, fun h => ?_⟩
  exact Held.not_letGo_recorded (h.ok rfl)

end PulsarNode.Listener
