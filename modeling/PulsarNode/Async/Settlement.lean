/-
The settlement protocol of the asynchronous operations, over all orders of the callbacks, the
finalizers and the issuing calls: a promise is settled once, by its own operation's reply, and the
context of a native call is deleted once. The invariant is proved of one operation, step by step,
and carried to any number of them.
-/
import PulsarNode.Async.Operation

namespace PulsarNode

open ThreadSafeDeferred

/-! ## The invariant of one operation -/

/-- What holds of an operation after any of its steps. -/
structure OpInv (op : Op) (s : OpState) : Prop where
  fault : s.fault = none
  balanced : s.deferred.Balanced
  before : s.call = .idle ∨ s.call = .preparing → s.started = false ∧ s.deferred.isDone = false
  notStarted : s.started = false → s.callback = .notEntered ∧ s.deferred.fate ≠ .resolved
  waiting : s.started = true → s.callback.outcome = none → s.deferred.isDone = false
  settled : ∀ reply, s.callback.outcome = some reply →
    s.deferred.isDone = true ∧ s.deferred.settlement = op.expected reply
  context : s.context = if s.started = true ∧ op.hasContext = true then
    (if s.callback = .notEntered then .live else .deleted) else .absent
  deletions : s.deletions = if s.context = .deleted then 1 else 0
  unfinalized : s.finalized = false → s.promise = .pending ∧ s.settlements = 0 ∧ s.deferred.self = true
  finalized : s.finalized = true →
    s.deferred.isDone = true ∧ s.promise = s.deferred.settlement ∧ s.settlements = 1
  dropped : s.finalized = true → s.deferred.self = false
  wrapper : s.wrapper = true → s.deferred.fate = .resolved

namespace OpInv

variable {op : Op} {s s' : OpState}

theorem init : OpInv op .init where
  fault := rfl
  balanced := balanced_new
  before _ := ⟨rfl, rfl⟩
  notStarted _ := ⟨rfl, by decide⟩
  waiting h := by cases h
  settled _ h := by cases h
  context := rfl
  deletions := rfl
  unfinalized _ := ⟨rfl, rfl, rfl⟩
  finalized h := by cases h
  dropped h := by cases h
  wrapper h := by cases h

theorem unwrapped_of_not_done (h : OpInv op s) (hd : s.deferred.isDone = false) : s.wrapper = false := by
  by_contra hw
  rw [isDone_of_resolved (h.wrapper (by simpa using hw))] at hd
  cases hd

/-- An unsettled deferred has not been finalized. -/
theorem unfinalized_of_not_done (h : OpInv op s) (hd : s.deferred.isDone = false) : s.finalized = false := by
  by_contra hf
  rw [Bool.not_eq_false] at hf
  rw [(h.finalized hf).1] at hd
  cases hd

theorem issue (h : OpInv op s) (hs : s.issue = some s') : OpInv op s' := by
  unfold OpState.issue at hs
  split at hs
  · rename_i hc
    cases hs
    obtain ⟨hst, hd⟩ := h.before (.inl hc)
    have hf := h.unfinalized_of_not_done hd
    exact { h with
      balanced := balanced_new
      before := fun _ => ⟨hst, rfl⟩
      notStarted := fun hn => ⟨(h.notStarted hn).1, nofun⟩
      waiting := fun _ _ => rfl
      settled := fun reply hr => by
        rw [(h.notStarted hst).1] at hr
        cases hr
      unfinalized := fun hf => ⟨(h.unfinalized hf).1, (h.unfinalized hf).2.1, rfl⟩
      finalized := fun hf' => absurd hf' (by simp [hf])
      dropped := fun hf' => absurd hf' (by simp [hf])
      wrapper := fun hw => absurd hw (by simp [h.unwrapped_of_not_done hd]) }
  · cases hs

/-- Validation finds the deferred unsettled, and settles it. -/
theorem reject {msg : String} (h : OpInv op s) (hs : s.reject op msg = some s') : OpInv op s' := by
  unfold OpState.reject at hs
  split at hs
  · rename_i hc
    obtain ⟨hst, hd⟩ := h.before (.inr hc.1)
    -- no native call was made, so no callback will find the deferred settled
    obtain ⟨hcb, _⟩ := h.notStarted hst
    have hf := h.unfinalized_of_not_done hd
    obtain ⟨d', hok, hset⟩ := reject_settledAs msg hd
    rw [hok, OpState.afterSettle_ok] at hs
    cases hs
    exact { h with
      balanced := hset.balanced h.balanced hd
      before := fun hc => by rcases hc with hc | hc <;> cases hc
      notStarted := fun _ => ⟨hcb, hset.not_resolved⟩
      waiting := fun hst' => absurd hst' (by simp [hst])
      settled := fun reply hr => by
        rw [show s.callback.outcome = none by rw [hcb]; rfl] at hr
        cases hr
      unfinalized := fun _ => ⟨(h.unfinalized hf).1, (h.unfinalized hf).2.1, by
        rw [hset.self]
        exact (h.unfinalized hf).2.2⟩
      finalized := fun hf' => absurd hf' (by simp [hf])
      dropped := fun hf' => absurd hf' (by simp [hf])
      wrapper := fun hw => absurd hw (by simp [h.unwrapped_of_not_done hd]) }
  · cases hs

theorem raise (h : OpInv op s) (hs : s.raise op = some s') : OpInv op s' := by
  unfold OpState.raise at hs
  split at hs
  · cases hs
    exact { h with before := fun hc => by rcases hc with hc | hc <;> cases hc }
  · cases hs

theorem start (h : OpInv op s) (hs : s.start op = some s') : OpInv op s' := by
  unfold OpState.start at hs
  split at hs
  · rename_i hc
    cases hs
    obtain ⟨hst, hd⟩ := h.before (.inr hc)
    obtain ⟨hcb, _⟩ := h.notStarted hst
    have habs : s.deletions = 0 := by
      rw [h.deletions, h.context, hst]
      simp
    exact { h with
      before := fun hc => by rcases hc with hc | hc <;> cases hc
      notStarted := fun hn => by cases hn
      waiting := fun _ _ => hd
      context := by simp [hcb]
      deletions := by cases hh : op.hasContext <;> simp [habs] }
  · cases hs

theorem finish (h : OpInv op s) (hs : s.finish = some s') : OpInv op s' := by
  unfold OpState.finish at hs
  split at hs
  · cases hs
    exact { h with before := fun hc => by rcases hc with hc | hc <;> cases hc }
  · cases hs

/-- The callback finds its context live, and deletes it. -/
theorem enter {reply : Reply} (h : OpInv op s) (hs : s.enter reply = some s') : OpInv op s' := by
  unfold OpState.enter at hs
  split at hs
  · rename_i hc
    obtain ⟨hst, hcb⟩ := hc
    have hctx : s.context = if op.hasContext = true then .live else .absent := by
      simpa [hst, hcb] using h.context
    have hdel := h.deletions
    have hd := h.waiting hst (by rw [hcb]; rfl)
    have hbefore : ¬ (s.call = .idle ∨ s.call = .preparing) := fun hc => by
      rw [(h.before hc).1] at hst
      cases hst
    split at hs
    · rename_i hl
      have hh : op.hasContext = true := by
        by_contra hn
        rw [hl, if_neg hn] at hctx
        cases hctx
      cases hs
      exact { h with
        before := fun hc => absurd hc hbefore
        notStarted := fun hn => absurd hst (by simp [show s.started = false from hn])
        waiting := fun _ _ => hd
        settled := nofun
        context := by simp [hst, hh]
        deletions := by simp [hdel, hl] }
    · rename_i hl
      have hh : op.hasContext = false := by
        by_contra hn
        rw [hl, if_pos (by simpa using hn)] at hctx
        cases hctx
      cases hs
      exact { h with
        before := fun hc => absurd hc hbefore
        notStarted := fun hn => absurd hst (by simp [show s.started = false from hn])
        waiting := fun _ _ => hd
        settled := nofun
        context := by simp [hl, hh] }
    -- a context is deleted by its callback only, and the callback has not run
    · rename_i hl
      rw [hl] at hctx
      split at hctx <;> cases hctx
  · cases hs

/-- The callback finds the deferred unsettled, and settles it with what its reply calls for. -/
theorem settle (h : OpInv op s) (hs : s.settle op = some s') : OpInv op s' := by
  unfold OpState.settle at hs
  split at hs
  · rename_i reply hcb
    have hst : s.started = true := by
      by_contra hn
      rw [(h.notStarted (by simpa using hn)).1] at hcb
      cases hcb
    have hd := h.waiting hst (by rw [hcb]; rfl)
    have hf := h.unfinalized_of_not_done hd
    obtain ⟨d', hok, hset⟩ := op.callback_settles reply hd
    rw [hok, OpState.afterSettle_ok] at hs
    cases hs
    have hctx := h.context
    rw [hcb] at hctx
    exact { h with
      balanced := hset.balanced h.balanced hd
      before := fun hc => absurd (h.before hc).1 (by simp [hst])
      notStarted := fun hn => by rw [hst] at hn; cases hn
      waiting := fun _ hr => by cases hr
      settled := fun reply' hr => by
        cases hr
        exact ⟨hset.isDone, hset.settlement⟩
      context := by simpa using hctx
      unfinalized := fun _ => ⟨(h.unfinalized hf).1, (h.unfinalized hf).2.1, by
        rw [hset.self]
        exact (h.unfinalized hf).2.2⟩
      finalized := fun hf' => absurd hf' (by simp [hf])
      dropped := fun hf' => absurd hf' (by simp [hf])
      wrapper := fun hw => absurd hw (by simp [h.unwrapped_of_not_done hd]) }
  · cases hs

theorem leave (h : OpInv op s) (hs : s.leave = some s') : OpInv op s' := by
  unfold OpState.leave at hs
  split at hs
  · rename_i reply hcb
    cases hs
    have hctx := h.context
    rw [hcb] at hctx
    exact { h with
      notStarted := fun hn => by
        rw [(h.notStarted hn).1] at hcb
        cases hcb
      waiting := fun _ hr => by cases hr
      settled := fun reply' hr => h.settled reply' (by rw [hcb]; exact hr)
      context := by simpa using hctx }
  · cases hs

/-- When the finalizer runs, the deferred is settled: nobody holds the function any more. -/
theorem finalize (h : OpInv op s) (hs : s.finalize op = some s') : OpInv op s' := by
  unfold OpState.finalize at hs
  split at hs
  · rename_i hc
    obtain ⟨_, htsf, hf⟩ := hc
    cases hs
    -- an unsettled deferred has its initial holder
    have hd : s.deferred.isDone = true := by
      by_contra hn
      have hb := h.balanced.holders
      simp [hn, htsf] at hb
    exact { h with
      balanced := h.balanced.dropSelf
      unfinalized := fun hf' => by cases hf'
      finalized := fun _ => ⟨hd, rfl, by simp [(h.unfinalized hf).2.1]⟩
      dropped := fun _ => rfl
      wrapper := fun hw => by simpa using (Bool.and_eq_true_iff.1 hw).2 }
  · cases hs

theorem collect (h : OpInv op s) (hs : s.collect = some s') : OpInv op s' := by
  unfold OpState.collect at hs
  split at hs
  · cases hs
    exact { h with wrapper := nofun }
  · cases hs

/-- Every step keeps the invariant. -/
theorem step {a : OpAction} (h : OpInv op s) (hs : s.step op a = some s') : OpInv op s' := by
  unfold OpState.step at hs
  rw [if_neg (not_not.2 h.fault)] at hs
  cases a with
  | issue => exact h.issue hs
  | reject msg => exact h.reject hs
  | raise => exact h.raise hs
  | start => exact h.start hs
  | finish => exact h.finish hs
  | enter reply => exact h.enter hs
  | settle => exact h.settle hs
  | leave => exact h.leave hs
  | finalize => exact h.finalize hs
  | collect => exact h.collect hs

end OpInv

theorem opInv_reachable {op : Op} {s : OpState} (h : op.machine.Reachable s) : OpInv op s :=
  h.invariant (fun _ h0 => h0 ▸ OpInv.init) fun _ _ _ _ hI hs => hI.step hs

/-! ## The promises of any number of operations -/

/-- What the protocol promises of an operation: the promise is settled at most once, by the reply of
the operation's own callback; no call of `Resolve` or `Reject` threw; and the context was deleted
once, on entry to the callback. -/
structure Settling (op : Op) (s : OpState) : Prop where
  once : s.settlements ≤ 1
  fulfilled : ∀ reply, s.callback.outcome = some reply → s.finalized = true → op.Usable reply →
    s.settlements = 1 ∧ s.promise = .fulfilled (some (op.value reply))
  rejected : ∀ reply, s.callback.outcome = some reply → s.finalized = true → ¬ op.Usable reply →
    s.settlements = 1 ∧ s.promise = .rejected (op.failure ++ op.reason reply)
  usable : ∀ v, s.promise = .fulfilled v →
    ∃ reply, s.callback.outcome = some reply ∧ op.Usable reply
  noFault : s.fault = none
  contextLive : s.started = true → op.hasContext = true → s.callback = .notEntered →
    s.context = .live ∧ s.deletions = 0
  contextDeleted : s.started = true → op.hasContext = true → s.callback ≠ .notEntered →
    s.context = .deleted ∧ s.deletions = 1

namespace OpInv

variable {op : Op} {s : OpState}

theorem promise_eq (h : OpInv op s) {reply : Reply} (hr : s.callback.outcome = some reply)
    (hf : s.finalized = true) : s.settlements = 1 ∧ s.promise = op.expected reply := by
  obtain ⟨_, hp, hn⟩ := h.finalized hf
  exact ⟨hn, hp.trans (h.settled reply hr).2⟩

/-- A fulfilled promise comes from a callback that was given a usable reply. -/
theorem usable_of_fulfilled (h : OpInv op s) {v : Option CreateValueCb} (hp : s.promise = .fulfilled v) :
    ∃ reply, s.callback.outcome = some reply ∧ op.Usable reply := by
  have hf : s.finalized = true := by
    by_contra hn
    rw [(h.unfinalized (by simpa using hn)).1] at hp
    cases hp
  obtain ⟨hd, hset, _⟩ := h.finalized hf
  have hres : s.deferred.fate = .resolved := by
    by_contra hn
    rw [hset, settlement, if_neg hn] at hp
    cases hp
  -- without a native call the deferred can only be rejected
  have hst : s.started = true := by
    by_contra hn
    exact (h.notStarted (by simpa using hn)).2 hres
  cases hr : s.callback.outcome with
  | none =>
    rw [h.waiting hst hr] at hd
    cases hd
  | some reply =>
    refine ⟨reply, rfl, (op.expected_fulfilled reply).1 ⟨v, ?_⟩⟩
    rw [← (h.promise_eq hr hf).2, hp]

theorem settling (h : OpInv op s) : Settling op s where
  once := by
    cases hf : s.finalized with
    | true => exact (h.finalized hf).2.2.le
    | false => rw [(h.unfinalized hf).2.1]; exact Nat.zero_le 1
  fulfilled reply hr hf hu := by
    obtain ⟨hn, hp⟩ := h.promise_eq hr hf
    exact ⟨hn, hp.trans (if_pos hu)⟩
  rejected reply hr hf hu := by
    obtain ⟨hn, hp⟩ := h.promise_eq hr hf
    exact ⟨hn, hp.trans (if_neg hu)⟩
  usable _ hp := h.usable_of_fulfilled hp
  noFault := h.fault
  contextLive hst hh hn := by
    have hc : s.context = .live := by rw [h.context, if_pos ⟨hst, hh⟩, if_pos hn]
    exact ⟨hc, by rw [h.deletions, hc]; rfl⟩
  contextDeleted hst hh hn := by
    have hc : s.context = .deleted := by rw [h.context, if_pos ⟨hst, hh⟩, if_neg hn]
    exact ⟨hc, by rw [h.deletions, hc]; rfl⟩

end OpInv

/-- In every state that any number of operations reach, in any order of their steps, each operation
keeps its promises. -/
theorem settling_reachable {ι : Type} [DecidableEq ι] (kind : ι → Op) {s : System ι}
    (h : (System.machine kind).Reachable s) (i : ι) : Settling (kind i) (s.ops i) :=
  (opInv_reachable (System.op_reachable kind h i)).settling

def twoOps : Bool → Op
  | true => .producerFlush
  | false => .getPartitionsForTopic

/-- A `flush` whose callback runs inside its issuing call, and a `getPartitionsForTopic` that
reports no list while the `flush` is being issued. -/
def flushAndPartitions : System Bool :=
  (System.machine twoOps).runFrom ⟨none, fun _ => .init⟩
    [(false, .issue), (false, .start), (false, .finish), (true, .issue), (true, .start),
      (false, .enter ⟨.ok, none, ⟨0, "", [], []⟩⟩), (true, .enter ⟨.ok, none, ⟨0, "", [], []⟩⟩),
      (true, .settle), (false, .settle), (true, .leave), (true, .finish), (false, .finalize),
      (false, .leave), (true, .finalize)]

theorem settling_flushAndPartitions :
    (flushAndPartitions.ops true).promise = .fulfilled (some .null) ∧
      (flushAndPartitions.ops false).promise = .rejected "Failed to GetPartitionsForTopic: Ok" ∧
      Settling .producerFlush (flushAndPartitions.ops true) ∧
      Settling .getPartitionsForTopic (flushAndPartitions.ops false) := by
  have h : (System.machine twoOps).Reachable flushAndPartitions := .runFrom (.start rfl) _
  exact ⟨by decide, by decide, settling_reachable twoOps h true, settling_reachable twoOps h false⟩

end PulsarNode
