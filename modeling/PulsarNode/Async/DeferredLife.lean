/-
The life of the deferred of an asynchronous operation, in every order of its steps. It is shared by the issuing
call, the context, the locals of the callback and itself; it is destroyed once, after its finalizer has run and
its callback has let go of it, and a create call that throws leaves it behind for good. The callback of
`getSchemaInfo` is a lambda that captures the deferred; the native client is taken to drop it when it returns.
-/
import PulsarNode.Async.Ownership
import PulsarNode.Machine.Lifetime

namespace PulsarNode

/-! ## What a step of an operation does -/

/-- The steps of an operation, with the state each leaves. -/
inductive OpStep (op : Op) (s : OpState) : OpAction → OpState → Prop
  | issue (h : s.call = .idle) : OpStep op s .issue { s with call := .preparing, deferred := .new }
  | reject (msg : String) (d : ThreadSafeDeferred) (h : s.call = .preparing) (hop : op.isCreate = true)
    (hself : d.self = s.deferred.self) : OpStep op s (.reject msg) { s with call := .running, deferred := d }
  | raise (h : s.call = .preparing) (hop : op.isCreate = true) : OpStep op s .raise { s with call := .threw }
  | start (h : s.call = .preparing) :
    OpStep op s .start
      { s with call := .running, started := true, context := if op.hasContext then .live else .absent }
  | finish (h : s.call = .running) : OpStep op s .finish { s with call := .returned }
  | enter (reply : Reply) (context : Context) (deletions : Nat) (hs : s.started = true) (h : s.callback = .notEntered)
    (hcontext : context ≠ .live) :
    OpStep op s (.enter reply) { s with callback := .entered reply, context := context, deletions := deletions }
  | settle (reply : Reply) (d : ThreadSafeDeferred) (h : s.callback = .entered reply) (hself : d.self = s.deferred.self) :
    OpStep op s .settle { s with deferred := d, callback := .settled reply }
  | leave (reply : Reply) (h : s.callback = .settled reply) : OpStep op s .leave { s with callback := .done reply }
  | finalize (wrapper : Bool) (h : s.finalized = false) (hc : s.call = .returned ∨ s.call = .threw)
    (hd : s.deferred.isDone = true) :
    OpStep op s .finalize { s with
      promise := s.deferred.settlement
      settlements := s.settlements + 1
      deferred := s.deferred.dropSelf
      finalized := true
      wrapper := wrapper }
  | collect : OpStep op s .collect { s with wrapper := false }

theorem opStep_of_step {op : Op} {s s' : OpState} {a : OpAction} (h : OpInv op s) (hs : s.step op a = some s') :
    OpStep op s a s' := by
  unfold OpState.step at hs
  rw [if_neg (not_not.2 h.fault)] at hs
  cases a with
  | issue =>
    dsimp only [OpState.issue] at hs
    split at hs <;> cases hs
    exact .issue (by assumption)
  | reject msg =>
    dsimp only [OpState.reject] at hs
    split at hs
    · rename_i hc
      obtain ⟨d, hd, hset⟩ := s.deferred.reject_settledAs msg (h.before (.inr hc.1)).2
      rw [hd, OpState.afterSettle_ok] at hs
      cases hs
      exact .reject msg d hc.1 hc.2 hset.self
    · cases hs
  | raise =>
    dsimp only [OpState.raise] at hs
    split at hs
    · rename_i hc
      cases hs
      exact .raise hc.1 hc.2
    · cases hs
  | start =>
    dsimp only [OpState.start] at hs
    split at hs <;> cases hs
    exact .start (by assumption)
  | finish =>
    dsimp only [OpState.finish] at hs
    split at hs <;> cases hs
    exact .finish (by assumption)
  | enter reply =>
    have hfault := (OpInv.enter h hs).fault
    dsimp only [OpState.enter] at hs
    split at hs
    · rename_i hc
      split at hs <;> cases hs
      · exact .enter reply .deleted _ hc.1 hc.2 nofun
      · rename_i habsent
        exact .enter reply s.context s.deletions hc.1 hc.2 (by rw [habsent]; rintro ⟨⟩)
      · cases hfault
    · cases hs
  | settle =>
    dsimp only [OpState.settle] at hs
    split at hs
    · rename_i reply hcb
      have hst : s.started = true := by
        by_contra hn
        rw [(h.notStarted (by simpa using hn)).1] at hcb
        cases hcb
      obtain ⟨d, hd, hset⟩ := op.callback_settles reply (h.waiting hst (by rw [hcb]; rfl))
      rw [hd, OpState.afterSettle_ok] at hs
      cases hs
      exact .settle reply d hcb hset.self
    · cases hs
  | leave =>
    dsimp only [OpState.leave] at hs
    split at hs <;> cases hs
    exact .leave _ (by assumption)
  | finalize =>
    have hdone := (OpInv.finalize h hs).finalized
    dsimp only [OpState.finalize] at hs
    split at hs
    · rename_i hc
      cases hs
      exact .finalize _ hc.2.2 hc.1 (hdone rfl).1
    · cases hs
  | collect =>
    dsimp only [OpState.collect] at hs
    split at hs <;> cases hs
    exact .collect

/-! ## The invariant -/

/-- A call that throws leaves its deferred unsettled, with no native call made; the finalizer runs after the
call, and a call that is over was begun. -/
structure CallInv (op : Op) (s : OpState) : Prop where
  op : OpInv op s
  threw : s.call = .threw → s.started = false ∧ s.deferred.isDone = false
  finalized : s.finalized = true → s.call = .returned

namespace CallInv

variable {op : Op} {s s' : OpState} {a : OpAction}

theorem init : CallInv op .init where
  op := OpInv.init
  threw := nofun
  finalized := nofun

/-- Before its native call is made, an operation is not finalized. -/
theorem unfinalized (h : CallInv op s) (hc : s.call ≠ .returned) : s.finalized = false := by
  by_contra hf
  exact hc (h.finalized (by simpa using hf))

theorem not_threw (h : CallInv op s) (hst : s.started = true) : s.call ≠ .threw := by
  intro hc
  rw [(h.threw hc).1] at hst
  cases hst

theorem started_of_entered (h : CallInv op s) (hcb : s.callback ≠ .notEntered) : s.started = true := by
  by_contra hst
  exact hcb (h.op.notStarted (by simpa using hst)).1

theorem step (h : CallInv op s) (hs : s.step op a = some s') : CallInv op s' := by
  have hop := h.op.step hs
  cases opStep_of_step h.op hs with
  | issue hc =>
    have hf := h.unfinalized (by rw [hc]; rintro ⟨⟩)
    exact ⟨hop, nofun, fun hf' => absurd hf' (by simp [hf])⟩
  | reject msg d hc =>
    have hf := h.unfinalized (by rw [hc]; rintro ⟨⟩)
    exact ⟨hop, nofun, fun hf' => absurd hf' (by simp [hf])⟩
  | raise hc =>
    have hf := h.unfinalized (by rw [hc]; rintro ⟨⟩)
    exact ⟨hop, fun _ => h.op.before (.inr hc), fun hf' => absurd hf' (by simp [hf])⟩
  | start hc =>
    have hf := h.unfinalized (by rw [hc]; rintro ⟨⟩)
    exact ⟨hop, nofun, fun hf' => absurd hf' (by simp [hf])⟩
  | finish hc => exact ⟨hop, nofun, fun _ => rfl⟩
  | enter reply context deletions hst hcb => exact ⟨hop, h.threw, h.finalized⟩
  | settle reply d hcb =>
    have hst := h.started_of_entered (by rw [hcb]; rintro ⟨⟩)
    exact ⟨hop, fun hc => absurd hc (h.not_threw hst), h.finalized⟩
  | leave reply hcb => exact ⟨hop, h.threw, h.finalized⟩
  | finalize wrapper hf hc hd =>
    -- the deferred of a call that threw is not settled
    have hret : s.call = .returned := hc.resolve_right fun hthrew => by
      rw [(h.threw hthrew).2] at hd
      cases hd
    refine ⟨hop, fun hthrew => ?_, fun _ => hret⟩
    rw [show s.call = .threw from hthrew] at hret
    cases hret
  | collect => exact ⟨hop, h.threw, h.finalized⟩

end CallInv

theorem callInv_reachable {op : Op} {s : OpState} (h : op.machine.Reachable s) : CallInv op s :=
  h.invariant (fun _ h0 => h0 ▸ CallInv.init) fun _ _ _ _ hI hs => hI.step hs

/-! ## The life of the deferred -/

/-- The call has made its deferred. -/
def DeferredMade (s : OpState) : Prop := s.call ≠ .idle

instance : DecidablePred DeferredMade := fun _ => inferInstanceAs (Decidable (_ ≠ _))

/-- Somebody shares the deferred; there is one deferred to an operation. -/
def DeferredOwned (_ : Unit) (s : OpState) : Prop := s.call ≠ .idle ∧ s.deferredAlive = true

instance (u : Unit) : DecidablePred (DeferredOwned u) := fun _ => inferInstanceAs (Decidable (_ ≠ _ ∧ _))

/-- The machine of an operation, with the count of its destroyed deferreds. -/
def Op.deferredMachine (op : Op) : Machine (OpState × (Unit → Nat)) OpAction := op.machine.losing DeferredOwned

theorem Op.deferredMachine_start (op : Op) : op.deferredMachine.start (.init, fun _ => 0) := ⟨rfl, rfl⟩

namespace CallInv

variable {op : Op} {s s' : OpState} {a : OpAction}

theorem call_ne_idle (h : CallInv op s) (hst : s.started = true) : s.call ≠ .idle := by
  intro hc
  rw [(h.op.before (.inl hc)).1] at hst
  cases hst

/-- The deferred has no owner left once it is finalized and its callback has returned. -/
theorem unowned_iff (h : CallInv op s) (hmade : DeferredMade s) :
    ¬ DeferredOwned () s ↔ s.finalized = true ∧ s.callback.onStack = false := by
  have hself : s.deferred.self = !s.finalized := by
    cases hf : s.finalized with
    | true => exact h.op.dropped hf
    | false => exact (h.op.unfinalized hf).2.2
  unfold DeferredOwned OpState.deferredAlive
  constructor
  · intro hno
    have halive : ¬ (s.inCall || s.context == .live || s.callback.onStack || s.deferred.self) = true := fun hc => hno ⟨hmade, hc⟩
    simp only [hself, Bool.or_eq_true, not_or, Bool.not_eq_true] at halive
    exact ⟨by simpa using halive.2, halive.1.2⟩
  · rintro ⟨hf, hstack⟩ ⟨-, halive⟩
    have hret := h.finalized hf
    -- a settled deferred was settled by its callback, which has deleted the context
    have hctx : s.context ≠ .live := by
      rw [h.op.context]
      split
      · rename_i hc
        have hcb : s.callback ≠ .notEntered := fun hcb => by
          have hd := h.op.waiting hc.1 (by rw [hcb]; rfl)
          rw [(h.op.finalized hf).1] at hd
          cases hd
        rw [if_neg hcb]
        rintro ⟨⟩
      · rintro ⟨⟩
    simp [OpState.inCall, hret, hctx, hstack, hself, hf] at halive

theorem deferredMade_step (h : CallInv op s) (hs : s.step op a = some s') (hmade : DeferredMade s) : DeferredMade s' := by
  cases opStep_of_step h.op hs with
  | issue hc => exact absurd hc hmade
  | reject | raise | start | finish => rintro ⟨⟩
  | _ => exact hmade

/-- A deferred that is finalized and let go of by its callback stays so. -/
theorem unowned_step (h : CallInv op s) (hs : s.step op a = some s') (hmade : DeferredMade s)
    (hno : ¬ DeferredOwned () s) : ¬ DeferredOwned () s' := by
  obtain ⟨hf, hstack⟩ := (h.unowned_iff hmade).1 hno
  refine ((h.step hs).unowned_iff (h.deferredMade_step hs hmade)).2 ?_
  have hret := h.finalized hf
  have hdone := (h.op.finalized hf).1
  cases opStep_of_step h.op hs with
  | issue hc | reject _ _ hc | raise hc | start hc | finish hc =>
    rw [hret] at hc
    cases hc
  | enter reply context deletions hst hcb =>
    have hd := h.op.waiting hst (by rw [hcb]; rfl)
    rw [hdone] at hd
    cases hd
  | settle reply d hcb | leave reply hcb =>
    rw [hcb] at hstack
    cases hstack
  | finalize wrapper hf' =>
    rw [hf] at hf'
    cases hf'
  | collect => exact ⟨hf, hstack⟩

end CallInv

theorem deferred_lifetime (op : Op) : op.machine.Lifetime DeferredMade (DeferredOwned ()) where
  unmade s hs hmade := hmade (by rw [show s = .init from hs]; rfl)
  made_of_owned _ _ howned := howned.1
  made_step _ _ _ hs hstep hmade := (callInv_reachable hs).deferredMade_step hstep hmade
  owned_of_new s a s' hs hstep hnew hmade := by
    have hidle : s.call = .idle := not_not.1 hnew
    have hI := callInv_reachable hs
    cases opStep_of_step hI.op hstep with
    | issue hc => exact ⟨hmade, by simp [OpState.deferredAlive, OpState.inCall]⟩
    | reject _ _ hc | raise hc | start hc | finish hc =>
      rw [hidle] at hc
      cases hc
    | _ => exact absurd hmade hnew
  unowned_step _ _ _ hs hstep hmade hno := (callInv_reachable hs).unowned_step hstep hmade hno

/-- How a deferred ends. -/
structure DeferredFreed (s : OpState) (frees : Nat) : Prop where
  once : frees ≤ 1
  freed : frees = 1 ↔ s.finalized = true ∧ s.callback.onStack = false
  /-- A callback that is still to settle the deferred, or has just done so, has it. -/
  callback : s.callback.onStack = true ∨ (s.started = true ∧ s.callback = .notEntered) → frees = 0
  /-- The deferred of a call that threw stays, and its promise is never settled. -/
  leaked : s.call = .threw → frees = 0 ∧ s.promise = .pending ∧ s.deferred.isDone = false

/-- In every order of the steps of every operation. -/
theorem deferredFreed_reachable (op : Op) {p : OpState × (Unit → Nat)} (h : op.deferredMachine.Reachable p) :
    DeferredFreed p.1 (p.2 ()) := by
  have hI := callInv_reachable h.unrecord
  have hfreed : p.2 () = 1 ↔ p.1.finalized = true ∧ p.1.callback.onStack = false := by
    refine (deferred_lifetime op).lost_eq_one_iff h hI.unowned_iff fun hc hidle => ?_
    have hret := hI.finalized hc.1
    rw [show p.1.call = .idle from hidle] at hret
    cases hret
  have honce : p.2 () ≤ 1 := (deferred_lifetime op).lost_le_one h
  have hzero (hno : ¬ (p.1.finalized = true ∧ p.1.callback.onStack = false)) : p.2 () = 0 := by
    have hne : p.2 () ≠ 1 := fun hone => hno (hfreed.1 hone)
    omega
  refine ⟨honce, hfreed, ?_, fun hthrew => ?_⟩
  · rintro (hstack | ⟨hst, hcb⟩)
    · exact hzero fun hc => by
        rw [hstack] at hc
        cases hc.2
    · refine hzero fun hc => ?_
      have hd := hI.op.waiting hst (by rw [hcb]; rfl)
      rw [(hI.op.finalized hc.1).1] at hd
      cases hd
  · have hf := hI.unfinalized (by rw [hthrew]; rintro ⟨⟩)
    exact ⟨hzero fun hc => by simp [hf] at hc, (hI.op.unfinalized hf).1, (hI.threw hthrew).2⟩

/-- A `subscribe` that succeeds, its finalizer running before its callback returns, and one that throws. -/
def subscribing : List OpAction :=
  [.issue, .start, .enter ⟨.ok, some 7, ⟨0, "", [], []⟩⟩, .settle, .finish, .finalize]

theorem deferredFreed_subscribing :
    (Op.subscribe.deferredMachine.run (.init, fun _ => 0) subscribing).isSome = true ∧
      (Op.subscribe.deferredMachine.runFrom (.init, fun _ => 0) subscribing).2 () = 0 ∧
      (Op.subscribe.deferredMachine.runFrom (.init, fun _ => 0) (subscribing ++ [.leave])).2 () = 1 ∧
      (let p := Op.subscribe.deferredMachine.runFrom (.init, fun _ => 0) [.issue, .raise]
      p.1.call = .threw ∧ DeferredFreed p.1 (p.2 ())) :=
  ⟨by decide, by decide, by decide, by decide,
    deferredFreed_reachable .subscribe (.runFrom (.start (Op.deferredMachine_start _)) _)⟩

end PulsarNode
