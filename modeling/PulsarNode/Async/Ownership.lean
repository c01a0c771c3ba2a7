/-
Who owns the configuration of a create operation, and on which thread its last owner lets go. The
configuration holds references to JS objects (the message router, the object of a crypto key
reader), which only the JS thread may drop. It is owned by the issuing call, the creation context,
the locals of the native callback, the resolver that `Resolve` stores in the deferred and, for
`createProducer`, the wrapper that the resolver makes.
-/
import PulsarNode.Async.Settlement

namespace PulsarNode

inductive ConfigOwner
  | issuingCall | context | callbackLocals | resolver | wrapper
  deriving DecidableEq, Repr

namespace OpState

/-- The issuing call has not returned: its locals own the deferred and the configuration. -/
def inCall (s : OpState) : Bool := s.call == .preparing || s.call == .running

/-- Some shared owner of the deferred is left. -/
def deferredAlive (s : OpState) : Bool :=
  s.inCall || s.context == .live || s.callback.onStack || s.deferred.self

/-- The shared owners of the configuration. -/
def configOwners (s : OpState) : List ConfigOwner :=
  (if s.inCall then [.issuingCall] else []) ++
  (if s.context = .live then [.context] else []) ++
  (if s.callback.onStack then [.callbackLocals] else []) ++
  (if s.deferredAlive ∧ s.deferred.createValueCb.isSome then [.resolver] else []) ++
  (if s.wrapper then [.wrapper] else [])

theorem configOwners_eq_nil {s : OpState} :
    s.configOwners = [] ↔ s.inCall = false ∧ s.context ≠ .live ∧ s.callback.onStack = false ∧
      ¬ (s.deferredAlive = true ∧ s.deferred.createValueCb.isSome = true) ∧ s.wrapper = false := by
  simp [configOwners]

end OpState

/-- Note the thread of the step that takes the last owner away. -/
def noteDestroyed (s : OpState) (a : OpAction) (s' : OpState) (destroyedOn : Option ThreadKind) :
    Option ThreadKind :=
  if s.configOwners ≠ [] ∧ s'.configOwners = [] then some a.thread else destroyedOn

/-- A create operation, with the thread on which its configuration was destroyed. -/
def Op.configMachine (op : Op) : Machine (OpState × Option ThreadKind) OpAction :=
  op.machine.record none noteDestroyed

theorem Op.configMachine_start (op : Op) : op.configMachine.start (.init, none) := ⟨rfl, rfl⟩

/-! ## The last owner -/

/-- When the callback is about to return, another owner is left: the issuing call, or, after a
success, the resolver of a deferred not yet finalized or the wrapper. -/
def OwnedElsewhere (s : OpState) : Prop :=
  s.inCall = true ∨
    s.callback.outcome.any (·.result == .ok) = true ∧ (s.finalized = false ∨ s.wrapper = true)

instance (s : OpState) : Decidable (OwnedElsewhere s) := inferInstanceAs (Decidable (_ ∨ _ ∧ _))

namespace OpInv

variable {op : Op} {s s' : OpState} {reply : Reply}

/-- After a callback, the deferred is resolved exactly when the reply was usable. -/
theorem resolved_iff (h : OpInv op s) (hr : s.callback.outcome = some reply) :
    s.deferred.fate = .resolved ↔ op.Usable reply := by
  rw [← op.expected_fulfilled, ← (h.settled reply hr).2]
  unfold ThreadSafeDeferred.settlement
  by_cases hf : s.deferred.fate = .resolved <;> simp [hf]

/-- After a callback of a create operation, the deferred has a resolver exactly on success. -/
theorem resolver_iff (h : OpInv op s) (hop : op.isCreate = true) (hr : s.callback.outcome = some reply) :
    s.deferred.createValueCb.isSome = true ↔ reply.result = .ok := by
  have hu : op.Usable reply ↔ reply.result = .ok := by
    cases op <;> simp [Op.isCreate, Op.Usable] at hop ⊢
  rw [← hu]
  refine ⟨fun hv => (h.resolved_iff hr).1 (h.balanced.resolver hv), fun hus => ?_⟩
  have hset := (h.settled reply hr).2
  rw [ThreadSafeDeferred.settlement, if_pos ((h.resolved_iff hr).2 hus), Op.expected, if_pos hus] at hset
  rw [JsPromise.fulfilled.inj hset]
  rfl

/-- The callback takes the last owner with it exactly when no other owner is left. -/
theorem leave_last_iff (h : OpInv op s) (hop : op.isCreate = true) (hs : s.leave = some s') :
    s'.configOwners = [] ↔ ¬ OwnedElsewhere s := by
  unfold OpState.leave at hs
  split at hs
  · rename_i reply hcb
    cases hs
    have hr : s.callback.outcome = some reply := by rw [hcb]; rfl
    have hres := h.resolver_iff hop hr
    have hctx : s.context ≠ .live := by
      rw [h.context, hcb]
      split <;> simp
    have hself : s.deferred.self = !s.finalized := by
      cases hf : s.finalized with
      | true => exact h.dropped hf
      | false => exact (h.unfinalized hf).2.2
    have hw : s.wrapper = true → s.deferred.createValueCb.isSome = true := fun hw => by
      rw [hres]
      exact ((h.resolved_iff hr).1 (h.wrapper hw)).1
    -- the context is gone and the locals go now; the other three owners remain to be looked at
    rw [OpState.configOwners_eq_nil]
    simp only [OpState.inCall, OpState.deferredAlive, CallbackState.onStack, OwnedElsewhere, hr,
      Option.any_some, beq_iff_eq, hself, ← hres] at hw ⊢
    cases hc : (s.call == .preparing || s.call == .running) <;> cases hf : s.finalized <;>
      cases hwr : s.wrapper <;> cases hv : s.deferred.createValueCb.isSome <;>
        simp_all
  · cases hs

end OpInv

/-- While the callback has not returned, its locals own the configuration. -/
theorem configOwners_of_onStack {s : OpState} (h : s.callback.onStack = true) : s.configOwners ≠ [] := by
  intro hn
  rw [(OpState.configOwners_eq_nil.1 hn).2.2.1] at h
  cases h

/-- Off the JS thread, only the return of the callback takes an owner away. -/
theorem native_step {op : Op} {s s' : OpState} {a : OpAction} (hI' : OpInv op s')
    (hs : s.step op a = some s') (ha : a.thread = .native) (hl : a ≠ .leave) :
    s'.callback.onStack = true := by
  have hf := hI'.fault
  unfold OpState.step at hs
  split at hs
  · cases hs
  · cases a with
    | enter reply =>
      dsimp only [OpState.enter] at hs
      split at hs
      · split at hs <;> cases hs
        · rfl
        · rfl
        · cases hf
      · cases hs
    | settle =>
      dsimp only [OpState.settle, OpState.afterSettle] at hs
      split at hs
      · split at hs <;> cases hs
        · rfl
        · cases hf
      · cases hs
    | leave => exact absurd rfl hl
    | _ => cases ha

/-! ## The thread that destroys the configuration -/

/-- The condition on a step: a callback returns only when another owner is left. -/
def ReturnsOwned (p : OpState × Option ThreadKind) (a : OpAction) : Prop :=
  a = .leave → OwnedElsewhere p.1

instance (p : OpState × Option ThreadKind) (a : OpAction) : Decidable (ReturnsOwned p a) :=
  inferInstanceAs (Decidable (_ → _))

/-- A step of a create operation destroys the configuration off the JS thread exactly when it is
the return of a callback that has the last owner. -/
theorem destroyed_native_iff {op : Op} (hop : op.isCreate = true) {p p' : OpState × Option ThreadKind}
    {a : OpAction} (h : op.configMachine.Reachable p) (hs : op.configMachine.step p a = some p')
    (hp : p.2 ≠ some .native) :
    p'.2 = some .native ↔ ¬ ReturnsOwned p a := by
  obtain ⟨hstep, hnote⟩ := Machine.record_step hs
  have hI := opInv_reachable h.unrecord
  have hI' := hI.step hstep
  rw [hnote, noteDestroyed]
  by_cases hl : a = .leave
  · subst hl
    unfold Op.machine OpState.step at hstep
    dsimp only at hstep
    rw [if_neg (not_not.2 hI.fault)] at hstep
    have hst : p.1.configOwners ≠ [] := by
      refine configOwners_of_onStack ?_
      unfold OpState.leave at hstep
      split at hstep
      · rename_i reply hcb
        rw [hcb]
        rfl
      · cases hstep
    have hlast := hI.leave_last_iff hop hstep
    simp only [ReturnsOwned, forall_const, hst, hlast, ne_eq, not_false_eq_true, true_and]
    by_cases ho : OwnedElsewhere p.1
    · simp [ho, hp]
    · simp [ho, OpAction.thread]
  · have hok : ReturnsOwned p a := fun h => absurd h hl
    simp only [hok, not_true_eq_false, iff_false]
    split
    · rename_i hc
      intro ha
      exact configOwners_of_onStack (native_step hI' hstep (Option.some.inj ha) hl) hc.2
    · exact hp

/-- In every run of a create operation whose callback returns only while another owner is left, the
configuration is never destroyed off the JS thread. -/
theorem config_destroyed_on_js (op : Op) (hop : op.isCreate = true) {p : OpState × Option ThreadKind}
    (h : (op.configMachine.restrict ReturnsOwned).Reachable p) : p.2 ≠ some .native := by
  induction h with
  | start h =>
    rw [h.2]
    nofun
  | step h hs ih =>
    obtain ⟨hok, hs⟩ := Machine.restrict_step hs
    exact fun hn => (destroyed_native_iff hop h.unrestrict hs ih).1 hn hok

/-- A `subscribe` that succeeds, its callback returning before the finalizer runs. -/
def subscribed : OpState × Option ThreadKind :=
  (Op.subscribe.configMachine.restrict ReturnsOwned).runFrom (.init, none)
    [.issue, .start, .finish, .enter ⟨.ok, some 7, ⟨0, "", [], []⟩⟩, .settle, .leave, .finalize]

theorem config_destroyed_on_js_subscribe :
    Op.subscribe.isCreate = true ∧ subscribed.2 = some .js ∧ subscribed.2 ≠ some .native :=
  ⟨rfl, by decide,
    config_destroyed_on_js .subscribe rfl
      (.runFrom (.start (Machine.restrict_start.2 (Op.configMachine_start _))) _)⟩

/-- A `createProducer` that fails after the issuing call has returned. -/
def failedCreation : OpState × Option ThreadKind :=
  Op.createProducer.configMachine.runFrom (.init, none)
    [.issue, .start, .finish, .enter ⟨.failure "ConnectError", none, ⟨0, "", [], []⟩⟩, .settle, .leave]

/-- Its callback has the last owner, and drops it on the native thread. -/
theorem failedCreation_off_js :
    Op.createProducer.configMachine.Reachable failedCreation ∧ failedCreation.2 = some .native :=
  ⟨.runFrom (.start (Op.configMachine_start _)) _, by decide⟩

end PulsarNode
