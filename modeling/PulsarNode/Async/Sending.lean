/-
What `producer.send` allocates beside its deferred: the message that `BuildMessage` makes, shared by the call,
its `ProducerSendContext` and the locals of the callback, and the message id that the callback is given, shared
by its locals, the resolver and the `MessageId` that the resolver makes. In every order of the steps each is
freed once, when nobody can use it any more, and nothing of a finished send stays behind.
-/
import PulsarNode.Async.DeferredLife

namespace PulsarNode.Sending

/-! ## A send and its `MessageId` -/

/-- `object` tells whether the `MessageId` that the resolver made is there. -/
structure State where
  op : OpState
  object : Bool
  deriving DecidableEq, Repr

inductive Action
  | op (a : OpAction)
  /-- The garbage collector destroys the `MessageId`. -/
  | collect
  deriving DecidableEq, Repr

/-- The finalizer of the deferred calls a resolver that makes a `MessageId`. -/
def makesObject (a : OpAction) (d : ThreadSafeDeferred) : Bool :=
  match a, d.settlement with
  | .finalize, .fulfilled (some (.messageId _)) => true
  | _, _ => false

def step (s : State) : Action → Option State
  | .op a => (s.op.step .producerSend a).map fun op => ⟨op, s.object || makesObject a s.op.deferred⟩
  | .collect => if s.object then some { s with object := false } else none

def machine : Machine State Action where
  start s := s = ⟨.init, false⟩
  step := step

/-- What is shared: `cMessage` and `cMessageId`. -/
inductive Pointer
  | cMessage | cMessageId
  deriving DecidableEq, Repr

/-- Somebody has a copy of the shared pointer. -/
def Owned : Pointer → State → Prop
  | .cMessage, s => s.op.inCall = true ∨ s.op.context = .live ∨ s.op.callback.onStack = true
  | .cMessageId, s => s.op.callback.onStack = true ∨
      (s.op.deferredAlive = true ∧ s.op.deferred.createValueCb.isSome = true) ∨ s.object = true

instance (p : Pointer) : DecidablePred (Owned p) := fun _ =>
  match p with
  | .cMessage => inferInstanceAs (Decidable (_ ∨ _ ∨ _))
  | .cMessageId => inferInstanceAs (Decidable (_ ∨ (_ ∧ _) ∨ _))

/-- The machine with the calls of `pulsar_message_free` and `pulsar_message_id_free`. -/
def freeing : Machine (State × (Pointer → Nat)) Action := machine.losing Owned

theorem freeing_start : freeing.start (⟨.init, false⟩, fun _ => 0) := ⟨rfl, rfl⟩

/-! ## The invariant -/

/-- Beside the invariant of the operation: the native call is made where the call comes to its end, and a
`MessageId` comes from a resolved deferred that was finalized. -/
structure Inv (s : State) : Prop where
  call : CallInv .producerSend s.op
  started : s.op.started = true ↔ s.op.call = .running ∨ s.op.call = .returned
  answered : s.op.call ≠ .threw
  object : s.object = true → s.op.finalized = true ∧ s.op.deferred.fate = .resolved

theorem resolved_of_makesObject {a : OpAction} {d : ThreadSafeDeferred} (h : makesObject a d = true) :
    a = .finalize ∧ d.fate = .resolved := by
  unfold makesObject at h
  split at h
  · rename_i hset
    refine ⟨rfl, ?_⟩
    by_contra hne
    rw [ThreadSafeDeferred.settlement, if_neg hne] at hset
    cases hset
  · cases h

namespace Inv

variable {s s' : State}

theorem op (h : Inv s) : OpInv .producerSend s.op := h.call.op

theorem init : Inv ⟨.init, false⟩ where
  call := CallInv.init
  started := by decide
  answered := by decide
  object := nofun

/-- A `MessageId` comes with the finalizer only. -/
theorem object_step {a : OpAction} (hne : a ≠ .finalize) (d : ThreadSafeDeferred) : (s.object || makesObject a d) = s.object := by
  have hno : makesObject a d = false := by
    by_contra hmakes
    exact hne (resolved_of_makesObject (by simpa using hmakes)).1
  rw [hno, Bool.or_false]

theorem no_object (h : Inv s) (hf : s.op.finalized = false) : s.object = false := by
  by_contra ho
  rw [(h.object (by simpa using ho)).1] at hf
  cases hf

theorem step {a : Action} (h : Inv s) (hs : Sending.step s a = some s') : Inv s' := by
  cases a with
  | collect =>
    dsimp only [Sending.step] at hs
    split at hs <;> cases hs
    exact { h with object := nofun }
  | op a =>
    obtain ⟨o, ho, rfl⟩ := Option.map_eq_some_iff.1 hs
    have hcall := h.call.step ho
    cases opStep_of_step h.op ho with
    | issue hc =>
      have hno := h.no_object (h.call.unfinalized (by rw [hc]; rintro ⟨⟩))
      have hst := (h.op.before (.inl hc)).1
      rw [object_step (by rintro ⟨⟩), hno]
      exact ⟨hcall, by simp [hst], nofun, nofun⟩
    | reject msg d hc hop => cases hop
    | raise hc hop => cases hop
    | start hc =>
      rw [object_step (by rintro ⟨⟩)]
      exact ⟨hcall, by simp, nofun, h.object⟩
    | finish hc =>
      rw [object_step (by rintro ⟨⟩)]
      exact ⟨hcall, by simp [h.started.2 (.inl hc)], nofun, h.object⟩
    | settle reply d hcb =>
      -- a deferred is settled before it is finalized
      have hst := h.call.started_of_entered (by rw [hcb]; rintro ⟨⟩)
      have hno := h.no_object (h.op.unfinalized_of_not_done (h.op.waiting hst (by rw [hcb]; rfl)))
      rw [object_step (by rintro ⟨⟩), hno]
      exact ⟨hcall, h.started, h.answered, nofun⟩
    | finalize wrapper hf =>
      refine ⟨hcall, h.started, h.answered, fun hobj => ⟨rfl, ?_⟩⟩
      rw [h.no_object hf, Bool.false_or] at hobj
      exact (resolved_of_makesObject hobj).2
    | enter | leave | collect =>
      rw [object_step (by rintro ⟨⟩)]
      exact ⟨hcall, h.started, h.answered, h.object⟩

end Inv

theorem inv_reachable {s : State} (h : machine.Reachable s) : Inv s :=
  h.invariant (fun _ h0 => h0 ▸ Inv.init) fun _ _ _ _ hI hs => hI.step hs

/-! ## The two lifetimes -/

/-- The call has begun, and has the message; the callback has begun, and has the message id. -/
def Made : Pointer → State → Prop
  | .cMessage, s => s.op.call ≠ .idle
  | .cMessageId, s => s.op.callback ≠ .notEntered

instance (p : Pointer) : DecidablePred (Made p) := fun _ =>
  match p with
  | .cMessage | .cMessageId => inferInstanceAs (Decidable (_ ≠ _))

namespace Inv

variable {s s' : State}

/-- The context is there from the native call to its callback. -/
theorem context_live_iff (h : Inv s) : s.op.context = .live ↔ s.op.started = true ∧ s.op.callback = .notEntered := by
  rw [h.op.context]
  by_cases hst : s.op.started = true
  · rw [if_pos ⟨hst, rfl⟩]
    by_cases hcb : s.op.callback = .notEntered <;> simp [hst, hcb]
  · rw [if_neg fun hc => hst hc.1]
    simp [hst]

/-- Nobody owns the message when the call and the callback have returned, and not before. -/
theorem cMessage_unowned_iff (h : Inv s) (hmade : Made .cMessage s) :
    ¬ Owned .cMessage s ↔ s.op.call = .returned ∧ ∃ reply, s.op.callback = .done reply := by
  have hmade' : s.op.call ≠ .idle := hmade
  have hlive := h.context_live_iff
  have hstarted := h.started
  unfold Owned
  constructor
  · intro hno
    obtain ⟨hcall, hctx, hstack⟩ : s.op.inCall ≠ true ∧ s.op.context ≠ .live ∧ s.op.callback.onStack ≠ true := by
      simpa only [not_or] using hno
    have hret : s.op.call = .returned := by
      cases hc : s.op.call with
      | idle => exact absurd hc hmade'
      | threw => exact absurd hc h.answered
      | returned => rfl
      | preparing | running => exact absurd (by simp [OpState.inCall, hc]) hcall
    have hentered : s.op.callback ≠ .notEntered := fun hcb => hctx (hlive.2 ⟨hstarted.2 (.inr hret), hcb⟩)
    refine ⟨hret, ?_⟩
    cases hcb : s.op.callback with
    | notEntered => exact absurd hcb hentered
    | done reply => exact ⟨reply, rfl⟩
    | entered reply | settled reply => exact absurd (by simp [CallbackState.onStack, hcb]) hstack
  · rintro ⟨hret, reply, hcb⟩ (hcall | hctx | hstack)
    · simp [OpState.inCall, hret] at hcall
    · rw [hlive, hcb] at hctx
      cases hctx.2
    · rw [hcb] at hstack
      cases hstack

theorem resolver_of_done (h : Inv s) (hcb : s.op.callback ≠ .notEntered) (hr : s.op.deferred.createValueCb.isSome = true) :
    ∃ reply, s.op.callback.outcome = some reply ∧ reply.result = .ok := by
  have hres := h.op.balanced.resolver hr
  cases hout : s.op.callback.outcome with
  | none =>
    have hd := h.op.waiting (h.call.started_of_entered hcb) hout
    rw [ThreadSafeDeferred.isDone_of_resolved hres] at hd
    cases hd
  | some reply => exact ⟨reply, rfl, ((h.op.resolved_iff hout).1 hres).1⟩

/-- Nobody owns the message id when the callback has returned and, after a success, the resolver has run and its
`MessageId` is gone. -/
theorem cMessageId_unowned_iff (h : Inv s) (hmade : Made .cMessageId s) :
    ¬ Owned .cMessageId s ↔
      ∃ reply, s.op.callback = .done reply ∧ (reply.result = .ok → s.op.finalized = true ∧ s.object = false) := by
  have hmade' : s.op.callback ≠ .notEntered := hmade
  have hst := h.call.started_of_entered hmade'
  unfold Owned
  constructor
  · intro hno
    obtain ⟨hstack, hresolver, hobject⟩ : s.op.callback.onStack ≠ true ∧
        ¬ (s.op.deferredAlive = true ∧ s.op.deferred.createValueCb.isSome = true) ∧ s.object ≠ true := by
      simpa only [not_or] using hno
    cases hcb : s.op.callback with
    | notEntered => exact absurd hcb hmade'
    | entered reply | settled reply => exact absurd (by simp [CallbackState.onStack, hcb]) hstack
    | done reply =>
      refine ⟨reply, rfl, fun hok => ⟨?_, by simpa using hobject⟩⟩
      have hout : s.op.callback.outcome = some reply := by rw [hcb]; rfl
      have husable : Op.producerSend.Usable reply := ⟨hok, by rintro ⟨⟩, by rintro ⟨⟩⟩
      have hres := (h.op.resolved_iff hout).2 husable
      have hset := (h.op.settled reply hout).2
      rw [ThreadSafeDeferred.settlement, if_pos hres, Op.expected, if_pos husable] at hset
      -- the deferred owns itself, with its resolver, until it is finalized
      by_contra hf
      refine hresolver ⟨?_, by rw [JsPromise.fulfilled.inj hset]; rfl⟩
      simp [OpState.deferredAlive, (h.op.unfinalized (by simpa using hf)).2.2]
  · rintro ⟨reply, hcb, hok⟩ (hstack | ⟨halive, hresolver⟩ | hobject)
    · rw [hcb] at hstack
      cases hstack
    · obtain ⟨reply', hout, hok'⟩ := h.resolver_of_done hmade' hresolver
      rw [hcb] at hout
      cases hout
      have hf := (hok hok').1
      have hret := h.call.finalized hf
      have hctx : s.op.context ≠ .live := fun hctx => hmade' (h.context_live_iff.1 hctx).2
      simp [OpState.deferredAlive, OpState.inCall, hret, hctx, hcb, CallbackState.onStack, h.op.dropped hf] at halive
    · obtain ⟨hf, hres⟩ := h.object hobject
      have hout : s.op.callback.outcome = some reply := by rw [hcb]; rfl
      have hgone := (hok ((h.op.resolved_iff hout).1 hres).1).2
      rw [hgone] at hobject
      cases hobject

/-! ## Steps of the lifetimes -/

/-- A callback that has returned does not begin again, and a call that has returned does not either. -/
theorem done_step {a : Action} (h : Inv s) (hs : Sending.step s a = some s') {reply : Reply}
    (hcb : s.op.callback = .done reply) :
    s'.op.callback = .done reply ∧ (s.op.call = .returned → s'.op.call = .returned) ∧
      (s.op.finalized = true → s'.op.finalized = true ∧ (s.object = false → s'.object = false)) := by
  cases a with
  | collect =>
    dsimp only [Sending.step] at hs
    split at hs <;> cases hs
    exact ⟨hcb, id, fun hf => ⟨hf, fun _ => rfl⟩⟩
  | op a =>
    obtain ⟨o, ho, rfl⟩ := Option.map_eq_some_iff.1 hs
    have hst := h.call.started_of_entered (by rw [hcb]; rintro ⟨⟩)
    cases opStep_of_step h.op ho with
    | issue hc => exact absurd hc (h.call.call_ne_idle hst)
    | reject _ _ hc | raise hc | start hc =>
      rw [(h.op.before (.inr hc)).1] at hst
      cases hst
    | finish hc =>
      rw [object_step (by rintro ⟨⟩)]
      exact ⟨hcb, fun _ => rfl, fun hf => ⟨hf, id⟩⟩
    | enter _ _ _ _ hcb' | settle _ _ hcb' | leave _ hcb' =>
      rw [hcb] at hcb'
      cases hcb'
    | finalize wrapper hf => exact ⟨hcb, id, fun hf' => absurd hf' (by simp [hf])⟩
    | collect =>
      rw [object_step (by rintro ⟨⟩)]
      exact ⟨hcb, id, fun hf => ⟨hf, id⟩⟩

/-- The call has begun once and for all, and so has the callback. -/
theorem made_step {a : Action} {p : Pointer} (h : Inv s) (hs : Sending.step s a = some s') (hmade : Made p s) : Made p s' := by
  cases a with
  | collect =>
    dsimp only [Sending.step] at hs
    split at hs <;> cases hs
    cases p <;> exact hmade
  | op a =>
    obtain ⟨o, ho, rfl⟩ := Option.map_eq_some_iff.1 hs
    cases p <;> cases opStep_of_step h.op ho <;> first | exact hmade | rintro ⟨⟩

/-- What is made has an owner from the start. -/
theorem owned_of_new {a : Action} {p : Pointer} (h : Inv s) (hs : Sending.step s a = some s') (hnew : ¬ Made p s)
    (hmade : Made p s') : Owned p s' := by
  cases a with
  | collect =>
    dsimp only [Sending.step] at hs
    split at hs <;> cases hs
    cases p <;> exact absurd hmade hnew
  | op a =>
    obtain ⟨o, ho, rfl⟩ := Option.map_eq_some_iff.1 hs
    cases p with
    | cMessage =>
      have hidle : s.op.call = .idle := not_not.1 hnew
      cases opStep_of_step h.op ho with
      | issue hc => exact .inl rfl
      | reject _ _ hc | raise hc | start hc | finish hc =>
        rw [hidle] at hc
        cases hc
      | _ => exact absurd hmade hnew
    | cMessageId =>
      have hwaits : s.op.callback = .notEntered := not_not.1 hnew
      cases opStep_of_step h.op ho with
      | enter => exact .inl rfl
      | settle _ _ hcb | leave _ hcb =>
        rw [hwaits] at hcb
        cases hcb
      | _ => exact absurd hmade hnew

theorem made_of_owned {p : Pointer} (h : Inv s) (howned : Owned p s) : Made p s := by
  cases p with
  | cMessage =>
    rcases howned with hcall | hctx | hstack
    · rintro hidle
      simp [OpState.inCall, hidle] at hcall
    · exact h.call.call_ne_idle (h.context_live_iff.1 hctx).1
    · refine h.call.call_ne_idle (h.call.started_of_entered fun hcb => ?_)
      rw [hcb] at hstack
      cases hstack
  | cMessageId =>
    -- without a callback the deferred is not resolved
    have hres : s.op.deferred.fate = .resolved → s.op.callback ≠ .notEntered := fun hres hcb => by
      have hd := h.op.waiting (by
        by_contra hst
        exact (h.op.notStarted (by simpa using hst)).2 hres) (by rw [hcb]; rfl)
      rw [ThreadSafeDeferred.isDone_of_resolved hres] at hd
      cases hd
    rcases howned with hstack | ⟨-, hresolver⟩ | hobject
    · rintro hcb
      rw [hcb] at hstack
      cases hstack
    · exact hres (h.op.balanced.resolver hresolver)
    · exact hres (h.object hobject).2

theorem unowned_step {a : Action} {p : Pointer} (h : Inv s) (hs : Sending.step s a = some s') (hmade : Made p s)
    (hno : ¬ Owned p s) : ¬ Owned p s' := by
  have h' := h.step hs
  have hmade' := h.made_step hs hmade
  cases p with
  | cMessage =>
    obtain ⟨hret, reply, hcb⟩ := (h.cMessage_unowned_iff hmade).1 hno
    obtain ⟨hcb', hret', -⟩ := h.done_step hs hcb
    exact (h'.cMessage_unowned_iff hmade').2 ⟨hret' hret, reply, hcb'⟩
  | cMessageId =>
    obtain ⟨reply, hcb, hok⟩ := (h.cMessageId_unowned_iff hmade).1 hno
    obtain ⟨hcb', -, hfinal⟩ := h.done_step hs hcb
    refine (h'.cMessageId_unowned_iff hmade').2 ⟨reply, hcb', fun hr => ?_⟩
    obtain ⟨hf, hobj⟩ := hok hr
    exact ⟨(hfinal hf).1, (hfinal hf).2 hobj⟩

end Inv

/-- Both pointers come and go as a shared thing does. -/
theorem lifetime (p : Pointer) : machine.Lifetime (Made p) (Owned p) where
  unmade s hs := by
    rw [show s = _ from hs]
    cases p <;> exact not_not.2 rfl
  made_of_owned s hs howned := (inv_reachable hs).made_of_owned howned
  made_step s a s' hs hstep hmade := (inv_reachable hs).made_step hstep hmade
  owned_of_new s a s' hs hstep hnew hmade := (inv_reachable hs).owned_of_new hstep hnew hmade
  unowned_step s a s' hs hstep hmade hno := (inv_reachable hs).unowned_step hstep hmade hno

/-! ## What is freed, and when -/

/-- The frees of a send. -/
structure Freed (s : State) (frees : Pointer → Nat) : Prop where
  /-- The native client has the message from its call to the return of the callback. -/
  cMessage : frees .cMessage = 1 ↔ s.op.call = .returned ∧ ∃ reply, s.op.callback = .done reply
  cMessageId : frees .cMessageId = 1 ↔
    ∃ reply, s.op.callback = .done reply ∧ (reply.result = .ok → s.op.finalized = true ∧ s.object = false)
  once : ∀ p, frees p ≤ 1
  /-- JS sees the id that the native client gave, and it is there. -/
  object : s.object = true → ∃ reply, s.op.callback.outcome = some reply ∧
    s.op.promise = .fulfilled (some (.messageId reply.rawPtr)) ∧ frees .cMessageId = 0
  /-- While its resolver may yet run, the id is there. -/
  resolver : s.op.callback ≠ .notEntered → s.op.finalized = false → s.op.deferred.createValueCb.isSome = true →
    frees .cMessageId = 0

/-- In every order of the steps of a send. -/
theorem freed_reachable {p : State × (Pointer → Nat)} (h : freeing.Reachable p) : Freed p.1 p.2 := by
  have hI := inv_reachable h.unrecord
  refine ⟨?_, ?_, fun k => (lifetime k).lost_le_one h, fun hobj => ?_, fun hcb hf hresolver => ?_⟩
  · refine (lifetime .cMessage).lost_eq_one_iff h hI.cMessage_unowned_iff ?_
    rintro ⟨hret, -⟩ hidle
    rw [hret] at hidle
    cases hidle
  · refine (lifetime .cMessageId).lost_eq_one_iff h hI.cMessageId_unowned_iff ?_
    rintro ⟨reply, hcb, -⟩ hwaits
    rw [hcb] at hwaits
    cases hwaits
  · obtain ⟨hf, hres⟩ := hI.object hobj
    have hmade := hI.made_of_owned (p := .cMessageId) (.inr (.inr hobj))
    have hst := hI.call.started_of_entered hmade
    cases hout : p.1.op.callback.outcome with
    | none =>
      have hd := hI.op.waiting hst hout
      rw [ThreadSafeDeferred.isDone_of_resolved hres] at hd
      cases hd
    | some reply =>
      have husable := (hI.op.resolved_iff hout).1 hres
      refine ⟨reply, rfl, (hI.op.promise_eq hout hf).2.trans (if_pos husable), ?_⟩
      exact (lifetime .cMessageId).lost_eq_zero h (.inr (.inr hobj))
  · refine (lifetime .cMessageId).lost_eq_zero h (.inr (.inl ⟨?_, hresolver⟩))
    simp [OpState.deferredAlive, (hI.op.unfinalized hf).2.2]

/-! ## A message that is sent while its call runs -/

/-- The callback comes inside the call, and the `MessageId` is collected at the end. -/
def sentAtOnce : List Action :=
  [.op .issue, .op .start, .op (.enter ⟨.ok, some 7, ⟨0, "", [], []⟩⟩), .op .settle, .op .leave, .op .finish, .op .finalize]

theorem freed_sentAtOnce :
    (freeing.run (⟨.init, false⟩, fun _ => 0) sentAtOnce).isSome = true ∧
      (let p := freeing.runFrom (⟨.init, false⟩, fun _ => 0) sentAtOnce
      p.1.object = true ∧ p.2 .cMessage = 1 ∧ p.2 .cMessageId = 0 ∧ Freed p.1 p.2) ∧
      (freeing.runFrom (⟨.init, false⟩, fun _ => 0) (sentAtOnce ++ [.collect])).2 .cMessageId = 1 :=
  ⟨by decide, ⟨by decide, by decide, by decide, freed_reachable (.runFrom (.start freeing_start) _)⟩, by decide⟩

end PulsarNode.Sending
