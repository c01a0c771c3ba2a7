/-
Who owns the native handle that an operation works on. A wrapper owns its handle, and the garbage
collector may destroy a wrapper that JS no longer refers to: the promise of an operation does not
refer to the wrapper it came from. Beside the wrapper, the context of a create operation owns the
native client, and the workers behind `receive(timeout)` and `readNext` own the consumer or reader.
The contexts of all other operations own the deferred, or the deferred and the message, alone.
-/
import PulsarNode.Async.Ownership

namespace PulsarNode

/-! ## Operations and what they are issued on -/

inductive HandleClass
  | client | producer | consumer | reader
  deriving DecidableEq, Repr

/-- The object whose method issues an operation. -/
def Op.receiver : Op → HandleClass
  | .producerSend | .producerFlush | .producerClose => .producer
  | .consumerReceive | .consumerBatchReceive | .consumerAcknowledge | .consumerAcknowledgeId
  | .consumerAcknowledgeCumulative | .consumerAcknowledgeCumulativeId | .consumerSeek
  | .consumerSeekTimestamp | .consumerClose | .consumerUnsubscribe => .consumer
  | .readerSeek | .readerSeekTimestamp | .readerClose => .reader
  | .getPartitionsForTopic | .getSchemaInfo | .clientClose
  | .createProducer | .subscribe | .createReader => .client

/-- The wrapper that a create operation makes. -/
def Op.product : Op → Option HandleClass
  | .createProducer => some .producer
  | .subscribe => some .consumer
  | .createReader => some .reader
  | _ => none

/-- `Consumer::Close` and `Reader::Close` call `Cleanup`, which drops the strong self reference. -/
def Op.cleansUp : Op → Bool
  | .consumerClose | .readerClose => true
  | _ => false

/-- The operations that a `Napi::AsyncWorker` runs: `ConsumerReceiveWorker`, `ReaderReadNextWorker`. -/
inductive WorkerOp
  | receiveWithTimeout | readNext
  deriving DecidableEq, Repr

def WorkerOp.receiver : WorkerOp → HandleClass
  | .receiveWithTimeout => .consumer
  | .readNext => .reader

namespace Handles

/-- A wrapper: a client made by its constructor, or what the create operation `i` makes. -/
inductive Object (ι γ : Type)
  | client (c : γ)
  | made (i : ι)
  deriving DecidableEq, Repr

variable {ι κ γ : Type}

/-- The class of a wrapper, where `kind` says what the operations are. -/
def Object.cls (kind : ι → Op) : Object ι γ → Option HandleClass
  | client _ => some .client
  | made i => (kind i).product

/-- The operations of a process, those with a native callback and those with a worker, each issued
on a wrapper of its class; `listener` tells which of the consumers and readers get a listener. -/
structure Plan (ι κ γ : Type) where
  kind : ι → Op
  target : ι → Object ι γ
  listener : ι → Bool
  work : κ → WorkerOp
  workTarget : κ → Object ι γ
  listener_cls : ∀ i, listener i = true → kind i = .subscribe ∨ kind i = .createReader
  target_cls : ∀ i, (target i).cls kind = some (kind i).receiver
  workTarget_cls : ∀ k, (workTarget k).cls kind = some (work k).receiver

/-! ## States -/

inductive Life
  | absent | alive | destroyed
  deriving DecidableEq, Repr

/-- A wrapper: whether JS refers to it, and whether it refers to itself. -/
structure Wrapper where
  life : Life
  jsRef : Bool
  strong : Bool
  deriving DecidableEq, Repr

/-- A worker: it is queued when it is made, and deleted once it has settled its promise. -/
inductive Worker
  | idle
  | queued
  | executed (result : PulsarResult)
  | deleted (result : PulsarResult)
  deriving DecidableEq, Repr

/-- The promise of the worker is pending; the worker, with its handle, is there exactly so long. -/
def Worker.unsettled : Worker → Bool
  | queued | executed _ => true
  | idle | deleted _ => false

structure State (ι κ γ : Type) where
  system : System ι
  workers : κ → Worker
  wrappers : Object ι γ → Wrapper

def State.init : State ι κ γ where
  system := ⟨none, fun _ => .init⟩
  workers _ := .idle
  wrappers _ := ⟨.absent, false, false⟩

end Handles

namespace OpState

/-- The operation has a promise to return or has returned it, and the promise is pending. A call
that throws returns none. -/
def unsettled (s : OpState) : Prop := s.call ≠ .idle ∧ s.call ≠ .threw ∧ s.promise = .pending

instance (s : OpState) : Decidable s.unsettled := inferInstanceAs (Decidable (_ ∧ _ ∧ _))

/-- The operation owns the handle it was issued on: the parameter `cClient` of `NewInstance`, the
context, or the local of the native callback. -/
def carries (op : Op) (s : OpState) : Bool :=
  op.isCreate && (s.inCall || s.context == .live || s.callback.onStack)

end OpState

namespace Handles

/-! ## Steps -/

inductive Action (ι κ γ : Type)
  /-- A step of an operation with a native callback. -/
  | op (i : ι) (a : OpAction)
  | newClient (c : γ)
  /-- `new ConsumerReceiveWorker` or `new ReaderReadNextWorker`, and `Queue`. -/
  | queue (k : κ)
  | execute (k : κ) (result : PulsarResult)
  /-- `OnOK` or `OnError`; the worker is deleted after it. -/
  | complete (k : κ)
  /-- The listener of a consumer or reader is called with the wrapper. -/
  | listen (i : ι)
  | forget (o : Object ι γ)
  | collect (o : Object ι γ)
  deriving DecidableEq, Repr

variable [DecidableEq ι] [DecidableEq κ] [DecidableEq γ]

/-- The wrapper that the JS call on the JS thread was made on. -/
def Plan.receiving (p : Plan ι κ γ) (s : State ι κ γ) : Option (Object ι γ) := s.system.js.map p.target

/-- What an operation's step asks of the wrappers: JS calls methods of wrappers it refers to, and
the configuration in a wrapper goes when its wrapper has gone. -/
def Plan.admits (p : Plan ι κ γ) (s : State ι κ γ) (i : ι) : OpAction → Bool
  | .issue => (s.wrappers (p.target i)).life == .alive && (s.wrappers (p.target i)).jsRef
  | .collect => (s.wrappers (.made i)).life == .destroyed
  | _ => true

/-- What an operation's step does to the wrappers. -/
def Plan.wrappersAfter (p : Plan ι κ γ) (s : State ι κ γ) (i : ι) : OpAction → Object ι γ → Wrapper
  | .issue =>
    if (p.kind i).cleansUp then
      Function.update s.wrappers (p.target i) { s.wrappers (p.target i) with strong := false }
    else s.wrappers
  | .finalize =>
    -- the resolver of a create operation makes the wrapper, `SetListenerCallback` refers to it
    if (p.kind i).isCreate ∧ (s.system.ops i).deferred.fate = .resolved then
      Function.update s.wrappers (.made i) ⟨.alive, true, p.listener i⟩
    else s.wrappers
  | _ => s.wrappers

def Plan.step (p : Plan ι κ γ) (s : State ι κ γ) : Action ι κ γ → Option (State ι κ γ)
  | .op i a =>
    if p.admits s i a then
      (System.step p.kind s.system (i, a)).map fun system =>
        { s with system := system, wrappers := p.wrappersAfter s i a }
    else none
  | .newClient c =>
    if s.system.js = none ∧ (s.wrappers (.client c)).life = .absent then
      some { s with wrappers := Function.update s.wrappers (.client c) ⟨.alive, true, false⟩ }
    else none
  | .queue k =>
    if s.system.js = none ∧ s.workers k = .idle ∧ (s.wrappers (p.workTarget k)).life = .alive ∧
        (s.wrappers (p.workTarget k)).jsRef then
      some { s with workers := Function.update s.workers k .queued }
    else none
  | .execute k result =>
    if s.workers k = .queued then
      some { s with workers := Function.update s.workers k (.executed result) }
    else none
  | .complete k =>
    match s.workers k with
    | .executed result =>
      if s.system.js = none then
        some { s with workers := Function.update s.workers k (.deleted result) }
      else none
    | _ => none
  | .listen i =>
    if p.listener i ∧ (s.wrappers (.made i)).life = .alive then
      some { s with
        wrappers := Function.update s.wrappers (.made i) { s.wrappers (.made i) with jsRef := true } }
    else none
  | .forget o =>
    some { s with wrappers := Function.update s.wrappers o { s.wrappers o with jsRef := false } }
  | .collect o =>
    if (s.wrappers o).life = .alive ∧ (s.wrappers o).jsRef = false ∧ (s.wrappers o).strong = false ∧
        p.receiving s ≠ some o then
      some { s with wrappers := Function.update s.wrappers o { s.wrappers o with life := .destroyed } }
    else none

def Plan.machine (p : Plan ι κ γ) : Machine (State ι κ γ) (Action ι κ γ) where
  start s := s = .init
  step := p.step

/-! ## Owners -/

/-- The places where a shared pointer to a native handle is kept. -/
inductive Owner (ι κ : Type)
  | wrapper
  | operation (i : ι)
  | worker (k : κ)
  deriving DecidableEq, Repr

/-- The owner keeps the handle of the wrapper `o`. -/
def Plan.Owns (p : Plan ι κ γ) (s : State ι κ γ) (o : Object ι γ) : Owner ι κ → Prop
  | .wrapper => (s.wrappers o).life = .alive
  | .operation i => p.target i = o ∧ (s.system.ops i).carries (p.kind i) = true
  | .worker k => p.workTarget k = o ∧ (s.workers k).unsettled = true

instance (p : Plan ι κ γ) (s : State ι κ γ) (o : Object ι γ) (w : Owner ι κ) : Decidable (p.Owns s o w) :=
  match w with
  | .wrapper => inferInstanceAs (Decidable (_ = _))
  | .operation _ | .worker _ => inferInstanceAs (Decidable (_ ∧ _))

/-- Every operation with a pending promise works on a handle that somebody owns. -/
structure Plan.Owned (p : Plan ι κ γ) (s : State ι κ γ) : Prop where
  operations : ∀ i, (s.system.ops i).unsettled → ∃ w, p.Owns s (p.target i) w
  workers : ∀ k, (s.workers k).unsettled = true → ∃ w, p.Owns s (p.workTarget k) w

/-- The condition on a step: a wrapper is collected only while every operation on it whose promise is
pending carries the handle itself, and the callback of a create operation, which carries the client,
returns only once the promise is settled or while the wrapper of the client is alive. -/
def Plan.Careful (p : Plan ι κ γ) (s : State ι κ γ) : Action ι κ γ → Prop
  | .collect o => ∀ i, p.target i = o → (s.system.ops i).unsettled → (s.system.ops i).carries (p.kind i) = true
  | .op i a => a = .leave → (p.kind i).isCreate = true → (s.system.ops i).unsettled →
      (s.wrappers (p.target i)).life = .alive
  | _ => True

instance [Fintype ι] (p : Plan ι κ γ) (s : State ι κ γ) (a : Action ι κ γ) : Decidable (p.Careful s a) :=
  match a with
  | .collect o => inferInstanceAs (Decidable (∀ i, p.target i = o → _ → _ = true))
  | .op _ a => inferInstanceAs (Decidable (a = .leave → _ = true → _ → _ = Life.alive))
  | .newClient _ | .queue _ | .execute _ _ | .complete _ | .listen _ | .forget _ => inferInstanceAs (Decidable True)

end Handles

/-! ## What one step of an operation does -/

namespace OpState

variable {op : Op} {s s' : OpState} {a : OpAction}

/-- The call of an operation is in progress only from its issue to its return or throw. -/
theorem inCall_step (hs : s.step op a = some s') (h : s'.inCall = true) :
    a = .issue ∨ s.inCall = true ∧ a ≠ .raise ∧ a ≠ .finish := by
  unfold step at hs
  split at hs
  · cases hs
  · cases a with
    | issue => exact .inl rfl
    | raise =>
      dsimp only [raise] at hs
      split at hs <;> cases hs
      cases h
    | finish =>
      dsimp only [finish] at hs
      split at hs <;> cases hs
      cases h
    | _ =>
      right
      refine ⟨?_, by rintro ⟨⟩, by rintro ⟨⟩⟩
      simp only [reject, start, enter, settle, leave, finalize, collect, afterSettle] at hs
      (repeat' split at hs) <;> cases hs <;> simp_all [inCall]

/-- A promise becomes pending with the issue of its operation only. -/
theorem unsettled_step (hs : s.step op a = some s') (h : s'.unsettled) : a = .issue ∨ s.unsettled := by
  obtain ⟨hidle, hthrew, hp⟩ := h
  unfold step at hs
  split at hs
  · cases hs
  · cases a with
    | issue => exact .inl rfl
    | finalize =>
      dsimp only [finalize] at hs
      split at hs <;> cases hs
      dsimp only [ThreadSafeDeferred.settlement] at hp
      split at hp <;> cases hp
    | _ =>
      right
      simp only [reject, raise, start, finish, enter, settle, leave, collect, afterSettle] at hs
      (repeat' split at hs) <;> cases hs <;> simp_all [unsettled]

theorem leave_cases (hs : s.step op .leave = some s') :
    ∃ reply, s.callback = .settled reply ∧ s' = { s with callback := .done reply } := by
  unfold step at hs
  split at hs
  · cases hs
  · dsimp only [leave] at hs
    split at hs <;> cases hs
    exact ⟨_, by assumption, rfl⟩

/-- An operation carries its handle on through every step but the return of its call and the return
of its callback. -/
theorem carries_step (hs : s.step op a = some s') (h : s.carries op = true) (hu : s'.unsettled) :
    a = .finish ∨ a = .leave ∨ s'.carries op = true := by
  obtain ⟨hidle, hthrew, hp⟩ := hu
  obtain ⟨hop, howns⟩ := (Bool.and_eq_true _ _).mp h
  unfold step at hs
  split at hs
  · cases hs
  · cases a with
    | finish => exact .inl rfl
    | leave => exact .inr (.inl rfl)
    | raise =>
      dsimp only [raise] at hs
      split at hs <;> cases hs
      exact absurd rfl hthrew
    | _ =>
      right; right
      simp only [issue, reject, start, enter, settle, finalize, collect, afterSettle] at hs
      (repeat' split at hs) <;> cases hs <;> simp_all [carries, inCall, CallbackState.onStack]

end OpState

namespace System

variable {ι : Type} [DecidableEq ι] {kind : ι → Op} {s s' : System ι} {i j : ι} {a : OpAction}

theorem step_cases (hs : step kind s (i, a) = some s') :
    jsAfter i s.js a = some s'.js ∧ ∃ o, (s.ops i).step (kind i) a = some o ∧ s'.ops = Function.update s.ops i o := by
  unfold step at hs
  split at hs
  · rename_i js o hjs ho
    cases hs
    exact ⟨hjs, o, ho, rfl⟩
  · cases hs

/-- The JS thread stays with a call until that call returns or throws. -/
theorem jsAfter_of_busy {js : Option ι} (h : jsAfter i (some j) a = some js) :
    i = j ∧ (a = .raise ∨ a = .finish) ∨ js = some j := by
  cases a <;> simp only [jsAfter, Option.some.injEq, reduceCtorEq, if_false] at h
  case raise => split at h <;> simp_all
  case finish => split at h <;> simp_all
  all_goals first
    | exact .inr h.symm
    | (split at h <;> simp_all)

/-- Only the issue of an operation puts a call on the JS thread. -/
theorem jsAfter_cases {js : Option ι} (h : jsAfter i s.js a = some js) (hj : js = some j) :
    a = .issue ∧ j = i ∨ s.js = some j := by
  cases a <;> simp only [jsAfter] at h
  case enter | settle | leave => simp_all
  all_goals (split at h <;> simp_all)

theorem js_of_finish {js : Option ι} (h : jsAfter i s.js .finish = some js) : s.js = some i := by
  dsimp only [jsAfter] at h
  split at h
  · assumption
  · cases h

theorem jsAfter_issue {js : Option ι} (h : jsAfter i s.js .issue = some js) : js = some i := by
  dsimp only [jsAfter] at h
  split at h <;> cases h
  rfl

end System

/-! ## Runs -/

namespace Handles

variable {ι κ γ : Type} {p : Plan ι κ γ} {s s' : State ι κ γ}

/-- The wrapper that a JS call was made on is alive while the call runs, and an operation with a
pending promise carries its handle or leaves it to a wrapper that is alive. -/
structure Inv (p : Plan ι κ γ) (s : State ι κ γ) : Prop where
  calling : ∀ i, (s.system.ops i).inCall = true → s.system.js = some i
  receiver : ∀ i, s.system.js = some i → (s.wrappers (p.target i)).life = .alive
  owned : ∀ i, (s.system.ops i).unsettled →
    (s.system.ops i).carries (p.kind i) = true ∨ (s.wrappers (p.target i)).life = .alive

namespace Inv

theorem init : Inv p State.init where
  calling := nofun
  receiver := nofun
  owned _ h := absurd rfl h.1

/-- Wrappers that were alive stay so, and nothing else changes. -/
theorem setWrappers (h : Inv p s) {wrappers : Object ι γ → Wrapper}
    (hw : ∀ o, (s.wrappers o).life = .alive → (wrappers o).life = .alive) {workers : κ → Worker} :
    Inv p { s with wrappers := wrappers, workers := workers } where
  calling := h.calling
  receiver i hi := hw _ (h.receiver i hi)
  owned i hu := (h.owned i hu).imp_right (hw _)

theorem handlesOwned (h : Inv p s) : p.Owned s where
  operations i hu := by
    rcases h.owned i hu with hc | halive
    · exact ⟨.operation i, rfl, hc⟩
    · exact ⟨.wrapper, halive⟩
  workers k hk := ⟨.worker k, rfl, hk⟩

end Inv

variable [DecidableEq ι] [DecidableEq γ]

theorem wrappersAfter_alive (i : ι) (a : OpAction) {o : Object ι γ} (h : (s.wrappers o).life = .alive) :
    (p.wrappersAfter s i a o).life = .alive := by
  unfold Plan.wrappersAfter
  split
  · split
    · by_cases ho : o = p.target i
      · subst ho
        simpa using h
      · simpa [Function.update_of_ne ho] using h
    · exact h
  · split
    · by_cases ho : o = .made i
      · subst ho
        simp
      · simpa [Function.update_of_ne ho] using h
    · exact h
  · exact h

variable [DecidableEq κ]

namespace Inv

theorem op {i : ι} {a : OpAction} (h : Inv p s) (hok : p.Careful s (.op i a))
    (hs : p.step s (.op i a) = some s') : Inv p s' := by
  simp only [Plan.step] at hs
  split at hs
  case isFalse => cases hs
  rename_i hadm
  obtain ⟨system, hsys, rfl⟩ := Option.map_eq_some_iff.1 hs
  obtain ⟨hjs, o, ho, hops⟩ := System.step_cases hsys
  have hissue : a = .issue → (s.wrappers (p.target i)).life = .alive := by
    rintro rfl
    simp only [Plan.admits, Bool.and_eq_true, beq_iff_eq] at hadm
    exact hadm.1
  constructor
  · intro j hj
    rw [hops] at hj
    by_cases hij : j = i
    · subst hij
      rw [Function.update_self] at hj
      rcases OpState.inCall_step ho hj with rfl | ⟨hin, hr, hf⟩
      · exact System.jsAfter_issue hjs
      · rw [h.calling j hin] at hjs
        rcases System.jsAfter_of_busy hjs with ⟨-, hrf⟩ | hstay
        · exact absurd hrf (by simp [hr, hf])
        · exact hstay
    · rw [Function.update_of_ne hij] at hj
      rw [h.calling j hj] at hjs
      exact (System.jsAfter_of_busy hjs).resolve_left fun hi => hij hi.1.symm
  · intro j hj
    refine wrappersAfter_alive i a ?_
    rcases System.jsAfter_cases hjs hj with ⟨rfl, rfl⟩ | hold
    · exact hissue rfl
    · exact h.receiver j hold
  · intro j hu
    rw [hops] at hu ⊢
    by_cases hij : j = i
    · subst hij
      rw [Function.update_self] at hu ⊢
      rcases OpState.unsettled_step ho hu with rfl | hu₀
      · exact .inr (wrappersAfter_alive j _ (hissue rfl))
      · rcases h.owned j hu₀ with hc | halive
        · rcases OpState.carries_step ho hc hu with rfl | rfl | hc'
          -- the call returns: its receiver is alive
          · exact .inr (wrappersAfter_alive j _ (h.receiver j (System.js_of_finish hjs)))
          · exact .inr (wrappersAfter_alive j _ (hok rfl ((Bool.and_eq_true _ _).mp hc).1 hu₀))
          · exact .inl hc'
        · exact .inr (wrappersAfter_alive j _ halive)
    · rw [Function.update_of_ne hij] at hu ⊢
      exact (h.owned j hu).imp_right (wrappersAfter_alive i a)

theorem collect {o : Object ι γ} (h : Inv p s) (hok : p.Careful s (.collect o))
    (hs : p.step s (.collect o) = some s') : Inv p s' := by
  simp only [Plan.step] at hs
  split at hs <;> cases hs
  rename_i hc
  obtain ⟨-, -, -, hrecv⟩ := hc
  constructor
  · exact h.calling
  · intro i hi
    have ho : p.target i ≠ o := by
      rintro rfl
      exact hrecv (by simp only [Plan.receiving, show s.system.js = some i from hi, Option.map_some])
    show (Function.update s.wrappers o _ (p.target i)).life = .alive
    rw [Function.update_of_ne ho]
    exact h.receiver i hi
  · intro i hu
    by_cases ho : p.target i = o
    · exact .inl (hok i ho hu)
    · show _ ∨ (Function.update s.wrappers o _ (p.target i)).life = .alive
      rw [Function.update_of_ne ho]
      exact h.owned i hu

theorem step {a : Action ι κ γ} (h : Inv p s) (hok : p.Careful s a) (hs : p.step s a = some s') :
    Inv p s' := by
  cases a with
  | op i a => exact h.op hok hs
  | collect o => exact h.collect hok hs
  | newClient c =>
    simp only [Plan.step] at hs
    split at hs <;> cases hs
    exact h.setWrappers fun o ho => by
      by_cases heq : o = .client c <;> simp [heq, ho]
  | queue k =>
    simp only [Plan.step] at hs
    split at hs <;> cases hs
    exact h.setWrappers fun _ ho => ho
  | execute k result =>
    simp only [Plan.step] at hs
    split at hs <;> cases hs
    exact h.setWrappers fun _ ho => ho
  | complete k =>
    simp only [Plan.step] at hs
    split at hs
    · split at hs <;> cases hs
      exact h.setWrappers fun _ ho => ho
    · cases hs
  | listen i =>
    simp only [Plan.step] at hs
    split at hs <;> cases hs
    exact h.setWrappers fun o ho => by
      by_cases heq : o = .made i
      · simpa [heq] using heq ▸ ho
      · simpa [Function.update_of_ne heq] using ho
  | forget o' =>
    cases hs
    exact h.setWrappers fun o ho => by
      by_cases heq : o = o'
      · simpa [heq] using heq ▸ ho
      · simpa [Function.update_of_ne heq] using ho

end Inv

/-- Each operation of a process takes the steps of its own machine. -/
theorem opInv_reachable (h : p.machine.Reachable s) (i : ι) : OpInv (p.kind i) (s.system.ops i) := by
  refine PulsarNode.opInv_reachable (System.op_reachable p.kind ?_ i)
  refine h.image State.system (fun s hs => ?_) fun s a s' _ hs => ?_
  · rw [show s = .init from hs]
    rfl
  · change p.step s a = some s' at hs
    cases a with
    | op j a =>
      simp only [Plan.step] at hs
      split at hs
      · obtain ⟨system, hsys, rfl⟩ := Option.map_eq_some_iff.1 hs
        exact .inr ⟨(j, a), hsys⟩
      · cases hs
    | _ =>
      left
      simp only [Plan.step] at hs
      (repeat' split at hs) <;> cases hs
      all_goals rfl

section

variable [∀ s a, Decidable (p.Careful s a)]

theorem inv_reachable (h : (p.machine.restrict p.Careful).Reachable s) : Inv p s :=
  h.invariantWhere (fun s hs => by rw [show s = .init from hs]; exact .init) fun _ _ _ h hok hs => h.step hok hs

/-- In every run that collects wrappers with care, the handle of every operation with a pending
promise has an owner: callback-based operations rely on the wrapper, create operations and workers
carry the handle themselves. -/
theorem owned_reachable (h : (p.machine.restrict p.Careful).Reachable s) : p.Owned s :=
  (inv_reachable h).handlesOwned

/-- The first step without care leaves an operation with a pending promise whose handle neither its
wrapper nor the operation itself owns: it is freed unless another operation happens to own it. -/
theorem careless_step {a : Action ι κ γ} (h : (p.machine.restrict p.Careful).Reachable s)
    (hs : p.step s a = some s') (ha : ¬ p.Careful s a) :
    ∃ i, (s'.system.ops i).unsettled ∧
      ∀ w, p.Owns s' (p.target i) w → w ≠ .wrapper ∧ w ≠ .operation i := by
  have hI := inv_reachable h
  unfold Plan.Careful at ha
  split at ha
  · rename_i o
    push Not at ha
    obtain ⟨i, rfl, hu, hc⟩ := ha
    simp only [Plan.step] at hs
    split at hs <;> cases hs
    refine ⟨i, hu, ?_⟩
    rintro w hw
    constructor
    · rintro rfl
      simp [Plan.Owns] at hw
    · rintro rfl
      exact hc hw.2
  · rename_i i a
    push Not at ha
    obtain ⟨rfl, hop, hu, hdead⟩ := ha
    have hop' := opInv_reachable h.unrestrict i
    simp only [Plan.step] at hs
    split at hs
    case isFalse => cases hs
    obtain ⟨system, hsys, rfl⟩ := Option.map_eq_some_iff.1 hs
    obtain ⟨-, o, ho, hops⟩ := System.step_cases hsys
    obtain ⟨reply, hcb, rfl⟩ := OpState.leave_cases ho
    refine ⟨i, by rw [hops, Function.update_self]; exact hu, ?_⟩
    rintro w hw
    constructor
    · rintro rfl
      exact hdead hw
    · rintro rfl
      obtain ⟨-, hw⟩ := hw
      rw [hops, Function.update_self] at hw
      have hin : (s.system.ops i).inCall = false := by
        by_contra hin
        exact hdead (hI.receiver i (hI.calling i (by simpa using hin)))
      have hctx : (s.system.ops i).context ≠ .live := by
        rw [hop'.context, hcb]
        split <;> simp
      simp_all [OpState.carries, OpState.inCall, CallbackState.onStack]
  · exact absurd trivial ha

end

/-! ## A producer dropped while it sends -/

/-- Operation `true` is `createProducer` on the client, operation `false` a send of that producer. -/
def oneSend : Plan Bool Empty Unit where
  kind i := if i then .createProducer else .producerSend
  target i := if i then .client () else .made true
  listener _ := false
  work := nofun
  workTarget := nofun
  listener_cls := nofun
  target_cls := by decide
  workTarget_cls := nofun

/-- The producer is made, its client dropped and collected meanwhile, and a message is being sent. -/
def sending : List (Action Bool Empty Unit) :=
  [.newClient (), .op true .issue, .op true .start, .op true .finish, .forget (.client ()), .collect (.client ()),
    .op true (.enter ⟨.ok, some 7, ⟨0, "", [], []⟩⟩), .op true .settle, .op true .finalize, .op true .leave,
    .op false .issue, .op false .start, .op false .finish]

theorem owned_sending :
    ((oneSend.machine.restrict oneSend.Careful).run .init sending).isSome = true ∧
      oneSend.Owned ((oneSend.machine.restrict oneSend.Careful).runFrom .init sending) :=
  ⟨by decide, owned_reachable (.runFrom (.start (Machine.restrict_start.2 rfl)) _)⟩

/-- JS lets go of the producer, and the garbage collector destroys it. -/
def droppedProducer : State Bool Empty Unit :=
  oneSend.machine.runFrom .init (sending ++ [.forget (.made true), .collect (.made true)])

/-- The send is pending, and nobody owns its producer. -/
theorem droppedProducer_unowned : oneSend.machine.Reachable droppedProducer ∧ ¬ oneSend.Owned droppedProducer := by
  refine ⟨.runFrom (.start rfl) _, fun h => ?_⟩
  obtain ⟨w, hw⟩ := h.operations false (by decide)
  cases w with
  | wrapper => exact absurd hw (by decide)
  | operation i => cases i <;> exact absurd hw (by decide)
  | worker k => cases k

end Handles

end PulsarNode
