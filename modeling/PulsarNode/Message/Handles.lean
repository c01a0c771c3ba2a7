/-
Message handles and who frees them: the calls `receive`, `receive(timeout)`, `batchReceive` and
`readNext`, and the deliveries to listeners, in any number and any order. A handle that the native
client or `pulsar_message_create` gives out is a number not given out before; a `shared_ptr` over it
frees it when its last copy is gone. `ReaderReadNextWorker::Execute` wraps its out-parameter also
when the read failed and left it unwritten.
-/
import PulsarNode.Machine.Run
import PulsarNode.Machine.Shared
import PulsarNode.Native.Setters
import Mathlib.Logic.Function.Basic

namespace PulsarNode.Messages

/-! ## States -/

/-- The two workers: of `Consumer::Receive` with a timeout, and of `Reader::ReadNext`. -/
inductive Worker
  | consumerReceive | readerReadNext
  deriving DecidableEq, Repr

/-- A call from JS or a delivery, by how far it has come. `ok` is what the native call reported. -/
inductive Task
  | absent
  | receiving
  | received (rawMessage : Handle)
  | batchReceiving
  | batchReceived (listSize made : Nat)
  | queued (k : Worker)
  | executed (k : Worker) (ok : Bool)
  | completed (k : Worker) (ok : Bool)
  | settled (ok : Bool)
  | delivered
  | called
  | shown
  | returned
  deriving DecidableEq, Repr

/-- What holds a copy of a `shared_ptr` over a message: the member of a worker, a JS `Message` (the
`i`-th of its task), the local of a listener, or its `ListenerProxyData`. -/
inductive Owner
  | worker (t : Nat)
  | message (t i : Nat)
  | listener (t : Nat)
  | proxyData (t : Nat)
  deriving DecidableEq, Repr

def Owner.task : Owner → Nat
  | worker t | message t _ | listener t | proxyData t => t

/-- `next` is the number of handles given out so far. -/
structure State where
  tasks : Nat → Task
  next : Handle
  shared : Shared Handle Owner

inductive Action
  | receive (t : Nat)
  | receiveCallback (t : Nat) (ok : Bool)
  | resolveReceive (t : Nat)
  | batchReceive (t : Nat)
  | batchReceiveCallback (t : Nat) (ok : Bool) (listSize : Nat)
  | resolveBatch (t : Nat)
  | queue (t : Nat) (k : Worker)
  | execute (t : Nat) (ok : Bool) (unwritten : Handle)
  | onOK (t : Nat)
  | onError (t : Nat)
  | destroyWorker (t : Nat)
  | deliver (t : Nat)
  | acquire (t : Nat) (ok : Bool)
  | proxy (t : Nat)
  | listenerReturns (t : Nat)
  | collect (t i : Nat)
  deriving DecidableEq, Repr

namespace State

def init : State := ⟨fun _ => .absent, 0, .empty⟩

def setTask (s : State) (t : Nat) (x : Task) : State := { s with tasks := Function.update s.tasks t x }

/-! ## Calls from JS -/

/-- `Consumer::Receive` without a timeout. -/
def receive (t : Nat) (s : State) : Option State :=
  match s.tasks t with
  | .absent => some (s.setTask t .receiving)
  | _ => none

/-- Its callback: the resolver captures the raw handle. -/
def receiveCallback (t : Nat) (ok : Bool) (s : State) : Option State :=
  match s.tasks t, ok with
  | .receiving, true => some { s.setTask t (.received s.next) with next := s.next + 1 }
  | .receiving, false => some (s.setTask t (.settled false))
  | _, _ => none

/-- The resolver runs and makes the `Message`. -/
def resolveReceive (t : Nat) (s : State) : Option State :=
  match s.tasks t with
  | .received rawMessage =>
    some { s.setTask t (.settled true) with shared := s.shared.make rawMessage (.message t 0) }
  | _ => none

def batchReceive (t : Nat) (s : State) : Option State :=
  match s.tasks t with
  | .absent => some (s.setTask t .batchReceiving)
  | _ => none

def batchReceiveCallback (t : Nat) (ok : Bool) (listSize : Nat) (s : State) : Option State :=
  match s.tasks t, ok with
  | .batchReceiving, true => some (s.setTask t (.batchReceived listSize 0))
  | .batchReceiving, false => some (s.setTask t (.settled false))
  | _, _ => none

/-- A pass of the resolver's loop: the message is copied into one from `pulsar_message_create`. After
the last, `pulsar_messages_free` frees the batch with the messages in it. -/
def resolveBatch (t : Nat) (s : State) : Option State :=
  match s.tasks t with
  | .batchReceived listSize made =>
    if made < listSize then
      some { s.setTask t (.batchReceived listSize (made + 1)) with
        next := s.next + 1, shared := s.shared.make s.next (.message t made) }
    else some (s.setTask t (.settled true))
  | _ => none

/-! ## Workers -/

/-- `wk->Queue()`. -/
def queue (t : Nat) (k : Worker) (s : State) : Option State :=
  match s.tasks t with
  | .absent => some (s.setTask t (.queued k))
  | _ => none

/-- `Execute` on a thread of the pool; `unwritten` is what `rawMessage` holds before the read. -/
def execute (t : Nat) (ok : Bool) (unwritten : Handle) (s : State) : Option State :=
  match s.tasks t, ok with
  | .queued k, true =>
    some { s.setTask t (.executed k true) with next := s.next + 1, shared := s.shared.make s.next (.worker t) }
  | .queued .consumerReceive, false => some (s.setTask t (.executed .consumerReceive false))
  | .queued .readerReadNext, false =>
    some { s.setTask t (.executed .readerReadNext false) with shared := s.shared.make unwritten (.worker t) }
  | _, _ => none

/-- `OnOK`: the promise is resolved with a `Message` over a copy. -/
def onOK (t : Nat) (s : State) : Option State :=
  match s.tasks t with
  | .executed k true =>
    some { s.setTask t (.completed k true) with shared := s.shared.copy (.worker t) (.message t 0) }
  | _ => none

/-- `OnError`: the promise is rejected. -/
def onError (t : Nat) (s : State) : Option State :=
  match s.tasks t with
  | .executed k false => some (s.setTask t (.completed k false))
  | _ => none

/-- The worker deletes itself, and its member lets go. -/
def destroyWorker (t : Nat) (s : State) : Option State :=
  match s.tasks t with
  | .completed _ ok => some { s.setTask t (.settled ok) with shared := s.shared.drop (.worker t) }
  | _ => none

/-! ## Listeners -/

/-- `MessageListener` or `ReaderListener` is called with a message. -/
def deliver (t : Nat) (s : State) : Option State :=
  match s.tasks t with
  | .absent =>
    some { s.setTask t .delivered with next := s.next + 1, shared := s.shared.make s.next (.listener t) }
  | _ => none

/-- `Acquire`: when it is refused the listener returns, else its data takes a copy. -/
def acquire (t : Nat) (ok : Bool) (s : State) : Option State :=
  match s.tasks t, ok with
  | .delivered, true =>
    some { s.setTask t .called with shared := s.shared.copy (.listener t) (.proxyData t) }
  | .delivered, false => some { s.setTask t .returned with shared := s.shared.drop (.listener t) }
  | _, _ => none

/-- The proxy makes the `Message` that JS is called with. -/
def proxy (t : Nat) (s : State) : Option State :=
  match s.tasks t with
  | .called => some { s.setTask t .shown with shared := s.shared.copy (.proxyData t) (.message t 0) }
  | _ => none

/-- `future.wait()` is over: the data is destroyed, then the local. -/
def listenerReturns (t : Nat) (s : State) : Option State :=
  match s.tasks t with
  | .shown => some { s.setTask t .returned with shared := (s.shared.drop (.proxyData t)).drop (.listener t) }
  | _ => none

/-- The garbage collector destroys a `Message`. -/
def collect (t i : Nat) (s : State) : Option State := some { s with shared := s.shared.drop (.message t i) }

def step (s : State) : Action → Option State
  | .receive t => s.receive t
  | .receiveCallback t ok => s.receiveCallback t ok
  | .resolveReceive t => s.resolveReceive t
  | .batchReceive t => s.batchReceive t
  | .batchReceiveCallback t ok listSize => s.batchReceiveCallback t ok listSize
  | .resolveBatch t => s.resolveBatch t
  | .queue t k => s.queue t k
  | .execute t ok unwritten => s.execute t ok unwritten
  | .onOK t => s.onOK t
  | .onError t => s.onError t
  | .destroyWorker t => s.destroyWorker t
  | .deliver t => s.deliver t
  | .acquire t ok => s.acquire t ok
  | .proxy t => s.proxy t
  | .listenerReturns t => s.listenerReturns t
  | .collect t i => s.collect t i

end State

def machine : Machine State Action where
  start s := s = .init
  step := State.step

/-! ## The invariant -/

/-- The native call of the task reported an error. -/
def Task.failed : Task → Bool
  | executed _ ok | completed _ ok | settled ok => !ok
  | _ => false

/-- The promise of the task is rejected. -/
def Task.rejected : Task → Bool
  | completed _ ok | settled ok => !ok
  | _ => false

/-- The native client gave the task a message, or a batch. -/
def Task.given : Task → Bool
  | received _ | batchReceived _ _ | delivered | called | shown | returned => true
  | executed _ ok | completed _ ok | settled ok => ok
  | _ => false

theorem Task.not_given_of_failed {x : Task} (h : x.failed = true) : x.given = false := by
  cases x <;> simp_all [failed, given]

/-- Every pointer was given out, none is held or freed twice, and what owns or has freed one belongs
to a task that was given a message. -/
structure Inv (s : State) : Prop where
  nodup : s.shared.ptrs.Nodup
  produced : ∀ p ∈ s.shared.ptrs, p < s.next
  raw : ∀ t p, s.tasks t = .received p → p < s.next ∧ p ∉ s.shared.ptrs
  apart : ∀ t t' p, s.tasks t = .received p → s.tasks t' = .received p → t = t'
  owners : ∀ b ∈ s.shared.blocks, ∀ o ∈ b.2, (s.tasks o.task).given = true
  freedBy : ∀ e ∈ s.shared.freed, (s.tasks e.2.task).given = true

namespace Inv

variable {s s' : State} {t u : Nat} {x : Task} {p : Handle} {o o' : Owner}

theorem init : Inv .init := ⟨List.nodup_nil, by rintro p ⟨⟩, by rintro t p ⟨⟩, by rintro t t' p ⟨⟩, by rintro b ⟨⟩,
  by rintro e ⟨⟩⟩

theorem tasks_setTask (s : State) (t : Nat) (x : Task) (u : Nat) :
    (s.setTask t x).tasks u = if u = t then x else s.tasks u := Function.update_apply ..

/-- A task that was given a message stays one. -/
theorem given_setTask (hx : (s.tasks t).given = true → x.given = true) (hu : (s.tasks u).given = true) :
    ((s.setTask t x).tasks u).given = true := by
  rw [tasks_setTask]
  by_cases hut : u = t
  · subst hut
    rw [if_pos rfl]
    exact hx hu
  · rw [if_neg hut]
    exact hu

theorem received_setTask (hx : ∀ p, x ≠ .received p) (hu : (s.setTask t x).tasks u = .received p) :
    u ≠ t ∧ s.tasks u = .received p := by
  rw [tasks_setTask] at hu
  by_cases hut : u = t
  · rw [if_pos hut] at hu
    exact absurd hu (hx p)
  · rw [if_neg hut] at hu
    exact ⟨hut, hu⟩

theorem setTask (h : Inv s) (hgiven : (s.tasks t).given = true → x.given = true) (hx : ∀ p, x ≠ .received p) :
    Inv (s.setTask t x) where
  nodup := h.nodup
  produced := h.produced
  raw u p hu := h.raw u p (received_setTask hx hu).2
  apart u u' p hu hu' := h.apart u u' p (received_setTask hx hu).2 (received_setTask hx hu').2
  owners b hb o ho := given_setTask hgiven (h.owners b hb o ho)
  freedBy e he := given_setTask hgiven (h.freedBy e he)

/-- The native client gives out a handle. -/
theorem produce (h : Inv s) : Inv { s with next := s.next + 1 } :=
  { h with
    produced := fun p hp => Nat.lt_succ_of_lt (h.produced p hp)
    raw := fun t p ht => ⟨Nat.lt_succ_of_lt (h.raw t p ht).1, (h.raw t p ht).2⟩ }

/-- A handle not given out yet is nowhere. -/
theorem fresh (h : Inv s) : s.next ∉ s.shared.ptrs ∧ ∀ t, s.tasks t ≠ .received s.next :=
  ⟨fun hmem => Nat.lt_irrefl _ (h.produced _ hmem), fun t ht => Nat.lt_irrefl _ (h.raw t _ ht).1⟩

/-- A callback gives the next handle to its resolver. -/
theorem receive (h : Inv s) : Inv { s.setTask t (.received s.next) with next := s.next + 1 } where
  nodup := h.nodup
  produced p hp := Nat.lt_succ_of_lt (h.produced p hp)
  raw u p hu := by
    change (s.setTask t (.received s.next)).tasks u = .received p at hu
    rw [tasks_setTask] at hu
    by_cases hut : u = t
    · rw [if_pos hut] at hu
      cases hu
      exact ⟨Nat.lt_succ_self _, h.fresh.1⟩
    · rw [if_neg hut] at hu
      exact h.produce.raw u p hu
  apart u u' p hu hu' := by
    change (s.setTask t (.received s.next)).tasks u = .received p at hu
    change (s.setTask t (.received s.next)).tasks u' = .received p at hu'
    rw [tasks_setTask] at hu hu'
    by_cases hut : u = t
    · by_cases hut' : u' = t
      · rw [hut, hut']
      · rw [if_pos hut] at hu
        rw [if_neg hut'] at hu'
        cases hu
        exact absurd hu' (h.fresh.2 u')
    · by_cases hut' : u' = t
      · rw [if_neg hut] at hu
        rw [if_pos hut'] at hu'
        cases hu'
        exact absurd hu (h.fresh.2 u)
      · rw [if_neg hut] at hu
        rw [if_neg hut'] at hu'
        exact h.apart u u' p hu hu'
  owners b hb o ho := given_setTask (fun _ => rfl) (h.owners b hb o ho)
  freedBy e he := given_setTask (fun _ => rfl) (h.freedBy e he)

/-- A `shared_ptr` is made over a handle that nothing else has. -/
theorem make (h : Inv s) (hp : p < s.next) (hfresh : p ∉ s.shared.ptrs) (hraw : ∀ t, s.tasks t ≠ .received p)
    (ho : (s.tasks o.task).given = true) : Inv { s with shared := s.shared.make p o } := by
  have hperm := s.shared.ptrs_make_perm p o
  exact { h with
    nodup := hperm.nodup_iff.2 (List.nodup_cons.2 ⟨hfresh, h.nodup⟩)
    produced := fun q hq => by
      rcases List.mem_cons.1 (hperm.mem_iff.1 hq) with rfl | hq
      · exact hp
      · exact h.produced q hq
    raw := fun t q ht => by
      refine ⟨(h.raw t q ht).1, fun hq => ?_⟩
      rcases List.mem_cons.1 (hperm.mem_iff.1 hq) with rfl | hq
      · exact hraw t ht
      · exact (h.raw t q ht).2 hq
    owners := fun b hb q hq => by
      rcases Shared.mem_blocks_make hb with hb | rfl
      · exact h.owners b hb q hq
      · rw [List.mem_singleton.1 hq]
        exact ho }

/-- It is made over the handle that was given out last. -/
theorem makeNext (h : Inv s) (ho : (s.tasks o.task).given = true) :
    Inv { s with next := s.next + 1, shared := s.shared.make s.next o } :=
  h.produce.make (Nat.lt_succ_self _) h.fresh.1 h.fresh.2 ho

theorem copy (h : Inv s) (ho' : (s.tasks o'.task).given = true) : Inv { s with shared := s.shared.copy o o' } := by
  have hptrs := s.shared.ptrs_copy o o'
  exact { h with
    nodup := hptrs ▸ h.nodup
    produced := fun q hq => h.produced q (hptrs ▸ hq)
    raw := fun t q ht => ⟨(h.raw t q ht).1, fun hq => (h.raw t q ht).2 (hptrs ▸ hq)⟩
    owners := fun b hb q hq => by
      rcases Shared.owner_copy hb hq with rfl | ⟨b', hb', hq'⟩
      · exact ho'
      · exact h.owners b' hb' q hq' }

theorem drop (h : Inv s) (o : Owner) : Inv { s with shared := s.shared.drop o } := by
  have hperm := s.shared.ptrs_drop_perm o
  exact { h with
    nodup := hperm.nodup_iff.2 h.nodup
    produced := fun q hq => h.produced q (hperm.mem_iff.1 hq)
    raw := fun t q ht => ⟨(h.raw t q ht).1, fun hq => (h.raw t q ht).2 (hperm.mem_iff.1 hq)⟩
    owners := fun b hb q hq => by
      obtain ⟨b', hb', hq'⟩ := Shared.owner_drop hb hq
      exact h.owners b' hb' q hq'
    freedBy := fun e he => by
      rcases Shared.mem_freed_drop he with he | ⟨heq, b, hb, ho⟩
      · exact h.freedBy e he
      · change (s.tasks e.2.task).given = true
        rw [heq]
        exact h.owners b hb o ho }

/-! ### With the task that moves on -/

theorem given_setTask_self (hx : x.given = true) (ho : o.task = t) : ((s.setTask t x).tasks o.task).given = true := by
  rw [tasks_setTask, if_pos ho]
  exact hx

theorem setTask_makeNext (h : Inv s) (hx : x.given = true) (hne : ∀ p, x ≠ .received p) (ho : o.task = t) :
    Inv { s.setTask t x with next := s.next + 1, shared := s.shared.make s.next o } :=
  (h.setTask (fun _ => hx) hne).makeNext (given_setTask_self hx ho)

theorem setTask_copy (h : Inv s) (hx : x.given = true) (hne : ∀ p, x ≠ .received p) (ho' : o'.task = t) :
    Inv { s.setTask t x with shared := s.shared.copy o o' } :=
  (h.setTask (fun _ => hx) hne).copy (given_setTask_self hx ho')

end Inv

/-! ## Runs without a failed `readNext` -/

/-- The native call of a `readNext` does not report an error in this step. -/
def ReadsNext (s : State) : Action → Prop
  | .execute t ok _ => ok = false → s.tasks t ≠ .queued .readerReadNext
  | _ => True

instance (s : State) (a : Action) : Decidable (ReadsNext s a) := by
  cases a with
  | execute t ok unwritten => exact inferInstanceAs (Decidable (ok = false → s.tasks t ≠ .queued .readerReadNext))
  | _ => exact inferInstanceAs (Decidable True)

namespace Inv

variable {s s' : State} {t : Nat}

/-- A call begins. -/
theorem start (h : Inv s) {x : Task} (ht : s.tasks t = .absent) (hx : ∀ p, x ≠ .received p) : Inv (s.setTask t x) :=
  h.setTask (by simp [ht, Task.given]) hx

theorem receiveCallback {ok : Bool} (h : Inv s) (hs : s.receiveCallback t ok = some s') : Inv s' := by
  unfold State.receiveCallback at hs
  split at hs <;> cases hs
  · exact h.receive
  · rename_i ht
    exact h.setTask (by simp [ht, Task.given]) (by simp)

/-- The raw handle goes from the closure into the `shared_ptr`. -/
theorem resolveReceive (h : Inv s) (hs : s.resolveReceive t = some s') : Inv s' := by
  unfold State.resolveReceive at hs
  split at hs <;> cases hs
  rename_i p ht
  obtain ⟨hp, hfresh⟩ := h.raw t p ht
  have hset : Inv (s.setTask t (.settled true)) := h.setTask (by simp [Task.given]) (by simp)
  refine hset.make hp hfresh (fun u hu => ?_) (by simp [tasks_setTask, Owner.task, Task.given])
  obtain ⟨hne, hu⟩ := received_setTask (by simp) hu
  exact hne (h.apart u t p hu ht)

theorem batchReceiveCallback {ok : Bool} {listSize : Nat} (h : Inv s)
    (hs : s.batchReceiveCallback t ok listSize = some s') : Inv s' := by
  unfold State.batchReceiveCallback at hs
  split at hs <;> cases hs
  · exact h.setTask (by simp [Task.given]) (by simp)
  · rename_i ht
    exact h.setTask (by simp [ht, Task.given]) (by simp)

theorem resolveBatch (h : Inv s) (hs : s.resolveBatch t = some s') : Inv s' := by
  unfold State.resolveBatch at hs
  split at hs
  · rename_i listSize made ht
    split at hs <;> cases hs
    · exact h.setTask_makeNext rfl (by simp) rfl
    · exact h.setTask (by simp [Task.given]) (by simp)
  · cases hs

theorem execute {ok : Bool} {unwritten : Handle} (h : Inv s) (hok : ReadsNext s (.execute t ok unwritten))
    (hs : s.execute t ok unwritten = some s') : Inv s' := by
  unfold State.execute at hs
  split at hs <;> cases hs
  · exact h.setTask_makeNext rfl (by simp) rfl
  · rename_i ht
    exact h.setTask (by simp [ht, Task.given]) (by simp)
  · rename_i ht
    exact absurd ht (hok rfl)

theorem onOK (h : Inv s) (hs : s.onOK t = some s') : Inv s' := by
  unfold State.onOK at hs
  split at hs <;> cases hs
  exact h.setTask_copy rfl (by simp) rfl

theorem onError (h : Inv s) (hs : s.onError t = some s') : Inv s' := by
  unfold State.onError at hs
  split at hs <;> cases hs
  rename_i k ht
  exact h.setTask (by simp [ht, Task.given]) (by simp)

theorem destroyWorker (h : Inv s) (hs : s.destroyWorker t = some s') : Inv s' := by
  unfold State.destroyWorker at hs
  split at hs <;> cases hs
  rename_i k ok ht
  have hset : Inv (s.setTask t (.settled ok)) := h.setTask (by simp [ht, Task.given]) (by simp)
  exact hset.drop _

theorem deliver (h : Inv s) (hs : s.deliver t = some s') : Inv s' := by
  unfold State.deliver at hs
  split at hs <;> cases hs
  exact h.setTask_makeNext rfl (by simp) rfl

theorem acquire {ok : Bool} (h : Inv s) (hs : s.acquire t ok = some s') : Inv s' := by
  unfold State.acquire at hs
  split at hs <;> cases hs
  · exact h.setTask_copy rfl (by simp) rfl
  · have hset : Inv (s.setTask t .returned) := h.setTask (by simp [Task.given]) (by simp)
    exact hset.drop _

theorem proxy (h : Inv s) (hs : s.proxy t = some s') : Inv s' := by
  unfold State.proxy at hs
  split at hs <;> cases hs
  exact h.setTask_copy rfl (by simp) rfl

theorem listenerReturns (h : Inv s) (hs : s.listenerReturns t = some s') : Inv s' := by
  unfold State.listenerReturns at hs
  split at hs <;> cases hs
  have hset : Inv (s.setTask t .returned) := h.setTask (by simp [Task.given]) (by simp)
  exact (hset.drop _).drop _

/-- A step in which no `readNext` fails keeps the invariant. -/
theorem step {a : Action} (h : Inv s) (hok : ReadsNext s a) (hs : s.step a = some s') : Inv s' := by
  cases a with
  | receive t | batchReceive t | queue t k =>
    simp only [State.step, State.receive, State.batchReceive, State.queue] at hs
    split at hs <;> cases hs
    rename_i ht
    exact h.start ht (by simp)
  | receiveCallback t ok => exact h.receiveCallback hs
  | resolveReceive t => exact h.resolveReceive hs
  | batchReceiveCallback t ok listSize => exact h.batchReceiveCallback hs
  | resolveBatch t => exact h.resolveBatch hs
  | execute t ok unwritten => exact h.execute hok hs
  | onOK t => exact h.onOK hs
  | onError t => exact h.onError hs
  | destroyWorker t => exact h.destroyWorker hs
  | deliver t => exact h.deliver hs
  | acquire t ok => exact h.acquire hs
  | proxy t => exact h.proxy hs
  | listenerReturns t => exact h.listenerReturns hs
  | collect t i =>
    cases hs
    exact h.drop _

end Inv

/-! ## What holds of handles -/

/-- The handles freed were given out, none twice, none that a JS `Message` refers to; and a task whose
native call failed has its promise rejected, at once or in the next step of its own, and frees nothing. -/
structure Conserved (s : State) : Prop where
  produced : ∀ p ∈ s.shared.freed.map Prod.fst, p < s.next
  once : (s.shared.freed.map Prod.fst).Nodup
  unreferenced : ∀ t i p, s.shared.Owns (.message t i) p → p ∉ s.shared.freed.map Prod.fst
  rejected : ∀ t, (s.tasks t).failed = true →
    (s.tasks t).rejected = true ∨ ∃ s', s.step (.onError t) = some s' ∧ (s'.tasks t).rejected = true
  failedFreesNothing : ∀ t, (s.tasks t).failed = true → ∀ e ∈ s.shared.freed, e.2.task ≠ t

theorem Inv.conserved {s : State} (h : Inv s) : Conserved s where
  produced p hp := h.produced p (List.mem_append_right _ hp)
  once := Shared.freed_nodup h.nodup
  unreferenced t i p ho := Shared.not_freed_of_owns h.nodup ho
  rejected t ht := by
    cases hx : s.tasks t with
    | executed k ok =>
      cases ok with
      | true => simp [hx, Task.failed] at ht
      | false =>
        refine .inr ⟨s.setTask t (.completed k false), ?_, ?_⟩
        · simp [State.step, State.onError, hx]
        · simp [Inv.tasks_setTask, Task.rejected]
    | completed k ok | settled ok => exact .inl (by simpa [hx, Task.failed, Task.rejected] using ht)
    | _ => simp [hx, Task.failed] at ht
  failedFreesNothing t ht e he heq := by
    have hgiven := h.freedBy e he
    rw [heq, Task.not_given_of_failed ht] at hgiven
    cases hgiven

/-- In a run in which no native call of a `readNext` reports an error, the handles are conserved in every
state reached. -/
theorem conserved_reachable {s : State} (h : (machine.restrict ReadsNext).Reachable s) : Conserved s := by
  have hinv : Inv s := h.invariantWhere (fun _ h0 => h0 ▸ Inv.init) fun _ _ _ hI hok hs => hI.step hok hs
  exact hinv.conserved

/-- A receive whose message is collected, beside one with a timeout that fails. -/
theorem conserved_receiving :
    ∃ s, (machine.restrict ReadsNext).Reachable s ∧ s.shared.freed = [(0, .message 0 0)] ∧ (s.tasks 1).failed = true ∧
      Conserved s := by
  have hrun : (machine.restrict ReadsNext).run .init [.receive 0, .queue 1 .consumerReceive, .receiveCallback 0 true,
      .execute 1 false 5, .resolveReceive 0, .onError 1, .collect 0 0] = some _ := rfl
  have hreach := Machine.Reachable.run (.start rfl) hrun
  exact ⟨_, hreach, rfl, rfl, conserved_reachable hreach⟩

/-- A `readNext` that fails frees whatever its out-parameter held, here 5, where no handle was given out. -/
theorem failedReadNext_frees :
    ∃ s, machine.Reachable s ∧ s.next = 0 ∧ s.shared.freed = [(5, .worker 0)] ∧ ¬ Conserved s := by
  have hrun : machine.run .init [.queue 0 .readerReadNext, .execute 0 false 5, .onError 0, .destroyWorker 0] =
      some _ := rfl
  refine ⟨_, Machine.Reachable.run (.start rfl) hrun, rfl, rfl, fun h => ?_⟩
  exact absurd (h.produced 5 (by decide)) (by decide)

end PulsarNode.Messages
