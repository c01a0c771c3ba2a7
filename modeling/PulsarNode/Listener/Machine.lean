/-
The message listener of a consumer or a reader: the native threads that deliver messages, the
record that the native client hands to them, the thread-safe function with its queue, the JS thread
and the wrapper. `MessageListener` and `ReaderListener` run on the native threads and differ in how
they read the pointer of the wrapper; `MessageListenerProxy` and `ReaderListenerProxy` run on the
JS thread and differ in when they signal, and in what they call on a promise: the consumer's `catch`
and `finally` come down to the `then` of the promise, which the reader calls itself. A step that touches
freed memory, or signals a delivery twice, is a fault and leaves all else as it was; nothing happens
after a fault.
-/
import PulsarNode.Listener.Delivery
import PulsarNode.Machine.Run
import PulsarNode.Napi.Tsfn

namespace PulsarNode.Listener

inductive Kind
  | consumer | reader
  deriving DecidableEq, Repr

/-! ## States -/

/-- Where a native thread is in `MessageListener` or `ReaderListener`; `p` is the wrapper pointer it
has read, and `called` is between `BlockingCall` and `Release`. -/
inductive Pc
  | idle
  | entered (m : Msg)
  | read (m : Msg) (p : Option WrapperPtr)
  | acquired (m : Msg) (p : Option WrapperPtr)
  | called (m : Msg)
  | waiting (m : Msg)
  deriving DecidableEq, Repr

/-- A native thread: `seq` numbers its deliveries, and `ready` tells whether the future of the
present one is set. -/
structure Thread where
  pc : Pc
  seq : Nat
  ready : Bool
  history : List Event
  deriving DecidableEq, Repr

/-- `MessageListenerProxyData`, with the delivery whose future its callback sets. -/
structure Job (n : Nat) where
  thread : Fin n
  seq : Nat
  msg : Msg
  wrapper : Option WrapperPtr
  deriving DecidableEq, Repr

/-- What the proxies give a promise to call: `logs` is the consumer's handler for `catch`, `signals`
the one that calls `data->callback()`. -/
inductive Handler
  | logs | signals
  deriving DecidableEq, Repr

/-- The `then` of a promise. One of its own calls the handlers that it keeps when and as often as it
likes, and may throw without keeping any. A `catch` or `finally` of its own is no other to a consumer. -/
inductive Then
  | builtIn
  | notFunction
  | own (keeps : List Handler)
  deriving DecidableEq, Repr

/-- Who releases the initial reference of the function. -/
inductive Holder
  | config | resolver | wrapper | released
  deriving DecidableEq, Repr

inductive WrapperState
  | absent | alive | destroyed
  deriving DecidableEq, Repr

inductive Fault
  | recordDeleted | wrapperDestroyed | wrapperNull | signalledTwice
  deriving DecidableEq, Repr

/-- `pointer` is what the record says of the wrapper: the value of the consumer future once it is
set, or the reader pointer. `strong` is the wrapper's reference to itself, `jsRef` tells whether JS
can reach it. `pending` are the jobs of promises that have their handlers and are not settled, `kept`
the handlers that a `then` of its own has. -/
structure State (n : Nat) where
  threads : Fin n → Thread
  tsfn : Tsfn
  queue : List (Job n)
  running : Option (Job n)
  pending : List (Job n)
  kept : List (Handler × Job n)
  pointer : Option WrapperPtr
  recordDeleted : Bool
  holder : Holder
  wrapper : WrapperState
  strong : Bool
  jsRef : Bool
  fault : Option Fault

/-- What the JS listener does with a message. -/
inductive Outcome
  | value | throws | promise (t : Then)
  deriving DecidableEq, Repr

inductive Action (n : Nat)
  | deliver (t : Fin n) (m : Msg)
  | readPointer (t : Fin n)
  | acquire (t : Fin n)
  | blockingCall (t : Fin n)
  | release (t : Fin n)
  | wake (t : Fin n)
  | dispatch
  | listenerReturns (o : Outcome)
  | settle (j : Job n) (fulfilled : Bool)
  | callBack (h : Handler) (j : Job n)
  | createOk
  | createFail
  | publish
  | close
  | forget
  | collect
  | closeFunction
  | finalize
  deriving DecidableEq, Repr

namespace Thread

def init : Thread := ⟨.idle, 0, false, []⟩

/-- The thread with an event noted. -/
def log (th : Thread) (e : Event) : Thread := { th with history := th.history ++ [e] }

/-- The message of a delivery whose job is queued: its future is on the stack of the thread. -/
def awaited (th : Thread) : Option Msg :=
  match th.pc with
  | .called m | .waiting m => some m
  | _ => none

/-- The message of a delivery whose job is not queued yet. -/
def entering (th : Thread) : Option Msg :=
  match th.pc with
  | .entered m | .read m _ | .acquired m _ => some m
  | _ => none

/-- The thread holds the thread-safe function. -/
def holds (th : Thread) : Bool :=
  match th.pc with
  | .acquired _ _ | .called _ => true
  | _ => false

end Thread

namespace State

variable {n : Nat}

def init : State n where
  threads _ := .init
  tsfn := .new
  queue := []
  running := none
  pending := []
  kept := []
  pointer := none
  recordDeleted := false
  holder := .config
  wrapper := .absent
  strong := false
  jsRef := false
  fault := none

def setThread (s : State n) (t : Fin n) (th : Thread) : State n :=
  { s with threads := Function.update s.threads t th }

def fail (s : State n) (f : Fault) : State n := { s with fault := some f }

/-- The jobs that the JS thread has begun: the JS call that runs, and the promises not settled. -/
def underWay (s : State n) : List (Job n) := s.running.toList ++ s.pending

/-! ## The native threads -/

/-- The native client calls the listener; the record is not read yet. -/
def deliver (t : Fin n) (m : Msg) (s : State n) : Option (State n) :=
  let th := s.threads t
  if th.pc = .idle then
    some (s.setThread t ({ th with pc := .entered m, seq := th.seq + 1 }.log (.delivered m)))
  else none

/-- A consumer thread waits in `consumerFuture.get()` for the pointer, a reader thread takes the
pointer as it is. -/
def readPointer (k : Kind) (t : Fin n) (s : State n) : Option (State n) :=
  let th := s.threads t
  match th.pc with
  | .entered m =>
    if s.recordDeleted then some (s.fail .recordDeleted)
    else
      match k, s.pointer with
      | .consumer, none => none
      | _, p => some (s.setThread t { th with pc := .read m p })
  | _ => none

/-- `callback.Acquire()`, and on success the promise of the delivery is made. -/
def acquire (t : Fin n) (s : State n) : Option (State n) :=
  let th := s.threads t
  match th.pc with
  | .read m p =>
    if s.recordDeleted then some (s.fail .recordDeleted)
    else
      match s.tsfn.acquire with
      | none => some (s.setThread t ({ th with pc := .idle }.log (.refused m)))
      | some f =>
        some { s.setThread t { th with pc := .acquired m p, ready := false } with tsfn := f }
  | _ => none

/-- `callback.BlockingCall(data, proxy)` waits while the queue of one is full. On a closing function
the call gives the reference up and queues nothing; its status is ignored. -/
def blockingCall (t : Fin n) (s : State n) : Option (State n) :=
  let th := s.threads t
  match th.pc with
  | .acquired m p =>
    if s.recordDeleted then some (s.fail .recordDeleted)
    else if s.tsfn.closing then
      some { s.setThread t { th with pc := .called m } with tsfn := s.tsfn.drop }
    else if s.queue.length < 1 then
      some { s.setThread t ({ th with pc := .called m }.log (.queued m)) with
        queue := s.queue ++ [⟨t, th.seq, m, p⟩] }
    else none
  | _ => none

/-- `callback.Release()`. -/
def release (t : Fin n) (s : State n) : Option (State n) :=
  let th := s.threads t
  match th.pc with
  | .called m =>
    if s.recordDeleted then some (s.fail .recordDeleted)
    else some { s.setThread t { th with pc := .waiting m } with tsfn := s.tsfn.drop }
  | _ => none

/-- `future.wait()` returns, and with it the listener. -/
def wake (t : Fin n) (s : State n) : Option (State n) :=
  let th := s.threads t
  match th.pc with
  | .waiting m =>
    if th.ready then some (s.setThread t ({ th with pc := .idle }.log (.returned m))) else none
  | _ => none

/-! ## The JS thread -/

/-- `data->callback()`: set the future on the stack of the delivery's thread. -/
def signal (j : Job n) (s : State n) : State n :=
  let th := s.threads j.thread
  if th.seq = j.seq ∧ th.awaited.isSome ∧ th.ready = false then
    s.setThread j.thread ({ th with ready := true }.log (.signalled j.msg))
  else s.fail .signalledTwice

/-- The listener is done with the message of a job. -/
def finish (j : Job n) (s : State n) : State n :=
  s.setThread j.thread ((s.threads j.thread).log (.finished j.msg))

/-- `logMessageListenerError(consumer, ..)` asks the wrapper for its topic; then the code goes on. -/
def logMessageListenerError (s next : State n) : State n :=
  if s.wrapper = .destroyed then s.fail .wrapperDestroyed else next

/-- The proxy starts: the consumer's pointer is used as it is, the reader's is tested for null. -/
def dispatch (k : Kind) (s : State n) : Option (State n) :=
  match s.running, s.queue with
  | none, j :: rest =>
    match j.wrapper, k with
    | some p, _ =>
      if s.wrapper = .alive then
        some { s.setThread j.thread ((s.threads j.thread).log (.called j.msg p)) with
          queue := rest, running := some j, jsRef := true }
      else some (s.fail .wrapperDestroyed)
    | none, .reader =>
      some (signal j { s.setThread j.thread ((s.threads j.thread).log (.skipped j.msg)) with queue := rest })
    | none, .consumer => some (s.fail .wrapperNull)
  | _, _ => none

/-- A `then` of its own keeps handlers of a job. -/
def keep (j : Job n) (hs : List Handler) (s : State n) : State n :=
  { s with running := none, kept := s.kept ++ hs.map (·, j) }

/-- `MessageListenerProxy` once the JS listener is done: an exception is logged, a promise gets its
handlers, and the delivery is signalled. Where the promise has no `then` to call, `catch` throws, and
that exception leaves the proxy. -/
def messageListenerProxy (j : Job n) (s : State n) : Outcome → State n
  | .value => signal j (finish j { s with running := none })
  | .throws => s.logMessageListenerError (signal j (finish j { s with running := none }))
  | .promise .builtIn => { s with running := none, pending := s.pending ++ [j] }
  | .promise .notFunction => { s with running := none }
  | .promise (.own keeps) => keep j keeps s

/-- `ReaderListenerProxy` once the JS listener is done: an exception leaves the proxy before the
signal, and a promise with no `then` to call is any value. -/
def readerListenerProxy (j : Job n) (s : State n) : Outcome → State n
  | .value => signal j (finish j { s with running := none })
  | .throws => finish j { s with running := none }
  | .promise .builtIn => { s with running := none, pending := s.pending ++ [j] }
  | .promise .notFunction => signal j (finish j { s with running := none })
  | .promise (.own keeps) => keep j keeps s

def listenerReturns (k : Kind) (o : Outcome) (s : State n) : Option (State n) :=
  match s.running, k with
  | some j, .consumer => some (messageListenerProxy j s o)
  | some j, .reader => some (readerListenerProxy j s o)
  | none, _ => none

/-- The promise of a listener settles. The consumer's handlers log a rejection and signal either
way; the reader's handler is given to `then` alone, and a rejection does not run it. -/
def settle (k : Kind) (j : Job n) (fulfilled : Bool) (s : State n) : Option (State n) :=
  if j ∈ s.pending ∧ s.running = none then
    let s' := { s with pending := s.pending.erase j }
    match fulfilled, k with
    | true, _ => some (signal j (finish j s'))
    | false, .consumer => some (s.logMessageListenerError (signal j (finish j s')))
    | false, .reader => some (finish j s')
  else none

/-- A `then` of its own calls a handler that it keeps, also while a listener runs. The reader gives it
none to log. -/
def callBack (k : Kind) (h : Handler) (j : Job n) (s : State n) : Option (State n) :=
  if (h, j) ∈ s.kept then
    match h, k with
    | .signals, _ => some (signal j (finish j s))
    | .logs, .consumer => some (s.logMessageListenerError s)
    | .logs, .reader => none
  else none

/-! ## The record, the function and the wrapper -/

/-- The native creation succeeds: the listener leaves the configuration. -/
def createOk (s : State n) : Option (State n) :=
  if s.holder = .config then some { s with holder := .resolver } else none

/-- The native creation fails, and the destructor of the configuration releases the function. -/
def createFail (s : State n) : Option (State n) :=
  if s.holder = .config then some { s with holder := .released, tsfn := s.tsfn.drop } else none

/-- The resolver makes the wrapper `own`, and `SetListenerCallback` publishes it and refers to it. -/
def publish (own : WrapperPtr) (s : State n) : Option (State n) :=
  if s.holder = .resolver ∧ s.running = none then
    if s.recordDeleted then some (s.fail .recordDeleted)
    else
      some { s with
        pointer := some own, holder := .wrapper, wrapper := .alive, strong := true, jsRef := true }
  else none

/-- `Cleanup` in a JS call of `close`: release the function, then `Unref`. -/
def close (s : State n) : Option (State n) :=
  if s.holder = .wrapper ∧ s.jsRef then
    some { s with holder := .released, tsfn := s.tsfn.drop, strong := false }
  else none

/-- JS lets go of the wrapper. While a listener runs, its arguments hold it. -/
def forget (s : State n) : Option (State n) :=
  if s.running = none then some { s with jsRef := false } else none

/-- The garbage collector destroys the wrapper. -/
def collect (s : State n) : Option (State n) :=
  if s.wrapper = .alive ∧ s.strong = false ∧ s.jsRef = false then some { s with wrapper := .destroyed }
  else none

/-- The JS thread closes a function with no holders and nothing queued. -/
def closeFunction (s : State n) : Option (State n) :=
  if s.tsfn.count = 0 ∧ s.queue = [] ∧ s.tsfn.closing = false then some { s with tsfn := s.tsfn.close }
  else none

/-- `FinalizeListenerCallback` deletes the record. -/
def finalize (s : State n) : Option (State n) :=
  if s.tsfn.closing ∧ s.recordDeleted = false ∧ s.running = none then
    some { s with recordDeleted := true }
  else none

def step (k : Kind) (own : WrapperPtr) (s : State n) (a : Action n) : Option (State n) :=
  if s.fault ≠ none then none
  else match a with
    | .deliver t m => s.deliver t m
    | .readPointer t => s.readPointer k t
    | .acquire t => s.acquire t
    | .blockingCall t => s.blockingCall t
    | .release t => s.release t
    | .wake t => s.wake t
    | .dispatch => s.dispatch k
    | .listenerReturns o => s.listenerReturns k o
    | .settle j fulfilled => s.settle k j fulfilled
    | .callBack h j => s.callBack k h j
    | .createOk => s.createOk
    | .createFail => s.createFail
    | .publish => s.publish own
    | .close => s.close
    | .forget => s.forget
    | .collect => s.collect
    | .closeFunction => s.closeFunction
    | .finalize => s.finalize

end State

/-- The listener of a consumer or reader whose wrapper is `own`, with `n` native threads. -/
def machine (k : Kind) (own : WrapperPtr) (n : Nat) : Machine (State n) (Action n) where
  start s := s = .init
  step := State.step k own

theorem machine_start {k : Kind} {own : WrapperPtr} {n : Nat} : (machine k own n).start .init := rfl

/-- The listener returns a promise that does not go the way of the built-in `then`. A reader takes a
promise with no `then` to call for any other value. -/
def Action.strays {n : Nat} (k : Kind) : Action n → Bool
  | .listenerReturns (.promise (.own _)) => true
  | .listenerReturns (.promise .notFunction) => k = .consumer
  | _ => false

/-! ## The branches of a step -/

/-- What each action can do, branch by branch. -/
inductive Step {n : Nat} (k : Kind) (own : WrapperPtr) (s : State n) : Action n → State n → Prop
  | deliver {t : Fin n} {m : Msg} (hpc : (s.threads t).pc = .idle) :
    Step k own s (.deliver t m) (s.setThread t
      ({ s.threads t with pc := .entered m, seq := (s.threads t).seq + 1 }.log (.delivered m)))
  | readDeleted {t : Fin n} {m : Msg} (hpc : (s.threads t).pc = .entered m) (hd : s.recordDeleted = true) :
    Step k own s (.readPointer t) (s.fail .recordDeleted)
  | readPointer {t : Fin n} {m : Msg} (hpc : (s.threads t).pc = .entered m) (hd : s.recordDeleted = false)
      (hp : k = .consumer → s.pointer ≠ none) :
    Step k own s (.readPointer t) (s.setThread t { s.threads t with pc := .read m s.pointer })
  | acquireDeleted {t : Fin n} {m : Msg} {p : Option WrapperPtr} (hpc : (s.threads t).pc = .read m p)
      (hd : s.recordDeleted = true) : Step k own s (.acquire t) (s.fail .recordDeleted)
  | refused {t : Fin n} {m : Msg} {p : Option WrapperPtr} (hpc : (s.threads t).pc = .read m p)
      (hc : s.tsfn.closing = true) :
    Step k own s (.acquire t) (s.setThread t ({ s.threads t with pc := .idle }.log (.refused m)))
  | acquired {t : Fin n} {m : Msg} {p : Option WrapperPtr} (hpc : (s.threads t).pc = .read m p)
      (hc : s.tsfn.closing = false) :
    Step k own s (.acquire t) { s.setThread t { s.threads t with pc := .acquired m p, ready := false } with
      tsfn := ⟨s.tsfn.count + 1, false⟩ }
  | callDeleted {t : Fin n} {m : Msg} {p : Option WrapperPtr} (hpc : (s.threads t).pc = .acquired m p)
      (hd : s.recordDeleted = true) : Step k own s (.blockingCall t) (s.fail .recordDeleted)
  | callClosing {t : Fin n} {m : Msg} {p : Option WrapperPtr} (hpc : (s.threads t).pc = .acquired m p)
      (hc : s.tsfn.closing = true) :
    Step k own s (.blockingCall t) { s.setThread t { s.threads t with pc := .called m } with
      tsfn := s.tsfn.drop }
  | queued {t : Fin n} {m : Msg} {p : Option WrapperPtr} (hpc : (s.threads t).pc = .acquired m p) :
    Step k own s (.blockingCall t) { s.setThread t ({ s.threads t with pc := .called m }.log (.queued m)) with
      queue := s.queue ++ [⟨t, (s.threads t).seq, m, p⟩] }
  | releaseDeleted {t : Fin n} {m : Msg} (hpc : (s.threads t).pc = .called m) (hd : s.recordDeleted = true) :
    Step k own s (.release t) (s.fail .recordDeleted)
  | release {t : Fin n} {m : Msg} (hpc : (s.threads t).pc = .called m) :
    Step k own s (.release t) { s.setThread t { s.threads t with pc := .waiting m } with tsfn := s.tsfn.drop }
  | wake {t : Fin n} {m : Msg} (hpc : (s.threads t).pc = .waiting m) (hr : (s.threads t).ready = true) :
    Step k own s (.wake t) (s.setThread t ({ s.threads t with pc := .idle }.log (.returned m)))
  | call {j : Job n} {rest : List (Job n)} {p : WrapperPtr} (hr : s.running = none)
      (hq : s.queue = j :: rest) (hw : j.wrapper = some p) (halive : s.wrapper = .alive) :
    Step k own s .dispatch { s.setThread j.thread ((s.threads j.thread).log (.called j.msg p)) with
      queue := rest, running := some j, jsRef := true }
  | callDestroyed {j : Job n} {rest : List (Job n)} {p : WrapperPtr} (hq : s.queue = j :: rest)
      (hw : j.wrapper = some p) (hdead : s.wrapper ≠ .alive) : Step k own s .dispatch (s.fail .wrapperDestroyed)
  | callNull {j : Job n} {rest : List (Job n)} (hq : s.queue = j :: rest) (hw : j.wrapper = none)
      (hk : k = .consumer) : Step k own s .dispatch (s.fail .wrapperNull)
  | skip {j : Job n} {rest : List (Job n)} (hr : s.running = none) (hq : s.queue = j :: rest)
      (hw : j.wrapper = none) (hk : k = .reader) :
    Step k own s .dispatch (State.signal j
      { s.setThread j.thread ((s.threads j.thread).log (.skipped j.msg)) with queue := rest })
  | ends {j : Job n} {o : Outcome} (hr : s.running = some j)
      (ho : o = .value ∨ o = .throws ∧ k = .consumer ∨ o = .promise .notFunction ∧ k = .reader) :
    Step k own s (.listenerReturns o) (State.signal j (State.finish j { s with running := none }))
  | throwsDestroyed {j : Job n} (hr : s.running = some j) (hk : k = .consumer) (hw : s.wrapper = .destroyed) :
    Step k own s (.listenerReturns .throws) (s.fail .wrapperDestroyed)
  | throwsReader {j : Job n} (hr : s.running = some j) (hk : k = .reader) :
    Step k own s (.listenerReturns .throws) (State.finish j { s with running := none })
  | promise {j : Job n} (hr : s.running = some j) :
    Step k own s (.listenerReturns (.promise .builtIn)) { s with running := none, pending := s.pending ++ [j] }
  | escapes {j : Job n} (hr : s.running = some j) (hk : k = .consumer) :
    Step k own s (.listenerReturns (.promise .notFunction)) { s with running := none }
  | keeps {j : Job n} {hs : List Handler} (hr : s.running = some j) :
    Step k own s (.listenerReturns (.promise (.own hs))) (State.keep j hs s)
  | settles {j : Job n} {b : Bool} (hj : j ∈ s.pending) (hr : s.running = none)
      (hb : b = true ∨ k = .consumer) :
    Step k own s (.settle j b) (State.signal j (State.finish j { s with pending := s.pending.erase j }))
  | rejectsDestroyed {j : Job n} (hj : j ∈ s.pending) (hk : k = .consumer) (hw : s.wrapper = .destroyed) :
    Step k own s (.settle j false) (s.fail .wrapperDestroyed)
  | rejectsReader {j : Job n} (hj : j ∈ s.pending) (hr : s.running = none) (hk : k = .reader) :
    Step k own s (.settle j false) (State.finish j { s with pending := s.pending.erase j })
  | signals {j : Job n} (hj : (.signals, j) ∈ s.kept) :
    Step k own s (.callBack .signals j) (State.signal j (State.finish j s))
  | logs {j : Job n} (hj : (.logs, j) ∈ s.kept) (hk : k = .consumer) : Step k own s (.callBack .logs j) s
  | logsDestroyed {j : Job n} (hj : (.logs, j) ∈ s.kept) (hk : k = .consumer) (hw : s.wrapper = .destroyed) :
    Step k own s (.callBack .logs j) (s.fail .wrapperDestroyed)
  | createOk (hh : s.holder = .config) : Step k own s .createOk { s with holder := .resolver }
  | createFail (hh : s.holder = .config) :
    Step k own s .createFail { s with holder := .released, tsfn := s.tsfn.drop }
  | publishDeleted (hh : s.holder = .resolver) (hd : s.recordDeleted = true) :
    Step k own s .publish (s.fail .recordDeleted)
  | publish (hh : s.holder = .resolver) (hr : s.running = none) :
    Step k own s .publish { s with
      pointer := some own, holder := .wrapper, wrapper := .alive, strong := true, jsRef := true }
  | close (hh : s.holder = .wrapper) :
    Step k own s .close { s with holder := .released, tsfn := s.tsfn.drop, strong := false }
  | forget (hr : s.running = none) : Step k own s .forget { s with jsRef := false }
  | collect (hw : s.wrapper = .alive) (hs : s.strong = false) (hj : s.jsRef = false) :
    Step k own s .collect { s with wrapper := .destroyed }
  | closeFunction (hc : s.tsfn.count = 0) (hq : s.queue = []) :
    Step k own s .closeFunction { s with tsfn := s.tsfn.close }
  | finalize (hc : s.tsfn.closing = true) (hr : s.running = none) :
    Step k own s .finalize { s with recordDeleted := true }

namespace Step

variable {n : Nat} {k : Kind} {own : WrapperPtr} {s s' : State n} {t : Fin n}

theorem of_readPointer (h : s.readPointer k t = some s') : Step k own s (.readPointer t) s' := by
  unfold State.readPointer at h
  dsimp only at h
  split at h
  · rename_i m hpc
    split at h
    · rename_i hd
      cases h
      exact .readDeleted hpc hd
    · rename_i hd
      have hd : s.recordDeleted = false := by simpa using hd
      split at h
      · cases h
      · rename_i hne
        cases h
        refine .readPointer hpc hd ?_
        rintro rfl hp
        exact hne rfl hp
  · cases h

theorem of_acquire (h : s.acquire t = some s') : Step k own s (.acquire t) s' := by
  unfold State.acquire at h
  dsimp only at h
  split at h
  · rename_i m p hpc
    split at h
    · rename_i hd
      cases h
      exact .acquireDeleted hpc hd
    · split at h
      · rename_i hn
        cases h
        exact .refused hpc (Tsfn.acquire_none.1 hn)
      · rename_i f hf
        cases h
        obtain ⟨hc, rfl⟩ := Tsfn.acquire_eq.1 hf
        exact .acquired hpc hc
  · cases h

theorem of_blockingCall (h : s.blockingCall t = some s') : Step k own s (.blockingCall t) s' := by
  unfold State.blockingCall at h
  dsimp only at h
  split at h
  · rename_i m p hpc
    split at h
    · rename_i hd
      cases h
      exact .callDeleted hpc hd
    · split at h
      · rename_i hc
        cases h
        exact .callClosing hpc hc
      · split at h
        · cases h
          exact .queued hpc
        · cases h
  · cases h

theorem of_dispatch (h : s.dispatch k = some s') : Step k own s .dispatch s' := by
  unfold State.dispatch at h
  split at h
  · rename_i j rest hr hq
    split at h
    · rename_i p hw
      split at h
      · rename_i halive
        cases h
        exact .call hr hq hw halive
      · rename_i hdead
        cases h
        exact .callDestroyed hq hw hdead
    · rename_i hw
      cases h
      exact .skip hr hq hw rfl
    · rename_i hw
      cases h
      exact .callNull hq hw rfl
  · cases h

theorem of_listenerReturns {o : Outcome} (h : s.listenerReturns k o = some s') :
    Step k own s (.listenerReturns o) s' := by
  unfold State.listenerReturns at h
  split at h
  · rename_i j hr
    cases h
    cases o with
    | value => exact .ends hr (.inl rfl)
    | throws =>
      unfold State.messageListenerProxy State.logMessageListenerError
      dsimp only
      split
      · rename_i hw
        exact .throwsDestroyed hr rfl hw
      · exact .ends hr (.inr (.inl ⟨rfl, rfl⟩))
    | promise t =>
      cases t with
      | builtIn => exact .promise hr
      | notFunction => exact .escapes hr rfl
      | own hs => exact .keeps hr
  · rename_i j hr
    cases h
    cases o with
    | value => exact .ends hr (.inl rfl)
    | throws => exact .throwsReader hr rfl
    | promise t =>
      cases t with
      | builtIn => exact .promise hr
      | notFunction => exact .ends hr (.inr (.inr ⟨rfl, rfl⟩))
      | own hs => exact .keeps hr
  · cases h

theorem of_settle {j : Job n} {b : Bool} (h : s.settle k j b = some s') :
    Step k own s (.settle j b) s' := by
  unfold State.settle at h
  split at h
  · rename_i hj
    dsimp only at h
    split at h
    · cases h
      exact .settles hj.1 hj.2 (.inl rfl)
    · cases h
      unfold State.logMessageListenerError
      split
      · rename_i hw
        exact .rejectsDestroyed hj.1 rfl hw
      · exact .settles hj.1 hj.2 (.inr rfl)
    · cases h
      exact .rejectsReader hj.1 hj.2 rfl
  · cases h

theorem of_callBack {h : Handler} {j : Job n} (hs : s.callBack k h j = some s') :
    Step k own s (.callBack h j) s' := by
  unfold State.callBack at hs
  split at hs
  · rename_i hj
    split at hs
    · cases hs
      exact .signals hj
    · cases hs
      unfold State.logMessageListenerError
      split
      · rename_i hw
        exact .logsDestroyed hj rfl hw
      · exact .logs hj rfl
    · cases hs
  · cases hs

/-- A step takes one of the branches, from a state without a fault. -/
theorem of_step {a : Action n} (h : s.step k own a = some s') : s.fault = none ∧ Step k own s a s' := by
  unfold State.step at h
  split at h
  · cases h
  · rename_i hf
    refine ⟨not_not.1 hf, ?_⟩
    cases a with
    | deliver t m =>
      dsimp only [State.deliver] at h
      split at h <;> cases h
      exact .deliver ‹_›
    | readPointer t => exact of_readPointer h
    | acquire t => exact of_acquire h
    | blockingCall t => exact of_blockingCall h
    | release t =>
      dsimp only [State.release] at h
      split at h
      · rename_i m hpc
        split at h <;> cases h
        · exact .releaseDeleted hpc ‹_›
        · exact .release hpc
      · cases h
    | wake t =>
      dsimp only [State.wake] at h
      split at h
      · rename_i m hpc
        split at h <;> cases h
        exact .wake hpc ‹_›
      · cases h
    | dispatch => exact of_dispatch h
    | listenerReturns o => exact of_listenerReturns h
    | settle j b => exact of_settle h
    | callBack h' j => exact of_callBack h
    | createOk =>
      dsimp only [State.createOk] at h
      split at h <;> cases h
      exact .createOk ‹_›
    | createFail =>
      dsimp only [State.createFail] at h
      split at h <;> cases h
      exact .createFail ‹_›
    | publish =>
      dsimp only [State.publish] at h
      split at h
      · rename_i hh
        split at h <;> cases h
        · exact .publishDeleted hh.1 ‹_›
        · exact .publish hh.1 hh.2
      · cases h
    | close =>
      dsimp only [State.close] at h
      split at h <;> cases h
      rename_i hh
      exact .close hh.1
    | forget =>
      dsimp only [State.forget] at h
      split at h <;> cases h
      exact .forget ‹_›
    | collect =>
      dsimp only [State.collect] at h
      split at h <;> cases h
      rename_i hw
      exact .collect hw.1 hw.2.1 hw.2.2
    | closeFunction =>
      dsimp only [State.closeFunction] at h
      split at h <;> cases h
      rename_i hc
      exact .closeFunction hc.1 hc.2.1
    | finalize =>
      dsimp only [State.finalize] at h
      split at h <;> cases h
      rename_i hc
      exact .finalize hc.1 hc.2.2

end Step

end PulsarNode.Listener
