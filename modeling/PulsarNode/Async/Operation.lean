/-
One asynchronous operation as its parties see it: the JS call that issues it, the native callback,
the finalizer of the deferred's thread-safe function and, for a create operation, the garbage
collection of the wrapper. The steps of the callback (entry, the call of `Resolve` or `Reject`, the
return) stand apart because the other parties may act between them. A callback that the native
client runs inside the issuing call is the run in which its three steps come before `finish`.
-/
import PulsarNode.Async.Callbacks
import PulsarNode.Machine.Run

namespace PulsarNode

/-! ## States -/

/-- The JS call that issues an operation: `running` once the native call is made or the deferred
rejected by validation. -/
inductive CallState
  | idle | preparing | running | returned | threw
  deriving DecidableEq, Repr

/-- The native callback: `entered` when its locals are copied and the context deleted, `settled`
when `Resolve` or `Reject` has returned and its locals still live. -/
inductive CallbackState
  | notEntered
  | entered (reply : Reply)
  | settled (reply : Reply)
  | done (reply : Reply)
  deriving DecidableEq, Repr

/-- The context on the heap that carries the deferred to the callback. -/
inductive Context
  | absent | live | deleted
  deriving DecidableEq, Repr

inductive OpFault
  | thrown (literal : String)
  | contextUsedAfterDelete
  deriving DecidableEq, Repr

namespace CallbackState

/-- What the callback was called with, once it has settled the deferred. -/
def outcome : CallbackState → Option Reply
  | notEntered | entered _ => none
  | settled r | done r => some r

/-- The callback's locals are live. -/
def onStack : CallbackState → Bool
  | notEntered | done _ => false
  | entered _ | settled _ => true

end CallbackState

/-- An operation: `started` tells whether the native call was made, `settlements` counts how often
the JS promise was settled, `deletions` how often the context was deleted, and `wrapper` tells
whether a live wrapper owns the configuration. -/
structure OpState where
  call : CallState
  started : Bool
  deferred : ThreadSafeDeferred
  promise : JsPromise
  settlements : Nat
  context : Context
  deletions : Nat
  callback : CallbackState
  finalized : Bool
  wrapper : Bool
  fault : Option OpFault
  deriving DecidableEq, Repr

namespace Op

def isCreate : Op → Bool
  | createProducer | subscribe | createReader => true
  | _ => false

/-- `getSchemaInfo` hands the deferred to its callback by a capture, all others by a context. -/
def hasContext (op : Op) : Bool := op != getSchemaInfo

end Op

/-! ## Steps -/

inductive OpAction
  /-- The call creates its deferred. -/
  | issue
  /-- Validation rejects the configuration of a create operation. -/
  | reject (msg : String)
  /-- Reading the configuration of a create operation raises. -/
  | raise
  /-- The call makes its context and the native call. -/
  | start
  | finish
  | enter (reply : Reply)
  | settle
  | leave
  | finalize
  | collect
  deriving DecidableEq, Repr

inductive ThreadKind
  | js | native
  deriving DecidableEq, Repr

/-- Where a step runs. The steps of a callback count as native: when the callback runs inside the
issuing call, that call is still running. -/
def OpAction.thread : OpAction → ThreadKind
  | enter _ | settle | leave => .native
  | _ => .js

namespace OpState

def init : OpState where
  call := .idle
  started := false
  deferred := .new
  promise := .pending
  settlements := 0
  context := .absent
  deletions := 0
  callback := .notEntered
  finalized := false
  wrapper := false
  fault := none

/-- The state after a call of `Resolve` or `Reject`: a literal thrown is a fault. -/
def afterSettle (s : OpState) (r : Except String ThreadSafeDeferred) (next : OpState → OpState) :
    OpState :=
  match r with
  | .ok d => next { s with deferred := d }
  | .error literal => { s with fault := some (.thrown literal) }

@[simp] theorem afterSettle_ok (s : OpState) (d : ThreadSafeDeferred) (next : OpState → OpState) :
    s.afterSettle (.ok d) next = next { s with deferred := d } := rfl

/-- `ThreadSafeDeferred::New(env)`. -/
def issue (s : OpState) : Option OpState :=
  if s.call = .idle then some { s with call := .preparing, deferred := .new } else none

def reject (op : Op) (msg : String) (s : OpState) : Option OpState :=
  if s.call = .preparing ∧ op.isCreate then
    some (s.afterSettle (s.deferred.reject msg) ({ · with call := .running }))
  else none

def raise (op : Op) (s : OpState) : Option OpState :=
  if s.call = .preparing ∧ op.isCreate then some { s with call := .threw } else none

def start (op : Op) (s : OpState) : Option OpState :=
  if s.call = .preparing then
    some { s with call := .running, started := true, context := if op.hasContext then .live else .absent }
  else none

def finish (s : OpState) : Option OpState :=
  if s.call = .running then some { s with call := .returned } else none

/-- The callback's first statements: copy the deferred out of the context and delete the context.
The native client calls each callback once. -/
def enter (reply : Reply) (s : OpState) : Option OpState :=
  if s.started ∧ s.callback = .notEntered then
    match s.context with
    | .live =>
      some { s with callback := .entered reply, context := .deleted, deletions := s.deletions + 1 }
    -- `getSchemaInfo`, whose callback captures the deferred
    | .absent => some { s with callback := .entered reply }
    | .deleted => some { s with fault := some .contextUsedAfterDelete }
  else none

def settle (op : Op) (s : OpState) : Option OpState :=
  match s.callback with
  | .entered reply =>
    some (s.afterSettle (op.callback reply s.deferred) ({ · with callback := .settled reply }))
  | _ => none

def leave (s : OpState) : Option OpState :=
  match s.callback with
  | .settled reply => some { s with callback := .done reply }
  | _ => none

/-- The finalizer of the thread-safe function, which Node-API runs once, on the JS thread, when no
thread holds the function: settle the promise, then `self.reset()`. The resolver of `createProducer`
stores the configuration in the wrapper it makes. -/
def finalize (op : Op) (s : OpState) : Option OpState :=
  if (s.call = .returned ∨ s.call = .threw) ∧ s.deferred.tsf = 0 ∧ s.finalized = false then
    some { s with
      promise := s.deferred.settlement
      settlements := s.settlements + 1
      deferred := s.deferred.dropSelf
      finalized := true
      wrapper := op == .createProducer && s.deferred.fate == .resolved }
  else none

/-- The garbage collector destroys the wrapper. -/
def collect (s : OpState) : Option OpState :=
  if s.wrapper then some { s with wrapper := false } else none

/-- The steps of an operation; a fault ends the process. -/
def step (op : Op) (s : OpState) (a : OpAction) : Option OpState :=
  if s.fault ≠ none then none
  else match a with
    | .issue => s.issue
    | .reject msg => s.reject op msg
    | .raise => s.raise op
    | .start => s.start op
    | .finish => s.finish
    | .enter reply => s.enter reply
    | .settle => s.settle op
    | .leave => s.leave
    | .finalize => s.finalize op
    | .collect => s.collect

end OpState

/-- The machine of one operation. -/
def Op.machine (op : Op) : Machine OpState OpAction where
  start s := s = .init
  step := OpState.step op

/-! ## Many operations on one JS thread -/

/-- Any number of operations, and the one whose issuing call runs on the JS thread. -/
structure System (ι : Type) where
  js : Option ι
  ops : ι → OpState

namespace System

variable {ι : Type} [DecidableEq ι]

/-- Who runs on the JS thread after a step of operation `i`, where the JS thread admits the step. -/
def jsAfter (i : ι) (js : Option ι) : OpAction → Option (Option ι)
  | .issue => if js = none then some (some i) else none
  | .reject _ | .start => if js = some i then some (some i) else none
  | .raise | .finish => if js = some i then some none else none
  | .finalize | .collect => if js = none then some none else none
  | .enter _ | .settle | .leave => some js

/-- A step of one of the operations `kind`. -/
def step (kind : ι → Op) (s : System ι) (a : ι × OpAction) : Option (System ι) :=
  match jsAfter a.1 s.js a.2, (s.ops a.1).step (kind a.1) a.2 with
  | some js, some o => some ⟨js, Function.update s.ops a.1 o⟩
  | _, _ => none

/-- The machine of the operations `kind`, none of them issued at the start. -/
def machine (kind : ι → Op) : Machine (System ι) (ι × OpAction) where
  start s := s = ⟨none, fun _ => .init⟩
  step := step kind

/-- Whatever the others do, each operation takes the steps of its own machine. -/
theorem op_reachable (kind : ι → Op) {s : System ι} (h : (machine kind).Reachable s) (i : ι) :
    (kind i).machine.Reachable (s.ops i) := by
  refine h.image (fun s => s.ops i) (fun s hs => ?_) fun s a s' _ hs => ?_
  · rw [show s = _ from hs]
    rfl
  · unfold machine step at hs
    dsimp only at hs
    split at hs
    · rename_i js o hjs ho
      cases hs
      by_cases hi : i = a.1
      · subst hi
        have hself : Function.update s.ops a.1 o a.1 = o := Function.update_self ..
        exact .inr ⟨a.2, ho.trans (congrArg some hself.symm)⟩
      · exact .inl (Function.update_of_ne hi _ _)
    · cases hs

end System

end PulsarNode
