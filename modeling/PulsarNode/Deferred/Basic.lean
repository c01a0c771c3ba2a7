/-
`ThreadSafeDeferred`: a promise that a native thread settles. The thread that calls `Resolve` or
`Reject` records the fate and releases the thread-safe function; when no thread holds the function
any more, its finalizer reads the fate on the JS thread, settles the JS promise and drops the
reference that the deferred holds to itself.
-/
import PulsarNode.Native.Calls

namespace PulsarNode

/-- The values that the closures given to `Resolve` make on the JS thread, with what they capture. -/
inductive CreateValueCb
  | null
  | messageId (cMessageId : Option Handle)
  | message (rawMessage : Option Handle)
  | messages (rawMessages : Option Handle)
  | producer (cProducer : Option Handle)
  | consumer (cConsumer : Option Handle)
  | reader (cReader : Option Handle)
  | topicList (topicList : Handle)
  | schemaInfo (schemaTypeName : String) (schemaInfo : NativeSchemaInfo)
  deriving DecidableEq, Repr

/-- A JS promise: pending, fulfilled (`none` is `undefined`), or rejected with an `Error`. -/
inductive JsPromise
  | pending
  | fulfilled (v : Option CreateValueCb)
  | rejected (message : String)
  deriving DecidableEq, Repr

inductive EFate
  | unresolved | resolved | rejected
  deriving DecidableEq, Repr

/-- The members of `ThreadSafeDeferred`; `tsf` is the number of threads that hold the thread-safe
function, and `self` tells whether the deferred still owns itself. -/
structure ThreadSafeDeferred where
  fate : EFate
  createValueCb : Option CreateValueCb
  errorMsg : String
  tsf : Nat
  self : Bool
  deriving DecidableEq, Repr

namespace ThreadSafeDeferred

/-- `ThreadSafeDeferred::New`: the initial thread count is one. -/
def new : ThreadSafeDeferred := ⟨.unresolved, none, "", 1, true⟩

/-- `Resolve()` (`cb = none`) and `Resolve(createValueCb)`: the literal thrown, or the deferred after. -/
def resolve (cb : Option CreateValueCb) (d : ThreadSafeDeferred) : Except String ThreadSafeDeferred :=
  if d.fate ≠ .unresolved then
    .error "Cannot resolve a promise which is not unresolved anymore."
  else
    .ok { d with createValueCb := cb, fate := .resolved, tsf := d.tsf - 1 }

/-- `Reject(errorMsg)`. -/
def reject (errorMsg : String) (d : ThreadSafeDeferred) : Except String ThreadSafeDeferred :=
  if d.fate ≠ .unresolved then
    .error "Cannot reject a promise which is not unresolved anymore."
  else
    .ok { d with errorMsg := errorMsg, fate := .rejected, tsf := d.tsf - 1 }

def isDone (d : ThreadSafeDeferred) : Bool := d.fate == .resolved || d.fate == .rejected

/-- The finalizer of the thread-safe function: what it settles the JS promise with. -/
def settlement (d : ThreadSafeDeferred) : JsPromise :=
  if d.fate = .resolved then .fulfilled d.createValueCb else .rejected d.errorMsg

/-- The finalizer's last statement. -/
def dropSelf (d : ThreadSafeDeferred) : ThreadSafeDeferred := { d with self := false }

@[simp] theorem fate_dropSelf (d : ThreadSafeDeferred) : d.dropSelf.fate = d.fate := rfl

/-- The members agree with the fate: an unsettled deferred has its one initial holder, a settled one
none, and only a resolved one has a resolver. -/
structure Balanced (d : ThreadSafeDeferred) : Prop where
  holders : d.tsf = if d.isDone then 0 else 1
  resolver : d.createValueCb.isSome = true → d.fate = .resolved

theorem balanced_new : new.Balanced := ⟨rfl, nofun⟩

theorem Balanced.dropSelf {d : ThreadSafeDeferred} (h : d.Balanced) : d.dropSelf.Balanced :=
  ⟨h.holders, h.resolver⟩

theorem isDone_of_resolved {d : ThreadSafeDeferred} (h : d.fate = .resolved) : d.isDone = true := by
  simp [isDone, h]

theorem fate_of_not_done {d : ThreadSafeDeferred} (h : d.isDone = false) : d.fate = .unresolved := by
  cases hf : d.fate <;> simp [isDone, hf] at h ⊢

theorem resolve_unsettled (cb : Option CreateValueCb) {d : ThreadSafeDeferred} (h : d.isDone = false) :
    d.resolve cb = .ok { d with createValueCb := cb, fate := .resolved, tsf := d.tsf - 1 } := by
  simp [resolve, fate_of_not_done h]

theorem reject_unsettled (msg : String) {d : ThreadSafeDeferred} (h : d.isDone = false) :
    d.reject msg = .ok { d with errorMsg := msg, fate := .rejected, tsf := d.tsf - 1 } := by
  simp [reject, fate_of_not_done h]

end ThreadSafeDeferred

end PulsarNode
