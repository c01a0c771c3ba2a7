/-
What the addon's code asks of the world: property reads, conversions and unwraps of the JS side,
pending JS exceptions, and calls of the native client. The JS side is arbitrary: each read may
return any value, raise, and depend on everything asked before. Node-API adds one rule of its own:
while a JS exception is pending, the next read raises it.
-/
import PulsarNode.Prog.Basic
import PulsarNode.Native.Calls

namespace PulsarNode

/-! ## Questions -/

/-- What a JS throw or a Node-API failure carries: an error made here, or a value thrown by JS code
with the text that `what()` finds in it. -/
inductive JsError
  | error (message : String)
  | typeError (message : String)
  | thrown (v : JsValue) (message : String)
  deriving DecidableEq

/-- What ends C++ code early: a `Napi::Error`, another `std::exception`, or an abort of Node-API. -/
inductive Exn
  | napi (e : JsError)
  | std (what : String)
  | abort
  deriving DecidableEq

def Exn.isNapi : Exn → Prop
  | napi _ => True
  | _ => False

def Exn.isStd : Exn → Prop
  | std _ => True
  | _ => False

/-- The Node-API operations on JS values that can raise. -/
inductive JsQuery
  | has (o : JsValue) (key : String)
  | get (o : JsValue) (key : String)
  | getAt (arr : JsValue) (i : Nat)
  | length (arr : JsValue)
  | getPropertyNames (o : JsValue)
  | toString (v : JsValue)
  | toNumber (v : JsValue)
  | toBoolean (v : JsValue)
  | toObject (v : JsValue)
  | bufferBytes (v : JsValue)
  | unwrapMessageId (v : JsValue)
  | unwrapCryptoKeyReader (v : JsValue)
  | unwrapAuthentication (v : JsValue)
  | newThreadSafeFunction (f : JsValue)
  | newReference (v : JsValue)

/-- An unwrapped object answers with the native handle it holds, `none` when it holds none. -/
def JsQuery.Resp : JsQuery → Type
  | has _ _ => Bool
  | get _ _ => JsValue
  | getAt _ _ => JsValue
  | length _ => UInt32
  | getPropertyNames _ => JsValue
  | toString _ => String
  | toNumber _ => JsNumber
  | toBoolean _ => Bool
  | toObject _ => JsValue
  | bufferBytes _ => List UInt8
  | unwrapMessageId _ => Option Handle
  | unwrapCryptoKeyReader _ => Handle
  | unwrapAuthentication _ => Option Handle
  | newThreadSafeFunction _ => Handle
  | newReference _ => Unit

inductive Query
  | js (q : JsQuery)
  | newListener (config : JsValue) (key : String)
  | throwAsJavaScriptException (e : JsError)
  | setter (c : Setter)
  | start (c : AsyncCall)
  | createClient (c : ClientCreation)

/-- A setter answers with its status. A started call answers with what its callback was called
with, if the callback ran before the call returned. -/
def Query.Resp : Query → Type
  | js q => q.Resp
  | newListener _ _ => Handle
  | throwAsJavaScriptException _ => Unit
  | setter _ => Int
  | start _ => Option Reply
  | createClient _ => Unit

/-- C++ code with an object `S` that calls Node-API and the native client. -/
abbrev Napi (S α : Type) := Prog Query Query.Resp S α

/-! ## The runtime -/

/-- The two sides: how JS answers, and what the native client does. A setter or a client creation
may throw a `std::exception`. -/
structure Sides (J N : Type) where
  js : (q : JsQuery) → J → Except JsError q.Resp × J
  setter : Setter → N → Except String Int × N
  start : AsyncCall → N → Option Reply × N
  createClient : ClientCreation → N → Except String Unit × N

/-- The state of both sides and the JS exception pending, if any. -/
structure World (J N : Type) where
  js : J
  pending : Option JsError
  native : N

variable {J N S α : Type}

/-- A Node-API operation with C++ exceptions: a refused operation is a C++ throw, and a pending JS
exception is cleared and thrown by the next operation. -/
def Sides.answerJs (sides : Sides J N) (q : JsQuery) (w : World J N) : Except Exn q.Resp × World J N :=
  match w.pending with
  | some e => (.error (.napi e), { w with pending := none })
  | none =>
    match sides.js q w.js with
    | (.ok r, j) => (.ok r, { w with js := j })
    | (.error e, j) => (.error (.napi e), { w with js := j })

/-- The answers of the two sides. `newListener` is the code between the `new` of a consumer's
listener record and the store of the thread-safe function in it: where its read or the making of
the function is refused, the destructor of `ConsumerConfig` releases the empty function while the
throw unwinds, and Node-API aborts on it. -/
def Sides.answer (sides : Sides J N) : Answerer Query Query.Resp Exn (World J N)
  | .js q, w => sides.answerJs q w
  | .newListener config key, w =>
    match sides.answerJs (.get config key) w with
    | (.error _, w') => (.error .abort, w')
    | (.ok f, w') =>
      match sides.answerJs (.newThreadSafeFunction f) w' with
      | (.error _, w'') => (.error .abort, w'')
      | (.ok r, w'') => (.ok r, w'')
  | .throwAsJavaScriptException e, w => (.ok (), { w with pending := some e })
  | .setter c, w =>
    match sides.setter c w.native with
    | (.ok status, n) => (.ok status, { w with native := n })
    | (.error what, n) => (.error (.std what), { w with native := n })
  | .start c, w =>
    match sides.start c w.native with
    | (reply, n) => (.ok reply, { w with native := n })
  | .createClient c, w =>
    match sides.createClient c w.native with
    | (.ok (), n) => (.ok (), { w with native := n })
    | (.error what, n) => (.error (.std what), { w with native := n })

/-- The reads, conversions and unwraps, and the operations that make a function or a reference. -/
def Query.isJs : Query → Prop
  | js _ => True
  | _ => False

/-- The calls of the native client that may throw. -/
def Query.isNative : Query → Prop
  | setter _ | createClient _ => True
  | _ => False

/-- What refuses an operation on JS values is a `Napi::Error`. -/
theorem Sides.answerJs_error {sides : Sides J N} {q : JsQuery} {w w' : World J N} {e : Exn}
    (h : sides.answerJs q w = (.error e, w')) : ∃ je, e = .napi je := by
  unfold answerJs at h
  split at h
  · cases h
    exact ⟨_, rfl⟩
  · split at h
    · cases h
    · cases h
      exact ⟨_, rfl⟩

theorem Sides.isJs_iff (sides : Sides J N) (q : Query) (w : World J N) (e : Exn) (w' : World J N)
    (h : sides.answer q w = (.error e, w')) : q.isJs ↔ e.isNapi := by
  cases q with
  | js q =>
    obtain ⟨je, rfl⟩ := answerJs_error h
    exact Iff.rfl
  | _ =>
    unfold answer at h
    dsimp only at h
    (repeat' split at h) <;> cases h <;> exact Iff.rfl

theorem Sides.isNative_iff (sides : Sides J N) (q : Query) (w : World J N) (e : Exn) (w' : World J N)
    (h : sides.answer q w = (.error e, w')) : q.isNative ↔ e.isStd := by
  cases q with
  | js q =>
    obtain ⟨je, rfl⟩ := answerJs_error h
    exact Iff.rfl
  | _ =>
    unfold answer at h
    dsimp only at h
    (repeat' split at h) <;> cases h <;> exact Iff.rfl

/-- How a call from JS ends: with a value, with a JS throw, with `std::terminate` for an exception
that nobody catches, or with an abort of Node-API. -/
inductive CallOutcome
  | returned
  | threw (e : JsError)
  | terminated (what : String)
  | aborted
  deriving DecidableEq

/-- The call returns or throws. -/
def CallOutcome.comesBack : CallOutcome → Prop
  | returned | threw _ => True
  | terminated _ | aborted => False

/-- The callback wrapper of node-addon-api: a `Napi::Error` and a pending exception become a JS
throw; any other exception escapes. -/
def callbackWrapper (r : Except Exn α) (w : World J N) : CallOutcome :=
  match r, w.pending with
  | .error (.std what), _ => .terminated what
  | .error .abort, _ => .aborted
  | .error (.napi e), _ => .threw e
  | .ok _, some e => .threw e
  | .ok _, none => .returned

/-- Only a `std::exception` terminates. -/
theorem callbackWrapper_terminated (r : Except Exn α) (w : World J N) :
    (∃ what, callbackWrapper r w = .terminated what) ↔ ∃ e, r = .error e ∧ e.isStd := by
  unfold callbackWrapper
  split <;> simp [Exn.isStd]

/-- A call that is not ended by an exception of its own comes back; so does one ended by a
`Napi::Error`. -/
theorem callbackWrapper_comesBack (r : Except Exn α) (w : World J N) :
    (callbackWrapper r w).comesBack ↔ ∀ e, r = .error e → e.isNapi := by
  unfold callbackWrapper
  split <;> simp [CallOutcome.comesBack, Exn.isNapi]

/-! ## Operations -/

namespace Napi

/-- Ask one operation of the JS side. -/
def js (q : JsQuery) : Napi S q.Resp := Prog.ask (Query.js q) Prog.ret

def has (o : JsValue) (key : String) : Napi S Bool := js (.has o key)

def get (o : JsValue) (key : String) : Napi S JsValue := js (.get o key)

def getAt (arr : JsValue) (i : Nat) : Napi S JsValue := js (.getAt arr i)

def length (arr : JsValue) : Napi S UInt32 := js (.length arr)

def getPropertyNames (o : JsValue) : Napi S JsValue := js (.getPropertyNames o)

/-- `ToString().Utf8Value()`. -/
def toString (v : JsValue) : Napi S String := js (.toString v)

def toNumber (v : JsValue) : Napi S JsNumber := js (.toNumber v)

def toBoolean (v : JsValue) : Napi S Bool := js (.toBoolean v)

def toObject (v : JsValue) : Napi S JsValue := js (.toObject v)

def bufferBytes (v : JsValue) : Napi S (List UInt8) := js (.bufferBytes v)

def unwrapMessageId (v : JsValue) : Napi S (Option Handle) := js (.unwrapMessageId v)

def unwrapCryptoKeyReader (v : JsValue) : Napi S Handle := js (.unwrapCryptoKeyReader v)

def unwrapAuthentication (v : JsValue) : Napi S (Option Handle) :=
  js (.unwrapAuthentication v)

def newThreadSafeFunction (f : JsValue) : Napi S Handle := js (.newThreadSafeFunction f)

/-- `Napi::Persistent`. -/
def newReference (v : JsValue) : Napi S Unit := js (.newReference v)

/-- `ThreadSafeFunction::New` with the option read anew, after the record is made. -/
def newListener (config : JsValue) (key : String) : Napi S Handle :=
  Prog.ask (Query.newListener config key) Prog.ret

def throwAsJavaScriptException (e : JsError) : Napi S Unit :=
  Prog.ask (Query.throwAsJavaScriptException e) Prog.ret

def setter (c : Setter) : Napi S Int := Prog.ask (Query.setter c) Prog.ret

def start (c : AsyncCall) : Napi S (Option Reply) := Prog.ask (Query.start c) Prog.ret

def createClient (c : ClientCreation) : Napi S Unit := Prog.ask (Query.createClient c) Prog.ret

/-! ## The reading patterns of the configuration parsers -/

/-- `config.Has(key) && config.Get(key).Is…()`. -/
def hasAs (config : JsValue) (key : String) (is : JsValue → Bool) : Napi S Bool := do
  if ← has config key then
    return is (← get config key)
  return false

/-- The second read of an option that passed its check, as a string. -/
def getString (config : JsValue) (key : String) : Napi S String := do toString (← get config key)

def getNumber (config : JsValue) (key : String) : Napi S JsNumber := do toNumber (← get config key)

def getBoolean (config : JsValue) (key : String) : Napi S Bool := do toBoolean (← get config key)

def getObject (config : JsValue) (key : String) : Napi S JsValue := do toObject (← get config key)

def ifString (config : JsValue) (key : String) (use : String → Napi S Unit) : Napi S Unit := do
  if ← hasAs config key JsValue.isString then
    use (← getString config key)

def ifNumber (config : JsValue) (key : String) (use : JsNumber → Napi S Unit) : Napi S Unit := do
  if ← hasAs config key JsValue.isNumber then
    use (← getNumber config key)

def ifBoolean (config : JsValue) (key : String) (use : Bool → Napi S Unit) : Napi S Unit := do
  if ← hasAs config key JsValue.isBoolean then
    use (← getBoolean config key)

/-- An option whose object is read with `ToObject()`. -/
def ifObject (config : JsValue) (key : String) (use : JsValue → Napi S Unit) : Napi S Unit := do
  if ← hasAs config key JsValue.isObject then
    use (← getObject config key)

/-- A string option that names an entry of a table; another name is ignored. -/
def ifNamed (config : JsValue) (key : String) (table : List (String × α)) (use : α → Napi S Unit) :
    Napi S Unit :=
  ifString config key fun name =>
    match table.lookup name with
    | some v => use v
    | none => pure ()

/-- `for (uint32_t i = 0; i < arr.Length(); i++)`: a length is below `2^32`, which bounds the passes. -/
def forLength {β γ : Type} (arr : JsValue) (body : Nat → β → Napi S (Except γ β)) (acc : β) :
    Napi S (Except γ β) :=
  Prog.forLoop (fun i => do return i < (← length arr).toNat) body (2 ^ 32) 0 acc

/-- `int size = arr.Length(); for (int i = 0; i < size; i++)`. -/
def forSize {β : Type} (arr : JsValue) (body : Nat → β → Napi S β) (acc : β) : Napi S β := do
  let size := toInt (← length arr).toNat
  let r ← Prog.forLoop (γ := Empty) (fun i => pure (decide ((i : Int) < size)))
    (fun i acc => do return .ok (← body i acc)) size.toNat 0 acc
  match r with
  | .ok acc' => return acc'

/-- The loop over the enumerable properties of an object: each key and value as a string. The value
is read under `lookup key`: the key itself where it stays a JS string, `cStr key` where it is
passed on as a C string. -/
def forProperties {β : Type} (o : JsValue) (lookup : String → String)
    (body : String → String → β → Napi S β) (acc : β) : Napi S β := do
  let arr ← getPropertyNames o
  forSize arr (fun i acc => do
    let key ← toString (← getAt arr i)
    let value ← getString o (lookup key)
    body key value acc) acc

end Napi

end PulsarNode
