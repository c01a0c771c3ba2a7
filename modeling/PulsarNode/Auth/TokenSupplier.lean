/-
`TokenSupplier` and the job that it queues, `TokenSupplierProxy`: a native thread asks JS for a token,
waits until the job has left one, and copies it into a buffer of its own. The job completes the wait
itself, or leaves that to the handler that it gives to the `then` of a promise.
-/
import PulsarNode.Listener.Bridge
import PulsarNode.Napi.Query

namespace PulsarNode.TokenSupplier

/-! ## The job on the JS thread -/

/-- `TokenSupplierProxyData`: the token, and how often the promise of the native thread was set. -/
structure ProxyData where
  token : String
  completions : Nat
  deriving DecidableEq, Repr

namespace ProxyData

def new : ProxyData := ⟨"", 0⟩

/-- A value that is a string becomes the token. -/
def store (value : JsValue) (data : ProxyData) : ProxyData :=
  match value with
  | .string s => { data with token := s }
  | _ => data

/-- `data->callback()`. -/
def callback (data : ProxyData) : ProxyData := { data with completions := data.completions + 1 }

/-- The function given to `then`. -/
def handler (value : JsValue) (data : ProxyData) : ProxyData := (data.store value).callback

end ProxyData

inductive ProxyQuery
  | call
  | getThen (promise : JsValue)
  | callThen (f promise : JsValue)

def ProxyQuery.Resp : ProxyQuery → Type
  | call | getThen _ => JsValue
  | callThen _ _ => Unit

abbrev Proxy (α : Type) := Prog ProxyQuery ProxyQuery.Resp ProxyData α

def ask (q : ProxyQuery) : Proxy q.Resp := Prog.ask q Prog.ret

/-- `jsCallback.Call({})`. -/
def call : Proxy JsValue := ask .call

def getThen (promise : JsValue) : Proxy JsValue := ask (.getThen promise)

/-- `then.Call(promise, {callback})`. -/
def callThen (f promise : JsValue) : Proxy Unit := ask (.callThen f promise)

def tokenSupplierProxy : Proxy Unit := do
  let ret ← call
  if ret.isKind .promise then
    let thenValue ← getThen ret
    if thenValue.isFunction then
      callThen thenValue ret
      return ()
  Prog.change fun data => (data.store ret).callback

/-! ## What a supplier does -/

/-- What becomes of a promise. -/
inductive Settled
  | fulfils (value : JsValue)
  | rejects (reason : JsValue)

/-- What the `then` of a promise is: the built-in one, a value that is no function, a getter that throws, or a
function of its own, which calls the handler with some values, now or later, and may throw. -/
inductive Then
  | builtIn
  | notFunction (value : JsValue) (h : value.isFunction = false)
  | throws (e : JsError)
  | own (calls : List JsValue) (thrown : Option JsError)

/-- The supplier returns a value that is no promise, throws, or returns a promise. -/
inductive Supplier
  | returns (value : JsValue) (notPromise : value.isKind .promise = false)
  | throws (e : JsError)
  | promise (settled : Settled) (method : Then)

namespace Supplier

/-- The eventual value. -/
def value : Supplier → Option JsValue
  | returns value _ | promise (.fulfils value) _ => some value
  | throws _ | promise (.rejects _) _ => none

/-- The promise that is returned. -/
def returned : JsValue := .object .promise 0

/-- The answers of JS; the outside state is whether the `then` has the handler. -/
def answer (b : Supplier) : Answerer ProxyQuery ProxyQuery.Resp JsError Bool
  | .call, attached =>
    match b with
    | .returns value _ => (.ok value, attached)
    | .throws e => (.error e, attached)
    | .promise _ _ => (.ok returned, attached)
  | .getThen _, attached =>
    match b with
    | .promise _ (.notFunction value _) => (.ok value, attached)
    | .promise _ (.throws e) => (.error e, attached)
    | _ => (.ok (.object .function 0), attached)
  | .callThen _ _, _ =>
    match b with
    | .promise _ (.own _ (some e)) => (.error e, true)
    | _ => (.ok (), true)

/-- The calls of the handler, for a `then` that has it. The built-in one calls it when the promise fulfils. -/
def settle (b : Supplier) (attached : Bool) (data : ProxyData) : ProxyData :=
  match b, attached with
  | .promise (.fulfils value) .builtIn, true => data.handler value
  | .promise _ (.own calls _), true => calls.foldl (fun data value => data.handler value) data
  | _, _ => data

/-- What the job leaves in the data, and what JS does to it afterwards. An exception out of the job
leaves the data as it is. -/
def job (b : Supplier) (data : ProxyData) : ProxyData :=
  match tokenSupplierProxy.run b.answer data false with
  | (_, data', attached) => b.settle attached data'

/-- The values that the call is completed with, by the job or by the handler. -/
def heard : Supplier → List JsValue
  | returns value _ => [value]
  | throws _ => []
  | promise (.fulfils value) .builtIn => [value]
  | promise (.rejects _) .builtIn => []
  -- the job goes on with the promise as with any other value
  | promise _ (.notFunction _ _) => [returned]
  | promise _ (.throws _) => []
  | promise _ (.own calls _) => calls

/-- Each of these values completes the call, and nothing else does. -/
theorem job_eq (b : Supplier) : b.job .new = b.heard.foldl (fun data value => data.handler value) .new := by
  cases b with
  | returns value notPromise =>
    have hrun : tokenSupplierProxy.run (answer (.returns value notPromise)) .new false =
        Prog.run (answer (.returns value notPromise)) (if value.isKind .promise then do
            let thenValue ← getThen value
            if thenValue.isFunction then
              callThen thenValue value
              return ()
            Prog.change fun data => (data.store value).callback
          else Prog.change fun data => (data.store value).callback : Proxy Unit) .new false := rfl
    unfold job
    rw [hrun, if_neg (by simp [notPromise])]
    rfl
  | throws e => rfl
  | promise settled method =>
    cases method with
    | builtIn => cases settled <;> rfl
    | notFunction value h =>
      have hrun : tokenSupplierProxy.run (answer (.promise settled (.notFunction value h))) .new false =
          Prog.run (answer (.promise settled (.notFunction value h))) (if value.isFunction then do
              callThen value returned
              return ()
            else Prog.change fun data => (data.store returned).callback : Proxy Unit) .new false := rfl
      unfold job
      rw [hrun, if_neg (by simp [h])]
      cases settled <;> rfl
    | throws e => cases settled <;> rfl
    | own calls thrown => cases settled <;> cases thrown <;> rfl

end Supplier

/-! ## The native thread -/

/-- What `malloc` gives: its size in bytes, and the C string that was copied to its start, if any. -/
structure Buffer where
  size : Nat
  copied : Option String
  deriving DecidableEq, Repr

def malloc (size : Nat) : Buffer := ⟨size, none⟩

/-- `strcpy(buffer, s.c_str())`. -/
def strcpy (s : String) (buffer : Buffer) : Buffer := { buffer with copied := some (cStr s) }

/-- The C string in the buffer is `text`, and its terminator is within the allocation. -/
structure Buffer.Holds (buffer : Buffer) (text : String) : Prop where
  copied : buffer.copied = some text
  terminated : text.utf8ByteSize < buffer.size

open Bridge (napiOk NapiStatus BridgeQuery Hang)

/-- `TokenSupplier`. -/
def tokenSupplier : Bridge.Native Buffer :=
  Bridge.acquireAndWait (malloc 0) do
    let token ← Bridge.token
    return strcpy token (malloc (token.utf8ByteSize + 1))

/-- The answers while the environment is alive: a job that is queued runs. The wait ends when the call is
completed. The other questions are those of the other bridges. -/
def answer (acquireStatus : NapiStatus) (b : Supplier) : Answerer BridgeQuery BridgeQuery.Resp Hang ProxyData
  | .acquire, data => (.ok acquireStatus, data)
  | .blockingCall, data => (.ok napiOk, b.job data)
  | .release, data => (.ok (), data)
  | .wait, data => if 0 < data.completions then (.ok (), data) else (.error .forever, data)
  | .token, data => (.ok data.token, data)
  | .consumerFuture, data => (.ok (0 : Nat), data)
  | .reader, data => (.ok (none : Option Handle), data)
  | .onMainThread, data => (.ok false, data)
  | .callJsMethod, data => (.ok Bridge.CryptoResult.cryptoError, data)
  | .result, data => (.ok Bridge.CryptoResult.cryptoError, data)

variable {b : Supplier} {acquireStatus : NapiStatus}

theorem run_refused (h : acquireStatus ≠ napiOk) :
    tokenSupplier.run (answer acquireStatus b) () .new = (.ok (malloc 0), (), .new) := by
  have hacquire : Bridge.acquire.run (answer acquireStatus b) () .new = (.ok acquireStatus, (), .new) := rfl
  unfold tokenSupplier Bridge.acquireAndWait
  rw [Prog.run_bind_ok _ hacquire, if_pos h]
  rfl

/-- Once the job is queued, the thread waits for what it leaves. -/
theorem run_acquired :
    tokenSupplier.run (answer napiOk b) () .new =
      if 0 < (b.job .new).completions then
        (.ok (strcpy (b.job .new).token (malloc ((b.job .new).token.utf8ByteSize + 1))), (), b.job .new)
      else (.error .forever, (), b.job .new) := by
  have hacquire : Bridge.acquire.run (answer napiOk b) () .new = (.ok napiOk, (), .new) := rfl
  have hcall : Bridge.blockingCall.run (answer napiOk b) () .new = (.ok napiOk, (), b.job .new) := rfl
  have hrelease : Bridge.release.run (answer napiOk b) () (b.job .new) = (.ok (), (), b.job .new) := rfl
  have hwait : Bridge.wait.run (answer napiOk b) () (b.job .new) =
      if 0 < (b.job .new).completions then (.ok (), (), b.job .new) else (.error .forever, (), b.job .new) := by
    show Prog.run (answer napiOk b) (Prog.ask .wait Prog.ret) () (b.job .new) = _
    unfold Prog.run answer
    dsimp only
    by_cases hc : 0 < (b.job .new).completions
    · rw [if_pos hc, if_pos hc]
      rfl
    · rw [if_neg hc, if_neg hc]
      rfl
  unfold tokenSupplier Bridge.acquireAndWait
  rw [Prog.run_bind_ok _ hacquire, if_neg (by simp), Prog.run_bind_ok _ hcall, Prog.run_bind_ok _ hrelease]
  by_cases hc : 0 < (b.job .new).completions
  · rw [if_pos hc] at hwait
    rw [if_pos hc, Prog.run_bind_ok _ hwait]
    rfl
  · rw [if_neg hc] at hwait
    rw [if_neg hc, Prog.run_bind_error _ hwait]

/-- Each value completes the call once. -/
theorem completions_foldl (values : List JsValue) (data : ProxyData) :
    (values.foldl (fun data value => data.handler value) data).completions = data.completions + values.length := by
  induction values generalizing data with
  | nil => rfl
  | cons value rest ih =>
    have hone : (data.handler value).completions = data.completions + 1 := by cases value <;> rfl
    rw [List.foldl_cons, ih, hone, List.length_cons]
    omega

theorem completions_job (b : Supplier) : (b.job .new).completions = b.heard.length := by
  rw [b.job_eq, completions_foldl]
  exact Nat.zero_add _

theorem run_completed (h : b.heard ≠ []) :
    tokenSupplier.run (answer napiOk b) () .new =
      (.ok (strcpy (b.job .new).token (malloc ((b.job .new).token.utf8ByteSize + 1))), (), b.job .new) := by
  rw [run_acquired, if_pos]
  rw [completions_job]
  exact List.length_pos_iff.2 h

theorem run_uncompleted (h : b.heard = []) :
    tokenSupplier.run (answer napiOk b) () .new = (.error .forever, (), .new) := by
  have hjob : b.job .new = .new := by rw [b.job_eq, h]; rfl
  rw [run_acquired, hjob]
  rfl

/-! ## What is promised -/

/-- The text promised: the value, if it is a string without a NUL. -/
def Supplier.text (b : Supplier) : String :=
  match b.value with
  | some (.string s) => if Char.ofNat 0 ∈ s.toList then "" else s
  | _ => ""

/-- The call returns a terminated buffer with the text promised, and was completed once. -/
structure Meets (b : Supplier) (r : Except Hang Buffer × Unit × ProxyData) : Prop where
  returns : ∃ buffer, r.1 = .ok buffer ∧ buffer.Holds b.text
  completed : r.2.2.completions = 1

/-- A C string takes no more bytes than the text it is cut from. -/
theorem utf8ByteSize_cStr_le (s : String) : (cStr s).utf8ByteSize ≤ s.utf8ByteSize := by
  have hsplit : s = cStr s ++ String.ofList (s.toList.dropWhile (· ≠ Char.ofNat 0)) := by
    unfold cStr
    rw [← String.ofList_append, List.takeWhile_append_dropWhile, String.ofList_toList]
  conv_rhs => rw [hsplit, String.utf8ByteSize_append]
  omega

/-- The copy of a token is terminated, and holds its text up to a NUL. -/
theorem holds_strcpy {token text : String} :
    (strcpy token (malloc (token.utf8ByteSize + 1))).Holds text ↔ cStr token = text := by
  constructor
  · intro h
    exact Option.some.inj h.copied
  · rintro rfl
    exact ⟨rfl, Nat.lt_succ_of_le (utf8ByteSize_cStr_le token)⟩

/-- The text of a value as a C string has it. -/
def cut : JsValue → String
  | .string s => cStr s
  | _ => ""

/-- The eventual value itself is cut to the text promised where it is no string, or has no NUL, or starts
with one. -/
theorem cut_eq_text {value : JsValue} (h : b.value = some value) :
    cut value = b.text ↔ ∀ s, value = .string s → Char.ofNat 0 ∉ s.toList ∨ cStr s = "" := by
  unfold Supplier.text
  rw [h]
  cases value with
  | string s =>
    have hcut : cut (.string s) = cStr s := rfl
    dsimp only
    by_cases hnul : Char.ofNat 0 ∈ s.toList
    · simp [hcut, hnul]
    · simp [hcut, hnul, cStr_eq_self]
  | _ => exact iff_of_true rfl (by rintro s ⟨⟩)

theorem cStr_token (value : JsValue) : cStr (ProxyData.new.handler value).token = cut value := by
  cases value <;> rfl

theorem meets_iff_cut (b : Supplier) (acquireStatus : NapiStatus) :
    Meets b (tokenSupplier.run (answer acquireStatus b) () .new) ↔
      acquireStatus = napiOk ∧ ∃ value, b.heard = [value] ∧ cut value = b.text := by
  by_cases hstatus : acquireStatus = napiOk
  · subst hstatus
    rw [and_iff_right rfl]
    have hcompletions := completions_job b
    have hjob := b.job_eq
    cases hheard : b.heard with
    | nil =>
      rw [run_uncompleted hheard]
      refine iff_of_false (fun h => ?_) (by simp)
      obtain ⟨buffer, hret, -⟩ := h.returns
      cases hret
    | cons value rest =>
      rw [run_completed (by rw [hheard]; exact List.cons_ne_nil _ _)]
      rw [hheard] at hcompletions hjob
      cases rest with
      | nil =>
        constructor
        · rintro ⟨⟨buffer, ⟨⟩, hholds⟩, -⟩
          refine ⟨value, rfl, ?_⟩
          rw [← cStr_token, ← holds_strcpy.1 hholds, hjob]
          rfl
        · rintro ⟨_, ⟨⟩, hcut⟩
          refine ⟨⟨_, rfl, holds_strcpy.2 ?_⟩, hcompletions⟩
          rw [hjob, ← hcut]
          exact cStr_token value
      | cons value' rest =>
        -- the second value completes the call once more
        refine iff_of_false (fun h => ?_) (by simp)
        have hone := h.completed
        rw [List.length_cons, List.length_cons] at hcompletions
        dsimp only at hone
        omega
  · refine iff_of_false (fun h => ?_) fun h => hstatus h.1
    rw [run_refused hstatus] at h
    obtain ⟨buffer, ⟨⟩, hholds⟩ := h.returns
    exact absurd hholds.copied (by simp [malloc])

end PulsarNode.TokenSupplier
