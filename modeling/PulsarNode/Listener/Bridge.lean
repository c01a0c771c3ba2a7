/-
The calls of native threads into JS: `MessageListener`, `ReaderListener`, `TokenSupplier` and
`CryptoKeyReaderWrapper::executeCallback`. Each queues a job on a thread-safe function and waits for
it; the job of a call that reports an error is not queued, and nobody completes it. The first three
look at the status of `Acquire` only, the last at that of `BlockingCall`.
-/
import PulsarNode.Prog.Basic
import PulsarNode.Native.Setters

namespace PulsarNode.Bridge

/-! ## What a bridge asks -/

/-- `napi_status`, by its number. -/
abbrev NapiStatus := Nat

def napiOk : NapiStatus := 0

def napiClosing : NapiStatus := 16

/-- `pulsar::Result`, as far as it is returned here. -/
inductive CryptoResult
  | ok | cryptoError
  deriving DecidableEq, Repr

inductive BridgeQuery
  | consumerFuture
  | reader
  | onMainThread
  | callJsMethod
  | acquire
  | blockingCall
  | release
  | wait
  | token
  | result

def BridgeQuery.Resp : BridgeQuery → Type
  | consumerFuture => Handle
  | reader => Option Handle
  | onMainThread => Bool
  | callJsMethod => CryptoResult
  | acquire => NapiStatus
  | blockingCall => NapiStatus
  | release => Unit
  | wait => Unit
  | token => String
  | result => CryptoResult

/-- Native code on a thread of its own, with what it has beside its locals left out. -/
abbrev Native (α : Type) := Prog BridgeQuery BridgeQuery.Resp Unit α

def ask (q : BridgeQuery) : Native q.Resp := Prog.ask q Prog.ret

/-- `consumerFuture.get()`. -/
def consumerFuture : Native Handle := ask .consumerFuture

def reader : Native (Option Handle) := ask .reader

def onMainThread : Native Bool := ask .onMainThread

def callJsMethod : Native CryptoResult := ask .callJsMethod

def acquire : Native NapiStatus := ask .acquire

def blockingCall : Native NapiStatus := ask .blockingCall

def release : Native Unit := ask .release

/-- `future.wait()`. -/
def wait : Native Unit := ask .wait

/-- The token that the job left. -/
def token : Native String := ask .token

/-- `future.get()`. -/
def result : Native CryptoResult := ask .result

/-! ## The bridges -/

/-- Acquire, queue the job, release, wait: the part that three of the bridges have in common. The
status of `BlockingCall` is dropped. -/
def acquireAndWait {α : Type} (refused : α) (done : Native α) : Native α := do
  if (← acquire) ≠ napiOk then
    return refused
  let _ ← blockingCall
  release
  wait
  done

def messageListener : Native Unit := do
  let _ ← consumerFuture
  acquireAndWait () (pure ())

def readerListener : Native Unit := do
  let _ ← reader
  acquireAndWait () (pure ())

/-- `TokenSupplier`: the token is copied as a C string. -/
def tokenSupplier : Native String :=
  acquireAndWait "" do
    return cStr (← token)

/-- `CryptoKeyReaderWrapper::executeCallback`. -/
def executeCallback : Native CryptoResult := do
  if ← onMainThread then
    callJsMethod
  else
    let status ← blockingCall
    if status ≠ napiOk then
      return .cryptoError
    wait
    result

inductive Kind
  | messageListener | readerListener | tokenSupplier | executeCallback
  deriving DecidableEq, Repr

def Kind.Returns : Kind → Type
  | messageListener | readerListener => Unit
  | tokenSupplier => String
  | executeCallback => CryptoResult

def Kind.code : (k : Kind) → Native k.Returns
  | messageListener => Bridge.messageListener
  | readerListener => Bridge.readerListener
  | tokenSupplier => Bridge.tokenSupplier
  | executeCallback => Bridge.executeCallback

/-! ## The environment -/

/-- What the environment answers in one call; the function may be closed before, between or after. -/
structure Env where
  acquireStatus : NapiStatus
  callStatus : NapiStatus
  consumer : Handle
  reader : Option Handle
  onMainThread : Bool
  jsResult : CryptoResult
  token : String
  deriving DecidableEq, Repr

inductive Event
  | acquired (status : NapiStatus)
  | called (status : NapiStatus)
  | waits
  deriving DecidableEq, Repr

/-- A wait that nothing ends. -/
inductive Hang
  | forever
  deriving DecidableEq, Repr

/-- The answers, noted. The job is queued when `BlockingCall` reports `napi_ok`, and then it ends the wait. -/
def Env.answer (env : Env) : Answerer BridgeQuery BridgeQuery.Resp Hang (List Event)
  | .consumerFuture, l => (.ok env.consumer, l)
  | .reader, l => (.ok env.reader, l)
  | .onMainThread, l => (.ok env.onMainThread, l)
  | .callJsMethod, l => (.ok env.jsResult, l)
  | .acquire, l => (.ok env.acquireStatus, l ++ [.acquired env.acquireStatus])
  | .blockingCall, l => (.ok env.callStatus, l ++ [.called env.callStatus])
  | .release, l => (.ok (), l)
  | .wait, l => if .called napiOk ∈ l then (.ok (), l ++ [.waits]) else (.error .forever, l ++ [.waits])
  | .token, l => (.ok env.token, l)
  | .result, l => (.ok env.jsResult, l)

/-! ## Waiting for what was queued -/

/-- How a call went: it waits only where its job was queued, and where a status other than `napi_ok` is
reported to it, it returns and has not waited. -/
structure WaitsForQueued {α : Type} (r : Except Hang α × Unit × List Event) : Prop where
  queued : .waits ∈ r.2.2 → .called napiOk ∈ r.2.2
  returns : ∀ status ≠ napiOk, .acquired status ∈ r.2.2 ∨ .called status ∈ r.2.2 →
    (∃ a, r.1 = .ok a) ∧ .waits ∉ r.2.2

variable {α β : Type} {env : Env}

/-- A wait ends where the job was queued. -/
theorem run_wait (env : Env) (l : List Event) :
    wait.run env.answer () l =
      if .called napiOk ∈ l then (.ok (), (), l ++ [.waits]) else (.error .forever, (), l ++ [.waits]) := by
  show Prog.run env.answer (Prog.ask .wait Prog.ret) () l = _
  unfold Prog.run Env.answer
  dsimp only
  by_cases hl : .called napiOk ∈ l
  · rw [if_pos hl, if_pos hl]
    rfl
  · rw [if_neg hl, if_neg hl]
    rfl

/-- The three ways of the common part. -/
theorem run_acquireAndWait (refused : α) (done : Native α) :
    (acquireAndWait refused done).run env.answer () [] =
      if env.acquireStatus ≠ napiOk then (.ok refused, (), [.acquired env.acquireStatus])
      else if env.callStatus = napiOk then
        done.run env.answer () [.acquired env.acquireStatus, .called env.callStatus, .waits]
      else (.error .forever, (), [.acquired env.acquireStatus, .called env.callStatus, .waits]) := by
  have hacquire : acquire.run env.answer () [] = (.ok env.acquireStatus, (), [.acquired env.acquireStatus]) := rfl
  have hcall : blockingCall.run env.answer () [.acquired env.acquireStatus] =
      (.ok env.callStatus, (), [.acquired env.acquireStatus, .called env.callStatus]) := rfl
  have hrelease (l : List Event) : release.run env.answer () l = (.ok (), (), l) := rfl
  have hwait := run_wait env [.acquired env.acquireStatus, .called env.callStatus]
  unfold acquireAndWait
  rw [Prog.run_bind_ok env.answer hacquire]
  by_cases ha : env.acquireStatus ≠ napiOk
  · rw [if_pos ha, if_pos ha]
    rfl
  · rw [if_neg ha, if_neg ha, Prog.run_bind_ok env.answer hcall, Prog.run_bind_ok env.answer (hrelease _)]
    by_cases hc : env.callStatus = napiOk
    · rw [if_pos (by simp [hc])] at hwait
      rw [if_pos hc, Prog.run_bind_ok env.answer hwait]
      rfl
    · rw [if_neg (by simpa [eq_comm] using hc)] at hwait
      rw [if_neg hc, Prog.run_bind_error env.answer hwait]
      rfl

/-- The common part waits for a job that was not queued exactly when the function closes between the
two calls. -/
theorem acquireAndWait_iff (env : Env) (refused : α) {done : Native α}
    (hdone : ∀ l, ∃ a, done.run env.answer () l = (.ok a, (), l)) :
    WaitsForQueued ((acquireAndWait refused done).run env.answer () []) ↔
      env.acquireStatus ≠ napiOk ∨ env.callStatus = napiOk := by
  rw [run_acquireAndWait]
  by_cases ha : env.acquireStatus ≠ napiOk
  · rw [if_pos ha]
    exact iff_of_true ⟨by simp, fun _ _ _ => ⟨⟨refused, rfl⟩, by simp⟩⟩ (.inl ha)
  · rw [if_neg ha]
    rw [not_not] at ha
    by_cases hc : env.callStatus = napiOk
    · obtain ⟨a, hrun⟩ := hdone [.acquired env.acquireStatus, .called env.callStatus, .waits]
      rw [if_pos hc, hrun]
      refine iff_of_true ⟨by simp [hc], fun status hne h => ?_⟩ (.inr hc)
      -- both calls reported `napi_ok`
      simp [ha, hc, hne] at h
    · rw [if_neg hc]
      refine iff_of_false (fun h => ?_) (by simp [ha, hc])
      obtain ⟨⟨a, herr⟩, -⟩ := h.returns env.callStatus hc (.inr (by simp))
      cases herr

/-- `executeCallback` waits on no status but `napi_ok`. -/
theorem executeCallback_waits (env : Env) : WaitsForQueued (executeCallback.run env.answer () []) := by
  have honMain : onMainThread.run env.answer () [] = (.ok env.onMainThread, (), []) := rfl
  have hcall : blockingCall.run env.answer () [] = (.ok env.callStatus, (), [.called env.callStatus]) := rfl
  have hresult (l : List Event) : result.run env.answer () l = (.ok env.jsResult, (), l) := rfl
  have hwait := run_wait env [.called env.callStatus]
  unfold executeCallback
  rw [Prog.run_bind_ok env.answer honMain]
  cases env.onMainThread with
  | true => exact ⟨by rintro ⟨⟩, by rintro _ _ (⟨⟨⟩⟩ | ⟨⟨⟩⟩)⟩
  | false =>
    rw [if_neg (by simp), Prog.run_bind_ok env.answer hcall]
    by_cases hc : env.callStatus = napiOk
    · rw [if_pos (by simp [hc])] at hwait
      rw [if_neg (by simpa using hc), Prog.run_bind_ok env.answer hwait]
      rw [hresult]
      refine ⟨fun _ => by simp [hc], fun status hne h => ?_⟩
      simp [hc, hne] at h
    · rw [if_pos hc]
      exact ⟨by simp [pure, Prog.run], fun _ _ _ => ⟨⟨.cryptoError, rfl⟩, by simp [pure, Prog.run]⟩⟩

/-- A native thread waits for queued jobs only, and returns where a status is reported, exactly when the
bridge is that of the crypto key reader, or `Acquire` is refused, or the job is queued. -/
theorem waitsForQueued_iff (k : Kind) (env : Env) :
    WaitsForQueued (k.code.run env.answer () []) ↔
      k = .executeCallback ∨ env.acquireStatus ≠ napiOk ∨ env.callStatus = napiOk := by
  cases k with
  | messageListener =>
    have hcode : messageListener.run env.answer () [] = (acquireAndWait () (pure ())).run env.answer () [] := rfl
    show WaitsForQueued (messageListener.run env.answer () []) ↔ _
    rw [hcode]
    simpa using acquireAndWait_iff env () fun l => ⟨(), rfl⟩
  | readerListener =>
    have hcode : readerListener.run env.answer () [] = (acquireAndWait () (pure ())).run env.answer () [] := rfl
    show WaitsForQueued (readerListener.run env.answer () []) ↔ _
    rw [hcode]
    simpa using acquireAndWait_iff env () fun l => ⟨(), rfl⟩
  | tokenSupplier =>
    show WaitsForQueued (tokenSupplier.run env.answer () []) ↔ _
    unfold tokenSupplier
    simpa using acquireAndWait_iff env "" fun l => ⟨cStr env.token, rfl⟩
  | executeCallback => exact iff_of_true (executeCallback_waits env) (.inl rfl)

/-- The environment is torn down between the two calls. -/
def closedBetween : Env := ⟨napiOk, napiClosing, 1, some 1, false, .ok, "token"⟩

theorem closedBetween_hangs :
    messageListener.run closedBetween.answer () [] =
        (.error .forever, (), [.acquired napiOk, .called napiClosing, .waits]) ∧
      ¬ WaitsForQueued (Kind.messageListener.code.run closedBetween.answer () []) := by
  have hrun : messageListener.run closedBetween.answer () [] =
      (.error .forever, (), [.acquired napiOk, .called napiClosing, .waits]) := rfl
  refine ⟨hrun, fun h => ?_⟩
  have hqueued := h.queued
  rw [show Kind.messageListener.code.run closedBetween.answer () [] = _ from hrun] at hqueued
  exact absurd (hqueued (by decide)) (by decide)

end PulsarNode.Bridge
