/-
A call that returns the promise of a `ThreadSafeDeferred` it creates: the deferred, the object the
call reads its argument into, and the context it hands to the native client. `Accounted` says that
somebody has settled the deferred or holds it to do so.
-/
import PulsarNode.Async.Callbacks

namespace PulsarNode

/-- The call in progress: the object under construction, the deferred once it is made, how often it
was settled, what was thrown out of `Resolve` or `Reject`, the native calls made, and whether a
context that owns the deferred is live. -/
structure Creation (Cfg : Type) where
  config : Cfg
  deferred : Option ThreadSafeDeferred
  settlements : Nat
  thrown : Option String
  started : List AsyncCall
  held : Bool
  deriving DecidableEq

namespace Creation

variable {Cfg : Type}

def new (config : Cfg) : Creation Cfg := ⟨config, none, 0, none, [], false⟩

/-- `ThreadSafeDeferred::New(env)`. -/
def newDeferred (c : Creation Cfg) : Creation Cfg := { c with deferred := some .new }

/-- A call of `Resolve` or `Reject` on the deferred. -/
def settle (f : ThreadSafeDeferred → Except String ThreadSafeDeferred) (c : Creation Cfg) : Creation Cfg :=
  match c.deferred with
  | none => c
  | some d =>
    match f d with
    | .ok d' => { c with deferred := some d', settlements := c.settlements + 1 }
    | .error literal => { c with thrown := some literal }

def reject (msg : String) : Creation Cfg → Creation Cfg := settle (ThreadSafeDeferred.reject msg)

def isDone (c : Creation Cfg) : Bool := c.deferred.any (·.isDone)

/-- After a native call: the callback has the context, and has run or has not. -/
def called (call : AsyncCall) (callback : Callback) (reply : Option Reply) (c : Creation Cfg) : Creation Cfg :=
  let c' := { c with started := c.started ++ [call] }
  match reply with
  | none => c'
  | some r => settle (callback r) { c' with held := false }

/-- The object under construction. -/
def configPart : Prog.Part (Creation Cfg) Cfg where
  get := config
  set cfg c := { c with config := cfg }
  get_set _ _ := rfl
  set_get _ := rfl
  set_set _ _ _ := rfl

/-- Code that works on the object under construction. -/
def onConfig {α : Type} (p : Napi Cfg α) : Napi (Creation Cfg) α := Prog.zoom configPart p

/-- Make the context and the native call. -/
def launch (call : AsyncCall) (callback : Callback) : Napi (Creation Cfg) Unit := do
  Prog.change ({ · with held := true })
  let reply ← Napi.start call
  Prog.change (called call callback reply)

/-! ## What a call leaves -/

/-- The deferred is made and nothing has been done with it. -/
structure Fresh (c : Creation Cfg) : Prop where
  deferred : c.deferred = some .new
  settlements : c.settlements = 0
  thrown : c.thrown = none
  started : c.started = []
  held : c.held = false

/-- The deferred was settled once, and the initial reference of its function is released. -/
structure SettledOnce (c : Creation Cfg) : Prop where
  settlements : c.settlements = 1
  thrown : c.thrown = none
  held : c.held = false
  released : ∃ d, c.deferred = some d ∧ d.isDone = true ∧ d.tsf = 0

/-- The deferred is unsettled and held by the context of exactly one native call. -/
structure HeldOnce (c : Creation Cfg) : Prop where
  settlements : c.settlements = 0
  thrown : c.thrown = none
  started : c.started.length = 1
  held : c.held = true
  unresolved : ∃ d, c.deferred = some d ∧ d.fate = .unresolved

/-- The deferred is in exactly one of the two situations. -/
def Accounted (c : Creation Cfg) : Prop := Xor (SettledOnce c) (HeldOnce c)

theorem SettledOnce.accounted {c : Creation Cfg} (h : SettledOnce c) : Accounted c := by
  refine Or.inl ⟨h, fun hh => ?_⟩
  have hs := hh.settlements
  rw [h.settlements] at hs
  cases hs

theorem HeldOnce.accounted {c : Creation Cfg} (h : HeldOnce c) : Accounted c := by
  refine Or.inr ⟨h, fun hs => ?_⟩
  have hn := hs.settlements
  rw [h.settlements] at hn
  cases hn

/-- A fresh deferred is nobody's to settle. -/
theorem Fresh.not_accounted {c : Creation Cfg} (h : Fresh c) : ¬ Accounted c := by
  rintro (⟨hs, _⟩ | ⟨hh, _⟩)
  · have hn := hs.settlements
    rw [h.settlements] at hn
    cases hn
  · have hd := hh.held
    rw [h.held] at hd
    cases hd

theorem Fresh.isDone {c : Creation Cfg} (h : Fresh c) : c.isDone = false := by
  rw [Creation.isDone, h.deferred]
  rfl

theorem fresh_newDeferred (config : Cfg) : Fresh (new config).newDeferred := ⟨rfl, rfl, rfl, rfl, rfl⟩

theorem Fresh.setConfig {c : Creation Cfg} (h : Fresh c) (cfg : Cfg) : Fresh { c with config := cfg } :=
  ⟨h.deferred, h.settlements, h.thrown, h.started, h.held⟩

theorem settle_of_fresh {f : ThreadSafeDeferred → Except String ThreadSafeDeferred} {promise : JsPromise}
    {c : Creation Cfg} (hd : c.deferred = some .new) (hs : c.settlements = 0) (ht : c.thrown = none)
    (hh : c.held = false) (hf : ∃ d', f .new = .ok d' ∧ ThreadSafeDeferred.new.SettledAs promise d') :
    SettledOnce (settle f c) := by
  obtain ⟨d', hok, hset⟩ := hf
  unfold settle
  rw [hd]
  dsimp only
  rw [hok]
  exact ⟨by simp [hs], ht, hh, d', rfl, hset.isDone, hset.tsf⟩

/-- A rejection by validation settles a fresh deferred. -/
theorem Fresh.reject {c : Creation Cfg} (h : Fresh c) (msg : String) : SettledOnce (c.reject msg) :=
  settle_of_fresh h.deferred h.settlements h.thrown h.held (ThreadSafeDeferred.reject_settledAs msg rfl)

/-- A native call leaves the deferred to its context, or settled when the callback has run. -/
theorem Fresh.called {c : Creation Cfg} (h : Fresh c) (call : AsyncCall) (op : Op) (reply : Option Reply) :
    Accounted (called call op.callback reply { c with held := true }) := by
  cases reply with
  | none =>
    refine HeldOnce.accounted ⟨h.settlements, h.thrown, ?_, rfl, .new, h.deferred, rfl⟩
    simp [Creation.called, h.started]
  | some r =>
    have hset := settle_of_fresh (c := { c with started := c.started ++ [call], held := false })
      h.deferred h.settlements h.thrown rfl (op.callback_settles r rfl)
    exact hset.accounted

variable {J N : Type}

/-- Code on the object under construction leaves the deferred fresh, however it ends. -/
theorem run_onConfig_fresh {α : Type} (sides : Sides J N) (p : Napi Cfg α) {c : Creation Cfg} (h : Fresh c)
    (w : World J N) :
    ∃ r c' w', (onConfig p).run sides.answer c w = (r, c', w') ∧ Fresh c' := by
  refine ⟨_, _, _, Prog.run_zoom sides.answer configPart p c w, ?_⟩
  exact h.setConfig _

/-- The native call is never refused. -/
theorem run_launch (sides : Sides J N) (call : AsyncCall) (callback : Callback) (c : Creation Cfg)
    (w : World J N) :
    ∃ reply w', (launch call callback).run sides.answer c w =
      (.ok (), called call callback reply { c with held := true }, w') := by
  refine ⟨(sides.start call w.native).1, { w with native := (sides.start call w.native).2 }, ?_⟩
  rfl

end Creation

end PulsarNode
