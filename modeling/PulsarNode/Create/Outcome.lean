/-
How a call with a deferred of its own comes out once its argument is read: the deferred rejected with a
message and no native call made, or one native call made and the deferred left to its callback.
-/
import PulsarNode.Create.Deferral
import PulsarNode.Prog.Ensures

namespace PulsarNode.Creation

variable {Cfg : Type}

/-- The deferred was rejected with `msg`, once, and no native call was made. -/
structure Rejects (msg : String) (c : Creation Cfg) : Prop where
  settled : SettledOnce c
  rejected : ∃ d, c.deferred = some d ∧ d.fate = .rejected ∧ d.errorMsg = msg
  started : c.started = []

/-- This native call was made, and no other; up to it the deferred was as it was made. -/
structure Calls (call : AsyncCall) (callback : Callback) (c : Creation Cfg) : Prop where
  fresh : ∃ c₀ reply, Fresh c₀ ∧ c = called call callback reply { c₀ with held := true }
  started : c.started = [call]

/-- A call that is decided on: the message of its rejection, or the native call. -/
def Decided (callback : Callback) : Except String AsyncCall → Creation Cfg → Prop
  | .error msg, c => Rejects msg c
  | .ok call, c => Calls call callback c

section

variable {c : Creation Cfg} {call : AsyncCall} {msg : String}

theorem started_settle {f : ThreadSafeDeferred → Except String ThreadSafeDeferred} :
    (settle f c).started = c.started := by
  unfold settle
  split
  · rfl
  · split <;> rfl

theorem config_settle {f : ThreadSafeDeferred → Except String ThreadSafeDeferred} :
    (settle f c).config = c.config := by
  unfold settle
  split
  · rfl
  · split <;> rfl

theorem config_called (call : AsyncCall) (callback : Callback) (reply : Option Reply) :
    (called call callback reply c).config = c.config := by
  cases reply with
  | none => rfl
  | some r => exact config_settle

theorem rejects_of_fresh (h : Fresh c) (msg : String) : Rejects msg (c.reject msg) where
  settled := h.reject msg
  rejected := by
    refine ⟨{ ThreadSafeDeferred.new with errorMsg := msg, fate := .rejected, tsf := 0 }, ?_, rfl, rfl⟩
    unfold reject settle
    rw [h.deferred]
    rfl
  started := by
    unfold reject
    rw [started_settle]
    exact h.started

theorem calls_of_fresh (h : Fresh c) (call : AsyncCall) (callback : Callback) (reply : Option Reply) :
    Calls call callback (called call callback reply { c with held := true }) where
  fresh := ⟨c, reply, h, rfl⟩
  started := by
    cases reply with
    | none => simp [called, h.started]
    | some r => simp [called, started_settle, h.started]

end

/-! ## Runs -/

section

variable {α J N : Type} (sides : Sides J N) {p : Napi Cfg α} {cfg : Cfg} {w : World J N}

/-- How a call of this shape ends: refused while its argument is read, with the deferred as it was made; or
decided on, from the configuration that the argument was read into. -/
def Ended (callback : Callback) (post : Cfg → Except String AsyncCall → Prop) (r : Except Exn Unit × Creation Cfg × World J N) :
    Prop :=
  match r with
  | (.ok (), c, _) => ∃ decision, post c.config decision ∧ Decided callback decision c
  | (.error _, c, _) => Fresh c

variable {sides}

/-- The deferred is made, the argument is read, and what follows decides from what was read. -/
theorem ended_newDeferred {callback : Callback} {post : Cfg → Except String AsyncCall → Prop}
    {next : α → Napi (Creation Cfg) Unit}
    (hnext : ∀ a cfg' w', p.run sides.answer cfg w = (.ok a, cfg', w') →
      Ended callback post ((next a).run sides.answer { (new cfg).newDeferred with config := cfg' } w')) :
    Ended callback post ((do
      Prog.change newDeferred
      let a ← onConfig p
      next a).run sides.answer (new cfg) w) := by
  have hzoom := Prog.run_zoom sides.answer configPart p (new cfg).newDeferred w
  have hstart : (do
      Prog.change newDeferred
      let a ← onConfig p
      next a).run sides.answer (new cfg) w = (onConfig p >>= next).run sides.answer (new cfg).newDeferred w := rfl
  rw [hstart]
  rcases hp : p.run sides.answer cfg w with ⟨r, cfg', w'⟩
  have hrun : (onConfig p).run sides.answer (new cfg).newDeferred w =
      (r, { (new cfg).newDeferred with config := cfg' }, w') := by
    refine hzoom.trans ?_
    rw [show configPart.get (new cfg).newDeferred = cfg from rfl, hp]
    rfl
  cases r with
  | error e =>
    rw [Prog.run_bind_error sides.answer hrun]
    exact (fresh_newDeferred cfg).setConfig cfg'
  | ok a =>
    rw [Prog.run_bind_ok sides.answer hrun]
    exact hnext a cfg' w' hp

theorem ended_reject {callback : Callback} {post : Cfg → Except String AsyncCall → Prop} {c : Creation Cfg} (hc : Fresh c)
    {msg : String} (hpost : post c.config (.error msg)) :
    Ended callback post ((Prog.change (reject msg) : Napi (Creation Cfg) Unit).run sides.answer c w) := by
  refine ⟨.error msg, ?_, rejects_of_fresh hc msg⟩
  show post (settle _ c).config _
  rwa [config_settle]

theorem ended_launch {callback : Callback} {post : Cfg → Except String AsyncCall → Prop} {c : Creation Cfg} (hc : Fresh c)
    {call : AsyncCall} (hpost : post c.config (.ok call)) :
    Ended callback post ((launch call callback).run sides.answer c w) := by
  obtain ⟨reply, w', hrun⟩ := run_launch sides call callback c w
  rw [hrun]
  refine ⟨.ok call, ?_, calls_of_fresh hc call callback reply⟩
  rw [config_called]
  exact hpost

/-- What is answered while the argument is read is answered in the call. -/
theorem answered_onConfig {next : α → Napi (Creation Cfg) Unit} {q : Query} {r : q.Resp}
    (h : Prog.Answered sides.answer p cfg w q r) :
    Prog.Answered sides.answer (do
      Prog.change newDeferred
      let a ← onConfig p
      next a) (new cfg) w q r :=
  Prog.Answered.bind (p := onConfig p) (Prog.Answered.zoom (l := configPart) (s := (new cfg).newDeferred) h)

end

end PulsarNode.Creation
