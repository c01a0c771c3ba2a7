/-
Exceptions of the native client that escape to JS. `new Client` has a `try` block around the client
creation only; `subscribe`, `createProducer` and `send` have none. A `std::exception` escapes, and
ends the process, exactly when a native setter called outside the `try` block throws.
-/
import PulsarNode.Config.Message
import PulsarNode.Config.Client
import PulsarNode.Create.NewInstance

namespace PulsarNode

open Creation

/-- `Producer::Send`: the message is built before the deferred is made. -/
def Producer.send (arg : JsValue) : Napi (Creation Message.Builder) Unit := do
  onConfig (Message.buildMessage arg)
  Prog.change newDeferred
  let c ← Prog.look
  launch (.send c.config) sendCallback

variable {J N : Type}

/-! ## The catch of the constructor -/

theorem Client.catchStd_error {r : Except Exn Unit} {w : World J N} {e : Exn}
    (h : (Client.catchStd r w).1 = .error e) : ¬ e.isStd := by
  unfold Client.catchStd at h
  split at h
  · cases h
  · cases h
    exact id
  · cases h

/-- An exception ends `new Client` only when it is raised before the `try` block. -/
theorem Client.construct_terminated (sides : Sides J N) (arg : JsValue) (st : ClientState) (w : World J N) :
    (∃ what, (Client.construct sides arg st w).1 = .terminated what) ↔
      ∃ e, ((Client.beforeTry arg).run sides.answer st w).1 = .error e ∧ e.isStd := by
  unfold Client.construct
  rcases hrun : (Client.beforeTry arg).run sides.answer st w with ⟨r, st', w'⟩
  cases r with
  | error e =>
    dsimp only
    rw [callbackWrapper_terminated]
    constructor
    · rintro ⟨e', he', hs⟩
      cases he'
      exact ⟨e, rfl, hs⟩
    · rintro ⟨e', he', hs⟩
      cases he'
      exact ⟨e, rfl, hs⟩
  | ok setup =>
    have hno : ¬ ∃ e, (Except.ok setup : Except Exn (Option Client.Setup)) = .error e ∧ e.isStd := by
      rintro ⟨e, he, _⟩
      cases he
    cases setup with
    | none =>
      dsimp only
      rw [callbackWrapper_terminated, iff_false_right hno]
      rintro ⟨e, he, _⟩
      cases he
    -- the `try` block lets no `std::exception` through
    | some setup =>
      dsimp only
      rw [callbackWrapper_terminated, iff_false_right hno]
      rintro ⟨e, he, hs⟩
      exact Client.catchStd_error he hs

/-! ## The calls -/

/-- The calls that forward values to native setters. -/
inductive ApiCall
  | newClient (st : ClientState)
  | subscribe
  | createProducer
  | producerSend

namespace ApiCall

/-- How a call ends. -/
def outcome (call : ApiCall) (sides : Sides J N) (arg : JsValue) (w : World J N) : CallOutcome :=
  match call with
  | newClient st => (Client.construct sides arg st w).1
  | subscribe => (Entry.subscribe.call sides arg w).1
  | createProducer => (Entry.createProducer.call sides arg w).1
  | producerSend =>
    match (Producer.send arg).run sides.answer (.new []) w with
    | (r, _, w') => callbackWrapper r w'

/-- No native setter that the call comes to outside a `try` block throws. -/
def SettersQuiet (call : ApiCall) (sides : Sides J N) (arg : JsValue) (w : World J N) : Prop :=
  match call with
  | newClient st => Prog.Quiet sides.answer Query.isNative (Client.beforeTry arg) st w
  | subscribe => Prog.Quiet sides.answer Query.isNative (Consumer.newInstance arg) (.new ConsumerConfig.new) w
  | createProducer =>
    Prog.Quiet sides.answer Query.isNative (Producer.newInstance arg) (.new ProducerConfig.new) w
  | producerSend => Prog.Quiet sides.answer Query.isNative (Producer.send arg) (.new []) w

/-- A run that ends a call terminates it exactly when it is not quiet. -/
theorem quiet_iff_not_terminated {S α : Type} (sides : Sides J N) (p : Napi S α) (s : S) (w : World J N) :
    (∀ what, callbackWrapper (p.run sides.answer s w).1 (p.run sides.answer s w).2.2 ≠ .terminated what) ↔
      Prog.Quiet sides.answer Query.isNative p s w := by
  rw [Prog.quiet_iff sides.answer sides.isNative_iff, ← not_exists, callbackWrapper_terminated]
  simp only [not_exists, not_and]

/-- No `std::exception` escapes a call exactly when no native setter called outside the `try` block
throws. -/
theorem contained_iff (call : ApiCall) (sides : Sides J N) (arg : JsValue) (w : World J N) :
    (∀ what, call.outcome sides arg w ≠ .terminated what) ↔ call.SettersQuiet sides arg w := by
  cases call with
  | newClient st =>
    have hquiet := Prog.quiet_iff sides.answer sides.isNative_iff (Client.beforeTry arg) st w
    have hout := Client.construct_terminated sides arg st w
    simp only [outcome, SettersQuiet, hquiet, ← not_exists, ne_eq, hout]
    simp only [not_exists, not_and]
  | subscribe => exact quiet_iff_not_terminated sides (Consumer.newInstance arg) _ w
  | createProducer => exact quiet_iff_not_terminated sides (Producer.newInstance arg) _ w
  | producerSend => exact quiet_iff_not_terminated sides (Producer.send arg) _ w

/-- A JS side with one object, whose only property is `sequenceId: -1`. -/
def negativeSequenceId : (q : JsQuery) → Unit → Except JsError q.Resp × Unit
  | .has _ key, j => (.ok (key == "sequenceId"), j)
  | .get _ _, j => (.ok (.number (.finite (-1))), j)
  | .toNumber _, j => (.ok (.finite (-1)), j)
  | _, j => (.error (.typeError ""), j)

/-- A native client whose message builder admits no negative sequence id. -/
def strictBuilder : Sides Unit Unit where
  js := negativeSequenceId
  setter c n :=
    match c with
    | .message (.sequenceId id) => (if id < 0 then .error "sequenceId needs to be >= 0" else .ok 0, n)
    | _ => (.ok 0, n)
  start _ n := (none, n)
  createClient _ n := (.ok (), n)

/-- `producer.send({ sequenceId: -1 })` ends the process. -/
theorem send_negative_sequenceId :
    ¬ ∀ what, producerSend.outcome strictBuilder (.object .plain 0) ⟨(), none, ()⟩ ≠ .terminated what := by
  intro h
  exact h "sequenceId needs to be >= 0" (by decide)

end ApiCall

end PulsarNode
