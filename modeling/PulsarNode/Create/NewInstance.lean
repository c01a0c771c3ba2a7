/-
`Client.subscribe`, `Client.createReader` and `Client.createProducer`: each makes its deferred
first and reads its argument afterwards. The deferred is accounted for when the call comes back
exactly when no Node-API operation of the call was refused: a refused one unwinds past a deferred
that nobody will settle.
-/
import PulsarNode.Config.Consumer
import PulsarNode.Config.Reader
import PulsarNode.Config.Producer
import PulsarNode.Create.Deferral

namespace PulsarNode

open Creation

/-! ## The three entry points -/

namespace Consumer

/-- The native call that `Consumer::NewInstance` chooses. -/
def subscribeCall (cfg : ConsumerConfig) : AsyncCall :=
  if !cfg.topicsPattern.isEmpty then
    .subscribePattern (cStr cfg.topicsPattern) (cStr cfg.subscription) cfg.cConsumerConfig
  else if 0 < cfg.topics.length then
    .subscribeMultiTopics (cfg.topics.map cStr) (cStr cfg.subscription) cfg.cConsumerConfig
  else
    .subscribe (cStr cfg.topic) (cStr cfg.subscription) cfg.cConsumerConfig

/-- `consumerConfig->InitConfig(deferred, config, ..)`. -/
def initConfig (arg : JsValue) : Napi (Creation ConsumerConfig) Unit := do
  match ← onConfig (ConsumerConfig.initConfig arg) with
  | .error msg => Prog.change (reject msg)
  | .ok () => pure ()

/-- `Consumer::NewInstance`. -/
def newInstance (arg : JsValue) : Napi (Creation ConsumerConfig) Unit := do
  Prog.change newDeferred
  initConfig arg
  let c ← Prog.look
  if c.isDone then pure () else launch (subscribeCall c.config) subscribeCallback

end Consumer

namespace Reader

/-- `Reader::NewInstance`. -/
def newInstance (arg : JsValue) : Napi (Creation ReaderConfig) Unit := do
  Prog.change newDeferred
  onConfig (ReaderConfig.readerConfig arg)
  let c ← Prog.look
  if c.config.topic.isEmpty then
    Prog.change (reject "Topic is required and must be specified as a string when creating reader")
  else
    match c.config.cStartMessageId with
    | none => Prog.change (reject
        "StartMessageId is required and must be specified as a MessageId object when creating reader")
    | some id => launch (.createReader (cStr c.config.topic) id c.config.cReaderConfig) createReaderCallback

end Reader

namespace Producer

/-- `Producer::NewInstance`. -/
def newInstance (arg : JsValue) : Napi (Creation ProducerConfig) Unit := do
  Prog.change newDeferred
  onConfig (ProducerConfig.producerConfig arg)
  let c ← Prog.look
  if c.config.topic.isEmpty then
    Prog.change (reject "Topic is required and must be specified as a string when creating producer")
  else
    launch (.createProducer (cStr c.config.topic) c.config.cProducerConfig) createProducerCallback

end Producer

/-! ## How a call with a fresh deferred ends -/

section Ends

variable {Cfg α β : Type} {J N : Type} (sides : Sides J N)

/-- The run returns with the deferred accounted for, or is refused with the deferred still fresh. -/
def Ends (p : Napi (Creation Cfg) Unit) (c : Creation Cfg) (w : World J N) : Prop :=
  match p.run sides.answer c w with
  | (.ok (), c', _) => Accounted c'
  | (.error _, c', _) => Fresh c'

variable {sides}

theorem ends_change {f : Creation Cfg → Creation Cfg} {p : Unit → Napi (Creation Cfg) Unit}
    {c : Creation Cfg} {w : World J N} (h : Ends sides (p ()) (f c) w) :
    Ends sides (Prog.change f >>= p) c w := h

theorem ends_look {p : Creation Cfg → Napi (Creation Cfg) Unit} {c : Creation Cfg} {w : World J N}
    (h : Ends sides (p c) c w) : Ends sides (Prog.look >>= p) c w := h

/-- After code that leaves the deferred fresh whatever happens, it is enough to look at what follows. -/
theorem ends_onConfig {q : Napi Cfg α} {p : α → Napi (Creation Cfg) Unit} {c : Creation Cfg}
    {w : World J N} (hc : Fresh c) (h : ∀ a c' w', Fresh c' → Ends sides (p a) c' w') :
    Ends sides (onConfig q >>= p) c w := by
  obtain ⟨r, c', w', hrun, hc'⟩ := run_onConfig_fresh sides q hc w
  unfold Ends
  cases r with
  | error e =>
    rw [Prog.run_bind_error sides.answer hrun]
    exact hc'
  | ok a =>
    rw [Prog.run_bind_ok sides.answer hrun]
    exact h a c' w' hc'

theorem ends_reject {c : Creation Cfg} {w : World J N} (hc : Fresh c) (msg : String) :
    Ends sides (Prog.change (reject msg)) c w :=
  (hc.reject msg).accounted

theorem ends_launch {c : Creation Cfg} {w : World J N} (hc : Fresh c) (call : AsyncCall) (op : Op) :
    Ends sides (launch call op.callback) c w := by
  obtain ⟨reply, w', hrun⟩ := run_launch sides call op.callback c w
  unfold Ends
  rw [hrun]
  exact hc.called call op reply

end Ends

section NewInstance

variable {J N : Type} (sides : Sides J N) (arg : JsValue) (w : World J N)

theorem consumer_ends (cfg : ConsumerConfig) : Ends sides (Consumer.newInstance arg) (new cfg) w := by
  unfold Consumer.newInstance
  refine ends_change ?_
  have hfresh := fresh_newDeferred cfg
  obtain ⟨r, c, w', hrun, hc⟩ := run_onConfig_fresh sides (ConsumerConfig.initConfig arg) hfresh w
  unfold Ends
  cases r with
  -- `InitConfig` unwinds, rejects the deferred, or goes through
  | error e =>
    have hinit : (Consumer.initConfig arg).run sides.answer (new cfg).newDeferred w = (.error e, c, w') :=
      Prog.run_bind_error sides.answer hrun
    rw [Prog.run_bind_error sides.answer hinit]
    exact hc
  | ok res =>
    cases res with
    | error msg =>
      have hinit : (Consumer.initConfig arg).run sides.answer (new cfg).newDeferred w =
          (.ok (), c.reject msg, w') := Prog.run_bind_ok sides.answer hrun
      rw [Prog.run_bind_ok sides.answer hinit]
      have hset := hc.reject msg
      obtain ⟨d, hd, hdone, _⟩ := hset.released
      refine ends_look ?_
      rw [if_pos (by rw [Creation.isDone, hd]; exact hdone)]
      exact hset.accounted
    | ok u =>
      have hinit : (Consumer.initConfig arg).run sides.answer (new cfg).newDeferred w = (.ok (), c, w') :=
        Prog.run_bind_ok sides.answer hrun
      rw [Prog.run_bind_ok sides.answer hinit]
      refine ends_look ?_
      rw [if_neg (by rw [hc.isDone]; rintro ⟨⟩)]
      exact ends_launch hc _ .subscribe

theorem reader_ends (cfg : ReaderConfig) : Ends sides (Reader.newInstance arg) (new cfg) w := by
  unfold Reader.newInstance
  refine ends_change (ends_onConfig (fresh_newDeferred cfg) fun _ c w' hc => ends_look ?_)
  by_cases ht : c.config.topic.isEmpty = true
  · rw [if_pos ht]
    exact ends_reject hc _
  · rw [if_neg ht]
    cases c.config.cStartMessageId with
    | none => exact ends_reject hc _
    | some id => exact ends_launch hc _ .createReader

theorem producer_ends (cfg : ProducerConfig) : Ends sides (Producer.newInstance arg) (new cfg) w := by
  unfold Producer.newInstance
  refine ends_change (ends_onConfig (fresh_newDeferred cfg) fun _ c w' hc => ends_look ?_)
  by_cases ht : c.config.topic.isEmpty = true
  · rw [if_pos ht]
    exact ends_reject hc _
  · rw [if_neg ht]
    exact ends_launch hc _ .createProducer

end NewInstance

/-! ## When the deferred is accounted for -/

/-- The methods of `Client` that create a deferred and read a configuration. -/
inductive Entry
  | subscribe | createReader | createProducer
  deriving DecidableEq, Repr

namespace Entry

/-- The configuration that an entry point reads its argument into. -/
def Cfg : Entry → Type
  | subscribe => ConsumerConfig
  | createReader => ReaderConfig
  | createProducer => ProducerConfig

def newConfig : (e : Entry) → e.Cfg
  | subscribe => ConsumerConfig.new
  | createReader => ReaderConfig.new
  | createProducer => ProducerConfig.new

def newInstance : (e : Entry) → JsValue → Napi (Creation e.Cfg) Unit
  | subscribe => Consumer.newInstance
  | createReader => Reader.newInstance
  | createProducer => Producer.newInstance

variable {J N : Type}

/-- A call of the entry point: how it ends, and what it leaves. -/
def call (e : Entry) (sides : Sides J N) (arg : JsValue) (w : World J N) : CallOutcome × Creation e.Cfg :=
  match (e.newInstance arg).run sides.answer (.new e.newConfig) w with
  | (r, c, w') => (callbackWrapper r w', c)

theorem ends (e : Entry) (sides : Sides J N) (arg : JsValue) (w : World J N) :
    Ends sides (e.newInstance arg) (.new e.newConfig) w := by
  cases e with
  | subscribe => exact consumer_ends sides arg w _
  | createReader => exact reader_ends sides arg w _
  | createProducer => exact producer_ends sides arg w _

/-- A call that comes back leaves its deferred accounted for exactly when no Node-API operation of
the call is refused, which no argument is safe from: a read may throw, and after an unknown
`schemaType` the next read raises the pending exception. -/
theorem accounted_iff (e : Entry) (sides : Sides J N) (arg : JsValue) (w : World J N) :
    ((e.call sides arg w).1.comesBack → Accounted (e.call sides arg w).2) ↔
      Prog.Quiet sides.answer Query.isJs (e.newInstance arg) (.new e.newConfig) w := by
  rw [Prog.quiet_iff sides.answer sides.isJs_iff]
  have hends := e.ends sides arg w
  unfold Ends at hends
  unfold call
  rcases hrun : (e.newInstance arg).run sides.answer (.new e.newConfig) w with ⟨r, c, w'⟩
  rw [hrun] at hends
  dsimp only
  rw [callbackWrapper_comesBack]
  cases r with
  | ok u =>
    constructor
    · intro _ e he
      cases he
    · intro _ _
      exact hends
  -- a refused call leaves its deferred fresh, so all is well only if it does not come back
  | error ex =>
    constructor
    · intro h e' he' hn
      cases he'
      refine Fresh.not_accounted hends (h fun e'' he'' => ?_)
      cases he''
      exact hn
    · intro h hb
      exact absurd (hb ex rfl) (h ex rfl)

/-- A JS side on which every operation raises, as property access on `undefined` does. -/
def refusing : Sides Unit Unit where
  js _ j := (.error (.typeError "Cannot convert undefined or null to object"), j)
  setter _ n := (.ok 0, n)
  start _ n := (none, n)
  createClient _ n := (.ok (), n)

/-- `client.subscribe()`: the call throws, and its deferred is unresolved with no context and no
native call that would settle it. -/
theorem subscribe_undefined_leaks :
    (subscribe.call refusing .undefined ⟨(), none, ()⟩).1.comesBack ∧
      ((subscribe.call refusing .undefined ⟨(), none, ()⟩).2.deferred = some .new ∧
        (subscribe.call refusing .undefined ⟨(), none, ()⟩).2.started = [] ∧
        (subscribe.call refusing .undefined ⟨(), none, ()⟩).2.held = false) ∧
      ¬ Accounted (subscribe.call refusing .undefined ⟨(), none, ()⟩).2 :=
  ⟨trivial, ⟨rfl, rfl, rfl⟩, Fresh.not_accounted ⟨rfl, rfl, rfl, rfl, rfl⟩⟩

end Entry

end PulsarNode
