/-
`Client.createProducer`, `Client.createReader` and `Client.subscribe` from end to end: the native call
that an argument object stands for, or the message that it is rejected with. A run is shown a view and
the names of the properties; nothing is said of what JS does beside, and a run that a read or a setter
ends has called nothing.
-/
import PulsarNode.Create.Outcome
import PulsarNode.Create.Subscribe
import PulsarNode.Translation.Consumer
import PulsarNode.Translation.Producer
import PulsarNode.Translation.Reader

namespace PulsarNode

open Creation Prog

section

variable {J N : Type} (sides : Sides J N) {v : View} {names : JsValue → List String} (arg : JsValue)
  (w : World J N)

namespace Producer

/-- What a producer's configuration is decided to. -/
def decision (cfg : ProducerConfig) : Except String AsyncCall :=
  if cfg.topic.isEmpty then .error "Topic is required and must be specified as a string when creating producer"
  else .ok (.createProducer (cStr cfg.topic) cfg.cProducerConfig)

/-- A producer is created with exactly what its options stand for, or rejected for want of a topic; a run that is
ended by a refusal leaves the deferred as it was made, with no native call. -/
theorem createProducer_translates (hv : v.Lawful) (hshown : v.Shown sides (newInstance arg) (.new .new) w)
    (htold : v.Told names (Answered sides.answer (newInstance arg) (.new .new) w)) :
    Ended createProducerCallback (fun cfg d => cfg = .shown v names arg ∧ d = decision (.shown v names arg))
      ((newInstance arg).run sides.answer (.new .new) w) := by
  have R : Reading v (Answered sides.answer (newInstance arg) (.new .new) w) (fun _ => True) := hshown.reading hv
  refine ended_newDeferred fun _ cfg w' hrun => ?_
  have hans : ∀ q r, Answered sides.answer (ProducerConfig.producerConfig arg) .new w q r →
      Answered sides.answer (newInstance arg) (.new .new) w q r := fun _ _ h => answered_onConfig h
  have hcfg := ensures_run_ok (ProducerConfig.ensures_shown R htold) hans hrun
  subst hcfg
  have hfresh := (fresh_newDeferred ProducerConfig.new).setConfig (.shown v names arg)
  show Ended _ _ (Prog.run sides.answer (if (ProducerConfig.shown v names arg).topic.isEmpty then _ else _) _ w')
  unfold decision
  by_cases ht : (ProducerConfig.shown v names arg).topic.isEmpty = true
  · rw [if_pos ht, if_pos ht]
    exact ended_reject hfresh ⟨rfl, rfl⟩
  · rw [if_neg ht, if_neg ht]
    exact ended_launch hfresh ⟨rfl, rfl⟩

/-- A producer with a router, a property and an access mode. -/
def routed : Heap := { Heap.empty with
  props := fun
    | 0 => [("topic", .string "orders"), ("sendTimeoutMs", .number (.finite 0)),
      ("messageRoutingMode", .string "CustomPartition"), ("properties", .object .plain 1), ("encryptionKey", .string "key"),
      ("accessMode", .string "Exclusive"), ("messageRouter", .object .function 2)]
    | 1 => [("region", .string "eu")]
    | _ => []
  elements := fun
    | 3 => [.string "region"]
    | _ => []
  names := fun _ => 3 }

theorem createProducer_translates_routed :
    ∃ c w', (newInstance (.object .plain 0)).run routed.sides.answer (.new .new) ⟨(), none, ()⟩ = (.ok (), c, w') ∧
      c.config.messageRouter = some (.object .function 2) ∧
      Calls (.createProducer "orders" [.partitionsRoutingMode .customPartition, .property "region" "eu",
        .accessMode .exclusive, .messageRouter]) createProducerCallback c := by
  obtain ⟨c, w', hrun⟩ : ∃ c w', (newInstance (.object .plain 0)).run routed.sides.answer (.new .new)
    ⟨(), none, ()⟩ = (.ok (), c, w') := ⟨_, _, rfl⟩
  have hend := createProducer_translates routed.sides (.object .plain 0) ⟨(), none, ()⟩ routed.lawful
    (routed.steady.shown _ _ _) routed.toldNames
  rw [hrun] at hend
  obtain ⟨d, ⟨hcfg, rfl⟩, hcalls⟩ := hend
  refine ⟨c, w', hrun, ?_, ?_⟩
  · rw [hcfg]
    rfl
  · have hdecision : decision (.shown routed.view routed.propertyNames (.object .plain 0)) =
        .ok (.createProducer "orders" [.partitionsRoutingMode .customPartition, .property "region" "eu",
          .accessMode .exclusive, .messageRouter]) := by rfl
    rwa [hdecision] at hcalls

end Producer

namespace Reader

/-- What a reader's configuration is decided to: the topic is looked at before the start message id. -/
def decision (cfg : ReaderConfig) : Except String AsyncCall :=
  if cfg.topic.isEmpty then .error "Topic is required and must be specified as a string when creating reader"
  else match cfg.cStartMessageId with
    | none => .error "StartMessageId is required and must be specified as a MessageId object when creating reader"
    | some id => .ok (.createReader (cStr cfg.topic) id cfg.cReaderConfig)

theorem createReader_translates (hv : v.Lawful) (hshown : v.Shown sides (newInstance arg) (.new .new) w)
    (htold : v.Told names (Answered sides.answer (newInstance arg) (.new .new) w)) :
    Ended createReaderCallback (fun cfg d => cfg = .shown v arg ∧ d = decision (.shown v arg))
      ((newInstance arg).run sides.answer (.new .new) w) := by
  have R : Reading v (Answered sides.answer (newInstance arg) (.new .new) w) (fun _ => True) := hshown.reading hv
  refine ended_newDeferred fun _ cfg w' hrun => ?_
  have hans : ∀ q r, Answered sides.answer (ReaderConfig.readerConfig arg) .new w q r →
      Answered sides.answer (newInstance arg) (.new .new) w q r := fun _ _ h => answered_onConfig h
  have hcfg := ensures_run_ok (ReaderConfig.ensures_shown R htold) hans hrun
  subst hcfg
  have hfresh := (fresh_newDeferred ReaderConfig.new).setConfig (.shown v arg)
  show Ended _ _ (Prog.run sides.answer (if (ReaderConfig.shown v arg).topic.isEmpty then _ else _) _ w')
  unfold decision
  by_cases ht : (ReaderConfig.shown v arg).topic.isEmpty = true
  · rw [if_pos ht, if_pos ht]
    exact ended_reject hfresh ⟨rfl, rfl⟩
  · rw [if_neg ht, if_neg ht]
    cases hs : (ReaderConfig.shown v arg).cStartMessageId with
    | none => exact ended_reject hfresh ⟨rfl, rfl⟩
    | some id => exact ended_launch hfresh ⟨rfl, rfl⟩

/-- A reader with a listener, a start message id and a failure action that no key path goes with. -/
def listening : Heap := { Heap.empty with
  props := fun
    | 0 => [("topic", .string "orders"), ("startMessageId", .object .plain 1), ("receiverQueueSize", .number (.finite 0)),
      ("listener", .object .function 2), ("cryptoFailureAction", .string "FAIL")]
    | _ => []
  handle := fun
    | 1 => 7
    | _ => 0 }

theorem createReader_translates_listening :
    ∃ c w', (newInstance (.object .plain 0)).run listening.sides.answer (.new .new) ⟨(), none, ()⟩ = (.ok (), c, w') ∧
      Calls (.createReader "orders" 7 [.receiverQueueSize 0, .readerListener 0]) createReaderCallback c := by
  obtain ⟨c, w', hrun⟩ : ∃ c w', (newInstance (.object .plain 0)).run listening.sides.answer (.new .new)
    ⟨(), none, ()⟩ = (.ok (), c, w') := ⟨_, _, rfl⟩
  have hend := createReader_translates listening.sides (.object .plain 0) ⟨(), none, ()⟩ listening.lawful
    (listening.steady.shown _ _ _) listening.toldNames
  rw [hrun] at hend
  obtain ⟨d, ⟨-, rfl⟩, hcalls⟩ := hend
  have hdecision : decision (.shown listening.view (.object .plain 0)) =
      .ok (.createReader "orders" 7 [.receiverQueueSize 0, .readerListener 0]) := by rfl
  rw [hdecision] at hcalls
  exact ⟨c, w', hrun, hcalls⟩

end Reader

namespace Consumer

open SubscribeOptions

/-- What `NewInstance` does with what `InitConfig` comes to. -/
def afterInitConfig : Except String Unit → Napi (Creation ConsumerConfig) Unit
  | .error msg => Prog.change (reject msg) >>= fun _ => dispatch
  | .ok () => dispatch

theorem newInstance_eq (arg : JsValue) : newInstance arg = (do
    Prog.change newDeferred
    let r ← onConfig (ConsumerConfig.initConfig arg)
    afterInitConfig r) := by
  have hassoc : (initConfig arg >>= fun _ => dispatch) = onConfig (ConsumerConfig.initConfig arg) >>= afterInitConfig := by
    unfold initConfig
    rw [bind_assoc]
    congr 1
    funext r
    cases r <;> rfl
  rw [← hassoc]
  rfl

/-- A rejected deferred is done, so that nothing is called after. -/
theorem ended_afterInitConfig {callback : Callback} {post : ConsumerConfig → Except String AsyncCall → Prop}
    {c : Creation ConsumerConfig} (hc : Fresh c) {r : Except String Unit} (hcallback : callback = subscribeCallback)
    (hpost : match r with
      | .error msg => post c.config (.error msg)
      | .ok () => post c.config (.ok (subscribeCall c.config))) :
    Ended callback post ((afterInitConfig r).run sides.answer c w) := by
  subst hcallback
  cases r with
  | error msg =>
    have hrejects := rejects_of_fresh hc msg
    obtain ⟨d, hd, hdone, -⟩ := hrejects.settled.released
    show Ended _ _ (Prog.run sides.answer (if (c.reject msg).isDone then _ else _) (c.reject msg) w)
    rw [if_pos (by rw [Creation.isDone, hd]; exact hdone)]
    refine ⟨.error msg, ?_, hrejects⟩
    show post (settle _ c).config _
    rwa [config_settle]
  | ok u =>
    show Ended _ _ (Prog.run sides.answer (if c.isDone then _ else _) c w)
    rw [if_neg (by rw [hc.isDone]; rintro ⟨⟩)]
    exact ended_launch hc hpost

/-- What a consumer's options are decided to, when the native setter for the batch receive policy reports `status`. -/
def decision (v : View) (names : JsValue → List String) (arg : JsValue) (status : Int) : Except String AsyncCall :=
  match firstViolation v arg status with
  | some msg => .error msg
  | none => .ok (subscribeCall (SubscribeOptions.shown v names arg))

/-- A consumer is subscribed with exactly what its options stand for, or rejected with the message of the first
check that they violate. -/
theorem subscribe_translates (hv : v.Lawful) (hshown : v.Shown sides (newInstance arg) (.new .new) w)
    (htold : v.Told names (Answered sides.answer (newInstance arg) (.new .new) w)) :
    Ended subscribeCallback (fun cfg d => ∃ status,
        BatchReceiveStatus v arg (Answered sides.answer (newInstance arg) (.new .new) w) status ∧
        d = decision v names arg status ∧ (firstViolation v arg status = none → cfg = SubscribeOptions.shown v names arg))
      ((newInstance arg).run sides.answer (.new .new) w) := by
  have R : Reading v (Answered sides.answer (newInstance arg) (.new .new) w) (fun _ => True) := hshown.reading hv
  have hans : ∀ q r, Answered sides.answer (ConsumerConfig.initConfig arg) .new w q r →
      Answered sides.answer (newInstance arg) (.new .new) w q r := by
    intro q r h
    rw [newInstance_eq]
    exact answered_onConfig h
  rw [show (newInstance arg).run sides.answer (.new .new) w = _ from congrArg (·.run sides.answer (.new .new) w)
    (newInstance_eq arg)]
  refine ended_newDeferred fun r cfg w' hrun => ?_
  obtain ⟨⟨status, hstatus, hexit⟩, -⟩ := ensures_run_ok (ensures_initConfig R) hans hrun
  have hcfg := ensures_run_ok (ensures_accepted R htold) hans hrun
  have hfresh := (fresh_newDeferred ConsumerConfig.new).setConfig cfg
  refine ended_afterInitConfig sides _ hfresh rfl ?_
  unfold decision
  cases r with
  | error msg =>
    rw [show exitMessage (.error msg : Except String Unit) = some msg from rfl] at hexit
    exact ⟨status, hstatus, by rw [← hexit], by rw [← hexit]; nofun⟩
  | ok u =>
    rw [show exitMessage (.ok u : Except String Unit) = none from rfl] at hexit
    refine ⟨status, hstatus, ?_, fun _ => hcfg rfl⟩
    rw [← hexit, hcfg rfl]

/-- A key-shared consumer with a sticky range and a dead letter policy. -/
def sticky : Heap := { Heap.empty with
  props := fun
    | 0 => [("topic", .string "orders"), ("subscription", .string "sub"), ("subscriptionType", .string "KeyShared"),
      ("keySharedPolicy", .object .plain 1), ("deadLetterPolicy", .object .plain 4)]
    | 1 => [("keyShareMode", .string "Sticky"), ("stickyRanges", .object .array 2)]
    | 3 => [("start", .number (.finite 0)), ("end", .number (.finite 10))]
    | 4 => [("deadLetterTopic", .string "dlq")]
    | _ => []
  elements := fun
    | 2 => [.object .plain 3]
    | _ => [] }

theorem subscribe_translates_sticky :
    ∃ c w', (newInstance (.object .plain 0)).run sticky.sides.answer (.new .new) ⟨(), none, ()⟩ = (.ok (), c, w') ∧
      Calls (.subscribe "orders" "sub" [.consumerType .keyShared, .dlqPolicy (some "dlq") 0 none,
        .keySharedPolicy ⟨some .sticky, none, some [(0, 10)]⟩]) subscribeCallback c := by
  obtain ⟨c, w', hrun⟩ : ∃ c w', (newInstance (.object .plain 0)).run sticky.sides.answer (.new .new)
    ⟨(), none, ()⟩ = (.ok (), c, w') := ⟨_, _, rfl⟩
  have hend := subscribe_translates sticky.sides (.object .plain 0) ⟨(), none, ()⟩ sticky.lawful
    (sticky.steady.shown _ _ _) sticky.toldNames
  rw [hrun] at hend
  obtain ⟨d, ⟨status, -, rfl, -⟩, hcalls⟩ := hend
  have hdecision : decision sticky.view sticky.propertyNames (.object .plain 0) status =
      .ok (.subscribe "orders" "sub" [.consumerType .keyShared, .dlqPolicy (some "dlq") 0 none,
        .keySharedPolicy ⟨some .sticky, none, some [(0, 10)]⟩]) := by rfl
  rw [hdecision] at hcalls
  exact ⟨c, w', hrun, hcalls⟩

end Consumer

end

end PulsarNode
