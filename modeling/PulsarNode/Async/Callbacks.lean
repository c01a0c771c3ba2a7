/-
The native callbacks of the asynchronous operations: what each does with the deferred it is given,
for the result the native client reports. The callbacks are written by hand in the source, one for
each operation; `callback_settles` says once what all of them come to.
-/
import PulsarNode.Config.Schema
import PulsarNode.Deferred.Basic

namespace PulsarNode

/-- The operations that return the promise of a `ThreadSafeDeferred`. -/
inductive Op
  | producerSend | producerFlush | producerClose
  | consumerReceive | consumerBatchReceive
  | consumerAcknowledge | consumerAcknowledgeId
  | consumerAcknowledgeCumulative | consumerAcknowledgeCumulativeId
  | consumerSeek | consumerSeekTimestamp | consumerClose | consumerUnsubscribe
  | readerSeek | readerSeekTimestamp | readerClose
  | getPartitionsForTopic | getSchemaInfo | clientClose
  | createProducer | subscribe | createReader
  deriving DecidableEq, Repr

/-! ## The callbacks -/

/-- What a callback does with its deferred: the deferred after, or the literal it throws. -/
abbrev Callback := Reply → ThreadSafeDeferred → Except String ThreadSafeDeferred

/-- `if (result != pulsar_result_Ok) Reject(failure + str(result)) else Resolve(value)`. -/
def settleResult (failure : String) (value : Reply → CreateValueCb) : Callback := fun reply deferred =>
  if reply.result ≠ .ok then
    deferred.reject (failure ++ pulsarResultStr reply.result)
  else
    deferred.resolve (some (value reply))

namespace Producer

def sendCallback : Callback := settleResult "Failed to send message: " fun r => .messageId r.rawPtr

def flushCallback : Callback := settleResult "Failed to flush producer: " fun _ => .null

def closeCallback : Callback := settleResult "Failed to close producer: " fun _ => .null

/-- The callback of `Producer::NewInstance`. -/
def createProducerCallback : Callback :=
  settleResult "Failed to create producer: " fun r => .producer r.rawPtr

end Producer

namespace Consumer

def subscribeCallback : Callback := settleResult "Failed to create consumer: " fun r => .consumer r.rawPtr

def receiveCallback : Callback := settleResult "Failed to receive message: " fun r => .message r.rawPtr

def batchReceiveCallback : Callback :=
  settleResult "Failed to batch receive message: " fun r => .messages r.rawPtr

def acknowledgeCallback : Callback := settleResult "Failed to acknowledge: " fun _ => .null

def acknowledgeIdCallback : Callback := settleResult "Failed to acknowledge id: " fun _ => .null

def acknowledgeCumulativeCallback : Callback :=
  settleResult "Failed to acknowledge cumulatively: " fun _ => .null

def acknowledgeCumulativeIdCallback : Callback :=
  settleResult "Failed to acknowledge cumulatively by id: " fun _ => .null

def seekCallback : Callback := settleResult "Failed to seek message by id: " fun _ => .null

def seekTimestampCallback : Callback := settleResult "Failed to seek message by timestamp: " fun _ => .null

def closeCallback : Callback := settleResult "Failed to close consumer: " fun _ => .null

def unsubscribeCallback : Callback := settleResult "Failed to unsubscribe consumer: " fun _ => .null

end Consumer

namespace Reader

def createReaderCallback : Callback := settleResult "Failed to create reader: " fun r => .reader r.rawPtr

def seekCallback : Callback := settleResult "Failed to seek message by id: " fun _ => .null

def seekTimestampCallback : Callback := settleResult "Failed to seek message by timestamp: " fun _ => .null

def closeCallback : Callback := settleResult "Failed to close reader: " fun _ => .null

end Reader

namespace Client

/-- The one callback that tests the pointer along with the result. -/
def getPartitionsForTopicCallback : Callback := fun reply deferred =>
  match reply.result, reply.rawPtr with
  | .ok, some topicList => deferred.resolve (some (.topicList topicList))
  | result, _ => deferred.reject ("Failed to GetPartitionsForTopic: " ++ pulsarResultStr result)

def getSchemaInfoCallback : Callback := fun reply deferred =>
  if reply.result ≠ .ok then
    deferred.reject ("Failed to get schema info: " ++ pulsarResultStr reply.result)
  else
    match SchemaInfo.getSchemaTypeName reply.schemaInfo.schemaType with
    | none =>
      deferred.reject
        ("Failed to get schema info: unsupported schema type " ++ toString reply.schemaInfo.schemaType)
    | some schemaTypeName => deferred.resolve (some (.schemaInfo schemaTypeName reply.schemaInfo))

def closeCallback : Callback := settleResult "Failed to close client: " fun _ => .null

end Client

namespace Op

/-- The callback that an operation gives to the native client. -/
def callback : Op → Callback
  | producerSend => Producer.sendCallback
  | producerFlush => Producer.flushCallback
  | producerClose => Producer.closeCallback
  | consumerReceive => Consumer.receiveCallback
  | consumerBatchReceive => Consumer.batchReceiveCallback
  | consumerAcknowledge => Consumer.acknowledgeCallback
  | consumerAcknowledgeId => Consumer.acknowledgeIdCallback
  | consumerAcknowledgeCumulative => Consumer.acknowledgeCumulativeCallback
  | consumerAcknowledgeCumulativeId => Consumer.acknowledgeCumulativeIdCallback
  | consumerSeek => Consumer.seekCallback
  | consumerSeekTimestamp => Consumer.seekTimestampCallback
  | consumerClose => Consumer.closeCallback
  | consumerUnsubscribe => Consumer.unsubscribeCallback
  | readerSeek => Reader.seekCallback
  | readerSeekTimestamp => Reader.seekTimestampCallback
  | readerClose => Reader.closeCallback
  | getPartitionsForTopic => Client.getPartitionsForTopicCallback
  | getSchemaInfo => Client.getSchemaInfoCallback
  | clientClose => Client.closeCallback
  | createProducer => Producer.createProducerCallback
  | subscribe => Consumer.subscribeCallback
  | createReader => Reader.createReaderCallback

/-! ## What an operation's promise comes to -/

/-- The native client reported success with a value that the operation can return. -/
def Usable (op : Op) (reply : Reply) : Prop :=
  reply.result = .ok ∧ (op = getPartitionsForTopic → reply.rawPtr ≠ none) ∧
    (op = getSchemaInfo → SchemaInfo.getSchemaTypeName reply.schemaInfo.schemaType ≠ none)

instance (op : Op) (reply : Reply) : Decidable (op.Usable reply) :=
  inferInstanceAs (Decidable (_ ∧ _ ∧ _))

/-- What an operation reports a failure as. -/
def failure : Op → String
  | producerSend => "Failed to send message: "
  | producerFlush => "Failed to flush producer: "
  | producerClose => "Failed to close producer: "
  | consumerReceive => "Failed to receive message: "
  | consumerBatchReceive => "Failed to batch receive message: "
  | consumerAcknowledge => "Failed to acknowledge: "
  | consumerAcknowledgeId => "Failed to acknowledge id: "
  | consumerAcknowledgeCumulative => "Failed to acknowledge cumulatively: "
  | consumerAcknowledgeCumulativeId => "Failed to acknowledge cumulatively by id: "
  | consumerSeek | readerSeek => "Failed to seek message by id: "
  | consumerSeekTimestamp | readerSeekTimestamp => "Failed to seek message by timestamp: "
  | consumerClose => "Failed to close consumer: "
  | consumerUnsubscribe => "Failed to unsubscribe consumer: "
  | readerClose => "Failed to close reader: "
  | getPartitionsForTopic => "Failed to GetPartitionsForTopic: "
  | getSchemaInfo => "Failed to get schema info: "
  | clientClose => "Failed to close client: "
  | createProducer => "Failed to create producer: "
  | subscribe => "Failed to create consumer: "
  | createReader => "Failed to create reader: "

/-- Why a reply cannot be used: its result, or the schema type that has no name. -/
def reason (op : Op) (reply : Reply) : String :=
  if op = getSchemaInfo ∧ reply.result = .ok then
    "unsupported schema type " ++ toString reply.schemaInfo.schemaType
  else
    pulsarResultStr reply.result

/-- The value of a usable reply. -/
def value (op : Op) (reply : Reply) : CreateValueCb :=
  match op with
  | producerSend => .messageId reply.rawPtr
  | consumerReceive => .message reply.rawPtr
  | consumerBatchReceive => .messages reply.rawPtr
  | getPartitionsForTopic => .topicList (reply.rawPtr.getD 0)
  | getSchemaInfo =>
    .schemaInfo ((SchemaInfo.getSchemaTypeName reply.schemaInfo.schemaType).getD "") reply.schemaInfo
  | createProducer => .producer reply.rawPtr
  | subscribe => .consumer reply.rawPtr
  | createReader => .reader reply.rawPtr
  | _ => .null

/-- What the promise of an operation is settled with, by the reply of the native client. -/
def expected (op : Op) (reply : Reply) : JsPromise :=
  if op.Usable reply then .fulfilled (some (op.value reply)) else .rejected (op.failure ++ op.reason reply)

/-! ## The callbacks settle the promise so -/

end Op

/-- `d'` is the deferred `d` settled, so that the finalizer settles the promise with `promise`. -/
structure ThreadSafeDeferred.SettledAs (d : ThreadSafeDeferred) (promise : JsPromise)
    (d' : ThreadSafeDeferred) : Prop where
  isDone : d'.isDone = true
  settlement : d'.settlement = promise
  tsf : d'.tsf = d.tsf - 1
  self : d'.self = d.self
  resolver : d'.createValueCb.isSome = true → d'.fate = .resolved ∨ d.createValueCb.isSome = true

/-- A deferred that one party settled has no holder left. -/
theorem ThreadSafeDeferred.SettledAs.balanced {d d' : ThreadSafeDeferred} {promise : JsPromise}
    (h : d.SettledAs promise d') (hb : d.Balanced) (hd : d.isDone = false) : d'.Balanced := by
  refine ⟨?_, fun hv => (h.resolver hv).resolve_right fun hv' => ?_⟩
  · rw [h.isDone, h.tsf, hb.holders, hd]
    rfl
  · rw [isDone_of_resolved (hb.resolver hv')] at hd
    cases hd

theorem ThreadSafeDeferred.SettledAs.not_resolved {d d' : ThreadSafeDeferred} {msg : String}
    (h : d.SettledAs (.rejected msg) d') : d'.fate ≠ .resolved := by
  intro hf
  have hset := h.settlement
  rw [ThreadSafeDeferred.settlement, if_pos hf] at hset
  cases hset

open ThreadSafeDeferred in
theorem ThreadSafeDeferred.resolve_settledAs (v : CreateValueCb) {d : ThreadSafeDeferred}
    (h : d.isDone = false) :
    ∃ d', d.resolve (some v) = .ok d' ∧ d.SettledAs (.fulfilled (some v)) d' :=
  ⟨_, resolve_unsettled (some v) h, rfl, rfl, rfl, rfl, fun _ => .inl rfl⟩

open ThreadSafeDeferred in
theorem ThreadSafeDeferred.reject_settledAs (msg : String) {d : ThreadSafeDeferred}
    (h : d.isDone = false) :
    ∃ d', d.reject msg = .ok d' ∧ d.SettledAs (.rejected msg) d' :=
  ⟨_, reject_unsettled msg h, rfl, rfl, rfl, rfl, .inr⟩

/-- The pattern of most callbacks settles by the result alone. -/
theorem settleResult_settles (failure : String) (value : Reply → CreateValueCb) (reply : Reply)
    {d : ThreadSafeDeferred} (h : d.isDone = false) :
    ∃ d', settleResult failure value reply d = .ok d' ∧
      d.SettledAs (if reply.result = .ok then .fulfilled (some (value reply))
        else .rejected (failure ++ pulsarResultStr reply.result)) d' := by
  unfold settleResult
  by_cases hr : reply.result = .ok
  · rw [if_neg (not_not.2 hr), if_pos hr]
    exact d.resolve_settledAs (value reply) h
  · rw [if_pos hr, if_neg hr]
    exact d.reject_settledAs _ h

theorem Op.expected_of_result {op : Op} (hp : op ≠ getPartitionsForTopic) (hs : op ≠ getSchemaInfo)
    (reply : Reply) :
    op.expected reply = if reply.result = .ok then .fulfilled (some (op.value reply))
      else .rejected (op.failure ++ pulsarResultStr reply.result) := by
  simp [Op.expected, Op.Usable, Op.reason, hp, hs]

theorem getPartitionsForTopic_settles (reply : Reply) {d : ThreadSafeDeferred} (h : d.isDone = false) :
    ∃ d', Client.getPartitionsForTopicCallback reply d = .ok d' ∧
      d.SettledAs (Op.getPartitionsForTopic.expected reply) d' := by
  unfold Client.getPartitionsForTopicCallback
  rcases hr : reply.result with _ | text
  · rcases hp : reply.rawPtr with _ | topicList
    · simpa [Op.expected, Op.Usable, hr, hp, Op.failure, Op.reason] using d.reject_settledAs _ h
    · simpa [Op.expected, Op.Usable, hr, hp, Op.value] using d.resolve_settledAs (.topicList topicList) h
  · simpa [Op.expected, Op.Usable, hr, Op.failure, Op.reason] using d.reject_settledAs _ h

theorem getSchemaInfo_settles (reply : Reply) {d : ThreadSafeDeferred} (h : d.isDone = false) :
    ∃ d', Client.getSchemaInfoCallback reply d = .ok d' ∧
      d.SettledAs (Op.getSchemaInfo.expected reply) d' := by
  unfold Client.getSchemaInfoCallback
  by_cases hr : reply.result = .ok
  · rw [if_neg (not_not.2 hr)]
    rcases ht : SchemaInfo.getSchemaTypeName reply.schemaInfo.schemaType with _ | name
    · have hmsg : Op.getSchemaInfo.expected reply =
          .rejected ("Failed to get schema info: unsupported schema type " ++
            toString reply.schemaInfo.schemaType) := by
        have hu : ¬ Op.getSchemaInfo.Usable reply := fun hu => hu.2.2 rfl ht
        rw [Op.expected, if_neg hu, Op.reason, if_pos ⟨rfl, hr⟩, ← String.append_assoc]
        rfl
      rw [hmsg]
      exact d.reject_settledAs _ h
    · simpa [Op.expected, Op.Usable, hr, ht, Op.value] using
        d.resolve_settledAs (.schemaInfo name reply.schemaInfo) h
  · rw [if_pos hr]
    simpa [Op.expected, Op.Usable, hr, Op.failure, Op.reason] using d.reject_settledAs _ h

/-- Every callback settles an unsettled deferred with what its operation's reply calls for. -/
theorem Op.callback_settles (op : Op) (reply : Reply) {d : ThreadSafeDeferred} (h : d.isDone = false) :
    ∃ d', op.callback reply d = .ok d' ∧ d.SettledAs (op.expected reply) d' := by
  have hr := settleResult_settles op.failure op.value reply h
  cases op with
  | getPartitionsForTopic => exact getPartitionsForTopic_settles reply h
  | getSchemaInfo => exact getSchemaInfo_settles reply h
  | _ =>
    rw [Op.expected_of_result (by decide) (by decide)]
    exact hr

/-- A promise is fulfilled for a usable reply, and rejected with the operation's own reason for any
other. -/
theorem Op.expected_fulfilled (op : Op) (reply : Reply) :
    (∃ v, op.expected reply = .fulfilled v) ↔ op.Usable reply := by
  unfold Op.expected
  by_cases h : op.Usable reply <;> simp [h]

end PulsarNode
