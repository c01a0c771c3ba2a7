/-
`ConsumerConfig::InitConfig`, section by section in the order of the source. A section that
rejects the deferred returns the message, and `InitConfig` returns there; a read that raises
unwinds, with the members set so far in place. Each setter call is recorded once it has returned.
-/
import PulsarNode.Config.Schema

namespace PulsarNode

/-- `MIN_ACK_TIMEOUT_MILLIS`. -/
def minAckTimeoutMillis : Int := 10000

/-- The members of `ConsumerConfig`; the native configuration is the setter calls made on it. -/
structure ConsumerConfig where
  topic : String
  topics : List String
  topicsPattern : String
  subscription : String
  ackTimeoutMs : Int
  nAckRedeliverTimeoutMs : Int
  listener : Option Handle
  cConsumerConfig : List ConsumerSetter
  deriving DecidableEq

namespace ConsumerConfig

open Napi

def new : ConsumerConfig := ⟨"", [], "", "", 0, 60000, none, []⟩

/-! ## Option names and tables -/

def cfgTopic : String := "topic"
def cfgTopics : String := "topics"
def cfgTopicsPattern : String := "topicsPattern"
def cfgSubscription : String := "subscription"
def cfgSubscriptionType : String := "subscriptionType"
def cfgInitPosition : String := "subscriptionInitialPosition"
def cfgRegexSubscriptionMode : String := "regexSubscriptionMode"
def cfgAckTimeout : String := "ackTimeoutMs"
def cfgNackRedeliverTimeout : String := "nAckRedeliverTimeoutMs"
def cfgRecvQueue : String := "receiverQueueSize"
def cfgRecvQueueAcrossPartitions : String := "receiverQueueSizeAcrossPartitions"
def cfgConsumerName : String := "consumerName"
def cfgProps : String := "properties"
def cfgListener : String := "listener"
def cfgReadCompacted : String := "readCompacted"
def cfgSchema : String := "schema"
def cfgPrivateKeyPath : String := "privateKeyPath"
def cfgCryptoFailureAction : String := "cryptoFailureAction"
def cfgMaxPendingChunkedMessage : String := "maxPendingChunkedMessage"
def cfgAutoAckOldestChunkedMessageOnQueueFull : String := "autoAckOldestChunkedMessageOnQueueFull"
def cfgBatchIndexAckEnabled : String := "batchIndexAckEnabled"
def cfgDeadLetterPolicy : String := "deadLetterPolicy"
def cfgDlqPolicyTopic : String := "deadLetterTopic"
def cfgDlqPolicyMaxRedeliverCount : String := "maxRedeliverCount"
def cfgDlqPolicyInitSubName : String := "initialSubscriptionName"
def cfgBatchReceivePolicy : String := "batchReceivePolicy"
def cfgBatchReceivePolicyMaxNumMessages : String := "maxNumMessages"
def cfgBatchReceivePolicyMaxNumBytes : String := "maxNumBytes"
def cfgBatchReceivePolicyTimeoutMs : String := "timeoutMs"
def cfgKeySharedPolicy : String := "keySharedPolicy"
def cfgKeySharedPolicyMode : String := "keyShareMode"
def cfgKeySharedPolicyAllowOutOfOrder : String := "allowOutOfOrderDelivery"
def cfgKeySharedPolicyStickyRanges : String := "stickyRanges"
def cfgCryptoKeyReader : String := "cryptoKeyReader"
def cfgReplicateSubscriptionState : String := "replicateSubscriptionState"

def subscriptionTypes : List (String × ConsumerType) :=
  [("Exclusive", .exclusive), ("Shared", .shared), ("KeyShared", .keyShared), ("Failover", .failover)]

def regexSubscriptionModes : List (String × RegexSubscriptionMode) :=
  [("PersistentOnly", .persistentOnly), ("NonPersistentOnly", .nonPersistentOnly),
    ("AllTopics", .allTopics)]

def initPositions : List (String × InitialPosition) := [("Latest", .latest), ("Earliest", .earliest)]

def consumerCryptoFailureActions : List (String × ConsumerCryptoFailureAction) :=
  [("FAIL", .fail), ("DISCARD", .discard), ("CONSUME", .consume)]

def consumerKeySharedPolicyModes : List (String × KeySharedMode) :=
  [("AutoSplit", .autoSplit), ("Sticky", .sticky)]

/-! ## Sections -/

/-- A section of `InitConfig`: `.error msg` when it rejects the deferred with `msg`. -/
abbrev Section := Napi ConsumerConfig (Except String Unit)

/-- A call of a setter on the native configuration: its status. -/
def call (c : ConsumerSetter) : Napi ConsumerConfig Int := do
  let status ← setter (.consumer c)
  Prog.change fun cfg => { cfg with cConsumerConfig := cfg.cConsumerConfig ++ [c] }
  return status

/-- A call of a setter whose status is not looked at. -/
def set (c : ConsumerSetter) : Napi ConsumerConfig Unit := do
  let _ ← call c
  return ()

def initTopic (config : JsValue) : Napi ConsumerConfig Unit :=
  ifString config cfgTopic fun t => Prog.change ({ · with topic := t })

/-- The string elements of the `topics` array. -/
def initTopics (config : JsValue) : Napi ConsumerConfig Unit := do
  if ← hasAs config cfgTopics JsValue.isArray then
    let arr ← get config cfgTopics
    let _ ← forLength (γ := Empty) arr (fun i _ => do
      if (← getAt arr i).isString then
        let t ← toString (← getAt arr i)
        Prog.change fun cfg => { cfg with topics := cfg.topics ++ [t] }
      return .ok ()) ()

def initTopicsPattern (config : JsValue) : Napi ConsumerConfig Unit :=
  ifString config cfgTopicsPattern fun t => Prog.change ({ · with topicsPattern := t })

def initTarget (config : JsValue) : Section := do
  initTopic config
  initTopics config
  initTopicsPattern config
  let cfg ← Prog.look
  if cfg.topic.isEmpty && cfg.topics.isEmpty && cfg.topicsPattern.isEmpty then
    return .error ("Topic, topics or topicsPattern is required and must be specified as a string when " ++
      "creating consumer")
  return .ok ()

def initSubscription (config : JsValue) : Section := do
  ifString config cfgSubscription fun t => Prog.change ({ · with subscription := t })
  let cfg ← Prog.look
  if cfg.subscription.isEmpty then
    return .error "Subscription is required and must be specified as a string when creating consumer"
  return .ok ()

def initSubscriptionOptions (config : JsValue) : Napi ConsumerConfig Unit := do
  ifNamed config cfgSubscriptionType subscriptionTypes fun t => set (.consumerType t)
  ifNamed config cfgInitPosition initPositions fun p => set (.subscriptionInitialPosition p)
  ifNamed config cfgRegexSubscriptionMode regexSubscriptionModes fun m => set (.regexSubscriptionMode m)
  ifString config cfgConsumerName fun name => do
    if !name.isEmpty then set (.consumerName (cStr name))

def initAckTimeout (config : JsValue) : Section := do
  if ← hasAs config cfgAckTimeout JsValue.isNumber then
    let ms := (← getNumber config cfgAckTimeout).int64Value
    Prog.change ({ · with ackTimeoutMs := ms })
    if ms ≠ 0 ∧ ms < minAckTimeoutMillis then
      return .error ("Ack timeout should be 0 or greater than or equal to " ++ s!"{minAckTimeoutMillis}")
    set (.unackedMessagesTimeoutMs ms)
  return .ok ()

def initNAckRedeliverTimeout (config : JsValue) : Section := do
  if ← hasAs config cfgNackRedeliverTimeout JsValue.isNumber then
    let ms := (← getNumber config cfgNackRedeliverTimeout).int64Value
    Prog.change ({ · with nAckRedeliverTimeoutMs := ms })
    if ms < 0 then
      return .error "NAck timeout should be greater than or equal to zero"
    set (.negativeAckRedeliveryDelayMs ms)
  return .ok ()

/-- A queue size or limit: `Int32Value`, forwarded when it is not negative. -/
def setNonNegative (config : JsValue) (key : String) (c : Int → ConsumerSetter) :
    Napi ConsumerConfig Unit :=
  ifNumber config key fun x => do
    if 0 ≤ x.int32Value then set (c x.int32Value)

def initQueueSizes (config : JsValue) : Napi ConsumerConfig Unit := do
  setNonNegative config cfgRecvQueue .receiverQueueSize
  setNonNegative config cfgRecvQueueAcrossPartitions .maxTotalReceiverQueueSizeAcrossPartitions

def initSchema (config : JsValue) : Napi ConsumerConfig Unit :=
  ifObject config cfgSchema fun o => do
    set (.schema (← SchemaInfo.schemaInfo o))

def initProperties (config : JsValue) : Napi ConsumerConfig Unit :=
  ifObject config cfgProps fun propObj =>
    forProperties propObj cStr (fun k v _ => set (.property (cStr k) (cStr v))) ()

/-- The listener record and its thread-safe function, made from a third read of the option. -/
def initListener (config : JsValue) : Napi ConsumerConfig Unit := do
  if ← hasAs config cfgListener JsValue.isFunction then
    -- `this->listener` is set from here on, and the destructor releases its function
    let listener ← newListener config cfgListener
    Prog.change ({ · with listener := some listener })
    set (.messageListener listener)

def initReadCompacted (config : JsValue) : Napi ConsumerConfig Unit :=
  ifBoolean config cfgReadCompacted fun b => do
    if b then set .readCompacted

def initCrypto (config : JsValue) : Napi ConsumerConfig Unit := do
  ifString config cfgPrivateKeyPath fun path => set (.defaultCryptoKeyReader "" (cStr path))
  if ← hasAs config cfgCryptoKeyReader JsValue.isObject then
    let reader ← unwrapCryptoKeyReader (← get config cfgCryptoKeyReader)
    set (.cryptoKeyReader reader)
  ifNamed config cfgCryptoFailureAction consumerCryptoFailureActions fun a => set (.cryptoFailureAction a)

def initChunking (config : JsValue) : Napi ConsumerConfig Unit := do
  setNonNegative config cfgMaxPendingChunkedMessage .maxPendingChunkedMessage
  ifBoolean config cfgAutoAckOldestChunkedMessageOnQueueFull fun b =>
    set (.autoAckOldestChunkedMessageOnQueueFull b)
  ifBoolean config cfgBatchIndexAckEnabled fun b => set (.batchIndexAckEnabled b)

/-- A string option of a nested object, `none` when it is not given. -/
def stringOption (o : JsValue) (key : String) : Napi ConsumerConfig (Option String) := do
  if ← hasAs o key JsValue.isString then
    return some (← getString o key)
  return none

/-- A number option of a nested object, converted, or its default. -/
def numberOption (o : JsValue) (key : String) (convert : JsNumber → Int) (dflt : Int) :
    Napi ConsumerConfig Int := do
  if ← hasAs o key JsValue.isNumber then
    return convert (← getNumber o key)
  return dflt

def initDeadLetterPolicy (config : JsValue) : Napi ConsumerConfig Unit :=
  ifObject config cfgDeadLetterPolicy fun o => do
    let topic ← stringOption o cfgDlqPolicyTopic
    let count ← numberOption o cfgDlqPolicyMaxRedeliverCount JsNumber.int32Value 0
    let sub ← stringOption o cfgDlqPolicyInitSubName
    set (.dlqPolicy (topic.map cStr) count (sub.map cStr))

/-- The numbers are kept in C++ `int`s, also those read with `Int64Value`. -/
def initBatchReceivePolicy (config : JsValue) : Section := do
  if ← hasAs config cfgBatchReceivePolicy JsValue.isObject then
    let o ← getObject config cfgBatchReceivePolicy
    let maxNumMessages ← numberOption o cfgBatchReceivePolicyMaxNumMessages JsNumber.int32Value (-1)
    let maxNumBytes ←
      numberOption o cfgBatchReceivePolicyMaxNumBytes (fun x => toInt x.int64Value) (10 * 1024 * 1024)
    let timeoutMs ← numberOption o cfgBatchReceivePolicyTimeoutMs (fun x => toInt x.int64Value) 100
    -- two of the three defaults are positive
    if maxNumMessages ≤ 0 ∧ maxNumBytes ≤ 0 ∧ timeoutMs ≤ 0 then
      return .error "At least one of maxNumMessages, maxNumBytes and timeoutMs must be specified."
    let result ← call (.batchReceivePolicy maxNumMessages maxNumBytes timeoutMs)
    if result = -1 then
      return .error "Set batch receive policy failed: C client returned failure"
  return .ok ()

/-- One element of `stickyRanges`: the range, or the message of the rejection. -/
def stickyRange (rangesArray : JsValue) (i : Nat) : Napi ConsumerConfig (Except String (Int × Int)) := do
  if (← getAt rangesArray i).isObject then
    let rangeObj ← toObject (← getAt rangesArray i)
    -- the operands of `&&`, up to the first that is false
    let both ←
      (do
        if ← has rangeObj "start" then
          if ← has rangeObj "end" then
            if (← get rangeObj "start").isNumber then
              return (← get rangeObj "end").isNumber
        return false : Napi ConsumerConfig Bool)
    if both then
      let start := (← getNumber rangeObj "start").int32Value
      let stop := (← getNumber rangeObj "end").int32Value
      if start > stop then
        return .error s!"Invalid sticky range at index {i}: start ({start}) > end ({stop})"
      return .ok (start, stop)
    else
      return .error (s!"Invalid sticky range format at index {i}" ++
        ": missing 'start'/'end' or invalid type, should be number type")
  else
    return .error s!"Sticky range element at index {i} is not an object"

/-- The loop over `stickyRanges`: the ranges in order, or the first rejection. -/
def stickyRanges (rangesArray : JsValue) : Napi ConsumerConfig (Except String (List (Int × Int))) :=
  forLength rangesArray (fun i ranges => do
    match ← stickyRange rangesArray i with
    | .error msg => return .error msg
    | .ok r => return .ok (ranges ++ [r])) []

/-- A setter of the local key-shared policy. -/
def setPolicy (c : KeySharedPolicySetter) : Napi ConsumerConfig Unit := do
  let _ ← setter (.keySharedPolicy c)
  return ()

def readKeyShareMode (o : JsValue) (p : KeySharedPolicy) : Napi ConsumerConfig KeySharedPolicy := do
  if ← hasAs o cfgKeySharedPolicyMode JsValue.isString then
    let name ← getString o cfgKeySharedPolicyMode
    match consumerKeySharedPolicyModes.lookup name with
    | some m =>
      setPolicy (.keySharedMode m)
      return { p with keySharedMode := some m }
    | none => return p
  return p

def readAllowOutOfOrder (o : JsValue) (p : KeySharedPolicy) : Napi ConsumerConfig KeySharedPolicy := do
  if ← hasAs o cfgKeySharedPolicyAllowOutOfOrder JsValue.isBoolean then
    let b ← getBoolean o cfgKeySharedPolicyAllowOutOfOrder
    setPolicy (.allowOutOfOrderDelivery b)
    return { p with allowOutOfOrderDelivery := some b }
  return p

def readStickyRanges (o : JsValue) (p : KeySharedPolicy) :
    Napi ConsumerConfig (Except String KeySharedPolicy) := do
  if ← hasAs o cfgKeySharedPolicyStickyRanges JsValue.isArray then
    match ← stickyRanges (← get o cfgKeySharedPolicyStickyRanges) with
    | .error msg => return .error msg
    | .ok ranges =>
      setPolicy (.stickyRanges ranges)
      return .ok { p with stickyRanges := some ranges }
  return .ok p

def initKeySharedPolicy (config : JsValue) : Section := do
  if ← hasAs config cfgKeySharedPolicy JsValue.isObject then
    let o ← getObject config cfgKeySharedPolicy
    let p ← readAllowOutOfOrder o (← readKeyShareMode o ⟨none, none, none⟩)
    match ← readStickyRanges o p with
    | .error msg => return .error msg
    | .ok p' => set (.keySharedPolicy p')
  return .ok ()

def initReplicateSubscriptionState (config : JsValue) : Napi ConsumerConfig Unit :=
  ifBoolean config cfgReplicateSubscriptionState fun b => set (.replicateSubscriptionStateEnabled b)

/-- The sections of `InitConfig`. -/
def sections (config : JsValue) : List Section :=
  [initTarget config, initSubscription config, Prog.always (initSubscriptionOptions config),
    initAckTimeout config, initNAckRedeliverTimeout config, Prog.always (initQueueSizes config),
    Prog.always (initSchema config), Prog.always (initProperties config),
    Prog.always (initListener config), Prog.always (initReadCompacted config),
    Prog.always (initCrypto config), Prog.always (initChunking config),
    Prog.always (initDeadLetterPolicy config), initBatchReceivePolicy config,
    initKeySharedPolicy config, Prog.always (initReplicateSubscriptionState config)]

/-- `ConsumerConfig::InitConfig`: the message it rejects the deferred with, if it does. -/
def initConfig (config : JsValue) : Section := Prog.firstError (sections config)

end ConsumerConfig

end PulsarNode
