/-
`ProducerConfig::ProducerConfig`. The constructor never rejects; `Producer::NewInstance` checks the
topic afterwards. `accessMode` and `batchingType` are converted to strings whatever they are.
-/
import PulsarNode.Config.Schema

namespace PulsarNode

/-- The members of `ProducerConfig`; the native configuration is the setter calls made on it. -/
structure ProducerConfig where
  topic : String
  messageRouter : Option JsValue
  cProducerConfig : List ProducerSetter
  deriving DecidableEq

namespace ProducerConfig

open Napi

def new : ProducerConfig := ⟨"", none, []⟩

/-! ## Option names and tables -/

def cfgTopic : String := "topic"
def cfgProducerName : String := "producerName"
def cfgSendTimeout : String := "sendTimeoutMs"
def cfgInitSequenceId : String := "initialSequenceId"
def cfgMaxPending : String := "maxPendingMessages"
def cfgMaxPendingAcrossPartitions : String := "maxPendingMessagesAcrossPartitions"
def cfgBlockIfQueueFull : String := "blockIfQueueFull"
def cfgRoutingMode : String := "messageRoutingMode"
def cfgHashScheme : String := "hashingScheme"
def cfgCompressType : String := "compressionType"
def cfgBatchEnabled : String := "batchingEnabled"
def cfgBatchMaxDelay : String := "batchingMaxPublishDelayMs"
def cfgBatchMaxMsg : String := "batchingMaxMessages"
def cfgBatchMaxAllowedSizeInBytes : String := "batchingMaxAllowedSizeInBytes"
def cfgSchema : String := "schema"
def cfgProps : String := "properties"
def cfgPublicKeyPath : String := "publicKeyPath"
def cfgEncryptionKey : String := "encryptionKey"
def cfgEncryptionKeys : String := "encryptionKeys"
def cfgCryptoKeyReader : String := "cryptoKeyReader"
def cfgCryptoFailureAction : String := "cryptoFailureAction"
def cfgChunkEnabled : String := "chunkingEnabled"
def cfgAccessMode : String := "accessMode"
def cfgBatchingType : String := "batchingType"
def cfgMessageRouter : String := "messageRouter"

def messageRoutingModes : List (String × PartitionsRoutingMode) :=
  [("UseSinglePartition", .useSinglePartition), ("RoundRobinDistribution", .roundRobinDistribution),
    ("CustomPartition", .customPartition)]

def hashingSchemes : List (String × HashingScheme) :=
  [("Murmur3_32Hash", .murmur3_32Hash), ("BoostHash", .boostHash), ("JavaStringHash", .javaStringHash)]

def compressionTypes : List (String × CompressionType) :=
  [("None", .none), ("Zlib", .zLib), ("LZ4", .lz4), ("ZSTD", .zstd), ("SNAPPY", .snappy)]

def producerCryptoFailureActions : List (String × ProducerCryptoFailureAction) :=
  [("FAIL", .fail), ("SEND", .send)]

def producerAccessModes : List (String × ProducerAccessMode) :=
  [("Shared", .shared), ("Exclusive", .exclusive), ("WaitForExclusive", .waitForExclusive),
    ("ExclusiveWithFencing", .exclusiveWithFencing)]

def producerBatchingTypes : List (String × BatchingType) :=
  [("DefaultBatching", .defaultBatching), ("KeyBasedBatching", .keyBasedBatching)]

/-! ## The constructor -/

def set (c : ProducerSetter) : Napi ProducerConfig Unit := do
  let _ ← setter (.producer c)
  Prog.change fun cfg => { cfg with cProducerConfig := cfg.cProducerConfig ++ [c] }

/-- A number option, converted, forwarded when it is positive. -/
def setPositive (config : JsValue) (key : String) (convert : JsNumber → Int) (c : Int → ProducerSetter) :
    Napi ProducerConfig Unit :=
  ifNumber config key fun x => do
    if 0 < convert x then set (c (convert x))

def readTopic (config : JsValue) : Napi ProducerConfig Unit :=
  ifString config cfgTopic fun t => Prog.change ({ · with topic := t })

def readQueueOptions (config : JsValue) : Napi ProducerConfig Unit := do
  ifString config cfgProducerName fun name => do
    if !name.isEmpty then set (.producerName (cStr name))
  setPositive config cfgSendTimeout JsNumber.int32Value .sendTimeout
  ifNumber config cfgInitSequenceId fun x => set (.initialSequenceId x.int64Value)
  setPositive config cfgMaxPending JsNumber.int32Value .maxPendingMessages
  setPositive config cfgMaxPendingAcrossPartitions JsNumber.int32Value .maxPendingMessagesAcrossPartitions
  ifBoolean config cfgBlockIfQueueFull fun b => set (.blockIfQueueFull b)

/-- The routing mode; true when it is `CustomPartition`. -/
def readRoutingMode (config : JsValue) : Napi ProducerConfig Bool := do
  if ← hasAs config cfgRoutingMode JsValue.isString then
    let mode ← getString config cfgRoutingMode
    match messageRoutingModes.lookup mode with
    | some m => set (.partitionsRoutingMode m)
    | none => pure ()
    return mode == "CustomPartition"
  return false

def readBatchOptions (config : JsValue) : Napi ProducerConfig Unit := do
  ifNamed config cfgHashScheme hashingSchemes fun h => set (.hashingScheme h)
  ifNamed config cfgCompressType compressionTypes fun c => set (.compressionType c)
  ifBoolean config cfgBatchEnabled fun b => set (.batchingEnabled b)
  setPositive config cfgBatchMaxDelay JsNumber.int64Value .batchingMaxPublishDelayMs
  setPositive config cfgBatchMaxMsg JsNumber.uint32Value .batchingMaxMessages
  setPositive config cfgBatchMaxAllowedSizeInBytes JsNumber.int64Value .batchingMaxAllowedSizeInBytes

def readSchema (config : JsValue) : Napi ProducerConfig Unit :=
  ifObject config cfgSchema fun o => do
    set (.schema (← SchemaInfo.schemaInfo o))

def readProperties (config : JsValue) : Napi ProducerConfig Unit :=
  ifObject config cfgProps fun propObj =>
    forProperties propObj id (fun k v _ => set (.property (cStr k) (cStr v))) ()

/-- The single encryption key is read only with a public key path. -/
def readPublicKey (config : JsValue) : Napi ProducerConfig Unit :=
  ifString config cfgPublicKeyPath fun path => do
    set (.defaultCryptoKeyReader (cStr path) "")
    ifString config cfgEncryptionKey fun key => set (.encryptionKey (cStr key))

def readEncryptionKeys (config : JsValue) : Napi ProducerConfig Unit := do
  if ← hasAs config cfgEncryptionKeys JsValue.isArray then
    let keys ← get config cfgEncryptionKeys
    let _ ← forLength (γ := Empty) keys (fun i _ => do
      if (← getAt keys i).isString then
        let key ← toString (← getAt keys i)
        set (.addEncryptionKey key)
      return .ok ()) ()

def readCryptoKeyReader (config : JsValue) : Napi ProducerConfig Unit := do
  if ← hasAs config cfgCryptoKeyReader JsValue.isObject then
    let reader ← unwrapCryptoKeyReader (← get config cfgCryptoKeyReader)
    set (.cryptoKeyReader reader)
  ifNamed config cfgCryptoFailureAction producerCryptoFailureActions fun a => set (.cryptoFailureAction a)
  ifBoolean config cfgChunkEnabled fun b => set (.chunkingEnabled b)

/-- An option converted to a string without a check, and looked up. -/
def setNamedAny {α : Type} (config : JsValue) (key : String) (table : List (String × α))
    (c : α → ProducerSetter) : Napi ProducerConfig Unit := do
  let name ← getString config key
  match table.lookup name with
  | some v => set (c v)
  | none => pure ()

def readMessageRouter (config : JsValue) (useCustomPartition : Bool) : Napi ProducerConfig Unit := do
  if useCustomPartition then
    if ← has config cfgMessageRouter then
      let value ← get config cfgMessageRouter
      if value.isFunction then
        newReference value
        -- the native configuration is given the address of this member
        Prog.change ({ · with messageRouter := some value })
        set .messageRouter

/-- `ProducerConfig::ProducerConfig`. -/
def producerConfig (config : JsValue) : Napi ProducerConfig Unit := do
  readTopic config
  readQueueOptions config
  let useCustomPartition ← readRoutingMode config
  readBatchOptions config
  readSchema config
  readProperties config
  readPublicKey config
  readEncryptionKeys config
  readCryptoKeyReader config
  setNamedAny config cfgAccessMode producerAccessModes .accessMode
  setNamedAny config cfgBatchingType producerBatchingTypes .batchingType
  readMessageRouter config useCustomPartition

end ProducerConfig

end PulsarNode
