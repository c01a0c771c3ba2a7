/-
`ReaderConfig::ReaderConfig`. The constructor never rejects; `Reader::NewInstance` checks the topic
and the start message id afterwards. When a read raises, the constructor unwinds without the
destructor of `ReaderConfig` being run.
-/
import PulsarNode.Napi.Query

namespace PulsarNode

/-- The members of `ReaderConfig`; the native configuration is the setter calls made on it. -/
structure ReaderConfig where
  topic : String
  cStartMessageId : Option Handle
  listener : Option Handle
  cReaderConfig : List ReaderSetter
  deriving DecidableEq

namespace ReaderConfig

open Napi

def new : ReaderConfig := ⟨"", none, none, []⟩

def cfgTopic : String := "topic"
def cfgStartMessageId : String := "startMessageId"
def cfgRecvQueue : String := "receiverQueueSize"
def cfgReaderName : String := "readerName"
def cfgSubscriptionRolePrefix : String := "subscriptionRolePrefix"
def cfgReadCompacted : String := "readCompacted"
def cfgListener : String := "listener"
def cfgPrivateKeyPath : String := "privateKeyPath"
def cfgCryptoFailureAction : String := "cryptoFailureAction"

def consumerCryptoFailureActions : List (String × ConsumerCryptoFailureAction) :=
  [("FAIL", .fail), ("DISCARD", .discard), ("CONSUME", .consume)]

def set (c : ReaderSetter) : Napi ReaderConfig Unit := do
  let _ ← setter (.reader c)
  Prog.change fun cfg => { cfg with cReaderConfig := cfg.cReaderConfig ++ [c] }

def readTopic (config : JsValue) : Napi ReaderConfig Unit :=
  ifString config cfgTopic fun t => Prog.change ({ · with topic := t })

/-- The start message id; it stays null when the object holds none. -/
def readStartMessageId (config : JsValue) : Napi ReaderConfig Unit :=
  ifObject config cfgStartMessageId fun o => do
    let id ← unwrapMessageId o
    Prog.change ({ · with cStartMessageId := id })

def readOptions (config : JsValue) : Napi ReaderConfig Unit := do
  ifNumber config cfgRecvQueue fun x => do
    if 0 ≤ x.int32Value then set (.receiverQueueSize x.int32Value)
  ifString config cfgReaderName fun name => do
    if !name.isEmpty then set (.readerName (cStr name))
  ifString config cfgSubscriptionRolePrefix fun pre => do
    if !pre.isEmpty then set (.subscriptionRolePrefix (cStr pre))
  ifBoolean config cfgReadCompacted fun b => do
    if b then set .readCompacted

/-- The listener record and its thread-safe function, made from a third read of the option. -/
def readListener (config : JsValue) : Napi ReaderConfig Unit := do
  if ← hasAs config cfgListener JsValue.isFunction then
    let listener ← newThreadSafeFunction (← get config cfgListener)
    Prog.change ({ · with listener := some listener })
    set (.readerListener listener)

/-- The failure action is read only with a private key path. -/
def readCrypto (config : JsValue) : Napi ReaderConfig Unit :=
  ifString config cfgPrivateKeyPath fun path => do
    set (.defaultCryptoKeyReader "" (cStr path))
    ifNamed config cfgCryptoFailureAction consumerCryptoFailureActions fun a => set (.cryptoFailureAction a)

/-- `ReaderConfig::ReaderConfig`. -/
def readerConfig (config : JsValue) : Napi ReaderConfig Unit := do
  readTopic config
  readStartMessageId config
  readOptions config
  readListener config
  readCrypto config

end ReaderConfig

end PulsarNode
