/-
The asynchronous calls of the native client that the addon starts, and what the native client
reports to their callbacks.
-/
import PulsarNode.Native.Setters

namespace PulsarNode

/-- `pulsar_result`: Ok, or a failure known by its text. -/
inductive PulsarResult
  | ok
  | failure (text : String)
  deriving DecidableEq, Repr

def pulsarResultStr : PulsarResult → String
  | .ok => "Ok"
  | .failure text => text

/-- What a native callback is called with: the result, the pointer it may carry (`none` is null),
and for `getSchemaInfoAsync` the schema info. -/
structure Reply where
  result : PulsarResult
  rawPtr : Option Handle := none
  schemaInfo : NativeSchemaInfo := ⟨0, "", [], []⟩
  deriving DecidableEq, Repr

/-- The native calls that `NewInstance` and `Producer::Send` start, with what they are given. -/
inductive AsyncCall
  | createProducer (topic : String) (conf : List ProducerSetter)
  | subscribe (topic subscription : String) (conf : List ConsumerSetter)
  | subscribeMultiTopics (topics : List String) (subscription : String) (conf : List ConsumerSetter)
  | subscribePattern (topicsPattern subscription : String) (conf : List ConsumerSetter)
  | createReader (topic : String) (startMessageId : Handle) (conf : List ReaderSetter)
  | send (message : List MessageSetter)
  deriving DecidableEq, Repr

/-- The native client creations of `Client::Client`. -/
inductive ClientCreation
  | fromProvider (provider : AutoClusterFailoverConfig) (conf : List ClientSetter)
  | fromServiceUrl (serviceUrl : String) (conf : List ClientSetter)
  deriving DecidableEq, Repr

end PulsarNode
