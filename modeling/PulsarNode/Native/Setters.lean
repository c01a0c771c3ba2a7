/-
The calls that the addon makes on the configuration objects of the native client, with the values
it forwards. What they do is the native client's business: any of them may throw.
-/
import PulsarNode.Napi.Value

namespace PulsarNode

/-- A pointer that the native client or Node-API handed out. -/
abbrev Handle := Nat

/-! ## The enumerations forwarded -/

inductive ConsumerType
  | exclusive | shared | keyShared | failover
  deriving DecidableEq, Repr

inductive RegexSubscriptionMode
  | persistentOnly | nonPersistentOnly | allTopics
  deriving DecidableEq, Repr

inductive InitialPosition
  | latest | earliest
  deriving DecidableEq, Repr

inductive ConsumerCryptoFailureAction
  | fail | discard | consume
  deriving DecidableEq, Repr

inductive KeySharedMode
  | autoSplit | sticky
  deriving DecidableEq, Repr

inductive PartitionsRoutingMode
  | useSinglePartition | roundRobinDistribution | customPartition
  deriving DecidableEq, Repr

inductive HashingScheme
  | murmur3_32Hash | boostHash | javaStringHash
  deriving DecidableEq, Repr

inductive CompressionType
  | none | zLib | lz4 | zstd | snappy
  deriving DecidableEq, Repr

inductive ProducerCryptoFailureAction
  | fail | send
  deriving DecidableEq, Repr

inductive ProducerAccessMode
  | shared | exclusive | waitForExclusive | exclusiveWithFencing
  deriving DecidableEq, Repr

inductive BatchingType
  | defaultBatching | keyBasedBatching
  deriving DecidableEq, Repr

/-- `pulsar::SchemaType`, by its number. -/
abbrev SchemaType := Int

/-- `pulsar::SchemaInfo`: schema data is bytes. -/
structure NativeSchemaInfo where
  schemaType : SchemaType
  name : String
  schema : List UInt8
  properties : List (String × String)
  deriving DecidableEq, Repr

/-- `pulsar::KeySharedPolicy`, a field `none` where the native default stays. -/
structure KeySharedPolicy where
  keySharedMode : Option KeySharedMode
  allowOutOfOrderDelivery : Option Bool
  stickyRanges : Option (List (Int × Int))
  deriving DecidableEq, Repr

/-- `pulsar::ServiceInfo`: the authentication is the native one, `none` when disabled. -/
structure ServiceInfo where
  serviceUrl : String
  authentication : Option Handle
  tlsTrustCertsFilePath : Option String
  deriving DecidableEq, Repr

/-- `pulsar::AutoClusterFailover::Config`, a number `none` where the native default stays. -/
structure AutoClusterFailoverConfig where
  primary : ServiceInfo
  secondary : List ServiceInfo
  checkInterval : Option Int
  failoverThreshold : Option Int
  switchBackThreshold : Option Int
  deriving DecidableEq, Repr

/-! ## The setters -/

inductive ConsumerSetter
  | consumerType (t : ConsumerType)
  | subscriptionInitialPosition (p : InitialPosition)
  | regexSubscriptionMode (m : RegexSubscriptionMode)
  | consumerName (name : String)
  | unackedMessagesTimeoutMs (ms : Int)
  | negativeAckRedeliveryDelayMs (ms : Int)
  | receiverQueueSize (n : Int)
  | maxTotalReceiverQueueSizeAcrossPartitions (n : Int)
  | schema (info : NativeSchemaInfo)
  | property (key value : String)
  | messageListener (listener : Handle)
  | readCompacted
  | defaultCryptoKeyReader (publicKeyPath privateKeyPath : String)
  | cryptoKeyReader (reader : Handle)
  | cryptoFailureAction (a : ConsumerCryptoFailureAction)
  | maxPendingChunkedMessage (n : Int)
  | autoAckOldestChunkedMessageOnQueueFull (b : Bool)
  | batchIndexAckEnabled (b : Bool)
  | dlqPolicy (deadLetterTopic : Option String) (maxRedeliverCount : Int)
      (initialSubscriptionName : Option String)
  | batchReceivePolicy (maxNumMessages maxNumBytes timeoutMs : Int)
  | keySharedPolicy (p : KeySharedPolicy)
  | replicateSubscriptionStateEnabled (b : Bool)
  deriving DecidableEq, Repr

/-- The setters of the local `cppKeySharedPolicy`. -/
inductive KeySharedPolicySetter
  | keySharedMode (m : KeySharedMode)
  | allowOutOfOrderDelivery (b : Bool)
  | stickyRanges (ranges : List (Int × Int))
  deriving DecidableEq, Repr

inductive ReaderSetter
  | receiverQueueSize (n : Int)
  | readerName (name : String)
  | subscriptionRolePrefix (pre : String)
  | readCompacted
  | readerListener (listener : Handle)
  | defaultCryptoKeyReader (publicKeyPath privateKeyPath : String)
  | cryptoFailureAction (a : ConsumerCryptoFailureAction)
  deriving DecidableEq, Repr

inductive ProducerSetter
  | producerName (name : String)
  | sendTimeout (ms : Int)
  | initialSequenceId (n : Int)
  | maxPendingMessages (n : Int)
  | maxPendingMessagesAcrossPartitions (n : Int)
  | blockIfQueueFull (b : Bool)
  | partitionsRoutingMode (m : PartitionsRoutingMode)
  | hashingScheme (h : HashingScheme)
  | compressionType (c : CompressionType)
  | batchingEnabled (b : Bool)
  | batchingMaxPublishDelayMs (ms : Int)
  | batchingMaxMessages (n : Int)
  | batchingMaxAllowedSizeInBytes (n : Int)
  | schema (info : NativeSchemaInfo)
  | property (key value : String)
  | defaultCryptoKeyReader (publicKeyPath privateKeyPath : String)
  | encryptionKey (key : String)
  | addEncryptionKey (key : String)
  | cryptoKeyReader (reader : Handle)
  | cryptoFailureAction (a : ProducerCryptoFailureAction)
  | chunkingEnabled (b : Bool)
  | accessMode (m : ProducerAccessMode)
  | batchingType (t : BatchingType)
  | messageRouter
  deriving DecidableEq, Repr

inductive MessageSetter
  | content (bytes : List UInt8)
  | property (key value : String)
  | eventTimestamp (ms : Int)
  | sequenceId (n : Int)
  | partitionKey (key : String)
  | disableReplication
  | replicationClusters (clusters : List String)
  | deliverAfter (ms : Int)
  | deliverAt (ms : Int)
  | orderingKey (key : String)
  deriving DecidableEq, Repr

inductive ClientSetter
  | logger
  | authentication (auth : Handle)
  | operationTimeoutSeconds (n : Int)
  | ioThreads (n : Int)
  | connectionTimeout (ms : Int)
  | messageListenerThreads (n : Int)
  | concurrentLookupRequest (n : Int)
  | tlsTrustCertsFilePath (path : String)
  | tlsCertificateFilePath (path : String)
  | tlsPrivateKeyFilePath (path : String)
  | validateHostname (b : Bool)
  | tlsAllowInsecureConnection (b : Bool)
  | statsIntervalInSeconds (n : Int)
  | listenerName (name : String)
  deriving DecidableEq, Repr

/-- Any of the setters. -/
inductive Setter
  | consumer (c : ConsumerSetter)
  | keySharedPolicy (c : KeySharedPolicySetter)
  | reader (c : ReaderSetter)
  | producer (c : ProducerSetter)
  | message (c : MessageSetter)
  | client (c : ClientSetter)
  deriving DecidableEq, Repr

end PulsarNode
