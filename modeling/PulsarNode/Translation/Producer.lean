/-
What `ProducerConfig::ProducerConfig` makes of an object: the native settings that its options stand for,
in the order in which the setters are called. The options are those of a view that the run is shown;
two of them are converted to strings without a check, and the router counts only with a routing mode
that asks for it.
-/
import PulsarNode.Config.Producer
import PulsarNode.Translation.Schema

namespace PulsarNode

open Napi Prog

namespace ProducerConfig

/-! ## The settings of an object -/

section

variable (v : View) (names : JsValue → List String) (config : JsValue)

/-- A number option that counts when it is positive. -/
def positiveSetter (key : String) (convert : JsNumber → Int) (c : Int → ProducerSetter) : List ProducerSetter :=
  (v.number config key).elim [] fun x => if 0 < convert x then [c (convert x)] else []

def queueSetters : List ProducerSetter :=
  (v.string config cfgProducerName).elim [] (fun name => if !name.isEmpty then [.producerName (cStr name)] else []) ++
  (positiveSetter v config cfgSendTimeout JsNumber.int32Value .sendTimeout ++
  ((v.number config cfgInitSequenceId).elim [] (fun x => [.initialSequenceId x.int64Value]) ++
  (positiveSetter v config cfgMaxPending JsNumber.int32Value .maxPendingMessages ++
  (positiveSetter v config cfgMaxPendingAcrossPartitions JsNumber.int32Value .maxPendingMessagesAcrossPartitions ++
  (v.boolean config cfgBlockIfQueueFull).elim [] fun b => [.blockIfQueueFull b]))))

def routingSetters : List ProducerSetter :=
  (v.named config cfgRoutingMode messageRoutingModes).elim [] fun m => [.partitionsRoutingMode m]

def usesCustomPartition : Bool := v.string config cfgRoutingMode == some "CustomPartition"

def batchSetters : List ProducerSetter :=
  (v.named config cfgHashScheme hashingSchemes).elim [] (fun h => [.hashingScheme h]) ++
  ((v.named config cfgCompressType compressionTypes).elim [] (fun c => [.compressionType c]) ++
  ((v.boolean config cfgBatchEnabled).elim [] (fun b => [.batchingEnabled b]) ++
  (positiveSetter v config cfgBatchMaxDelay JsNumber.int64Value .batchingMaxPublishDelayMs ++
  (positiveSetter v config cfgBatchMaxMsg JsNumber.uint32Value .batchingMaxMessages ++
  positiveSetter v config cfgBatchMaxAllowedSizeInBytes JsNumber.int64Value .batchingMaxAllowedSizeInBytes))))

def schemaSetters : List ProducerSetter :=
  (v.object config cfgSchema).elim [] fun o => [.schema (SchemaInfo.shown v names o)]

def propertySetters : List ProducerSetter :=
  (v.object config cfgProps).elim [] fun propObj =>
    (v.entries names id propObj).flatMap fun e => [.property (cStr e.1) (cStr e.2)]

/-- The single key counts with a public key path only. -/
def publicKeySetters : List ProducerSetter :=
  (v.string config cfgPublicKeyPath).elim [] fun path => [.defaultCryptoKeyReader (cStr path) ""] ++
    (v.string config cfgEncryptionKey).elim [] fun key => [.encryptionKey (cStr key)]

/-- Of the keys in the array, those that are strings. -/
def encryptionKeySetters : List ProducerSetter :=
  (v.array config cfgEncryptionKeys).elim [] fun keys =>
    ((v.elements keys).filterMap JsValue.asString).flatMap fun key => [.addEncryptionKey key]

def cryptoSetters : List ProducerSetter :=
  (v.object config cfgCryptoKeyReader).elim [] (fun reader => [.cryptoKeyReader (v.keyReader reader)]) ++
  ((v.named config cfgCryptoFailureAction producerCryptoFailureActions).elim [] (fun a => [.cryptoFailureAction a]) ++
  (v.boolean config cfgChunkEnabled).elim [] fun b => [.chunkingEnabled b])

/-- This option and the next may be of any type: what they display names an entry of the table, or nothing. -/
def accessModeSetters : List ProducerSetter :=
  (producerAccessModes.lookup (v.text config cfgAccessMode)).elim [] fun m => [.accessMode m]

def batchingTypeSetters : List ProducerSetter :=
  (producerBatchingTypes.lookup (v.text config cfgBatchingType)).elim [] fun t => [.batchingType t]

/-- The router: a function, given with the routing mode `CustomPartition`. -/
def shownRouter : Option JsValue :=
  if usesCustomPartition v config then (v.option config cfgMessageRouter).only JsValue.isFunction else none

def shownSetters : List ProducerSetter :=
  queueSetters v config ++ (routingSetters v config ++ (batchSetters v config ++ (schemaSetters v names config ++
  (propertySetters v names config ++ (publicKeySetters v config ++ (encryptionKeySetters v config ++
  (cryptoSetters v config ++ (accessModeSetters v config ++ (batchingTypeSetters v config ++
  (shownRouter v config).elim [] fun _ => [.messageRouter])))))))))

/-- The configuration that an object stands for. -/
def shown : ProducerConfig where
  topic := (v.string config cfgTopic).getD ""
  messageRouter := shownRouter v config
  cProducerConfig := shownSetters v names config

end

/-! ## The constructor makes them -/

/-- The calls of the setters, as a list that the configuration keeps. -/
def log : Log ProducerConfig ProducerSetter :=
  .ofPart ⟨(·.cProducerConfig), fun l cfg => { cfg with cProducerConfig := l }, fun _ _ => rfl, fun _ => rfl, fun _ _ _ => rfl⟩

section

variable {v : View} {names : JsValue → List String} {config : JsValue} {ans : (q : Query) → q.Resp → Prop}

variable (R : Reading v ans (fun _ => True))
include R

theorem adds_setPositive {key : String} {convert : JsNumber → Int} {c : Int → ProducerSetter} :
    Adds log ans (setPositive config key convert c) () (positiveSetter v config key convert c) :=
  R.adds_ifNumber fun _ => .ite fun _ => adds_setter

theorem acts_readTopic : Acts ans (readTopic config) ()
    (fun cfg => { cfg with topic := (v.string config cfgTopic).getD cfg.topic }) :=
  R.acts_storeString topic fun _ => rfl

theorem adds_readQueueOptions : Adds log ans (readQueueOptions config) () (queueSetters v config) := by
  refine .bind (R.adds_ifString fun _ => .ite fun _ => adds_setter) ?_
  refine .bind (adds_setPositive R) (.bind (R.adds_ifNumber fun _ => adds_setter) ?_)
  refine .bind (adds_setPositive R) (.bind (adds_setPositive R) ?_)
  exact R.adds_ifBoolean fun _ => adds_setter

theorem adds_readRoutingMode :
    Adds log ans (readRoutingMode config) (usesCustomPartition v config) (routingSetters v config) := by
  unfold usesCustomPartition routingSetters View.named View.string
  refine .after (fun _ => R.hasAs rfl) ?_
  cases hb : (v.option config cfgRoutingMode).isString with
  | false =>
    rw [JsValue.asString_eq_none.2 hb]
    exact .pure _
  | true =>
    obtain ⟨mode, hmode⟩ := JsValue.isString_iff.1 hb
    refine .after (fun _ => R.getString hmode) ?_
    rw [hmode]
    dsimp only [JsValue.asString, Option.bind_some]
    have hcustom : (some mode == some "CustomPartition") = (mode == "CustomPartition") := rfl
    rw [hcustom]
    cases messageRoutingModes.lookup mode with
    | none => exact .pure _
    | some m => exact .before adds_setter fun _ => .pure _

theorem adds_readBatchOptions : Adds log ans (readBatchOptions config) () (batchSetters v config) := by
  refine .bind (R.adds_ifNamed fun _ => adds_setter) (.bind (R.adds_ifNamed fun _ => adds_setter) ?_)
  refine .bind (R.adds_ifBoolean fun _ => adds_setter) (.bind (adds_setPositive R) ?_)
  exact .bind (adds_setPositive R) (adds_setPositive R)

theorem adds_readPublicKey : Adds log ans (readPublicKey config) () (publicKeySetters v config) :=
  R.adds_ifString fun _ => .bind adds_setter (R.adds_ifString fun _ => adds_setter)

theorem adds_readEncryptionKeys : Adds log ans (readEncryptionKeys config) () (encryptionKeySetters v config) :=
  R.adds_forStrings fun _ => adds_setter

theorem adds_readCryptoKeyReader : Adds log ans (readCryptoKeyReader config) () (cryptoSetters v config) := by
  have hrest : Adds log ans (do
      ifNamed config cfgCryptoFailureAction producerCryptoFailureActions fun a => set (.cryptoFailureAction a)
      ifBoolean config cfgChunkEnabled fun b => set (.chunkingEnabled b)) () _ :=
    .bind (R.adds_ifNamed fun a => adds_setter (c := ProducerSetter.cryptoFailureAction a))
      (R.adds_ifBoolean fun b => adds_setter (c := ProducerSetter.chunkingEnabled b))
  refine .after (fun _ => R.hasAs rfl) ?_
  unfold cryptoSetters View.object JsValue.only
  cases hb : (v.option config cfgCryptoKeyReader).isObject with
  | false => exact hrest
  | true =>
    refine .after (fun _ => R.get) ?_
    rw [View.get_eq_option JsValue.isObject rfl hb]
    exact .after (R.gives (q := .unwrapCryptoKeyReader _) trivial) (.bind adds_setter hrest)

theorem adds_setNamedAny {α : Type} {key : String} {table : List (String × α)} {c : α → ProducerSetter} :
    Adds log ans (setNamedAny config key table c) () ((table.lookup (v.text config key)).elim [] fun x => [c x]) := by
  refine .after (R.text key) ?_
  cases table.lookup (v.text config key) with
  | none => exact .pure ()
  | some x => exact adds_setter

/-- The router becomes a member, and the native configuration is told of it. -/
theorem acts_readMessageRouter : Acts ans (readMessageRouter config (usesCustomPartition v config)) ()
    (fun cfg => { cfg with
      messageRouter := (shownRouter v config).or cfg.messageRouter
      cProducerConfig := cfg.cProducerConfig ++ (shownRouter v config).elim [] fun _ => [.messageRouter] }) := by
  unfold shownRouter readMessageRouter View.option JsValue.only
  cases usesCustomPartition v config with
  | false => exact (Acts.pure ()).congr fun cfg => by simp
  | true =>
    refine .after (fun _ => R.has) ?_
    cases v.has config cfgMessageRouter with
    | false => exact (Acts.pure ()).congr fun cfg => by simp [JsValue.isFunction, JsValue.isKind]
    | true =>
      refine .after (fun _ => R.get) ?_
      cases hf : (v.get config cfgMessageRouter).isFunction with
      | false => exact (Acts.pure ()).congr fun cfg => by simp [hf]
      | true =>
        refine .after (R.gives (q := .newReference _) trivial) ?_
        refine Acts.congr (Acts.bind (Acts.change _) (adds_setter (L := log))) fun cfg => ?_
        simp [hf, log, Log.ofPart]

variable (T : v.Told names ans)
include T

theorem adds_readSchema : Adds log ans (readSchema config) () (schemaSetters v names config) :=
  R.adds_ifObject fun _ => .after (fun _ => SchemaInfo.gives_schemaInfo R T) adds_setter

theorem adds_readProperties : Adds log ans (readProperties config) () (propertySetters v names config) :=
  R.adds_ifObject fun _ => R.adds_forProperties T fun _ => adds_setter

/-- The constructor turns a new configuration into the one that the object stands for. -/
theorem ensures_shown :
    ensures ans (fun _ => True) (producerConfig config) (fun _ cfg => cfg = shown v names config) .new := by
  -- between the topic and the router, calls of setters only
  have hacts : Acts ans (producerConfig config) () _ := .bind (acts_readTopic R) (.bind (adds_readQueueOptions R)
    (.bind (adds_readRoutingMode R) (.bind (adds_readBatchOptions R) (.bind (adds_readSchema R T) (.bind (adds_readProperties R T)
    (.bind (adds_readPublicKey R) (.bind (adds_readEncryptionKeys R) (.bind (adds_readCryptoKeyReader R)
    (.bind (adds_setNamedAny R) (.bind (adds_setNamedAny R) (acts_readMessageRouter R)))))))))))
  refine ensures_mono (hacts ProducerConfig.new) ?_
  rintro _ cfg ⟨-, rfl⟩
  simp only [Function.comp, log, Log.ofPart, new, shown, shownSetters, accessModeSetters, batchingTypeSetters, List.nil_append,
    List.append_assoc, Option.or_none]

end

end ProducerConfig

end PulsarNode
