/-
What `ReaderConfig::ReaderConfig` makes of an object: the settings that its options stand for, in order.
The crypto failure action counts with a private key path only, and the listener is the function that
Node-API made of the option.
-/
import PulsarNode.Config.Reader
import PulsarNode.Napi.Acts

namespace PulsarNode

open Napi Prog

namespace ReaderConfig

/-! ## The settings of an object -/

section

variable (v : View) (config : JsValue)

/-- A name that counts when it is not empty. -/
def nameSetter (key : String) (c : String → ReaderSetter) : List ReaderSetter :=
  (v.string config key).elim [] fun name => if !name.isEmpty then [c (cStr name)] else []

def optionSetters : List ReaderSetter :=
  (v.number config cfgRecvQueue).elim [] (fun x =>
    if 0 ≤ x.int32Value then [.receiverQueueSize x.int32Value] else []) ++
  (nameSetter v config cfgReaderName .readerName ++
  (nameSetter v config cfgSubscriptionRolePrefix .subscriptionRolePrefix ++
  (v.boolean config cfgReadCompacted).elim [] fun b => if b then [.readCompacted] else []))

def shownListener : Option Handle :=
  ((v.option config cfgListener).only JsValue.isFunction).map v.function

def cryptoSetters : List ReaderSetter :=
  (v.string config cfgPrivateKeyPath).elim [] fun path => [.defaultCryptoKeyReader "" (cStr path)] ++
    (v.named config cfgCryptoFailureAction consumerCryptoFailureActions).elim [] fun a => [.cryptoFailureAction a]

/-- The start message id that the option holds, if it is an object. -/
def shownStart : Option Handle := (v.object config cfgStartMessageId).bind v.messageId

/-- The configuration that an object stands for. -/
def shown : ReaderConfig where
  topic := (v.string config cfgTopic).getD ""
  cStartMessageId := shownStart v config
  listener := shownListener v config
  cReaderConfig := optionSetters v config ++ ((shownListener v config).elim [] (fun h => [.readerListener h]) ++
    cryptoSetters v config)

end

/-! ## The constructor makes them -/

/-- The calls of the setters, as a list that the configuration keeps. -/
def log : Log ReaderConfig ReaderSetter :=
  .ofPart ⟨(·.cReaderConfig), fun l cfg => { cfg with cReaderConfig := l }, fun _ _ => rfl, fun _ => rfl, fun _ _ _ => rfl⟩

section

variable {v : View} {names : JsValue → List String} {config : JsValue} {ans : (q : Query) → q.Resp → Prop}

variable (R : Reading v ans (fun _ => True))
include R

theorem acts_readTopic : Acts ans (readTopic config) ()
    (fun cfg => { cfg with topic := (v.string config cfgTopic).getD cfg.topic }) :=
  R.acts_storeString topic fun _ => rfl

/-- An object without a message id in it makes the start message id null. -/
theorem acts_readStartMessageId : Acts ans (readStartMessageId config) ()
    (fun cfg => { cfg with
      cStartMessageId := (v.object config cfgStartMessageId).elim cfg.cStartMessageId v.messageId }) := by
  intro cfg
  refine R.ifObject (fun o ho => ?_) fun hnone => ?_
  · rw [ho]
    exact (R.gives (q := .unwrapMessageId o) trivial cfg).seq ⟨rfl, rfl⟩
  · rw [hnone]
    exact ⟨rfl, rfl⟩

theorem adds_nameSetter {key : String} {c : String → ReaderSetter} :
    Adds log ans (ifString config key fun name => do if !name.isEmpty then set (c (cStr name))) () (nameSetter v config key c) :=
  R.adds_ifString fun _ => .ite fun _ => adds_setter

theorem adds_readOptions : Adds log ans (readOptions config) () (optionSetters v config) := by
  refine .bind (R.adds_ifNumber fun _ => .ite fun _ => adds_setter) ?_
  refine .bind (adds_nameSetter R) (.bind (adds_nameSetter R) ?_)
  exact R.adds_ifBoolean fun _ => .ite fun _ => adds_setter

theorem adds_readCrypto : Adds log ans (readCrypto config) () (cryptoSetters v config) :=
  R.adds_ifString fun _ => .bind adds_setter (R.adds_ifNamed fun _ => adds_setter)

variable (T : v.Told names ans)
include T

theorem acts_readListener : Acts ans (readListener config) ()
    (fun cfg => { cfg with
      listener := (shownListener v config).or cfg.listener
      cReaderConfig := cfg.cReaderConfig ++ (shownListener v config).elim [] fun h => [.readerListener h] }) := by
  unfold shownListener JsValue.only
  refine .after (fun _ => R.hasAs rfl) ?_
  cases hf : (v.option config cfgListener).isFunction with
  | false => exact (Acts.pure ()).congr fun cfg => by simp
  | true =>
    refine .after (fun _ => R.get) ?_
    rw [View.get_eq_option JsValue.isFunction rfl hf]
    have hmake (s : ReaderConfig) : Gives ans (fun _ => True) (newThreadSafeFunction (v.option config cfgListener))
        (v.function (v.option config cfgListener)) s :=
      ⟨trivial, fun h hh => ⟨T.function _ h hh, rfl⟩⟩
    refine .after hmake (Acts.congr (Acts.bind (Acts.change _) (adds_setter (L := log))) fun cfg => ?_)
    simp [log, Log.ofPart]

/-- The constructor turns a new configuration into the one that the object stands for. -/
theorem ensures_shown :
    ensures ans (fun _ => True) (readerConfig config) (fun _ cfg => cfg = shown v config) .new := by
  refine ensures_mono (Acts.bind (acts_readTopic R) (.bind (acts_readStartMessageId R) (.bind (adds_readOptions R)
    (.bind (acts_readListener R T) (adds_readCrypto R).acts))) ReaderConfig.new) ?_
  rintro _ cfg ⟨-, rfl⟩
  have hstart : (v.object config cfgStartMessageId).elim none v.messageId = shownStart v config := by
    unfold shownStart
    cases v.object config cfgStartMessageId <;> rfl
  simp only [Function.comp, log, Log.ofPart, shown, ReaderConfig.new, List.nil_append, List.append_assoc, hstart, Option.or_none]

end

end ReaderConfig

end PulsarNode
