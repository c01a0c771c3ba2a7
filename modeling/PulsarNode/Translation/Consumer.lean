/-
What `ConsumerConfig::InitConfig` makes of an object that it accepts: the members that choose the native
call, and the settings that the options stand for, in the order of the sections. The checks are read off
the same view; here the sections are followed as far as none of them leaves.
-/
import PulsarNode.Config.Checks
import PulsarNode.Translation.Schema

namespace PulsarNode

open Napi Prog

namespace SubscribeOptions

open ConsumerConfig

/-! ## The settings of an object -/

section

variable (v : View) (names : JsValue → List String) (config : JsValue)

def typeSetters : List ConsumerSetter :=
  (v.named config cfgSubscriptionType subscriptionTypes).elim [] (fun t => [.consumerType t]) ++
  ((v.named config cfgInitPosition initPositions).elim [] (fun p => [.subscriptionInitialPosition p]) ++
  ((v.named config cfgRegexSubscriptionMode regexSubscriptionModes).elim [] (fun m => [.regexSubscriptionMode m]) ++
  (v.string config cfgConsumerName).elim [] fun name => if !name.isEmpty then [.consumerName (cStr name)] else []))

def timeoutSetter (key : String) (c : Int → ConsumerSetter) : List ConsumerSetter :=
  (v.number config key).elim [] fun x => [c x.int64Value]

/-- A size or limit that counts when it is not negative. -/
def sizeSetter (key : String) (c : Int → ConsumerSetter) : List ConsumerSetter :=
  (v.number config key).elim [] fun x => if 0 ≤ x.int32Value then [c x.int32Value] else []

def queueSetters : List ConsumerSetter :=
  sizeSetter v config cfgRecvQueue .receiverQueueSize ++
  sizeSetter v config cfgRecvQueueAcrossPartitions .maxTotalReceiverQueueSizeAcrossPartitions

def schemaSetters : List ConsumerSetter :=
  (v.object config cfgSchema).elim [] fun o => [.schema (SchemaInfo.shown v names o)]

/-- The value of a property is read under the C string of its name. -/
def propertySetters : List ConsumerSetter :=
  (v.object config cfgProps).elim [] fun propObj =>
    (v.entries names cStr propObj).flatMap fun e => [.property (cStr e.1) (cStr e.2)]

def shownListener : Option Handle := ((v.option config cfgListener).only JsValue.isFunction).map v.function

def listenerSetters : List ConsumerSetter := (shownListener v config).elim [] fun h => [.messageListener h]

def compactedSetters : List ConsumerSetter :=
  (v.boolean config cfgReadCompacted).elim [] fun b => if b then [.readCompacted] else []

def cryptoSetters : List ConsumerSetter :=
  (v.string config cfgPrivateKeyPath).elim [] (fun path => [.defaultCryptoKeyReader "" (cStr path)]) ++
  ((v.object config cfgCryptoKeyReader).elim [] (fun reader => [.cryptoKeyReader (v.keyReader reader)]) ++
  (v.named config cfgCryptoFailureAction consumerCryptoFailureActions).elim [] fun a => [.cryptoFailureAction a])

def chunkingSetters : List ConsumerSetter :=
  sizeSetter v config cfgMaxPendingChunkedMessage .maxPendingChunkedMessage ++
  ((v.boolean config cfgAutoAckOldestChunkedMessageOnQueueFull).elim []
    (fun b => [.autoAckOldestChunkedMessageOnQueueFull b]) ++
  (v.boolean config cfgBatchIndexAckEnabled).elim [] fun b => [.batchIndexAckEnabled b])

def deadLetterSetters : List ConsumerSetter :=
  (v.object config cfgDeadLetterPolicy).elim [] fun o =>
    [.dlqPolicy ((v.string o cfgDlqPolicyTopic).map cStr) (numberOr v o cfgDlqPolicyMaxRedeliverCount JsNumber.int32Value 0)
      ((v.string o cfgDlqPolicyInitSubName).map cStr)]

def batchReceiveSetters : List ConsumerSetter :=
  (v.object config cfgBatchReceivePolicy).elim [] fun o =>
    [.batchReceivePolicy (maxNumMessages v o) (maxNumBytes v o) (timeoutMs v o)]

/-- The range that an element stands for, with 0 where an end is no number. -/
def rangeOf (x : JsValue) : Int × Int :=
  (numberOr v x "start" JsNumber.int32Value 0, numberOr v x "end" JsNumber.int32Value 0)

def keySharedPolicyOf (o : JsValue) : KeySharedPolicy where
  keySharedMode := v.named o cfgKeySharedPolicyMode consumerKeySharedPolicyModes
  allowOutOfOrderDelivery := v.boolean o cfgKeySharedPolicyAllowOutOfOrder
  stickyRanges := (v.array o cfgKeySharedPolicyStickyRanges).map fun arr => (v.elements arr).map (rangeOf v)

def keySharedSetters : List ConsumerSetter :=
  (v.object config cfgKeySharedPolicy).elim [] fun o => [.keySharedPolicy (keySharedPolicyOf v o)]

def replicationSetters : List ConsumerSetter :=
  (v.boolean config cfgReplicateSubscriptionState).elim [] fun b => [.replicateSubscriptionStateEnabled b]

/-- The configuration that an object in order stands for. -/
def shown : ConsumerConfig where
  topic := topic v config
  topics := topics v config
  topicsPattern := topicsPattern v config
  subscription := subscription v config
  ackTimeoutMs := (v.number config cfgAckTimeout).elim 0 JsNumber.int64Value
  nAckRedeliverTimeoutMs := (v.number config cfgNackRedeliverTimeout).elim 60000 JsNumber.int64Value
  listener := shownListener v config
  cConsumerConfig := typeSetters v config ++ (timeoutSetter v config cfgAckTimeout .unackedMessagesTimeoutMs ++
    (timeoutSetter v config cfgNackRedeliverTimeout .negativeAckRedeliveryDelayMs ++ (queueSetters v config ++
    (schemaSetters v names config ++ (propertySetters v names config ++ (listenerSetters v config ++
    (compactedSetters v config ++ (cryptoSetters v config ++ (chunkingSetters v config ++ (deadLetterSetters v config ++
    (batchReceiveSetters v config ++ (keySharedSetters v config ++ replicationSetters v config))))))))))))

end

/-! ## The parser makes them -/

/-- The calls of the setters, as a list that the configuration keeps. -/
def log : Log ConsumerConfig ConsumerSetter :=
  .ofPart ⟨(·.cConsumerConfig), fun l cfg => { cfg with cConsumerConfig := l }, fun _ _ => rfl, fun _ => rfl, fun _ _ _ => rfl⟩

section

variable {v : View} {names : JsValue → List String} {config : JsValue} {ans : (q : Query) → q.Resp → Prop}

/-- A section that never leaves, and only adds. -/
theorem accepts_adds {p : Napi ConsumerConfig Unit} {l : List ConsumerSetter} (h : Adds log ans p () l) :
    Accepts ans (Prog.always p : Section) (log.add l) := .always h

theorem rangeOf_eq {x : JsValue} {range : Int × Int} (h : ReadAs v x range) : range = rangeOf v x := by
  obtain ⟨start, hstart, hs⟩ := h.start
  obtain ⟨stop, hstop, he⟩ := h.stop
  simp [rangeOf, numberOr, hstart, hstop, ← hs, ← he]

theorem ranges_eq {xs : List JsValue} {ranges : List (Int × Int)} (h : List.Forall₂ (ReadAs v) xs ranges) :
    ranges = xs.map (rangeOf v) := by
  induction h with
  | nil => rfl
  | cons hx _ ih => rw [List.map_cons, ← rangeOf_eq hx, ← ih]

theorem keySharedPolicyOf_eq {o : JsValue} {p : KeySharedPolicy} (h : PolicyOf v ans o p) : p = keySharedPolicyOf v o := by
  have hranges : p.stickyRanges = (keySharedPolicyOf v o).stickyRanges := by
    have hset := h.stickyRanges
    unfold keySharedPolicyOf
    cases hp : p.stickyRanges with
    | none =>
      rw [hp] at hset
      rw [show v.array o cfgKeySharedPolicyStickyRanges = none from hset]
      rfl
    | some ranges =>
      rw [hp] at hset
      obtain ⟨arr, harr, hread, -⟩ := hset
      rw [harr, ranges_eq hread]
      rfl
  obtain ⟨mode, allow, ranges⟩ := p
  rw [show mode = _ from h.keySharedMode, show allow = _ from h.allowOutOfOrderDelivery, show ranges = _ from hranges]
  rfl

variable (R : Reading v ans (fun _ => True))
include R

theorem adds_sizeSetter {key : String} {c : Int → ConsumerSetter} :
    Adds log ans (setNonNegative config key c) () (sizeSetter v config key c) :=
  R.adds_ifNumber fun _ => .ite fun _ => adds_setter

theorem accepts_initSubscription : Accepts ans (initSubscription config)
    (fun cfg => { cfg with subscription := (v.string config cfgSubscription).getD cfg.subscription }) := by
  intro cfg
  refine ensures_seq (ensures_store R) fun _ c₁ h₁ => ?_
  obtain rfl : c₁ = { cfg with subscription := (v.string config cfgSubscription).getD cfg.subscription } := by
    rw [h₁]
    cases v.string config cfgSubscription <;> rfl
  rw [ensures_bind, ensures_look]
  split
  · nofun
  · exact fun _ => rfl

theorem adds_initSubscriptionOptions : Adds log ans (initSubscriptionOptions config) () (typeSetters v config) := by
  refine .bind (R.adds_ifNamed fun _ => adds_setter) (.bind (R.adds_ifNamed fun _ => adds_setter) ?_)
  exact .bind (R.adds_ifNamed fun _ => adds_setter) (R.adds_ifString fun _ => .ite fun _ => adds_setter)

/-- A timeout in bounds is stored and forwarded. -/
theorem accepts_timeoutSection {key message : String} {store : Int → ConsumerConfig → ConsumerConfig} {bad : Int → Prop}
    [DecidablePred bad] {c : Int → ConsumerSetter} :
    Accepts ans (timeoutSection config key store bad message c)
      (fun cfg => log.add (timeoutSetter v config key c) ((v.number config key).elim cfg fun x => store x.int64Value cfg)) := by
  intro cfg
  unfold timeoutSetter View.number
  refine (R.hasAs rfl).seq ?_
  cases hb : (v.option config key).isNumber with
  | false =>
    rw [JsValue.asNumber_eq_none.2 hb]
    exact fun _ => (log.add_nil cfg).symm
  | true =>
    obtain ⟨x, hx⟩ := JsValue.isNumber_iff.1 hb
    refine (R.getNumber hx).seq ?_
    rw [hx, ensures_bind, ensures_change]
    by_cases hbad : bad x.int64Value
    · rw [if_pos hbad]
      nofun
    · rw [if_neg hbad]
      have hset : Adds log ans (set (c x.int64Value)) () [c x.int64Value] := adds_setter
      refine ensures_seq (hset _) ?_
      rintro _ cfg' ⟨-, rfl⟩ _
      rfl

theorem accepts_initAckTimeout : Accepts ans (initAckTimeout config) (fun cfg => { cfg with
    ackTimeoutMs := (v.number config cfgAckTimeout).elim cfg.ackTimeoutMs JsNumber.int64Value
    cConsumerConfig := cfg.cConsumerConfig ++ timeoutSetter v config cfgAckTimeout .unackedMessagesTimeoutMs }) := by
  rw [initAckTimeout_eq]
  refine (accepts_timeoutSection R).congr fun cfg => ?_
  unfold timeoutSetter
  cases v.number config cfgAckTimeout <;> rfl

theorem accepts_initNAckRedeliverTimeout : Accepts ans (initNAckRedeliverTimeout config) (fun cfg => { cfg with
    nAckRedeliverTimeoutMs := (v.number config cfgNackRedeliverTimeout).elim cfg.nAckRedeliverTimeoutMs JsNumber.int64Value
    cConsumerConfig := cfg.cConsumerConfig ++
      timeoutSetter v config cfgNackRedeliverTimeout .negativeAckRedeliveryDelayMs }) := by
  rw [initNAckRedeliverTimeout_eq]
  refine (accepts_timeoutSection R).congr fun cfg => ?_
  unfold timeoutSetter
  cases v.number config cfgNackRedeliverTimeout <;> rfl

theorem adds_initQueueSizes : Adds log ans (initQueueSizes config) () (queueSetters v config) :=
  .bind (adds_sizeSetter R) (adds_sizeSetter R)

theorem adds_initReadCompacted : Adds log ans (initReadCompacted config) () (compactedSetters v config) :=
  R.adds_ifBoolean fun _ => .ite fun _ => adds_setter

theorem adds_initCrypto : Adds log ans (initCrypto config) () (cryptoSetters v config) := by
  have hrest : Adds log ans
      (ifNamed config cfgCryptoFailureAction consumerCryptoFailureActions fun a => set (.cryptoFailureAction a)) () _ :=
    R.adds_ifNamed fun a => adds_setter (c := ConsumerSetter.cryptoFailureAction a)
  refine .bind (R.adds_ifString fun _ => adds_setter) (.after (fun _ => R.hasAs rfl) ?_)
  unfold View.object JsValue.only
  cases hb : (v.option config cfgCryptoKeyReader).isObject with
  | false => exact hrest
  | true =>
    refine .after (fun _ => R.get) ?_
    rw [View.get_eq_option JsValue.isObject rfl hb]
    exact .after (R.gives (q := .unwrapCryptoKeyReader _) trivial) (.bind adds_setter hrest)

theorem adds_initChunking : Adds log ans (initChunking config) () (chunkingSetters v config) :=
  .bind (adds_sizeSetter R) (.bind (R.adds_ifBoolean fun _ => adds_setter) (R.adds_ifBoolean fun _ => adds_setter))

theorem gives_stringOption {o : JsValue} {key : String} (cfg : ConsumerConfig) :
    Gives ans (fun _ => True) (stringOption o key) (v.string o key) cfg := by
  unfold View.string
  refine (R.hasAs rfl).bind ?_
  cases hb : (v.option o key).isString with
  | false =>
    rw [JsValue.asString_eq_none.2 hb]
    exact .pure _
  | true =>
    obtain ⟨t, ht⟩ := JsValue.isString_iff.1 hb
    rw [ht]
    exact (R.getString ht).bind (.pure _)

theorem adds_initDeadLetterPolicy : Adds log ans (initDeadLetterPolicy config) () (deadLetterSetters v config) := by
  refine R.adds_ifObject fun o => .after (gives_stringOption R) (.after (fun _ => gives_numberOption R) ?_)
  exact .after (gives_stringOption R) adds_setter

theorem adds_initReplicateSubscriptionState :
    Adds log ans (initReplicateSubscriptionState config) () (replicationSetters v config) :=
  R.adds_ifBoolean fun _ => adds_setter

/-- Where the policy passes its check and the native setter takes it, it is among the settings; nothing else of the
configuration changes. -/
theorem accepts_initBatchReceivePolicy :
    Accepts ans (initBatchReceivePolicy config) (log.add (batchReceiveSetters v config)) := by
  intro cfg
  have hmoves : Moves (fun c c' : ConsumerConfig => { c' with cConsumerConfig := [] } = { c with cConsumerConfig := [] })
      (initBatchReceivePolicy config) := initBatchReceivePolicy_moves config fun _ _ _ _ => rfl
  refine ensures_mono (ensures_and (ensures_initBatchReceivePolicy R)
    (hmoves.keeps (f := fun c : ConsumerConfig => { c with cConsumerConfig := [] }) cfg)) ?_
  rintro r cfg' ⟨⟨status, -, hexit, hsetters⟩, hkept⟩ rfl
  have hnone : batchReceivePolicyError v config = none := (Option.or_eq_none_iff.1 hexit.symm).1
  have hcalls : policyCalls v config = batchReceiveSetters v config := by
    unfold policyCalls batchReceiveSetters
    rw [hnone]
    cases v.object config cfgBatchReceivePolicy <;> rfl
  obtain ⟨⟩ := cfg
  obtain ⟨⟩ := cfg'
  simp_all [log, Log.ofPart]

theorem accepts_initKeySharedPolicy :
    Accepts ans (initKeySharedPolicy config) (log.add (keySharedSetters v config)) := by
  intro cfg
  unfold keySharedSetters
  cases ho : v.object config cfgKeySharedPolicy with
  | some o =>
    refine ensures_mono (ensures_initKeySharedPolicy R) ?_
    rintro r cfg' ⟨-, hok, -⟩ hr
    obtain ⟨p, hp, hcfg⟩ := hok hr o ho
    rw [hcfg, keySharedPolicyOf_eq hp]
    rfl
  | none =>
    have hb : (v.option config cfgKeySharedPolicy).isObject = false := by
      refine Bool.eq_false_iff.2 fun hb => ?_
      rw [View.object, JsValue.only, if_pos hb] at ho
      cases ho
    refine (R.hasAs rfl).seq ?_
    rw [hb]
    exact fun _ => (log.add_nil cfg).symm

variable (T : v.Told names ans)
include T

theorem adds_initSchema : Adds log ans (initSchema config) () (schemaSetters v names config) :=
  R.adds_ifObject fun _ => .after (fun _ => SchemaInfo.gives_schemaInfo R T) adds_setter

theorem adds_initProperties : Adds log ans (initProperties config) () (propertySetters v names config) :=
  R.adds_ifObject fun _ => R.adds_forProperties T fun _ => adds_setter

theorem acts_initListener : Acts ans (initListener config) ()
    (fun cfg => log.add (listenerSetters v config) { cfg with listener := (shownListener v config).or cfg.listener }) := by
  unfold listenerSetters shownListener JsValue.only
  refine .after (fun _ => R.hasAs rfl) ?_
  cases hf : (v.option config cfgListener).isFunction with
  | false => exact (Acts.pure ()).congr fun cfg => by simp [log, Log.ofPart]
  | true =>
    have hmake (s : ConsumerConfig) : Gives ans (fun _ => True) (newListener config cfgListener)
        (v.function (v.option config cfgListener)) s := by
      rw [← View.get_eq_option JsValue.isFunction rfl hf]
      exact ⟨trivial, fun h hh => ⟨T.listener _ _ h hh, rfl⟩⟩
    refine .after hmake (Acts.congr (Acts.bind (Acts.change _) (adds_setter (L := log))) fun cfg => ?_)
    simp [log, Log.ofPart]

/-- A configuration that is accepted is the one that the object stands for. -/
theorem ensures_accepted :
    ensures ans (fun _ => True) (initConfig config) (fun r cfg => r = .ok () → cfg = shown v names config) .new := by
  have hrest : Accepts ans (firstError ((sections config).drop 1)) _ :=
    .cons (accepts_initSubscription R) (.cons (accepts_adds (adds_initSubscriptionOptions R))
      (.cons (accepts_initAckTimeout R) (.cons (accepts_initNAckRedeliverTimeout R)
      (.cons (accepts_adds (adds_initQueueSizes R)) (.cons (accepts_adds (adds_initSchema R T))
      (.cons (accepts_adds (adds_initProperties R T)) (.cons (.always (acts_initListener R T))
      (.cons (accepts_adds (adds_initReadCompacted R)) (.cons (accepts_adds (adds_initCrypto R))
      (.cons (accepts_adds (adds_initChunking R)) (.cons (accepts_adds (adds_initDeadLetterPolicy R))
      (.cons (accepts_initBatchReceivePolicy R) (.cons (accepts_initKeySharedPolicy R)
      (.cons (accepts_adds (adds_initReplicateSubscriptionState R)) .nil))))))))))))))
  refine ensures_firstError (ensures_mono (ensures_initTarget R) ?_)
  rintro r cfg ⟨-, rfl⟩
  cases r with
  | error msg => nofun
  | ok u =>
    refine ensures_mono (hrest _) fun r cfg h hr => ?_
    rw [h hr]
    simp only [Function.comp, log, Log.ofPart, shown, ConsumerConfig.new, subscription, id, List.nil_append, List.append_assoc,
      Option.or_none]

end

end SubscribeOptions

end PulsarNode
