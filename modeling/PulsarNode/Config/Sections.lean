/-
What the sections of `ConsumerConfig::InitConfig` do to the members of the configuration. Most of
them append setter calls that concern neither the timeouts, nor the options shared with readers, nor
the limits, nor the batch receive policy, and leave the target and the subscription as they were.
-/
import PulsarNode.Config.Consumer
import PulsarNode.Napi.Frame

namespace PulsarNode

open Napi Prog

/-- The setters for the timeouts and for the options that consumers share with readers. -/
def ConsumerSetter.tracked : ConsumerSetter → Bool
  | unackedMessagesTimeoutMs _ | negativeAckRedeliveryDelayMs _ | receiverQueueSize _ | readCompacted
  | defaultCryptoKeyReader _ _ | cryptoKeyReader _ | cryptoFailureAction _ => true
  | _ => false

/-- The setters beside these, the limits and the batch receive policy. -/
def ConsumerSetter.aside : ConsumerSetter → Bool
  | maxTotalReceiverQueueSizeAcrossPartitions _ | maxPendingChunkedMessage _ | batchReceivePolicy _ _ _ => false
  | c => !c.tracked

namespace ConsumerConfig

/-- The members that choose the native call, and the setter calls that are tracked. -/
structure Kept where
  topic : String
  topics : List String
  topicsPattern : String
  subscription : String
  tracked : List ConsumerSetter
  deriving DecidableEq

def kept (cfg : ConsumerConfig) : Kept :=
  ⟨cfg.topic, cfg.topics, cfg.topicsPattern, cfg.subscription, cfg.cConsumerConfig.filter (·.tracked)⟩

/-- What is kept is the same. -/
def SameKept (cfg cfg' : ConsumerConfig) : Prop := cfg'.kept = cfg.kept

/-- The setter calls made are the same. -/
def SameSetters (cfg cfg' : ConsumerConfig) : Prop := cfg'.cConsumerConfig = cfg.cConsumerConfig

/-! ## The setters -/

theorem call_moves {ρ : ConsumerConfig → ConsumerConfig → Prop} {c : ConsumerSetter}
    (h : ∀ cfg : ConsumerConfig, ρ cfg { cfg with cConsumerConfig := cfg.cConsumerConfig ++ [c] }) : Moves ρ (call c) :=
  .bind setter_moves fun _ => .bind (.change h) fun _ => .pure _

theorem set_moves {ρ : ConsumerConfig → ConsumerConfig → Prop} {c : ConsumerSetter}
    (h : ∀ cfg : ConsumerConfig, ρ cfg { cfg with cConsumerConfig := cfg.cConsumerConfig ++ [c] }) : Moves ρ (set c) :=
  .bind (call_moves h) fun _ => .pure _

theorem sameKept_append {c : ConsumerSetter} (hc : c.tracked = false) (cfg : ConsumerConfig) :
    SameKept cfg { cfg with cConsumerConfig := cfg.cConsumerConfig ++ [c] } := by
  simp [SameKept, kept, hc]

theorem set_sameKept {c : ConsumerSetter} (hc : c.tracked = false) : Moves SameKept (set c) :=
  set_moves (sameKept_append hc)

theorem setNonNegative_moves {ρ : ConsumerConfig → ConsumerConfig → Prop} {config : JsValue} {key : String}
    {c : Int → ConsumerSetter} (h : ∀ n, Moves ρ (set (c n))) : Moves ρ (setNonNegative config key c) := by
  refine ifNumber_moves fun x => ?_
  split
  · exact h _
  · exact .pure _

theorem stringOption_moves {ρ : ConsumerConfig → ConsumerConfig → Prop} {o : JsValue} {key : String} :
    Moves ρ (stringOption o key) :=
  ifHasAs_moves (.bind getString_moves fun _ => .pure _) (.pure _)

theorem numberOption_moves {ρ : ConsumerConfig → ConsumerConfig → Prop} {o : JsValue} {key : String}
    {convert : JsNumber → Int} {dflt : Int} : Moves ρ (numberOption o key convert dflt) :=
  ifHasAs_moves (.bind getNumber_moves fun _ => .pure _) (.pure _)

/-- A relation that sees neither the setters aside nor the listener. -/
structure Overlooks (ρ : ConsumerConfig → ConsumerConfig → Prop) : Prop where
  setter : ∀ c : ConsumerSetter, c.aside = true → ∀ cfg : ConsumerConfig,
    ρ cfg { cfg with cConsumerConfig := cfg.cConsumerConfig ++ [c] }
  listener : ∀ l (cfg : ConsumerConfig), ρ cfg { cfg with listener := l }

theorem overlooks_sameKept : Overlooks SameKept := by
  refine ⟨fun c hc => sameKept_append ?_, fun _ _ => rfl⟩
  cases c <;> first | rfl | cases hc

/-! ## The sections -/

section

variable (config : JsValue)

theorem initTarget_sameSetters : Moves SameSetters (initTarget config) := by
  refine .bind (ifString_moves fun _ => .change fun _ => rfl) fun _ => .bind ?_ fun _ =>
    .bind (ifString_moves fun _ => .change fun _ => rfl) fun _ => .bind .look fun cfg => ?_
  · refine .bind hasAs_moves fun b => when_moves (.bind js_moves fun arr => .bind (forLength_moves (fun i _ => ?_) _)
      fun _ => .pure _)
    refine .bind js_moves fun x => ?_
    split
    · exact .bind js_moves fun _ => .bind js_moves fun _ => .bind (.change fun _ => rfl) fun _ => .pure _
    · exact .pure _
  · split <;> exact .pure _

theorem initSubscription_moves {ρ : ConsumerConfig → ConsumerConfig → Prop}
    (h : ∀ s cfg, ρ cfg { cfg with subscription := s }) : Moves ρ (initSubscription config) := by
  refine .bind (ifString_moves fun s => .change (h s)) fun _ => .bind .look fun cfg => ?_
  split <;> exact .pure _

/-- A timeout of the configuration: stored, checked and forwarded. -/
def timeoutSection (key : String) (store : Int → ConsumerConfig → ConsumerConfig) (bad : Int → Prop) [DecidablePred bad]
    (message : String) (c : Int → ConsumerSetter) : Section := do
  if ← hasAs config key JsValue.isNumber then
    let ms := (← getNumber config key).int64Value
    Prog.change (store ms)
    if bad ms then
      return .error message
    set (c ms)
  return .ok ()

/-- The timeout is stored, and forwarded where it is in bounds. -/
theorem timeoutSection_moves {ρ : ConsumerConfig → ConsumerConfig → Prop} {key : String}
    {store : Int → ConsumerConfig → ConsumerConfig} {bad : Int → Prop} [DecidablePred bad] {message : String}
    {c : Int → ConsumerSetter} (hstore : ∀ ms cfg, ρ cfg (store ms cfg)) (hset : ∀ ms, ¬ bad ms → Moves ρ (set (c ms))) :
    Moves ρ (timeoutSection config key store bad message c) := by
  refine ifHasAs_moves (.bind getNumber_moves fun x => .bind (.change (hstore _)) fun _ => ?_) (.pure _)
  split
  · exact .pure _
  · rename_i hok
    exact .bind (hset _ hok) fun _ => .pure _

theorem initAckTimeout_eq : initAckTimeout config =
    timeoutSection config cfgAckTimeout (fun ms cfg => { cfg with ackTimeoutMs := ms })
      (fun ms => ms ≠ 0 ∧ ms < minAckTimeoutMillis)
      ("Ack timeout should be 0 or greater than or equal to " ++ s!"{minAckTimeoutMillis}") .unackedMessagesTimeoutMs := rfl

theorem initNAckRedeliverTimeout_eq : initNAckRedeliverTimeout config =
    timeoutSection config cfgNackRedeliverTimeout (fun ms cfg => { cfg with nAckRedeliverTimeoutMs := ms }) (· < 0)
      "NAck timeout should be greater than or equal to zero" .negativeAckRedeliveryDelayMs := rfl

theorem initAckTimeout_moves {ρ : ConsumerConfig → ConsumerConfig → Prop}
    (hstore : ∀ ms cfg, ρ cfg { cfg with ackTimeoutMs := ms })
    (hset : ∀ ms, ¬ (ms ≠ 0 ∧ ms < minAckTimeoutMillis) → Moves ρ (set (.unackedMessagesTimeoutMs ms))) :
    Moves ρ (initAckTimeout config) := by
  rw [initAckTimeout_eq]
  exact timeoutSection_moves config hstore hset

theorem initNAckRedeliverTimeout_moves {ρ : ConsumerConfig → ConsumerConfig → Prop}
    (hstore : ∀ ms cfg, ρ cfg { cfg with nAckRedeliverTimeoutMs := ms })
    (hset : ∀ ms, ¬ ms < 0 → Moves ρ (set (.negativeAckRedeliveryDelayMs ms))) :
    Moves ρ (initNAckRedeliverTimeout config) := by
  rw [initNAckRedeliverTimeout_eq]
  exact timeoutSection_moves config hstore hset

theorem stickyRange_moves {ρ : ConsumerConfig → ConsumerConfig → Prop} (arr : JsValue) (i : Nat) :
    Moves ρ (stickyRange arr i) := by
  refine .bind js_moves fun x => ?_
  split
  · refine .bind js_moves fun _ => .bind js_moves fun rangeObj => .bind ?_ fun both => ?_
    · refine .bind js_moves fun b => ?_
      cases b with
      | false => exact .pure _
      | true =>
        refine .bind js_moves fun b => ?_
        cases b with
        | false => exact .pure _
        | true =>
          refine .bind js_moves fun x => ?_
          split
          · exact .bind js_moves fun _ => .pure _
          · exact .pure _
    · cases both with
      | false => exact .pure _
      | true =>
        refine .bind getNumber_moves fun start => .bind getNumber_moves fun stop => ?_
        dsimp only
        split <;> exact .pure _
  · exact .pure _

theorem setPolicy_moves {ρ : ConsumerConfig → ConsumerConfig → Prop} {c : KeySharedPolicySetter} : Moves ρ (setPolicy c) :=
  .bind setter_moves fun _ => .pure _

theorem readKeyShareMode_moves {ρ : ConsumerConfig → ConsumerConfig → Prop} {o : JsValue} {p : KeySharedPolicy} :
    Moves ρ (readKeyShareMode o p) := by
  refine ifHasAs_moves (.bind getString_moves fun name => ?_) (.pure _)
  cases consumerKeySharedPolicyModes.lookup name with
  | none => exact .pure _
  | some m => exact .bind setPolicy_moves fun _ => .pure _

theorem readAllowOutOfOrder_moves {ρ : ConsumerConfig → ConsumerConfig → Prop} {o : JsValue} {p : KeySharedPolicy} :
    Moves ρ (readAllowOutOfOrder o p) :=
  ifHasAs_moves (.bind getBoolean_moves fun _ => .bind setPolicy_moves fun _ => .pure _) (.pure _)

theorem readStickyRanges_moves {ρ : ConsumerConfig → ConsumerConfig → Prop} {o : JsValue} {p : KeySharedPolicy} :
    Moves ρ (readStickyRanges o p) := by
  refine ifHasAs_moves (.bind js_moves fun arr => .bind (forLength_moves (fun i ranges => ?_) _) fun r => ?_) (.pure _)
  · refine .bind (stickyRange_moves arr i) fun r => ?_
    cases r <;> exact .pure _
  · cases r with
    | error msg => exact .pure _
    | ok ranges => exact .bind setPolicy_moves fun _ => .pure _

theorem initQueueSizes_moves {ρ : ConsumerConfig → ConsumerConfig → Prop} (hsize : ∀ n, Moves ρ (set (.receiverQueueSize n)))
    (hacross : ∀ n, Moves ρ (set (.maxTotalReceiverQueueSizeAcrossPartitions n))) : Moves ρ (initQueueSizes config) :=
  .bind (setNonNegative_moves hsize) fun _ => setNonNegative_moves hacross

theorem initReadCompacted_moves {ρ : ConsumerConfig → ConsumerConfig → Prop} (hset : Moves ρ (set .readCompacted)) :
    Moves ρ (initReadCompacted config) :=
  ifBoolean_moves fun _ => when_moves hset

theorem initCrypto_moves {ρ : ConsumerConfig → ConsumerConfig → Prop}
    (hpath : ∀ a b, Moves ρ (set (.defaultCryptoKeyReader a b))) (hreader : ∀ o, Moves ρ (set (.cryptoKeyReader o)))
    (haction : ∀ a, Moves ρ (set (.cryptoFailureAction a))) : Moves ρ (initCrypto config) := by
  have hrest : Moves ρ (ifNamed config cfgCryptoFailureAction consumerCryptoFailureActions fun a =>
    set (.cryptoFailureAction a)) := ifNamed_moves haction
  refine .bind (ifString_moves fun _ => hpath _ _) fun _ => ifHasAs_moves ?_ hrest
  exact .bind js_moves fun _ => .bind js_moves fun _ => .bind (hreader _) fun _ => hrest

theorem initBatchReceivePolicy_moves {ρ : ConsumerConfig → ConsumerConfig → Prop}
    (happend : ∀ m b t (cfg : ConsumerConfig),
      ρ cfg { cfg with cConsumerConfig := cfg.cConsumerConfig ++ [.batchReceivePolicy m b t] }) :
    Moves ρ (initBatchReceivePolicy config) := by
  refine ifHasAs_moves (.bind getObject_moves fun _ => .bind numberOption_moves fun _ => .bind numberOption_moves
    fun _ => .bind numberOption_moves fun _ => ?_) (.pure _)
  split
  · exact .pure _
  · refine .bind (call_moves (happend _ _ _)) fun result => ?_
    split <;> exact .pure _

theorem initSubscriptionOptions_moves {ρ : ConsumerConfig → ConsumerConfig → Prop}
    (htype : ∀ t, Moves ρ (set (.consumerType t))) (hposition : ∀ p, Moves ρ (set (.subscriptionInitialPosition p)))
    (hregex : ∀ m, Moves ρ (set (.regexSubscriptionMode m))) (hname : ∀ n, Moves ρ (set (.consumerName n))) :
    Moves ρ (initSubscriptionOptions config) :=
  .bind (ifNamed_moves htype) fun _ => .bind (ifNamed_moves hposition) fun _ => .bind (ifNamed_moves hregex) fun _ =>
    ifString_moves fun _ => when_moves (hname _)

theorem initSchema_moves {ρ : ConsumerConfig → ConsumerConfig → Prop} (hset : ∀ info, Moves ρ (set (.schema info))) :
    Moves ρ (initSchema config) :=
  ifObject_moves fun o => .bind (SchemaInfo.schemaInfo_moves o) hset

theorem initProperties_moves {ρ : ConsumerConfig → ConsumerConfig → Prop}
    (hset : ∀ key value, Moves ρ (set (.property key value))) : Moves ρ (initProperties config) :=
  ifObject_moves fun _ => forProperties_moves (fun _ _ _ => hset _ _) _

theorem initListener_moves {ρ : ConsumerConfig → ConsumerConfig → Prop}
    (hstore : ∀ l (cfg : ConsumerConfig), ρ cfg { cfg with listener := l }) (hset : ∀ l, Moves ρ (set (.messageListener l))) :
    Moves ρ (initListener config) := by
  refine .bind hasAs_moves fun b => when_moves ?_
  exact .bind (.ask _) fun _ => .bind (.change fun cfg => hstore _ cfg) fun _ => hset _

theorem initChunking_moves {ρ : ConsumerConfig → ConsumerConfig → Prop}
    (hmax : ∀ n, Moves ρ (set (.maxPendingChunkedMessage n)))
    (holdest : ∀ b, Moves ρ (set (.autoAckOldestChunkedMessageOnQueueFull b)))
    (hindex : ∀ b, Moves ρ (set (.batchIndexAckEnabled b))) : Moves ρ (initChunking config) :=
  .bind (setNonNegative_moves hmax) fun _ => .bind (ifBoolean_moves holdest) fun _ => ifBoolean_moves hindex

theorem initDeadLetterPolicy_moves {ρ : ConsumerConfig → ConsumerConfig → Prop}
    (hset : ∀ topic count sub, Moves ρ (set (.dlqPolicy topic count sub))) : Moves ρ (initDeadLetterPolicy config) :=
  ifObject_moves fun _ => .bind stringOption_moves fun _ => .bind numberOption_moves fun _ =>
    .bind stringOption_moves fun _ => hset _ _ _

theorem initReplicateSubscriptionState_moves {ρ : ConsumerConfig → ConsumerConfig → Prop}
    (hset : ∀ b, Moves ρ (set (.replicateSubscriptionStateEnabled b))) : Moves ρ (initReplicateSubscriptionState config) :=
  ifBoolean_moves hset

end

namespace Overlooks

variable {ρ : ConsumerConfig → ConsumerConfig → Prop} (h : Overlooks ρ) (config : JsValue)
include h

theorem set {c : ConsumerSetter} (hc : c.aside = true) : Moves ρ (ConsumerConfig.set c) := set_moves (h.setter c hc)

theorem initSubscriptionOptions : Moves ρ (initSubscriptionOptions config) :=
  initSubscriptionOptions_moves config (fun _ => h.set rfl) (fun _ => h.set rfl) (fun _ => h.set rfl) fun _ => h.set rfl

theorem initSchema : Moves ρ (initSchema config) := initSchema_moves config fun _ => h.set rfl

theorem initProperties : Moves ρ (initProperties config) := initProperties_moves config fun _ _ => h.set rfl

theorem initListener : Moves ρ (initListener config) := initListener_moves config h.listener fun _ => h.set rfl

theorem initChunking (hmax : ∀ n, Moves ρ (ConsumerConfig.set (.maxPendingChunkedMessage n))) : Moves ρ (initChunking config) :=
  initChunking_moves config hmax (fun _ => h.set rfl) fun _ => h.set rfl

theorem initDeadLetterPolicy : Moves ρ (initDeadLetterPolicy config) :=
  initDeadLetterPolicy_moves config fun _ _ _ => h.set rfl

theorem initKeySharedPolicy : Moves ρ (initKeySharedPolicy config) := by
  refine ifHasAs_moves (.bind getObject_moves fun _ => .bind readKeyShareMode_moves fun _ =>
    .bind readAllowOutOfOrder_moves fun _ => .bind readStickyRanges_moves fun r => ?_) (.pure _)
  cases r with
  | error msg => exact .pure _
  | ok p => exact .bind (h.set rfl) fun _ => .pure _

theorem initReplicateSubscriptionState : Moves ρ (initReplicateSubscriptionState config) :=
  initReplicateSubscriptionState_moves config fun _ => h.set rfl

end Overlooks

end ConsumerConfig

end PulsarNode
