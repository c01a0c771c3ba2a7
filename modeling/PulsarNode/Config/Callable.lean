/-
What `ConsumerConfig::InitConfig` leaves whenever it goes through, whatever JS answers: something to
subscribe to, a subscription, and timeouts within their bounds. The sections after the first two keep
the members that choose the native call, and forward no timeout that they have not checked.
-/
import PulsarNode.Config.Sections

namespace PulsarNode

open Napi Prog

/-- An ack timeout is 0 or at least `MIN_ACK_TIMEOUT_MILLIS`, and the delay of a negative ack is not negative. -/
def ConsumerSetter.InBounds : ConsumerSetter → Prop
  | unackedMessagesTimeoutMs ms => ms = 0 ∨ 10000 ≤ ms
  | negativeAckRedeliveryDelayMs ms => 0 ≤ ms
  | _ => True

theorem ConsumerSetter.inBounds_of_untracked {c : ConsumerSetter} (h : c.tracked = false) : c.InBounds := by
  cases c with
  | unackedMessagesTimeoutMs ms => cases h
  | negativeAckRedeliveryDelayMs ms => cases h
  | _ => trivial

namespace ConsumerConfig

/-- What is subscribed to is given, and the native configuration is in order. -/
structure Callable (cfg : ConsumerConfig) : Prop where
  target : cfg.topic ≠ "" ∨ cfg.topics ≠ [] ∨ cfg.topicsPattern ≠ ""
  subscription : cfg.subscription ≠ ""
  timeouts : ∀ c ∈ cfg.cConsumerConfig, c.InBounds

/-! ## Keeping on -/

/-- The members that choose the native call stay, and the bounds are kept. -/
structure Onward (cfg cfg' : ConsumerConfig) : Prop where
  topic : cfg'.topic = cfg.topic
  topics : cfg'.topics = cfg.topics
  topicsPattern : cfg'.topicsPattern = cfg.topicsPattern
  subscription : cfg'.subscription = cfg.subscription
  timeouts : (∀ c ∈ cfg.cConsumerConfig, c.InBounds) → ∀ c ∈ cfg'.cConsumerConfig, c.InBounds

namespace Onward

theorem refl (cfg : ConsumerConfig) : Onward cfg cfg := ⟨rfl, rfl, rfl, rfl, id⟩

theorem trans (cfg cfg' cfg'' : ConsumerConfig) (h : Onward cfg cfg') (h' : Onward cfg' cfg'') : Onward cfg cfg'' :=
  ⟨h'.topic.trans h.topic, h'.topics.trans h.topics, h'.topicsPattern.trans h.topicsPattern,
    h'.subscription.trans h.subscription, h'.timeouts ∘ h.timeouts⟩

theorem callable {cfg cfg' : ConsumerConfig} (h : Onward cfg cfg') (hcfg : cfg.Callable) : cfg'.Callable where
  target := by
    rw [h.topic, h.topics, h.topicsPattern]
    exact hcfg.target
  subscription := by
    rw [h.subscription]
    exact hcfg.subscription
  timeouts := h.timeouts hcfg.timeouts

theorem of_sameKept (cfg cfg' : ConsumerConfig) (h : SameKept cfg cfg') : Onward cfg cfg' where
  topic := congrArg Kept.topic h
  topics := congrArg Kept.topics h
  topicsPattern := congrArg Kept.topicsPattern h
  subscription := congrArg Kept.subscription h
  timeouts hb c hc := by
    have htracked : cfg'.cConsumerConfig.filter (·.tracked) = cfg.cConsumerConfig.filter (·.tracked) :=
      congrArg Kept.tracked h
    cases ht : c.tracked with
    | false => exact ConsumerSetter.inBounds_of_untracked ht
    | true =>
      have hmem : c ∈ cfg'.cConsumerConfig.filter (·.tracked) := List.mem_filter.2 ⟨hc, ht⟩
      rw [htracked] at hmem
      exact hb c (List.mem_filter.1 hmem).1

end Onward

theorem set_onward {c : ConsumerSetter} (hc : c.InBounds) : Moves Onward (set c) := by
  refine set_moves fun cfg => ⟨rfl, rfl, rfl, rfl, fun hb c' hc' => ?_⟩
  rcases List.mem_append.1 hc' with hmem | hmem
  · exact hb c' hmem
  · rw [List.mem_singleton.1 hmem]
    exact hc

section

variable (config : JsValue)

theorem initAckTimeout_onward : Moves Onward (initAckTimeout config) := by
  refine initAckTimeout_moves config (fun _ _ => ⟨rfl, rfl, rfl, rfl, id⟩) fun ms hok => set_onward ?_
  unfold minAckTimeoutMillis at hok
  show ms = 0 ∨ 10000 ≤ ms
  omega

theorem initNAckRedeliverTimeout_onward : Moves Onward (initNAckRedeliverTimeout config) := by
  refine initNAckRedeliverTimeout_moves config (fun _ _ => ⟨rfl, rfl, rfl, rfl, id⟩) fun ms hok => set_onward ?_
  show 0 ≤ ms
  omega

/-- The sections after the target and the subscription keep on. -/
theorem rest_onward : Moves Onward (firstError ((sections config).drop 2)) := by
  have hkept {p : Napi ConsumerConfig Unit} (hp : Moves SameKept p) : Moves Onward (always p : Section) :=
    .always (hp.mono Onward.of_sameKept)
  have hqueues : Moves Onward (initQueueSizes config) :=
    initQueueSizes_moves config (fun _ => set_onward trivial) fun _ => set_onward trivial
  have hcompacted : Moves Onward (initReadCompacted config) := initReadCompacted_moves config (set_onward trivial)
  have hcrypto : Moves Onward (initCrypto config) :=
    initCrypto_moves config (fun _ _ => set_onward trivial) (fun _ => set_onward trivial) fun _ => set_onward trivial
  refine .firstError ?_
  simp only [sections, List.drop_succ_cons, List.drop_zero, List.forall_mem_cons]
  refine ⟨hkept (overlooks_sameKept.initSubscriptionOptions config), initAckTimeout_onward config,
    initNAckRedeliverTimeout_onward config, .always hqueues, hkept (overlooks_sameKept.initSchema config),
    hkept (overlooks_sameKept.initProperties config), hkept (overlooks_sameKept.initListener config),
    .always hcompacted, .always hcrypto, hkept (overlooks_sameKept.initChunking config fun _ => set_sameKept rfl),
    hkept (overlooks_sameKept.initDeadLetterPolicy config),
    (initBatchReceivePolicy_moves config fun _ _ _ => sameKept_append rfl).mono Onward.of_sameKept,
    (overlooks_sameKept.initKeySharedPolicy config).mono Onward.of_sameKept,
    hkept (overlooks_sameKept.initReplicateSubscriptionState config), by simp⟩

/-! ## Going through -/

variable {config} {ans : (q : Query) → q.Resp → Prop} {cfg : ConsumerConfig}

theorem ensures_targetGiven :
    ensures ans (fun _ => True) (initTarget config)
      (fun r cfg' => r = .ok () → cfg'.topic ≠ "" ∨ cfg'.topics ≠ [] ∨ cfg'.topicsPattern ≠ "") cfg := by
  refine ensures_seq (ensures_true _) fun _ _ _ => ensures_seq (ensures_true _) fun _ _ _ =>
    ensures_seq (ensures_true _) fun _ c _ => ?_
  rw [ensures_bind, ensures_look]
  by_cases hnone : (c.topic.isEmpty && c.topics.isEmpty && c.topicsPattern.isEmpty) = true
  · rw [if_pos hnone]
    rintro ⟨⟩
  · rw [if_neg hnone]
    intro _
    simp only [Bool.and_eq_true, String.isEmpty_iff, List.isEmpty_iff] at hnone
    tauto

/-- The target stays, and the setter calls. -/
structure SameTarget (cfg cfg' : ConsumerConfig) : Prop where
  topic : cfg'.topic = cfg.topic
  topics : cfg'.topics = cfg.topics
  topicsPattern : cfg'.topicsPattern = cfg.topicsPattern
  setters : cfg'.cConsumerConfig = cfg.cConsumerConfig

theorem initSubscription_sameTarget : Moves SameTarget (initSubscription config) :=
  initSubscription_moves config fun _ _ => ⟨rfl, rfl, rfl, rfl⟩

theorem ensures_subscriptionGiven :
    ensures ans (fun _ => True) (initSubscription config) (fun r cfg' => r = .ok () → cfg'.subscription ≠ "") cfg := by
  refine ensures_seq (ensures_true _) fun _ c _ => ?_
  rw [ensures_bind, ensures_look]
  by_cases hnone : c.subscription.isEmpty = true
  · rw [if_pos hnone]
    rintro ⟨⟩
  · rw [if_neg hnone]
    exact fun _ => by simpa using hnone

/-- A configuration that is accepted can be subscribed with. -/
theorem ensures_callable :
    ensures ans (fun _ => True) (initConfig config) (fun r cfg' => r = .ok () → cfg'.Callable) .new := by
  refine ensures_firstError (ensures_mono (ensures_and ensures_targetGiven
    (Moves.keeps (f := cConsumerConfig) (initTarget_sameSetters config) _)) ?_)
  rintro r c₁ ⟨htarget, hsetters⟩
  cases r with
  | error msg => rintro ⟨⟩
  | ok u =>
    refine ensures_firstError (ensures_mono (ensures_and ensures_subscriptionGiven
      (initSubscription_sameTarget.ensures (fun _ => ⟨rfl, rfl, rfl, rfl⟩) (fun _ _ _ h h' => ⟨h'.topic.trans h.topic,
        h'.topics.trans h.topics, h'.topicsPattern.trans h.topicsPattern, h'.setters.trans h.setters⟩) _)) ?_)
    rintro r c₂ ⟨hsub, hsame⟩
    cases r with
    | error msg => rintro ⟨⟩
    | ok u =>
      refine ensures_mono ((rest_onward config).ensures Onward.refl Onward.trans c₂) fun r cfg' hon _ => ?_
      refine hon.callable ⟨?_, hsub rfl, ?_⟩
      · rw [hsame.topic, hsame.topics, hsame.topicsPattern]
        exact htarget rfl
      · rw [hsame.setters, show c₁.cConsumerConfig = ConsumerConfig.new.cConsumerConfig from hsetters]
        rintro c ⟨⟩

end

end ConsumerConfig

end PulsarNode
