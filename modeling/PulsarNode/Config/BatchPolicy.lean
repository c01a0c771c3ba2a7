/-
The batch receive policy of a consumer. Its limits are read as 64-bit numbers where they may be large,
and kept in C++ `int`s before they are checked and handed over; the check rejects a policy whose three
numbers are all not positive.
-/
import PulsarNode.Config.Checks
import PulsarNode.Napi.Number
import PulsarNode.Napi.Object

namespace PulsarNode

open Napi Prog

/-! ## The calls of the native setter -/

/-- The policy that a setter call hands over. -/
def ConsumerSetter.policy : ConsumerSetter → Option (Int × Int × Int)
  | batchReceivePolicy m b t => some (m, b, t)
  | _ => none

namespace ConsumerConfig

/-- The policies that the native configuration was given. -/
def policies (cfg : ConsumerConfig) : List (Int × Int × Int) := cfg.cConsumerConfig.filterMap (·.policy)

def SamePolicies (cfg cfg' : ConsumerConfig) : Prop := cfg'.policies = cfg.policies

theorem set_samePolicies {c : ConsumerSetter} (hc : c.policy = none) : Moves SamePolicies (set c) :=
  set_moves fun cfg => by simp [SamePolicies, policies, hc]

theorem overlooks_samePolicies : Overlooks SamePolicies := by
  refine ⟨fun c hc cfg => ?_, fun _ _ => rfl⟩
  have hnone : c.policy = none := by
    cases c <;> first | rfl | cases hc
  simp [SamePolicies, policies, hnone]

end ConsumerConfig

namespace SubscribeOptions

open ConsumerConfig

section

variable {v : View} {config : JsValue} {ans : (q : Query) → q.Resp → Prop} {cfg : ConsumerConfig}

/-- A section that does not leave and hands over no policy, and what follows it. -/
theorem ensures_quiet {p : Section} {ps : List Section} {post : Except String Unit → ConsumerConfig → Prop}
    (hmoves : Moves SamePolicies p) (hexit : ensures ans (fun _ => True) p (fun r _ => exitMessage r = none) cfg)
    (hps : ∀ cfg' : ConsumerConfig, cfg'.policies = cfg.policies → ensures ans (fun _ => True) (firstError ps) post cfg') :
    ensures ans (fun _ => True) (firstError (p :: ps)) post cfg := by
  refine ensures_firstError (ensures_mono (ensures_and hexit (Moves.keeps (f := policies) hmoves cfg)) ?_)
  rintro r cfg' ⟨hr, hcfg'⟩
  cases r with
  | error msg => cases hr
  | ok u => exact hps cfg' hcfg'

theorem ensures_aside {p : Napi ConsumerConfig Unit} {ps : List Section} {post : Except String Unit → ConsumerConfig → Prop}
    (hmoves : Moves SamePolicies p)
    (hps : ∀ cfg' : ConsumerConfig, cfg'.policies = cfg.policies → ensures ans (fun _ => True) (firstError ps) post cfg') :
    ensures ans (fun _ => True) (firstError (always p :: ps)) post cfg :=
  ensures_quiet (.always hmoves) (ensures_always (ensures_mono (ensures_true p) fun _ _ _ => rfl)) hps

/-- The checks of the sections before that of the policy. -/
structure PassesBefore (v : View) (config : JsValue) : Prop where
  target : targetError v config = none
  subscription : subscriptionError v config = none
  ackTimeout : ackTimeoutError v config = none
  nAckRedeliverTimeout : nAckRedeliverTimeoutError v config = none

/-- The section of the policy hands over what its check lets it. -/
theorem ensures_policy (R : Reading v ans (fun _ => True)) (hnone : cfg.policies = []) :
    ensures ans (fun _ => True) (initBatchReceivePolicy config)
      (fun _ cfg' => cfg'.policies = (policyCalls v config).filterMap (·.policy)) cfg := by
  refine ensures_mono (ensures_initBatchReceivePolicy R) ?_
  rintro r cfg' ⟨status, -, -, hsetters⟩
  unfold policies at hnone ⊢
  rw [hsetters, List.filterMap_append, hnone, List.nil_append]

/-- What follows it hands over no policy, however it leaves. -/
theorem afterPolicy_samePolicies (config : JsValue) :
    Moves SamePolicies (firstError [initKeySharedPolicy config, always (initReplicateSubscriptionState config)]) := by
  have h := overlooks_samePolicies
  refine .firstError ?_
  simp only [List.forall_mem_cons]
  exact ⟨h.initKeySharedPolicy config, .always (h.initReplicateSubscriptionState config), by simp⟩

/-- Where the checks before it pass, the policy is handed over as its check lets it. -/
theorem ensures_policies (R : Reading v ans (fun _ => True)) (hbefore : PassesBefore v config) :
    ensures ans (fun _ => True) (initConfig config)
      (fun _ cfg => cfg.policies = (policyCalls v config).filterMap (·.policy)) .new := by
  have h := overlooks_samePolicies
  have hqueues : Moves SamePolicies (initQueueSizes config) :=
    initQueueSizes_moves config (fun _ => set_samePolicies rfl) fun _ => set_samePolicies rfl
  have hcrypto : Moves SamePolicies (initCrypto config) :=
    initCrypto_moves config (fun _ _ => set_samePolicies rfl) (fun _ => set_samePolicies rfl) fun _ => set_samePolicies rfl
  refine ensures_firstError (ensures_mono (ensures_initTarget R) ?_)
  rintro r c₁ ⟨hr, rfl⟩
  rw [hbefore.target] at hr
  cases r with
  | error msg => cases hr
  | ok u =>
    refine ensures_firstError (ensures_mono (ensures_initSubscription R rfl) ?_)
    rintro r c₂ ⟨hr, rfl⟩
    rw [hbefore.subscription] at hr
    cases r with
    | error msg => cases hr
    | ok u =>
      refine ensures_aside (h.initSubscriptionOptions config) fun c₃ h₃ => ?_
      refine ensures_quiet (initAckTimeout_moves config (fun _ _ => rfl) fun _ _ => set_samePolicies rfl)
        (hbefore.ackTimeout ▸ ensures_initAckTimeout R) fun c₄ h₄ => ?_
      refine ensures_quiet (initNAckRedeliverTimeout_moves config (fun _ _ => rfl) fun _ _ => set_samePolicies rfl)
        (hbefore.nAckRedeliverTimeout ▸ ensures_initNAckRedeliverTimeout R) fun c₅ h₅ => ?_
      refine ensures_aside hqueues fun c₆ h₆ => ?_
      refine ensures_aside (h.initSchema config) fun c₇ h₇ => ?_
      refine ensures_aside (h.initProperties config) fun c₈ h₈ => ?_
      refine ensures_aside (h.initListener config) fun c₉ h₉ => ?_
      refine ensures_aside (initReadCompacted_moves config (set_samePolicies rfl)) fun c₁₀ h₁₀ => ?_
      refine ensures_aside hcrypto fun c₁₁ h₁₁ => ?_
      refine ensures_aside (h.initChunking config fun _ => set_samePolicies rfl) fun c₁₂ h₁₂ => ?_
      refine ensures_aside (h.initDeadLetterPolicy config) fun c₁₃ h₁₃ => ?_
      have hnone : c₁₃.policies = [] := by
        rw [h₁₃, h₁₂, h₁₁, h₁₀, h₉, h₈, h₇, h₆, h₅, h₄, h₃]
        rfl
      refine ensures_firstError (ensures_mono (ensures_policy R hnone) fun r c₁₄ h₁₄ => ?_)
      cases r with
      | error msg => exact h₁₄
      | ok u =>
        refine ensures_mono (Moves.keeps (f := policies) (afterPolicy_samePolicies config) c₁₄) ?_
        intro _ c₁₅ h₁₅
        rw [← h₁₄]
        exact h₁₅

end

/-! ## The numbers of a policy -/

def policyMessage : String := "At least one of maxNumMessages, maxNumBytes and timeoutMs must be specified."

/-- The number that a field of the policy stands for: the integer given, or its default. -/
def Effective (v : View) (o : JsValue) (key : String) (dflt n : Int) : Prop :=
  v.number o key = some (.ofInt n) ∨ v.number o key = none ∧ n = dflt

/-- The three effective values, the first within 32 bits and the others exact as JS numbers. -/
structure EffectivePolicy (v : View) (o : JsValue) (m b t : Int) : Prop where
  maxNumMessages : Effective v o cfgBatchReceivePolicyMaxNumMessages (-1) m
  maxNumBytes : Effective v o cfgBatchReceivePolicyMaxNumBytes (10 * 1024 * 1024) b
  timeoutMs : Effective v o cfgBatchReceivePolicyTimeoutMs 100 t
  messagesFit : FitsInt m
  bytesExact : -2 ^ 53 ≤ b ∧ b ≤ 2 ^ 53
  timeoutExact : -2 ^ 53 ≤ t ∧ t ≤ 2 ^ 53

/-- An integer that a JS number holds exactly is narrowed from itself. -/
theorem numberOr_toInt {v : View} {o : JsValue} {key : String} {dflt n : Int} (h : Effective v o key dflt n)
    (hdflt : FitsInt dflt) (hexact : -2 ^ 53 ≤ n ∧ n ≤ 2 ^ 53) :
    numberOr v o key (fun x => toInt x.int64Value) dflt = toInt n := by
  unfold numberOr
  rcases h with h | ⟨h, rfl⟩
  · rw [h]
    simp only [Option.map_some, Option.getD_some]
    rw [JsNumber.int64Value_ofInt]
    congr 1
    omega
  · rw [h]
    exact (bmod_eq_self_iff.2 hdflt).symm

theorem EffectivePolicy.values {v : View} {o : JsValue} {m b t : Int} (h : EffectivePolicy v o m b t) :
    SubscribeOptions.maxNumMessages v o = m ∧ SubscribeOptions.maxNumBytes v o = toInt b ∧
      SubscribeOptions.timeoutMs v o = toInt t := by
  refine ⟨?_, numberOr_toInt h.maxNumBytes (by decide) h.bytesExact, numberOr_toInt h.timeoutMs (by decide) h.timeoutExact⟩
  unfold SubscribeOptions.maxNumMessages numberOr
  rcases h.maxNumMessages with hm | ⟨hm, rfl⟩
  · rw [hm]
    simp only [Option.map_some, Option.getD_some]
    rw [JsNumber.int32Value_ofInt, bmod_eq_self_iff]
    exact h.messagesFit
  · rw [hm]
    rfl

/-! ## The check and the hand-over -/

/-- The check rejects where none of the three is positive, and otherwise they are handed over. -/
structure Respected (m b t : Int) (r : Except String Unit) (cfg : ConsumerConfig) : Prop where
  rejected : r = .error policyMessage ↔ m ≤ 0 ∧ b ≤ 0 ∧ t ≤ 0
  received : ¬ (m ≤ 0 ∧ b ≤ 0 ∧ t ≤ 0) → cfg.policies = [(m, b, t)]

/-- The integer is congruent to a positive `int`. -/
def WrapsPositive (n : Int) : Prop := ∃ p, 0 < p ∧ FitsInt p ∧ (2 ^ 32 : Int) ∣ n - p

theorem toInt_pos_iff {n : Int} : 0 < toInt n ↔ WrapsPositive n := by
  constructor
  · intro h
    exact ⟨toInt n, h, fitsInt_toInt n, Int.dvd_self_sub_bmod⟩
  · rintro ⟨p, hp, hfits, hdvd⟩
    have heq : toInt n = p := by
      unfold toInt
      rw [← bmod_eq_self_iff.2 hfits]
      exact Int.bmod_eq_bmod_iff_bmod_sub_eq_zero.2 (Int.bmod_eq_zero_of_dvd hdvd)
    rwa [heq]

theorem ne_of_head {s t : String} (h : s.toList.head? ≠ t.toList.head?) : s ≠ t := by
  rintro rfl
  exact h rfl

/-- No sticky range is refused with the message of the policy. -/
theorem stickyRangeError_ne (v : View) (arr : JsValue) (i : Nat) : stickyRangeError v arr i ≠ some policyMessage := by
  -- the messages begin with other letters
  have hhead : policyMessage.toList.head? = some 'A' := rfl
  intro h
  unfold stickyRangeError at h
  split at h
  · split at h
    · split at h
      · exact ne_of_head (by simp [hhead, ToString.toString]) (Option.some.inj h)
      · cases h
    · exact ne_of_head (by simp [hhead, ToString.toString]) (Option.some.inj h)
  · exact ne_of_head (by simp [hhead, ToString.toString]) (Option.some.inj h)

section

variable {v : View} {config o : JsValue} {m b t : Int}

/-- The check of the parser is made on the narrowed numbers. -/
theorem batchReceivePolicyError_iff (ho : v.object config cfgBatchReceivePolicy = some o) (h : EffectivePolicy v o m b t) :
    batchReceivePolicyError v config = some policyMessage ↔ m ≤ 0 ∧ toInt b ≤ 0 ∧ toInt t ≤ 0 := by
  obtain ⟨hm, hb, ht⟩ := h.values
  unfold batchReceivePolicyError
  rw [ho, Option.bind_some, hm, hb, ht]
  by_cases hall : m ≤ 0 ∧ toInt b ≤ 0 ∧ toInt t ≤ 0
  · rw [if_pos hall]
    exact iff_of_true rfl hall
  · rw [if_neg hall]
    exact iff_of_false (by simp) hall

theorem batchReceivePolicyError_eq_none_iff (ho : v.object config cfgBatchReceivePolicy = some o)
    (h : EffectivePolicy v o m b t) :
    batchReceivePolicyError v config = none ↔ ¬ (m ≤ 0 ∧ toInt b ≤ 0 ∧ toInt t ≤ 0) := by
  rw [← batchReceivePolicyError_iff ho h]
  unfold batchReceivePolicyError
  rw [ho, Option.bind_some]
  split
  · exact iff_of_false (by simp) fun hne => hne rfl
  · exact iff_of_true rfl (by simp)

/-- Subscribing is rejected with the message of the policy exactly when that check fails. -/
theorem verdict_policy_iff {ans : (q : Query) → q.Resp → Prop} {r : Except String Unit} (hbefore : PassesBefore v config)
    (hr : Verdict v config ans r) : r = .error policyMessage ↔ batchReceivePolicyError v config = some policyMessage := by
  obtain ⟨status, -, hfirst⟩ := hr
  have hexit : r = .error policyMessage ↔ exitMessage r = some policyMessage := by
    cases r <;> simp [exitMessage]
  have hranges : stickyRangesError v config ≠ some policyMessage := by
    intro h
    obtain ⟨o', -, ho'⟩ := Option.bind_eq_some_iff.1 h
    obtain ⟨arr, -, harr⟩ := Option.bind_eq_some_iff.1 ho'
    obtain ⟨i, -, hi⟩ := List.exists_of_findSome?_eq_some harr
    exact stickyRangeError_ne v arr i hi
  have hstatus : batchReceiveStatusError v config status ≠ some policyMessage := by
    unfold batchReceiveStatusError
    cases v.object config cfgBatchReceivePolicy with
    | none => simp
    | some o' =>
      rw [Option.bind_some]
      split
      · exact fun h => absurd (Option.some.inj h) (by decide)
      · simp
  rw [hexit, hfirst]
  unfold firstViolation errorsBefore
  rw [hbefore.target, hbefore.subscription, hbefore.ackTimeout, hbefore.nAckRedeliverTimeout]
  cases hpolicy : batchReceivePolicyError v config with
  | some msg => simp
  | none =>
    cases hs : batchReceiveStatusError v config status with
    | some msg => simpa [hs] using hstatus
    | none => simpa using hranges

variable {J N : Type} (sides : Sides J N) {r : Except String Unit} {cfg : ConsumerConfig} {w w' : World J N}

/-- Where the checks before it pass, the policy of an object is respected exactly when its two large limits
are within 32 bits, or none of the three numbers is positive and neither of the two wraps to one that is. -/
theorem respected_iff (hv : v.Lawful) (hshown : v.Shown sides (initConfig config) .new w)
    (hrun : (initConfig config).run sides.answer .new w = (.ok r, cfg, w')) (hbefore : PassesBefore v config)
    (ho : v.object config cfgBatchReceivePolicy = some o) (h : EffectivePolicy v o m b t) :
    Respected m b t r cfg ↔ FitsInt b ∧ FitsInt t ∨
      m ≤ 0 ∧ b ≤ 0 ∧ t ≤ 0 ∧ ¬ WrapsPositive b ∧ ¬ WrapsPositive t := by
  have hverdict := (ensures_run_ok (ensures_initConfig (hshown.reading hv)) (fun _ _ h => h) hrun).1
  have hpolicies := ensures_run_ok (ensures_policies (hshown.reading hv) hbefore) (fun _ _ h => h) hrun
  have hrejected : r = .error policyMessage ↔ m ≤ 0 ∧ toInt b ≤ 0 ∧ toInt t ≤ 0 :=
    (verdict_policy_iff hbefore hverdict).trans (batchReceivePolicyError_iff ho h)
  have hreceived : ¬ (m ≤ 0 ∧ toInt b ≤ 0 ∧ toInt t ≤ 0) → cfg.policies = [(m, toInt b, toInt t)] := by
    intro hpass
    obtain ⟨hm, hb, ht⟩ := h.values
    rw [hpolicies, policyCalls, ho, (batchReceivePolicyError_eq_none_iff ho h).2 hpass]
    simp [ConsumerSetter.policy, hm, hb, ht]
  have hfitsB : toInt b = b ↔ FitsInt b := bmod_eq_self_iff
  have hfitsT : toInt t = t ↔ FitsInt t := bmod_eq_self_iff
  rw [← toInt_pos_iff, ← toInt_pos_iff]
  constructor
  · intro hres
    by_cases hall : m ≤ 0 ∧ b ≤ 0 ∧ t ≤ 0
    · have hnarrow := hrejected.1 (hres.rejected.2 hall)
      omega
    · have hnarrow : ¬ (m ≤ 0 ∧ toInt b ≤ 0 ∧ toInt t ≤ 0) := fun hn => hall (hres.rejected.1 (hrejected.2 hn))
      have heq := (hreceived hnarrow).symm.trans (hres.received hall)
      simp only [List.cons.injEq, Prod.mk.injEq, and_true, true_and] at heq
      exact .inl ⟨hfitsB.1 heq.1, hfitsT.1 heq.2⟩
  · rintro (⟨hb, ht⟩ | ⟨hm, hb, ht, hnb, hnt⟩)
    · rw [hfitsB.2 hb, hfitsT.2 ht] at hrejected hreceived
      exact ⟨hrejected, hreceived⟩
    · refine ⟨hrejected.trans ?_, fun hall => absurd ⟨hm, hb, ht⟩ hall⟩
      omega

end

/-- A configuration for a consumer whose policy has these fields. -/
def policyOf (fields : List (String × JsValue)) : Heap := { Heap.empty with
  props := fun
    | 0 => [(cfgTopic, .string "topic"), (cfgSubscription, .string "subscription"),
        (cfgBatchReceivePolicy, .object .plain 1)]
    | 1 => fields
    | _ => [] }

theorem policyOf_passesBefore (fields : List (String × JsValue)) :
    PassesBefore (policyOf fields).view (.object .plain 0) := ⟨rfl, rfl, rfl, rfl⟩

/-- A mebibyte, or ten messages, with the default timeout. -/
def mebibyte : Heap := policyOf [(cfgBatchReceivePolicyMaxNumMessages, .number (.ofInt 10)),
  (cfgBatchReceivePolicyMaxNumBytes, .number (.ofInt (2 ^ 20)))]

theorem mebibyte_respected :
    ∃ cfg w', (initConfig (.object .plain 0)).run mebibyte.sides.answer .new ⟨(), none, ()⟩ = (.ok (.ok ()), cfg, w') ∧
      cfg.policies = [(10, 2 ^ 20, 100)] := by
  obtain ⟨cfg, w', hrun⟩ : ∃ cfg w', (initConfig (.object .plain 0)).run mebibyte.sides.answer .new ⟨(), none, ()⟩ =
      (.ok (.ok ()), cfg, w') := ⟨_, _, rfl⟩
  have hpolicy : EffectivePolicy mebibyte.view (.object .plain 1) 10 (2 ^ 20) 100 :=
    ⟨.inl rfl, .inl rfl, .inr ⟨rfl, rfl⟩, by decide, by decide, by decide⟩
  have hrespected := (respected_iff mebibyte.sides mebibyte.lawful (mebibyte.steady.shown _ _ _) hrun
    (policyOf_passesBefore _) rfl hpolicy).2 (.inl ⟨by decide, by decide⟩)
  exact ⟨cfg, w', hrun, hrespected.received (by decide)⟩

/-- Four gibibytes at once, without a timeout. -/
def fourGibibytes : Heap := policyOf [(cfgBatchReceivePolicyMaxNumBytes, .number (.ofInt (2 ^ 32))),
  (cfgBatchReceivePolicyTimeoutMs, .number (.ofInt 0))]

theorem fourGibibytes_rejected :
    ∃ cfg w', (initConfig (.object .plain 0)).run fourGibibytes.sides.answer .new ⟨(), none, ()⟩ =
        (.ok (.error policyMessage), cfg, w') ∧
      EffectivePolicy fourGibibytes.view (.object .plain 1) (-1) (2 ^ 32) 0 ∧
      ¬ Respected (-1) (2 ^ 32) 0 (.error policyMessage) cfg := by
  refine ⟨_, _, rfl, ⟨.inr ⟨rfl, rfl⟩, .inl rfl, .inl rfl, by decide, by decide, by decide⟩, fun h => ?_⟩
  have hnone := (h.rejected.1 rfl).2.1
  omega

end SubscribeOptions

end PulsarNode
