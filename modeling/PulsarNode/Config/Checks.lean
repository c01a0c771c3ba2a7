/-
The checks of `ConsumerConfig::InitConfig`, in its order, read off the options that a view shows: what
the consumer subscribes to, and the message of the first check that the options violate. One check is
up to the native client, whose setter for the batch receive policy reports a status. The sections of the
parser come to the same: each leaves with the message of its check, and lets the members be otherwise.
-/
import PulsarNode.Config.Callable
import PulsarNode.Napi.View
import Mathlib.Data.List.Forall2

namespace PulsarNode

open Napi Prog

/-- What a consumer subscribes to. -/
inductive Target
  | topicsPattern (topicsPattern : String)
  | topics (topics : List String)
  | topic (topic : String)
  deriving DecidableEq, Repr

/-- The message that a section leaves with, if it does. -/
def exitMessage {α : Type} : Except String α → Option String
  | .error msg => some msg
  | .ok _ => none

/-! ## The options -/

namespace SubscribeOptions

open ConsumerConfig

section

variable (v : View) (config : JsValue)

def topic : String := (v.string config cfgTopic).getD ""

/-- The strings among the elements of `topics`. -/
def topics : List String :=
  match v.array config cfgTopics with
  | none => []
  | some arr => (v.elements arr).filterMap JsValue.asString

def topicsPattern : String := (v.string config cfgTopicsPattern).getD ""

def subscription : String := (v.string config cfgSubscription).getD ""

/-- The pattern comes before the topics, and these before the topic. -/
def target : Option Target :=
  if topicsPattern v config ≠ "" then some (.topicsPattern (topicsPattern v config))
  else if topics v config ≠ [] then some (.topics (topics v config))
  else if topic v config ≠ "" then some (.topic (topic v config))
  else none

/-- The strings that name the target and the subscription are free of NUL. -/
structure NulFree : Prop where
  string : ∀ key s, v.string config key = some s → Char.ofNat 0 ∉ s.toList
  topics : ∀ s ∈ topics v config, Char.ofNat 0 ∉ s.toList

/-! ### The checks -/

def targetError : Option String :=
  if target v config = none then
    some ("Topic, topics or topicsPattern is required and must be specified as a string when " ++ "creating consumer")
  else none

def subscriptionError : Option String :=
  if subscription v config = "" then
    some "Subscription is required and must be specified as a string when creating consumer"
  else none

def ackTimeoutError : Option String :=
  (v.number config cfgAckTimeout).bind fun x =>
    if x.int64Value ≠ 0 ∧ x.int64Value < minAckTimeoutMillis then
      some ("Ack timeout should be 0 or greater than or equal to " ++ s!"{minAckTimeoutMillis}")
    else none

def nAckRedeliverTimeoutError : Option String :=
  (v.number config cfgNackRedeliverTimeout).bind fun x =>
    if x.int64Value < 0 then some "NAck timeout should be greater than or equal to zero" else none

/-- A number of an object, converted, or its default. -/
def numberOr (o : JsValue) (key : String) (convert : JsNumber → Int) (dflt : Int) : Int :=
  ((v.number o key).map convert).getD dflt

def maxNumMessages (o : JsValue) : Int := numberOr v o cfgBatchReceivePolicyMaxNumMessages JsNumber.int32Value (-1)

def maxNumBytes (o : JsValue) : Int :=
  numberOr v o cfgBatchReceivePolicyMaxNumBytes (fun x => toInt x.int64Value) (10 * 1024 * 1024)

def timeoutMs (o : JsValue) : Int :=
  numberOr v o cfgBatchReceivePolicyTimeoutMs (fun x => toInt x.int64Value) 100

def batchReceivePolicyError : Option String :=
  (v.object config cfgBatchReceivePolicy).bind fun o =>
    if maxNumMessages v o ≤ 0 ∧ maxNumBytes v o ≤ 0 ∧ timeoutMs v o ≤ 0 then
      some "At least one of maxNumMessages, maxNumBytes and timeoutMs must be specified."
    else none

/-- The native setter for the batch receive policy reports `status`. -/
def batchReceiveStatusError (status : Int) : Option String :=
  (v.object config cfgBatchReceivePolicy).bind fun _ =>
    if status = -1 then some "Set batch receive policy failed: C client returned failure" else none

/-- The calls of the native setter for the policy: one, if a policy is given and passes its check. -/
def policyCalls : List ConsumerSetter :=
  match v.object config cfgBatchReceivePolicy, batchReceivePolicyError v config with
  | some o, none => [.batchReceivePolicy (maxNumMessages v o) (maxNumBytes v o) (timeoutMs v o)]
  | _, _ => []

/-- A sticky range is an object with two numbers in order. -/
def stickyRangeError (arr : JsValue) (i : Nat) : Option String :=
  if (v.getAt arr i).isObject then
    match v.number (v.getAt arr i) "start", v.number (v.getAt arr i) "end" with
    | some start, some stop =>
      if start.int32Value > stop.int32Value then
        some s!"Invalid sticky range at index {i}: start ({start.int32Value}) > end ({stop.int32Value})"
      else none
    | _, _ =>
      some (s!"Invalid sticky range format at index {i}" ++
        ": missing 'start'/'end' or invalid type, should be number type")
  else some s!"Sticky range element at index {i} is not an object"

/-- The range that an element is read as: both ends narrowed, and in order. -/
structure ReadAs (x : JsValue) (range : Int × Int) : Prop where
  isObject : x.isObject = true
  start : ∃ start, v.number x "start" = some start ∧ range.1 = start.int32Value
  stop : ∃ stop, v.number x "end" = some stop ∧ range.2 = stop.int32Value
  inOrder : range.1 ≤ range.2

def stickyRangesOf (o : JsValue) : Option String :=
  (v.array o cfgKeySharedPolicyStickyRanges).bind fun arr => (List.range (v.size arr)).findSome? (stickyRangeError v arr)

def stickyRangesError : Option String := (v.object config cfgKeySharedPolicy).bind (stickyRangesOf v)

/-- The sticky ranges that are handed to the policy: those that the elements are read as, if an array is given. -/
def RangesSet (ans : (q : Query) → q.Resp → Prop) (o : JsValue) : Option (List (Int × Int)) → Prop
  | none => v.array o cfgKeySharedPolicyStickyRanges = none
  | some ranges => ∃ arr, v.array o cfgKeySharedPolicyStickyRanges = some arr ∧
    List.Forall₂ (ReadAs v) (v.elements arr) ranges ∧
    ∃ status : Int, ans (.setter (.keySharedPolicy (.stickyRanges ranges))) status

/-- The policy of an object, as its options give it. -/
structure PolicyOf (ans : (q : Query) → q.Resp → Prop) (o : JsValue) (p : KeySharedPolicy) : Prop where
  keySharedMode : p.keySharedMode = v.named o cfgKeySharedPolicyMode consumerKeySharedPolicyModes
  allowOutOfOrderDelivery : p.allowOutOfOrderDelivery = v.boolean o cfgKeySharedPolicyAllowOutOfOrder
  stickyRanges : RangesSet v ans o p.stickyRanges

/-- The checks before the native setter for the batch receive policy. -/
def errorsBefore : List (Option String) :=
  [targetError v config, subscriptionError v config, ackTimeoutError v config, nAckRedeliverTimeoutError v config,
    batchReceivePolicyError v config]

/-- The message of the first check that is violated. -/
def firstViolation (status : Int) : Option String :=
  (errorsBefore v config ++ [batchReceiveStatusError v config status, stickyRangesError v config]).findSome? id

/-- The native setter was called with the policy of `o`, and reported `status`. -/
def PolicyReported (ans : (q : Query) → q.Resp → Prop) (o : JsValue) (status : Int) : Prop :=
  ans (.setter (.consumer (.batchReceivePolicy (maxNumMessages v o) (maxNumBytes v o) (timeoutMs v o)))) status

/-- `status` is what the native setter for the batch receive policy reported, if it was called: if a
policy is given and no check before is violated. -/
def BatchReceiveStatus (ans : (q : Query) → q.Resp → Prop) (status : Int) : Prop :=
  ∀ o, v.object config cfgBatchReceivePolicy = some o → (∀ e ∈ errorsBefore v config, e = none) →
    PolicyReported v ans o status

end

/-- The first of a range at which there is something. -/
theorem findSome_range {β : Type} {f : Nat → Option β} {x : β} {i n : Nat} (hi : i < n) (hnone : ∀ j < i, f j = none)
    (hsome : f i = some x) : (List.range n).findSome? f = some x := by
  obtain ⟨m, rfl⟩ : ∃ m, n = i + 1 + m := ⟨n - i - 1, by omega⟩
  have hbefore : (List.range i).findSome? f = none :=
    List.findSome?_eq_none_iff.2 fun j hj => hnone j (List.mem_range.1 hj)
  rw [List.range_add, List.range_succ, List.findSome?_append, List.findSome?_append, hbefore]
  simp [hsome]

/-! ## The sections that check -/

section

variable {v : View} {config : JsValue} {ans : (q : Query) → q.Resp → Prop} {cfg : ConsumerConfig}

/-- A setter of the local policy leaves the configuration as it is. -/
theorem ensures_setPolicy (c : KeySharedPolicySetter) :
    ensures ans (fun _ => True) (setPolicy c)
      (fun _ cfg' => cfg' = cfg ∧ ∃ status : Int, ans (.setter (.keySharedPolicy c)) status) cfg :=
  ⟨trivial, fun status hstatus => ⟨rfl, status, hstatus⟩⟩

variable (R : Reading v ans (fun _ => True))
include R

/-- A string option that is stored in a member. -/
theorem ensures_store {key : String} {f : String → ConsumerConfig → ConsumerConfig} :
    ensures ans (fun _ => True) (ifString config key fun t => Prog.change (f t))
      (fun _ cfg' => cfg' = ((v.string config key).map fun t => f t cfg).getD cfg) cfg :=
  R.ifString (fun t ht => by simp [ht]) fun hnone => by simp [hnone]

theorem ensures_initTopics :
    ensures ans (fun _ => True) (initTopics config)
      (fun _ cfg' => cfg' = { cfg with topics := cfg.topics ++ topics v config }) cfg := by
  refine R.forStrings (fun ts cfg' => cfg' = { cfg with topics := cfg.topics ++ ts }) ?_ ?_
  · simp
  · rintro ts t cfg' rfl
    rw [ensures_change, List.append_assoc]

/-- The target is read into the members, and missed where there is none. -/
theorem ensures_initTarget :
    ensures ans (fun _ => True) (initTarget config)
      (fun r cfg' => exitMessage r = targetError v config ∧
        cfg' = { ConsumerConfig.new with
          topic := topic v config, topics := topics v config, topicsPattern := topicsPattern v config }) .new := by
  refine ensures_seq (ensures_store R) fun _ c₁ h₁ => ensures_seq (ensures_initTopics R) fun _ c₂ h₂ =>
    ensures_seq (ensures_store R) fun _ c₃ h₃ => ?_
  obtain rfl : c₃ = { ConsumerConfig.new with
      topic := topic v config, topics := topics v config, topicsPattern := topicsPattern v config } := by
    rw [h₃, h₂, h₁]
    unfold topic topicsPattern
    cases v.string config cfgTopic <;> cases v.string config cfgTopicsPattern <;> rfl
  rw [ensures_bind, ensures_look]
  dsimp only
  unfold targetError target
  by_cases hp : topicsPattern v config = ""
  · by_cases hl : topics v config = []
    · by_cases ht : topic v config = ""
      · simp [hp, hl, ht, exitMessage]
      · simp [hp, hl, ht, exitMessage]
    · simp [hp, hl, exitMessage]
  · simp [hp, exitMessage]

theorem ensures_initSubscription (hcfg : cfg.subscription = "") :
    ensures ans (fun _ => True) (initSubscription config)
      (fun r cfg' => exitMessage r = subscriptionError v config ∧
        cfg' = { cfg with subscription := subscription v config }) cfg := by
  refine ensures_seq (ensures_store R) fun _ c₁ h₁ => ?_
  obtain rfl : c₁ = { cfg with subscription := subscription v config } := by
    rw [h₁]
    unfold subscription
    cases v.string config cfgSubscription <;> simp [← hcfg]
  rw [ensures_bind, ensures_look]
  dsimp only
  unfold subscriptionError
  by_cases hs : subscription v config = ""
  · simp [hs, exitMessage]
  · simp [hs, exitMessage]

/-- A timeout is refused with its message where it is out of bounds. -/
theorem ensures_timeoutSection {key message : String} {store : Int → ConsumerConfig → ConsumerConfig} {bad : Int → Prop}
    [DecidablePred bad] {c : Int → ConsumerSetter} :
    ensures ans (fun _ => True) (timeoutSection config key store bad message c)
      (fun r _ => exitMessage r = (v.number config key).bind fun x => if bad x.int64Value then some message else none)
      cfg := by
  unfold View.number
  refine (R.hasAs rfl).seq ?_
  cases hb : (v.option config key).isNumber with
  | false => simp [JsValue.asNumber_eq_none.2 hb, exitMessage]
  | true =>
    obtain ⟨x, hx⟩ := JsValue.isNumber_iff.1 hb
    refine (R.getNumber hx).seq ?_
    rw [hx, ensures_bind, ensures_change]
    dsimp only [JsValue.asNumber, Option.bind_some]
    by_cases hbad : bad x.int64Value
    · rw [if_pos hbad, if_pos hbad]
      rfl
    · rw [if_neg hbad, if_neg hbad]
      exact ensures_seq (ensures_true _) fun _ _ _ => rfl

theorem ensures_initAckTimeout :
    ensures ans (fun _ => True) (initAckTimeout config)
      (fun r _ => exitMessage r = ackTimeoutError v config) cfg := by
  rw [initAckTimeout_eq]
  exact ensures_timeoutSection R

theorem ensures_initNAckRedeliverTimeout :
    ensures ans (fun _ => True) (initNAckRedeliverTimeout config)
      (fun r _ => exitMessage r = nAckRedeliverTimeoutError v config) cfg := by
  rw [initNAckRedeliverTimeout_eq]
  exact ensures_timeoutSection R

/-- A number of a nested object, or its default. -/
theorem gives_numberOption {o : JsValue} {key : String} {convert : JsNumber → Int} {dflt : Int} :
    Gives ans (fun _ => True) (numberOption o key convert dflt) (numberOr v o key convert dflt) cfg := by
  unfold numberOr View.number
  refine (R.hasAs rfl).bind ?_
  cases hb : (v.option o key).isNumber with
  | false =>
    rw [JsValue.asNumber_eq_none.2 hb]
    exact .pure _
  | true =>
    obtain ⟨x, hx⟩ := JsValue.isNumber_iff.1 hb
    rw [hx]
    exact (R.getNumber hx).bind (.pure _)

/-- What comes of the policy is up to its numbers and to the status that the native setter reports. -/
theorem ensures_initBatchReceivePolicy :
    ensures ans (fun _ => True) (initBatchReceivePolicy config)
      (fun r cfg' => ∃ status, (∀ o, v.object config cfgBatchReceivePolicy = some o →
          batchReceivePolicyError v config = none → PolicyReported v ans o status) ∧
        exitMessage r = (batchReceivePolicyError v config).or (batchReceiveStatusError v config status) ∧
        cfg'.cConsumerConfig = cfg.cConsumerConfig ++ policyCalls v config) cfg := by
  unfold policyCalls
  refine (R.hasAs rfl).seq ?_
  cases hb : (v.option config cfgBatchReceivePolicy).isObject with
  | false =>
    have hnone : v.object config cfgBatchReceivePolicy = none := if_neg (by simp [hb])
    exact ⟨0, by simp [hnone], by simp [exitMessage, batchReceivePolicyError, batchReceiveStatusError, hnone],
      by simp [hnone]⟩
  | true =>
    have hobj : v.object config cfgBatchReceivePolicy = some (v.option config cfgBatchReceivePolicy) := if_pos hb
    refine (R.getObject hb).seq ?_
    generalize v.option config cfgBatchReceivePolicy = o at hobj
    have hnum : Gives ans (fun _ => True) (numberOption o cfgBatchReceivePolicyMaxNumMessages JsNumber.int32Value (-1))
      (maxNumMessages v o) cfg := gives_numberOption R
    have hbytes : Gives ans (fun _ => True) (numberOption o cfgBatchReceivePolicyMaxNumBytes
      (fun x => toInt x.int64Value) (10 * 1024 * 1024)) (maxNumBytes v o) cfg := gives_numberOption R
    have htime : Gives ans (fun _ => True) (numberOption o cfgBatchReceivePolicyTimeoutMs
      (fun x => toInt x.int64Value) 100) (timeoutMs v o) cfg := gives_numberOption R
    refine hnum.seq (hbytes.seq (htime.seq ?_))
    by_cases hv : maxNumMessages v o ≤ 0 ∧ maxNumBytes v o ≤ 0 ∧ timeoutMs v o ≤ 0
    · have herr : batchReceivePolicyError v config = some
          "At least one of maxNumMessages, maxNumBytes and timeoutMs must be specified." := by
        simp [batchReceivePolicyError, hobj, hv]
      rw [if_pos hv]
      exact ⟨0, by simp [herr], by simp [exitMessage, herr], by simp [herr]⟩
    · have herr : batchReceivePolicyError v config = none := by
        unfold batchReceivePolicyError
        rw [hobj, Option.bind_some, if_neg hv]
      rw [if_neg hv]
      have hcall : ensures ans (fun _ => True)
          (call (.batchReceivePolicy (maxNumMessages v o) (maxNumBytes v o) (timeoutMs v o)))
          (fun status cfg' => PolicyReported v ans o status ∧ cfg'.cConsumerConfig = cfg.cConsumerConfig ++
            [.batchReceivePolicy (maxNumMessages v o) (maxNumBytes v o) (timeoutMs v o)]) cfg :=
        ⟨trivial, fun _ hr => ⟨hr, rfl⟩⟩
      refine ensures_seq hcall ?_
      rintro status cfg' ⟨hstatus, hsetters⟩
      have hcalls : cfg'.cConsumerConfig = cfg.cConsumerConfig ++
          match v.object config cfgBatchReceivePolicy, batchReceivePolicyError v config with
          | some o, none => [.batchReceivePolicy (maxNumMessages v o) (maxNumBytes v o) (timeoutMs v o)]
          | _, _ => [] := by
        rw [hsetters, hobj, herr]
      have hreported : ∀ o', v.object config cfgBatchReceivePolicy = some o' → batchReceivePolicyError v config = none →
          PolicyReported v ans o' status := by
        rintro o' ho' -
        rw [hobj] at ho'
        cases ho'
        exact hstatus
      have hcode : batchReceiveStatusError v config status =
          if status = -1 then some "Set batch receive policy failed: C client returned failure" else none := by
        simp [batchReceiveStatusError, hobj]
      by_cases hs : status = -1
      · rw [if_pos hs]
        exact ⟨status, hreported, by rw [herr, hcode, if_pos hs]; rfl, hcalls⟩
      · rw [if_neg hs]
        exact ⟨status, hreported, by rw [herr, hcode, if_neg hs]; rfl, hcalls⟩

/-- The operands of `&&` on a range, up to the first that is false. -/
theorem gives_both {x : JsValue} :
    Gives ans (fun _ => True)
      (do
        if ← has x "start" then
          if ← has x "end" then
            if (← get x "start").isNumber then
              return (← get x "end").isNumber
        return false : Napi ConsumerConfig Bool)
      ((v.option x "start").isNumber && (v.option x "end").isNumber) cfg := by
  refine R.has.bind ?_
  unfold View.option
  by_cases hs : v.has x "start" = true
  · rw [if_pos hs, if_pos hs]
    refine R.has.bind ?_
    by_cases he : v.has x "end" = true
    · rw [if_pos he, if_pos he]
      refine R.get.bind ?_
      cases hn : (v.get x "start").isNumber with
      | false => exact .pure _
      | true => exact R.get.bind (.pure _)
    · rw [if_neg he, if_neg he]
      simpa [JsValue.isNumber] using Gives.pure false
  · rw [if_neg hs, if_neg hs]
    exact .pure _

theorem ensures_stickyRange (arr : JsValue) (i : Nat) :
    ensures ans (fun _ => True) (stickyRange arr i)
      (fun r cfg' => cfg' = cfg ∧ exitMessage r = stickyRangeError v arr i ∧
        ∀ range, r = .ok range → ReadAs v (v.getAt arr i) range) cfg := by
  refine R.getAt.seq ?_
  unfold stickyRangeError
  cases hx : (v.getAt arr i).isObject with
  | false => exact ⟨rfl, rfl, by rintro _ ⟨⟩⟩
  | true =>
    refine R.getAt.seq ((R.toObject hx).seq ((gives_both R).seq ?_))
    generalize v.getAt arr i = x at hx
    cases hs : (v.option x "start").isNumber with
    | false =>
      have hstart : v.number x "start" = none := JsValue.asNumber_eq_none.2 hs
      rw [hstart]
      exact ⟨rfl, rfl, by rintro _ ⟨⟩⟩
    | true =>
      obtain ⟨start, hstart⟩ := JsValue.isNumber_iff.1 hs
      have hstart' : v.number x "start" = some start := by simp [View.number, hstart, JsValue.asNumber]
      cases he : (v.option x "end").isNumber with
      | false =>
        have hstop : v.number x "end" = none := JsValue.asNumber_eq_none.2 he
        rw [hstart', hstop]
        exact ⟨rfl, rfl, by rintro _ ⟨⟩⟩
      | true =>
        obtain ⟨stop, hstop⟩ := JsValue.isNumber_iff.1 he
        have hstop' : v.number x "end" = some stop := by simp [View.number, hstop, JsValue.asNumber]
        refine (R.getNumber hstart).seq ((R.getNumber hstop).seq ?_)
        rw [hstart', hstop']
        dsimp only
        by_cases hgt : start.int32Value > stop.int32Value
        · rw [if_pos hgt]
          exact ⟨rfl, by simp [hgt, exitMessage], by rintro _ ⟨⟩⟩
        · rw [if_neg hgt]
          refine ⟨rfl, by simp [hgt, exitMessage], ?_⟩
          rintro _ ⟨⟩
          exact ⟨hx, ⟨start, hstart', rfl⟩, ⟨stop, hstop', rfl⟩, Int.not_lt.1 hgt⟩

/-- The loop goes on while the ranges are in order, and keeps them. -/
theorem ensures_stickyRanges (arr : JsValue) :
    ensures ans (fun _ => True) (stickyRanges arr)
      (fun r cfg' => cfg' = cfg ∧ exitMessage r = (List.range (v.size arr)).findSome? (stickyRangeError v arr) ∧
        ∀ ranges, r = .ok ranges → List.Forall₂ (ReadAs v) (v.elements arr) ranges) cfg := by
  refine ensures_mono (R.forLength (fun i ranges cfg' => cfg' = cfg ∧ (∀ j < i, stickyRangeError v arr j = none) ∧
      List.Forall₂ (ReadAs v) ((v.elements arr).take i) ranges)
    (fun msg cfg' => cfg' = cfg ∧ (List.range (v.size arr)).findSome? (stickyRangeError v arr) = some msg)
    (fun i ranges cfg' hi hinv => ?_) (by simp)) ?_
  · obtain ⟨rfl, hnone, hread⟩ := hinv
    refine ensures_seq (ensures_stickyRange R arr i) ?_
    rintro r _ ⟨rfl, hr, hrange⟩
    cases r with
    | error msg => exact ⟨rfl, findSome_range hi hnone hr.symm⟩
    | ok range =>
      refine ⟨rfl, fun j hj => ?_, ?_⟩
      · rcases Nat.lt_succ_iff_lt_or_eq.1 hj with hj | rfl
        · exact hnone j hj
        · exact hr.symm
      · rw [v.elements_take_succ arr hi]
        exact List.rel_append hread (.cons (hrange range rfl) .nil)
  · rintro r cfg' hr
    cases r with
    | error msg => exact ⟨hr.1, hr.2.symm, by rintro _ ⟨⟩⟩
    | ok ranges =>
      obtain ⟨rfl, hnone, hread⟩ := hr
      refine ⟨rfl, (List.findSome?_eq_none_iff.2 fun j hj => hnone j (List.mem_range.1 hj)).symm, ?_⟩
      rintro _ ⟨⟩
      rwa [v.elements_take_size] at hread

theorem gives_readKeyShareMode (o : JsValue) :
    Gives ans (fun _ => True) (readKeyShareMode o ⟨none, none, none⟩)
      ⟨v.named o cfgKeySharedPolicyMode consumerKeySharedPolicyModes, none, none⟩ cfg := by
  unfold View.named View.string
  refine (R.hasAs rfl).bind ?_
  cases hb : (v.option o cfgKeySharedPolicyMode).isString with
  | false =>
    rw [JsValue.asString_eq_none.2 hb]
    exact .pure _
  | true =>
    obtain ⟨name, hname⟩ := JsValue.isString_iff.1 hb
    refine (R.getString hname).bind ?_
    rw [hname]
    dsimp only [JsValue.asString, Option.bind_some]
    cases consumerKeySharedPolicyModes.lookup name with
    | none => exact .pure _
    | some m =>
      refine ensures_seq (ensures_setPolicy (.keySharedMode m)) ?_
      rintro _ _ ⟨rfl, -⟩
      exact ⟨rfl, rfl⟩

theorem gives_readAllowOutOfOrder (o : JsValue) (mode : Option KeySharedMode) :
    Gives ans (fun _ => True) (readAllowOutOfOrder o ⟨mode, none, none⟩)
      ⟨mode, v.boolean o cfgKeySharedPolicyAllowOutOfOrder, none⟩ cfg := by
  unfold View.boolean
  refine (R.hasAs rfl).bind ?_
  cases hb : (v.option o cfgKeySharedPolicyAllowOutOfOrder).isBoolean with
  | false =>
    rw [JsValue.asBoolean_eq_none.2 hb]
    exact .pure _
  | true =>
    obtain ⟨b, hb'⟩ := JsValue.isBoolean_iff.1 hb
    refine (R.getBoolean hb').bind ?_
    rw [hb']
    refine ensures_seq (ensures_setPolicy (.allowOutOfOrderDelivery b)) ?_
    rintro _ _ ⟨rfl, -⟩
    exact ⟨rfl, rfl⟩

theorem ensures_readStickyRanges (o : JsValue) (mode : Option KeySharedMode) (allow : Option Bool) :
    ensures ans (fun _ => True) (readStickyRanges o ⟨mode, allow, none⟩)
      (fun r cfg' => cfg' = cfg ∧ exitMessage r = stickyRangesOf v o ∧
        ∀ p, r = .ok p → ∃ ranges, RangesSet v ans o ranges ∧ p = ⟨mode, allow, ranges⟩) cfg := by
  refine (R.hasAs rfl).seq ?_
  have harr : v.array o cfgKeySharedPolicyStickyRanges =
      if (v.option o cfgKeySharedPolicyStickyRanges).isArray then some (v.option o cfgKeySharedPolicyStickyRanges)
      else none := rfl
  unfold stickyRangesOf
  cases hb : (v.option o cfgKeySharedPolicyStickyRanges).isArray with
  | false =>
    rw [if_neg (by simp [hb])] at harr
    refine ⟨rfl, by rw [harr]; rfl, ?_⟩
    rintro _ ⟨⟩
    exact ⟨none, harr, rfl⟩
  | true =>
    rw [if_pos hb] at harr
    refine R.get.seq ?_
    rw [View.get_eq_option JsValue.isArray rfl hb, harr]
    refine ensures_seq (ensures_stickyRanges R _) ?_
    rintro r _ ⟨rfl, hr, hranges⟩
    cases r with
    | error msg => exact ⟨rfl, hr, by rintro _ ⟨⟩⟩
    | ok ranges =>
      refine ensures_seq (ensures_setPolicy (.stickyRanges ranges)) ?_
      rintro _ _ ⟨rfl, hset⟩
      refine ⟨rfl, hr, ?_⟩
      rintro _ ⟨⟩
      exact ⟨some ranges, ⟨_, harr, hranges ranges rfl, hset⟩, rfl⟩

/-- The policy is set where its ranges are in order, and nothing is where they are not. -/
theorem ensures_initKeySharedPolicy :
    ensures ans (fun _ => True) (initKeySharedPolicy config)
      (fun r cfg' => exitMessage r = stickyRangesError v config ∧
        (r = .ok () → ∀ o, v.object config cfgKeySharedPolicy = some o → ∃ p, PolicyOf v ans o p ∧
          cfg' = { cfg with cConsumerConfig := cfg.cConsumerConfig ++ [.keySharedPolicy p] }) ∧
        (r ≠ .ok () → cfg' = cfg)) cfg := by
  refine (R.hasAs rfl).seq ?_
  unfold stickyRangesError View.object JsValue.only
  cases hb : (v.option config cfgKeySharedPolicy).isObject with
  | false => simp [exitMessage]
  | true =>
    refine (R.getObject hb).seq ((gives_readKeyShareMode R _).seq ((gives_readAllowOutOfOrder R _ _).seq ?_))
    refine ensures_seq (ensures_readStickyRanges R _ _ _) ?_
    rintro r _ ⟨rfl, hr, hp⟩
    cases r with
    | error msg => exact ⟨hr, by rintro ⟨⟩, fun _ => rfl⟩
    | ok p =>
      obtain ⟨ranges, hranges, rfl⟩ := hp p rfl
      refine ⟨trivial, fun _ _ => ⟨hr, fun _ o ho => ?_, fun hne => absurd rfl hne⟩⟩
      cases ho
      exact ⟨_, ⟨rfl, rfl, hranges⟩, rfl⟩

end

/-! ## The parser -/

section

variable (v : View) (config : JsValue)

/-- The parser leaves with the message of the first check that is violated, or does not leave. -/
def Verdict (ans : (q : Query) → q.Resp → Prop) (r : Except String Unit) : Prop :=
  ∃ status, BatchReceiveStatus v config ans status ∧ exitMessage r = firstViolation v config status

/-- The members that choose the native call are those that the view shows. -/
structure Shows (cfg : ConsumerConfig) : Prop where
  topic : cfg.topic = topic v config
  topics : cfg.topics = topics v config
  topicsPattern : cfg.topicsPattern = topicsPattern v config
  subscription : cfg.subscription = subscription v config

variable {v config} {ans : (q : Query) → q.Resp → Prop} {cfg cfg' : ConsumerConfig}

theorem verdict_before {msg : String} (h : (errorsBefore v config).findSome? id = some msg) :
    Verdict v config ans (.error msg) := by
  refine ⟨0, fun o _ hnone => ?_, ?_⟩
  · obtain ⟨e, he, hmsg⟩ := List.exists_of_findSome?_eq_some h
    rw [hnone e he] at hmsg
    cases hmsg
  · unfold firstViolation
    rw [List.findSome?_append, h]
    rfl

/-- A section that checks, and what follows it. -/
theorem ensures_check {p : Section} {ps : List Section} {e : Option String} {post : Except String Unit → ConsumerConfig → Prop}
    (hp : ensures ans (fun _ => True) p (fun r _ => exitMessage r = e) cfg)
    (hleft : ∀ msg cfg', e = some msg → post (.error msg) cfg')
    (hps : ∀ cfg', e = none → ensures ans (fun _ => True) (firstError ps) post cfg') :
    ensures ans (fun _ => True) (firstError (p :: ps)) post cfg := by
  refine ensures_firstError (ensures_mono hp fun r cfg' hr => ?_)
  cases r with
  | error msg => exact hleft msg cfg' hr.symm
  | ok u => exact hps cfg' hr.symm

/-- A section that never leaves. -/
theorem ensures_pass {p : Napi ConsumerConfig Unit} {ps : List Section} {post : Except String Unit → ConsumerConfig → Prop}
    (hps : ∀ cfg', ensures ans (fun _ => True) (firstError ps) post cfg') :
    ensures ans (fun _ => True) (firstError (always p :: ps)) post cfg :=
  ensures_firstError (ensures_always (ensures_mono (ensures_true p) fun _ cfg' _ => hps cfg'))

variable (R : Reading v ans (fun _ => True))
include R

/-- The sections after the target and the subscription. -/
theorem ensures_rest (htarget : targetError v config = none) (hsubscription : subscriptionError v config = none) :
    ensures ans (fun _ => True) (firstError ((sections config).drop 2)) (fun r _ => Verdict v config ans r) cfg := by
  refine ensures_pass fun c₁ => ?_
  refine ensures_check (ensures_initAckTimeout R)
    (fun msg _ h => verdict_before (by simp [errorsBefore, htarget, hsubscription, h])) fun c₂ hack => ?_
  refine ensures_check (ensures_initNAckRedeliverTimeout R)
    (fun msg _ h => verdict_before (by simp [errorsBefore, htarget, hsubscription, hack, h])) fun c₃ hnack => ?_
  refine ensures_pass fun c₄ => ensures_pass fun c₅ => ensures_pass fun c₆ => ensures_pass fun c₇ =>
    ensures_pass fun c₈ => ensures_pass fun c₉ => ensures_pass fun c₁₀ => ensures_pass fun c₁₁ => ?_
  refine ensures_firstError (ensures_mono (ensures_initBatchReceivePolicy R) ?_)
  rintro r c₁₂ ⟨status, hreported, hr, -⟩
  cases hpolicy : batchReceivePolicyError v config with
  | some msg =>
    rw [hpolicy] at hr
    have hbefore : (errorsBefore v config).findSome? id = some msg := by
      simp [errorsBefore, htarget, hsubscription, hack, hnack, hpolicy]
    cases r with
    | error msg' =>
      cases hr
      exact verdict_before hbefore
    | ok u => cases hr
  | none =>
    rw [hpolicy, Option.none_or] at hr
    have hstatus : BatchReceiveStatus v config ans status := fun o ho _ => hreported o ho hpolicy
    have hfirst : firstViolation v config status =
        (batchReceiveStatusError v config status).or (stickyRangesError v config) := by
      unfold firstViolation errorsBefore
      rw [htarget, hsubscription, hack, hnack, hpolicy]
      cases batchReceiveStatusError v config status with
      | none => cases stickyRangesError v config <;> rfl
      | some msg => rfl
    cases r with
    | error msg => exact ⟨status, hstatus, by rw [hfirst, ← hr]; rfl⟩
    | ok u =>
      rw [← hr, show exitMessage (.ok u : Except String Unit) = none from rfl, Option.none_or] at hfirst
      refine ensures_check (ensures_mono (ensures_initKeySharedPolicy R) fun _ _ h => h.1)
        (fun msg _ h => ⟨status, hstatus, by rw [hfirst, h]; rfl⟩) fun c₁₃ hranges => ?_
      exact ensures_pass fun _ => ⟨status, hstatus, by rw [hfirst, hranges]; rfl⟩

/-- The parser comes to its verdict, and reads what the native call is chosen by. -/
theorem ensures_initConfig :
    ensures ans (fun _ => True) (initConfig config)
      (fun r cfg' => Verdict v config ans r ∧ (r = .ok () → Shows v config cfg')) .new := by
  refine ensures_firstError (ensures_mono (ensures_initTarget R) ?_)
  rintro r c₁ ⟨htarget, rfl⟩
  cases r with
  | error msg => exact ⟨verdict_before (by simp [errorsBefore, ← htarget, exitMessage]), by rintro ⟨⟩⟩
  | ok u =>
    refine ensures_firstError (ensures_mono (ensures_initSubscription R rfl) ?_)
    rintro r c₂ ⟨hsub, rfl⟩
    cases r with
    | error msg => exact ⟨verdict_before (by simp [errorsBefore, ← htarget, ← hsub, exitMessage]), by rintro ⟨⟩⟩
    | ok u =>
      refine ensures_mono (ensures_and (ensures_rest R htarget.symm hsub.symm)
        ((rest_onward config).ensures Onward.refl Onward.trans _)) ?_
      rintro r cfg' ⟨hverdict, hon⟩
      exact ⟨hverdict, fun _ => ⟨hon.topic, hon.topics, hon.topicsPattern, hon.subscription⟩⟩

end

end SubscribeOptions

end PulsarNode
