/-
The sticky ranges of a key-shared consumer. `InitConfig` reads them element by element: at the first one that
is not a range it rejects the deferred, before any policy is set, and otherwise it hands over all of them.
-/
import PulsarNode.Create.Subscribe
import PulsarNode.Napi.Number
import Mathlib.Data.Nat.Find

namespace PulsarNode

open Napi Prog

/-! ## The key-shared policy of a configuration -/

/-- The policy that a setter call hands over. -/
def ConsumerSetter.keyShared : ConsumerSetter → Option KeySharedPolicy
  | keySharedPolicy p => some p
  | _ => none

namespace ConsumerConfig

/-- The key-shared policies that the native configuration was given. -/
def keySharedPolicies (cfg : ConsumerConfig) : List KeySharedPolicy := cfg.cConsumerConfig.filterMap (·.keyShared)

def SameKeySharedPolicies (cfg cfg' : ConsumerConfig) : Prop := cfg'.keySharedPolicies = cfg.keySharedPolicies

theorem append_sameKeySharedPolicies {c : ConsumerSetter} (hc : c.keyShared = none) (cfg : ConsumerConfig) :
    SameKeySharedPolicies cfg { cfg with cConsumerConfig := cfg.cConsumerConfig ++ [c] } := by
  simp [SameKeySharedPolicies, keySharedPolicies, hc]

theorem set_sameKeySharedPolicies {c : ConsumerSetter} (hc : c.keyShared = none) : Moves SameKeySharedPolicies (set c) :=
  set_moves (append_sameKeySharedPolicies hc)

theorem SameSetters.sameKeySharedPolicies {cfg cfg' : ConsumerConfig} (h : SameSetters cfg cfg') :
    SameKeySharedPolicies cfg cfg' := congrArg (List.filterMap ConsumerSetter.keyShared) h

/-- The sections before that of the policy give the native configuration none. -/
theorem before_sameKeySharedPolicies (config : JsValue) :
    ∀ p ∈ (sections config).take 14, Moves SameKeySharedPolicies p := by
  have hset {c : ConsumerSetter} (hc : c.keyShared = none) := set_sameKeySharedPolicies hc
  have hsections : (sections config).take 14 = [initTarget config, initSubscription config,
      always (initSubscriptionOptions config), initAckTimeout config, initNAckRedeliverTimeout config,
      always (initQueueSizes config), always (initSchema config), always (initProperties config),
      always (initListener config), always (initReadCompacted config), always (initCrypto config),
      always (initChunking config), always (initDeadLetterPolicy config), initBatchReceivePolicy config] := rfl
  rw [hsections]
  simp only [List.forall_mem_cons]
  refine ⟨?_, ?_, ?_, ?_, ?_, ?_, ?_, ?_, ?_, ?_, ?_, ?_, ?_, ?_, by simp⟩
  · exact (initTarget_sameSetters config).mono fun _ _ => SameSetters.sameKeySharedPolicies
  · exact initSubscription_moves config fun _ _ => rfl
  · exact .always (initSubscriptionOptions_moves config (fun _ => hset rfl) (fun _ => hset rfl) (fun _ => hset rfl)
      fun _ => hset rfl)
  · exact initAckTimeout_moves config (fun _ _ => rfl) fun _ _ => hset rfl
  · exact initNAckRedeliverTimeout_moves config (fun _ _ => rfl) fun _ _ => hset rfl
  · exact .always (initQueueSizes_moves config (fun _ => hset rfl) fun _ => hset rfl)
  · exact .always (initSchema_moves config fun _ => hset rfl)
  · exact .always (initProperties_moves config fun _ _ => hset rfl)
  · exact .always (initListener_moves config (fun _ _ => rfl) fun _ => hset rfl)
  · exact .always (initReadCompacted_moves config (hset rfl))
  · exact .always (initCrypto_moves config (fun _ _ => hset rfl) (fun _ => hset rfl) fun _ => hset rfl)
  · exact .always (initChunking_moves config (fun _ => hset rfl) (fun _ => hset rfl) fun _ => hset rfl)
  · exact .always (initDeadLetterPolicy_moves config fun _ _ _ => hset rfl)
  · exact initBatchReceivePolicy_moves config fun _ _ _ => append_sameKeySharedPolicies rfl

end ConsumerConfig

namespace SubscribeOptions

open ConsumerConfig

section

variable {v : View} {config o : JsValue} {ans : (q : Query) → q.Resp → Prop}

/-- A configuration that is accepted has the policy that the object gives, and one that is not has none. -/
theorem ensures_keySharedPolicies (R : Reading v ans (fun _ => True)) (ho : v.object config cfgKeySharedPolicy = some o) :
    ensures ans (fun _ => True) (initConfig config)
      (fun r cfg => (r = .ok () → ∃ p, PolicyOf v ans o p ∧ cfg.keySharedPolicies = [p]) ∧
        (r ≠ .ok () → cfg.keySharedPolicies = [])) .new := by
  have hreplicate : Moves SameKeySharedPolicies (initReplicateSubscriptionState config) :=
    initReplicateSubscriptionState_moves config fun _ => set_sameKeySharedPolicies rfl
  have hsections : initConfig config = firstError ((sections config).take 14 ++
      [initKeySharedPolicy config, always (initReplicateSubscriptionState config)]) := rfl
  rw [hsections]
  refine Moves.ensures_append (before_sameKeySharedPolicies config) (fun _ => rfl) (fun _ _ _ h h' => Eq.trans h' h)
    (fun msg cfg hcfg => ⟨by rintro ⟨⟩, fun _ => hcfg⟩) fun c₁ h₁ => ?_
  have hnone : c₁.keySharedPolicies = [] := h₁
  refine ensures_firstError (ensures_mono (ensures_initKeySharedPolicy R) ?_)
  rintro r c₂ ⟨-, hset, hleft⟩
  cases r with
  | error msg =>
    obtain rfl : c₂ = c₁ := hleft (by simp)
    exact ⟨by rintro ⟨⟩, fun _ => hnone⟩
  | ok u =>
    obtain ⟨p, hp, rfl⟩ := hset rfl o ho
    refine ensures_firstError (ensures_always (ensures_mono (Moves.keeps (f := keySharedPolicies) hreplicate _)
      fun _ c₃ h₃ => ⟨fun _ => ⟨p, hp, ?_⟩, fun hne => absurd rfl hne⟩))
    rw [h₃]
    unfold keySharedPolicies at hnone ⊢
    rw [List.filterMap_append, hnone]
    rfl

end

/-! ## Ranges -/

section

variable (v : View)

/-- The element is an object with two integers in order. -/
structure IsRange (x : JsValue) (range : Int × Int) : Prop where
  isObject : x.isObject = true
  start : v.number x "start" = some (.ofInt range.1)
  stop : v.number x "end" = some (.ofInt range.2)
  inOrder : range.1 ≤ range.2

/-- Where an end of the range is a number, it is a 32-bit integer. -/
def EndsFit (x : JsValue) : Prop :=
  x.isObject = true → ∀ key ∈ ["start", "end"], ∀ n, v.number x key = some n → ∃ k, FitsInt k ∧ n = .ofInt k

/-- The first element that is no range. -/
structure FirstBad (arr : JsValue) (i : Nat) : Prop where
  inArray : i < v.size arr
  bad : ∀ range, ¬ IsRange v (v.getAt arr i) range
  least : ∀ j < i, ∃ range, IsRange v (v.getAt arr j) range

/-- The message says the index, and no digit follows it. -/
def NamesIndex (i : Nat) (msg : String) : Prop :=
  ∃ before after, msg = before ++ "at index " ++ toString i ++ after ∧ ∀ c ∈ after.toList.head?, c.isDigit = false

variable {v} {x arr : JsValue} {i : Nat}

/-- Where there is an element that is no range, there is a first one. -/
theorem exists_firstBad (h : ∃ x ∈ v.elements arr, ∀ range, ¬ IsRange v x range) : ∃ i, FirstBad v arr i := by
  classical
  have hindex : ∃ i, i < v.size arr ∧ ∀ range, ¬ IsRange v (v.getAt arr i) range := by
    obtain ⟨x, hx, hbad⟩ := h
    obtain ⟨i, hi, rfl⟩ := List.mem_map.1 hx
    exact ⟨i, List.mem_range.1 hi, hbad⟩
  obtain ⟨hlt, hbad⟩ := Nat.find_spec hindex
  refine ⟨Nat.find hindex, hlt, hbad, fun j hj => ?_⟩
  by_contra hnone
  exact Nat.find_min hindex hj ⟨hj.trans hlt, not_exists.1 hnone⟩

/-- Integers of 32 bits are read as they are. -/
theorem readAs_iff (h : EndsFit v x) {range : Int × Int} : ReadAs v x range ↔ IsRange v x range := by
  obtain ⟨first, last⟩ := range
  have hint {k : Int} (hk : FitsInt k) : (JsNumber.ofInt k).int32Value = k := by
    rw [JsNumber.int32Value_ofInt]
    exact bmod_eq_self_iff.2 hk
  have hend {key : String} (hkey : key ∈ ["start", "end"]) (hx : x.isObject = true) (k : Int) :
      (∃ n, v.number x key = some n ∧ k = n.int32Value) ↔ v.number x key = some (.ofInt k) := by
    constructor
    · rintro ⟨n, hn, rfl⟩
      obtain ⟨k, hk, rfl⟩ := h hx key hkey n hn
      rw [hn, hint hk]
    · intro hn
      obtain ⟨k', hk', heq⟩ := h hx key hkey _ hn
      obtain rfl : k = k' := JsNumber.ofInt_inj.1 heq
      exact ⟨_, hn, (hint hk').symm⟩
  constructor
  · rintro ⟨hx, hstart, hstop, hle⟩
    exact ⟨hx, (hend (by simp) hx _).1 hstart, (hend (by simp) hx _).1 hstop, hle⟩
  · rintro ⟨hx, hstart, hstop, hle⟩
    exact ⟨hx, (hend (by simp) hx _).2 hstart, (hend (by simp) hx _).2 hstop, hle⟩

theorem IsRange.endsFit {range : Int × Int} (h : IsRange v x range) (hstart : FitsInt range.1) (hstop : FitsInt range.2) :
    EndsFit v x := by
  rintro - key hkey n hn
  rcases List.mem_pair.1 hkey with rfl | rfl
  · rw [h.start] at hn
    exact ⟨_, hstart, (Option.some.inj hn).symm⟩
  · rw [h.stop] at hn
    exact ⟨_, hstop, (Option.some.inj hn).symm⟩

/-- An element is refused exactly when there is no range to read it as. -/
theorem stickyRangeError_eq_none_iff : stickyRangeError v arr i = none ↔ ∃ range, ReadAs v (v.getAt arr i) range := by
  unfold stickyRangeError
  by_cases hx : (v.getAt arr i).isObject = true
  · rw [if_pos hx]
    cases hstart : v.number (v.getAt arr i) "start" with
    | none =>
      refine iff_of_false (by simp) ?_
      rintro ⟨range, -, ⟨n, hn, -⟩, -⟩
      rw [hstart] at hn
      cases hn
    | some start =>
      cases hstop : v.number (v.getAt arr i) "end" with
      | none =>
        refine iff_of_false (by simp) ?_
        rintro ⟨range, -, -, ⟨n, hn, -⟩, -⟩
        rw [hstop] at hn
        cases hn
      | some stop =>
        dsimp only
        by_cases hgt : start.int32Value > stop.int32Value
        · rw [if_pos hgt]
          refine iff_of_false (by simp) ?_
          rintro ⟨⟨first, last⟩, -, ⟨n, hn, rfl⟩, ⟨m, hm, rfl⟩, hle⟩
          rw [hstart] at hn
          rw [hstop] at hm
          cases hn
          cases hm
          exact absurd hle (Int.not_le.2 hgt)
        · rw [if_neg hgt]
          exact iff_of_true rfl ⟨(_, _), hx, ⟨start, hstart, rfl⟩, ⟨stop, hstop, rfl⟩, Int.not_lt.1 hgt⟩
  · rw [if_neg hx]
    exact iff_of_false (by simp) fun ⟨range, h⟩ => hx h.isObject

theorem stickyRangeError_names {msg : String} (h : stickyRangeError v arr i = some msg) : NamesIndex i msg := by
  unfold stickyRangeError at h
  split at h
  · split at h
    · rename_i start stop _ _
      split at h
      · cases h
        exact ⟨"Invalid sticky range ", ": start (" ++ toString start.int32Value ++ ") > end (" ++
          toString stop.int32Value ++ ")", by simp [String.append_assoc, ToString.toString], by simp⟩
      · cases h
    · cases h
      exact ⟨"Invalid sticky range format ", ": missing 'start'/'end' or invalid type, should be number type",
        by simp [String.append_assoc, ToString.toString], by simp⟩
  · cases h
    exact ⟨"Sticky range element ", " is not an object", by simp [String.append_assoc, ToString.toString], by simp⟩

end

end SubscribeOptions

namespace Consumer

open Creation SubscribeOptions ConsumerConfig

section

variable {J N : Type} (sides : Sides J N) {v : View} {arg o ranges : JsValue} {w : World J N}

/-- The elements are handed over as they are, and the policy is set with them. -/
structure RangesHandedOver (v : View) (o ranges : JsValue) (ans : (q : Query) → q.Resp → Prop)
    (c : Creation ConsumerConfig) : Prop where
  fresh : Fresh c
  policy : ∃ list, List.Forall₂ (IsRange v) (v.elements ranges) list ∧
    (∃ status : Int, ans (.setter (.keySharedPolicy (.stickyRanges list))) status) ∧
    c.config.keySharedPolicies = [⟨v.named o cfgKeySharedPolicyMode consumerKeySharedPolicyModes,
      v.boolean o cfgKeySharedPolicyAllowOutOfOrder, some list⟩]

/-- The verdict of the parser, where all checks before that of the ranges pass. -/
theorem exitMessage_of_before {ans : (q : Query) → q.Resp → Prop} {r : Except String Unit} (hverdict : Verdict v arg ans r)
    (hbefore : ∀ e ∈ errorsBefore v arg, e = none)
    (hreported : ∀ b status, v.object arg cfgBatchReceivePolicy = some b → PolicyReported v ans b status → status ≠ -1) :
    exitMessage r = stickyRangesError v arg := by
  obtain ⟨status, hstatus, hfirst⟩ := hverdict
  have haccepted : batchReceiveStatusError v arg status = none := by
    unfold batchReceiveStatusError
    cases hb : v.object arg cfgBatchReceivePolicy with
    | none => rfl
    | some b => rw [Option.bind_some, if_neg (hreported b status hb (hstatus b hb hbefore))]
  have hpass : (errorsBefore v arg).findSome? id = none := List.findSome?_eq_none_iff.2 hbefore
  rw [hfirst, firstViolation, List.findSome?_append, hpass, haccepted]
  cases stickyRangesError v arg <;> rfl

/-- Where nothing is refused and the checks before pass, `InitConfig` rejects the deferred for the first element
that is no range, with no policy set, and sets the policy with all ranges where there is no such element. -/
theorem rejects_first_or_hands_over (hv : v.Lawful)
    (hquiet : Quiet sides.answer (fun _ => True) (initConfig arg) (new ConsumerConfig.new).newDeferred w)
    (hshown : v.Shown sides (initConfig arg) (new ConsumerConfig.new).newDeferred w)
    (hbefore : ∀ e ∈ errorsBefore v arg, e = none)
    (hreported : ∀ b status, v.object arg cfgBatchReceivePolicy = some b →
      PolicyReported v (Answered sides.answer (initConfig arg) (new ConsumerConfig.new).newDeferred w) b status → status ≠ -1)
    (ho : v.object arg cfgKeySharedPolicy = some o) (hranges : v.array o cfgKeySharedPolicyStickyRanges = some ranges)
    (hfit : ∀ x ∈ v.elements ranges, EndsFit v x) :
    ∃ c w', (initConfig arg).run sides.answer (new .new).newDeferred w = (.ok (), c, w') ∧
      ((∃ x ∈ v.elements ranges, ∀ range, ¬ IsRange v x range) → ∃ i, FirstBad v ranges i ∧
        ∃ msg, NamesIndex i msg ∧ Rejects msg c ∧ c.config.keySharedPolicies = []) ∧
      ((∀ x ∈ v.elements ranges, ∃ range, IsRange v x range) → RangesHandedOver v o ranges
        (Answered sides.answer (initConfig arg) (new ConsumerConfig.new).newDeferred w) c) := by
  have R : Reading v (Answered sides.answer (initConfig arg) (new ConsumerConfig.new).newDeferred w) (fun _ => True) :=
    hshown.reading hv
  obtain ⟨r, cfg, w₁, hinit⟩ := initConfig_returns sides hquiet
  obtain ⟨c, hrun, rfl, hend⟩ := run_initConfig sides hinit
  obtain ⟨⟨hverdict, -⟩, hset, hleft⟩ := ensures_run_ok
    (ensures_and (SubscribeOptions.ensures_initConfig R) (ensures_keySharedPolicies R ho))
    (fun _ _ h => answered_initConfig sides h) hinit
  have hexit := exitMessage_of_before hverdict hbefore hreported
  have herror : stickyRangesError v arg = (List.range (v.size ranges)).findSome? (stickyRangeError v ranges) := by
    unfold stickyRangesError stickyRangesOf
    rw [ho, Option.bind_some, hranges, Option.bind_some]
  -- an element is refused exactly when it is no range
  have hrange (j : Nat) (hj : j < v.size ranges) :
      stickyRangeError v ranges j = none ↔ ∃ range, IsRange v (v.getAt ranges j) range := by
    have hmem : v.getAt ranges j ∈ v.elements ranges := List.mem_map_of_mem (List.mem_range.2 hj)
    rw [stickyRangeError_eq_none_iff]
    exact exists_congr fun range => readAs_iff (hfit _ hmem)
  refine ⟨c, w₁, hrun, fun hbad => ?_, fun hall => ?_⟩
  · obtain ⟨i, hi⟩ := exists_firstBad hbad
    obtain ⟨msg, hmsg⟩ : ∃ msg, stickyRangeError v ranges i = some msg := by
      rw [← Option.isSome_iff_exists, ← Option.ne_none_iff_isSome]
      exact fun hnone => not_exists.2 hi.bad ((hrange i hi.inArray).1 hnone)
    have hfirst := findSome_range hi.inArray (fun j hj => (hrange j (hj.trans hi.inArray)).2 (hi.least j hj)) hmsg
    rw [herror, hfirst] at hexit
    cases r with
    | ok u => cases hexit
    | error msg' =>
      obtain rfl : msg' = msg := Option.some.inj hexit
      exact ⟨i, hi, msg', stickyRangeError_names hmsg, hend, hleft (by simp)⟩
  · have hnone : (List.range (v.size ranges)).findSome? (stickyRangeError v ranges) = none := by
      refine List.findSome?_eq_none_iff.2 fun j hj => ?_
      have hj' := List.mem_range.1 hj
      exact (hrange j hj').2 (hall _ (List.mem_map_of_mem hj))
    rw [herror, hnone] at hexit
    cases r with
    | error msg => cases hexit
    | ok u =>
      obtain ⟨p, hp, hpolicies⟩ := hset rfl
      obtain ⟨mode, allow, given⟩ := p
      obtain ⟨rfl, rfl, hgiven⟩ := hp
      cases given with
      | none =>
        rw [show v.array o cfgKeySharedPolicyStickyRanges = none from hgiven] at hranges
        cases hranges
      | some list =>
        obtain ⟨arr, harr, hread, hstatus⟩ := hgiven
        obtain rfl : ranges = arr := Option.some.inj (hranges.symm.trans harr)
        refine ⟨hend, list, ?_, hstatus, hpolicies⟩
        have hboth := (List.forall₂_and_left _ _).2 ⟨hfit, hread⟩
        exact hboth.imp fun x range h => (readAs_iff h.1).1 h.2

end

/-- A sticky consumer with two ranges. -/
def twoRanges : Heap := { Heap.empty with
  props := fun
    | 0 => [("topic", .string "topic"), ("subscription", .string "sub"), ("keySharedPolicy", .object .plain 1)]
    | 1 => [("keyShareMode", .string "Sticky"), ("allowOutOfOrderDelivery", .bool true), ("stickyRanges", .object .array 2)]
    | 3 => [("start", .number (.ofInt 0)), ("end", .number (.ofInt 100))]
    | 4 => [("start", .number (.ofInt 101)), ("end", .number (.ofInt 101))]
    | _ => []
  elements := fun
    | 2 => [.object .plain 3, .object .plain 4]
    | _ => [] }

theorem twoRanges_quiet :
    Quiet twoRanges.sides.answer (fun _ => True) (initConfig (.object .plain 0)) (new .new).newDeferred ⟨(), none, ()⟩ := by
  have hok : ((initConfig (.object .plain 0)).run twoRanges.sides.answer (new .new).newDeferred
      ⟨(), none, ()⟩).1.isOk = true := by decide +kernel
  rw [Prog.quiet_iff twoRanges.sides.answer fun _ _ _ _ _ => Iff.rfl]
  intro e he
  rw [he] at hok
  cases hok

theorem twoRanges_elements {p : JsValue → Prop} (h3 : p (.object .plain 3)) (h4 : p (.object .plain 4)) :
    ∀ x ∈ twoRanges.view.elements (.object .array 2), p x := by
  have helements : twoRanges.view.elements (.object .array 2) = [.object .plain 3, .object .plain 4] := rfl
  rw [helements]
  simp [h3, h4]

theorem hands_over_twoRanges :
    ∃ c w', (initConfig (.object .plain 0)).run twoRanges.sides.answer (new .new).newDeferred ⟨(), none, ()⟩ =
        (.ok (), c, w') ∧
      RangesHandedOver twoRanges.view (.object .plain 1) (.object .array 2) (Answered twoRanges.sides.answer
        (initConfig (.object .plain 0)) (new ConsumerConfig.new).newDeferred ⟨(), none, ()⟩) c := by
  have hrange3 : IsRange twoRanges.view (.object .plain 3) (0, 100) := ⟨rfl, rfl, rfl, by decide⟩
  have hrange4 : IsRange twoRanges.view (.object .plain 4) (101, 101) := ⟨rfl, rfl, rfl, by decide⟩
  have hbefore : errorsBefore twoRanges.view (.object .plain 0) = [none, none, none, none, none] := rfl
  have hpolicy : twoRanges.view.object (.object .plain 0) cfgBatchReceivePolicy = none := rfl
  have ho : twoRanges.view.object (.object .plain 0) cfgKeySharedPolicy = some (.object .plain 1) := rfl
  have hranges : twoRanges.view.array (.object .plain 1) cfgKeySharedPolicyStickyRanges = some (.object .array 2) := rfl
  have hfit : ∀ x ∈ twoRanges.view.elements (.object .array 2), EndsFit twoRanges.view x :=
    twoRanges_elements (hrange3.endsFit (by decide) (by decide)) (hrange4.endsFit (by decide) (by decide))
  obtain ⟨c, w', hrun, -, hset⟩ := rejects_first_or_hands_over twoRanges.sides twoRanges.lawful twoRanges_quiet
    (twoRanges.steady.shown _ _ _) (by simp [hbefore]) (fun b status hb => by rw [hpolicy] at hb; cases hb) ho hranges hfit
  exact ⟨c, w', hrun, hset (twoRanges_elements ⟨_, hrange3⟩ ⟨_, hrange4⟩)⟩

end Consumer

end PulsarNode
