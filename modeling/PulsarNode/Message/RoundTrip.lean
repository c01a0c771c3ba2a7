/-
From a producer message to the native message and back. `BuildMessage` keeps the text of a string
up to its first NUL, and `getProperties` gives no property under a key that an assignment to an
array takes for something else; all other messages come back as they were.
-/
import PulsarNode.Message.Native

namespace PulsarNode

open Napi Prog

/-- The fields of a producer message that the getters read back. -/
structure ProducerMessage where
  data : List UInt8
  properties : List (String × String)
  partitionKey : String
  orderingKey : String
  eventTimestamp : Nat
  deriving DecidableEq, Repr

/-- The view shows under `conf` a producer message with these fields; where it lists replication
clusters, they are strings. -/
structure View.ShowsMessage (v : View) (ans : (q : Query) → q.Resp → Prop) (conf : JsValue) (m : ProducerMessage) :
    Prop where
  data : (v.option conf Message.cfgData).isBuffer = true
  bytes : v (.bufferBytes (v.option conf Message.cfgData)) = m.data
  properties : ∃ o, v.object conf Message.cfgProps = some o ∧ v.ShowsEntries ans o m.properties
  keys : (m.properties.map Prod.fst).Nodup
  partitionKey : v.string conf Message.cfgPartitionKey = some m.partitionKey
  orderingKey : v.string conf Message.cfgOrderingKey = some m.orderingKey
  eventTimestamp : v.number conf Message.cfgEventTime = some (.finite m.eventTimestamp)
  safe : m.eventTimestamp < 2 ^ 53
  clusters : ∀ arr, v.array conf Message.cfgReplClusters = some arr → ∀ x ∈ v.elements arr, x.isString = true

namespace Message

/-! ## What is built -/

section

variable {v : View} {ans : (q : Query) → q.Resp → Prop} {conf : JsValue} {b : Builder} {m : ProducerMessage}

theorem ensures_set (c : MessageSetter) :
    ensures ans Query.plain (set c) (fun _ b' => NativeMessage.ofSetters b' = (NativeMessage.ofSetters b).set c) b :=
  ⟨trivial, fun _ _ => NativeMessage.ofSetters_append b c⟩

variable (R : Reading v ans Query.plain)
include R

theorem ensures_buildData (h : v.ShowsMessage ans conf m) :
    ensures ans Query.plain (buildData conf)
      (fun _ b' => NativeMessage.ofSetters b' = { NativeMessage.ofSetters b with content := m.data }) b := by
  refine (R.hasAs rfl).seq ?_
  rw [if_pos h.data]
  refine R.get.seq ?_
  rw [View.get_eq_option JsValue.isBuffer rfl h.data]
  have hbytes : Gives ans Query.plain (bufferBytes (v.option conf cfgData)) _ b :=
    R.read (q := .bufferBytes _) trivial h.data
  refine hbytes.seq ?_
  rw [h.bytes]
  exact ensures_set _

/-- The properties are set in the order in which JS enumerates them. -/
theorem ensures_buildProperties (h : v.ShowsMessage ans conf m) :
    ensures ans Query.plain (buildProperties conf) (fun _ b' => NativeMessage.ofSetters b' =
      { NativeMessage.ofSetters b with
        properties := (m.properties.map fun e => (cStr e.1, cStr e.2)).foldl (fun acc e => define e.1 e.2 acc)
          (NativeMessage.ofSetters b).properties }) b := by
  obtain ⟨o, ho, hshows⟩ := h.properties
  refine R.ifObject (fun x hx => ?_) fun hnone => by rw [ho] at hnone; cases hnone
  obtain rfl : o = x := by simpa [ho] using hx
  -- after `i` passes, the first `i` entries have been set
  refine ensures_mono (R.forProperties hshows.size hshows.names hshows.values (fun i _ b' =>
    NativeMessage.ofSetters b' = { NativeMessage.ofSetters b with
      properties := ((m.properties.take i).map fun e => (cStr e.1, cStr e.2)).foldl (fun acc e => define e.1 e.2 acc)
        (NativeMessage.ofSetters b).properties }) (fun i _ b' hi hb' => ?_) (by simp)) fun _ b' hb' => ?_
  · refine ensures_mono (ensures_set _) fun _ b'' hb'' => ?_
    rw [hb'', hb', List.take_succ_eq_append_getElem hi]
    simp only [NativeMessage.set, List.map_append, List.foldl_append, List.map_cons, List.map_nil, List.foldl_cons,
      List.foldl_nil]
  · simpa using hb'

theorem ensures_buildEventTime (h : v.ShowsMessage ans conf m) :
    ensures ans Query.plain (buildEventTime conf)
      (fun _ b' => NativeMessage.ofSetters b' = { NativeMessage.ofSetters b with eventTimestamp := m.eventTimestamp })
      b := by
  refine R.ifNumber (fun x hx => ?_) fun hnone => by rw [h.eventTimestamp] at hnone; cases hnone
  obtain rfl : JsNumber.finite m.eventTimestamp = x := by simpa [h.eventTimestamp] using hx
  have hsafe := h.safe
  rw [JsNumber.int64Value_natCast hsafe, if_pos (Int.natCast_nonneg _)]
  refine ensures_mono (ensures_set _) fun _ b' hb' => ?_
  have hmod : ((m.eventTimestamp : Int) % 2 ^ 64).toNat = m.eventTimestamp := by omega
  rw [hb', NativeMessage.set, hmod]

theorem ensures_buildPartitionKey (h : v.ShowsMessage ans conf m) :
    ensures ans Query.plain (buildPartitionKey conf)
      (fun _ b' => NativeMessage.ofSetters b' = { NativeMessage.ofSetters b with partitionKey := cStr m.partitionKey })
      b := by
  refine R.ifString (fun t ht => ?_) fun hnone => by rw [h.partitionKey] at hnone; cases hnone
  obtain rfl : m.partitionKey = t := by simpa [h.partitionKey] using ht
  exact ensures_set _

theorem ensures_buildOrderingKey (h : v.ShowsMessage ans conf m) :
    ensures ans Query.plain (buildOrderingKey conf)
      (fun _ b' => NativeMessage.ofSetters b' = { NativeMessage.ofSetters b with orderingKey := cStr m.orderingKey })
      b := by
  refine R.ifString (fun t ht => ?_) fun hnone => by rw [h.orderingKey] at hnone; cases hnone
  obtain rfl : m.orderingKey = t := by simpa [h.orderingKey] using ht
  exact ensures_set _

/-- The other options leave the five fields as they are. -/
theorem ensures_buildSequenceId :
    ensures ans Query.plain (buildSequenceId conf) (fun _ b' => NativeMessage.ofSetters b' = NativeMessage.ofSetters b) b :=
  R.ifNumber (fun _ _ => ensures_set _) fun _ => rfl

theorem ensures_buildReplicationClusters (h : v.ShowsMessage ans conf m) :
    ensures ans Query.plain (buildReplicationClusters conf)
      (fun _ b' => NativeMessage.ofSetters b' = NativeMessage.ofSetters b) b := by
  refine (R.hasAs rfl).seq ?_
  cases harr : (v.option conf cfgReplClusters).isArray with
  | false => rfl
  | true =>
    have hstrings := h.clusters _ (if_pos harr)
    rw [← View.get_eq_option JsValue.isArray rfl harr] at hstrings
    refine R.get.seq ?_
    generalize v.get conf cfgReplClusters = clusters at hstrings ⊢
    have hlen : Gives ans Query.plain (length clusters) (v (.length clusters)) b := R.read trivial trivial
    refine hlen.seq ?_
    have hbound : (toInt (UInt32.toNat (v (.length clusters)))).toNat ≤ v.size clusters := by
      unfold View.size toInt
      generalize hn : UInt32.toNat (v (.length clusters)) = n
      have hlt : n < 2 ^ 32 := hn ▸ UInt32.toNat_lt _
      rw [Int.bmod_def]
      split <;> omega
    dsimp only
    generalize toInt _ = size at hbound ⊢
    split
    · exact ensures_set _
    · refine ensures_seq (ensures_forInt
        (fun _ _ b' => NativeMessage.ofSetters b' = NativeMessage.ofSetters b) (fun e => e.elim)
        (fun i arr b' hi hb' => ?_) rfl) fun r b' hr => ?_
      · have hmem : v.getAt clusters i ∈ v.elements clusters := by
          unfold View.elements
          exact List.mem_map_of_mem (List.mem_range.2 (by omega))
        obtain ⟨t, ht⟩ := JsValue.isString_iff.1 (hstrings _ hmem)
        refine R.getAt.seq ?_
        rw [ht]
        exact R.toString.seq hb'
      · cases r with
        | error e => exact e.elim
        | ok arr =>
          rw [← show NativeMessage.ofSetters b' = NativeMessage.ofSetters b from hr]
          exact ensures_set _

theorem ensures_buildDelivery :
    ensures ans Query.plain (buildDelivery conf) (fun _ b' => NativeMessage.ofSetters b' = NativeMessage.ofSetters b) b := by
  have hnumber (key : String) (c : Int → MessageSetter) (hc : ∀ (m : NativeMessage) n, m.set (c n) = m) (b : Builder) :
      ensures ans Query.plain (ifNumber conf key fun x => set (c x.int64Value))
        (fun _ b' => NativeMessage.ofSetters b' = NativeMessage.ofSetters b) b := by
    refine R.ifNumber (fun x _ => ensures_mono (ensures_set _) fun _ b' hb' => ?_) fun _ => rfl
    rw [hb', hc]
  refine ensures_seq (hnumber cfgDeliverAfter _ (fun _ _ => rfl) b) fun _ b₁ h₁ => ?_
  refine ensures_seq (hnumber cfgDeliverAt _ (fun _ _ => rfl) b₁) fun _ b₂ h₂ => ?_
  refine R.ifBoolean (fun x _ => ?_) fun _ => h₂.trans h₁
  cases x with
  | false => exact h₂.trans h₁
  | true => exact ensures_mono (ensures_set _) fun _ b₃ h₃ => h₃.trans (h₂.trans h₁)

/-- The native message that a producer message comes to. -/
theorem ensures_buildMessage (h : v.ShowsMessage ans conf m) :
    ensures ans Query.plain (buildMessage conf) (fun _ b => NativeMessage.ofSetters b =
      ⟨m.data, (m.properties.map fun e => (cStr e.1, cStr e.2)).foldl (fun acc e => define e.1 e.2 acc) [],
        m.eventTimestamp, cStr m.partitionKey, cStr m.orderingKey⟩) [] := by
  refine ensures_seq (ensures_buildData R h) fun _ b₁ h₁ => ?_
  refine ensures_seq (ensures_buildProperties R h) fun _ b₂ h₂ => ?_
  refine ensures_seq (ensures_buildEventTime R h) fun _ b₃ h₃ => ?_
  refine ensures_seq (ensures_buildSequenceId R) fun _ b₄ h₄ => ?_
  refine ensures_seq (ensures_buildPartitionKey R h) fun _ b₅ h₅ => ?_
  refine ensures_seq (ensures_buildReplicationClusters R h) fun _ b₆ h₆ => ?_
  refine ensures_seq (ensures_buildDelivery R) fun _ b₇ h₇ => ?_
  refine ensures_mono (ensures_buildOrderingKey R h) fun _ b₈ h₈ => ?_
  rw [h₈, h₇, h₆, h₅, h₄, h₃, h₂, h₁]
  rfl

end

/-! ## What comes back -/

/-- The getters give the fields back, the properties as own enumerable properties in some order. -/
structure ReadsBack (toLength : String → Option Nat) (b : Builder) (m : ProducerMessage) : Prop where
  data : getData (some (.ofSetters b)) = .ok m.data
  properties : ∃ arr, getProperties toLength (some (.ofSetters b)) = .ok arr ∧ arr.props.Perm m.properties
  partitionKey : getPartitionKey (some (.ofSetters b)) = .ok m.partitionKey
  orderingKey : getOrderingKey (some (.ofSetters b)) = .ok m.orderingKey
  eventTimestamp : getEventTimestamp (some (.ofSetters b)) = .ok (.finite m.eventTimestamp)

/-- No string has a NUL in it, and no key is one that an assignment to an array takes for something else. -/
structure Ordinary (m : ProducerMessage) : Prop where
  partitionKey : Char.ofNat 0 ∉ m.partitionKey.toList
  orderingKey : Char.ofNat 0 ∉ m.orderingKey.toList
  properties : ∀ e ∈ m.properties, Char.ofNat 0 ∉ e.1.toList ∧ Char.ofNat 0 ∉ e.2.toList
  keys : ∀ e ∈ m.properties, e.1 ≠ "length" ∧ e.1 ≠ "__proto__"

variable {toLength : String → Option Nat} {b : Builder} {m : ProducerMessage}

/-- The properties that are seen have no NULs, and their keys are ordinary. -/
theorem ReadsBack.properties_ordinary (h : ReadsBack toLength b m) {e : String × String} (he : e ∈ m.properties) :
    (Char.ofNat 0 ∉ e.1.toList ∧ Char.ofNat 0 ∉ e.2.toList) ∧ e.1 ≠ "length" ∧ e.1 ≠ "__proto__" := by
  obtain ⟨arr, harr, hperm⟩ := h.properties
  obtain ⟨⟨e', -, rfl⟩, hkey⟩ := mem_getProperties harr (hperm.mem_iff.2 he)
  exact ⟨⟨nul_notMem_cStr _, nul_notMem_cStr _⟩, hkey⟩

theorem getPartitionKey_cStr {m : NativeMessage} {key : String} (h : m.partitionKey = cStr key) :
    getPartitionKey (some m) = .ok key ↔ Char.ofNat 0 ∉ key.toList := by
  rw [show getPartitionKey (some m) = .ok (cStr m.partitionKey) from rfl, h, cStr_cStr, Except.ok.injEq, cStr_eq_self]

theorem getOrderingKey_cStr {m : NativeMessage} {key : String} (h : m.orderingKey = cStr key) :
    getOrderingKey (some m) = .ok key ↔ Char.ofNat 0 ∉ key.toList := by
  rw [show getOrderingKey (some m) = .ok (cStr m.orderingKey) from rfl, h, cStr_cStr, Except.ok.injEq, cStr_eq_self]

/-- What was built of ordinary fields comes back. -/
theorem readsBack_of_ordinary (hb : NativeMessage.ofSetters b =
      ⟨m.data, (m.properties.map fun e => (cStr e.1, cStr e.2)).foldl (fun acc e => define e.1 e.2 acc) [],
        m.eventTimestamp, cStr m.partitionKey, cStr m.orderingKey⟩)
    (hsize : m.properties.length < 2 ^ 31) (hkeys : (m.properties.map Prod.fst).Nodup) (hsafe : m.eventTimestamp < 2 ^ 53)
    (h : Ordinary m) : ReadsBack toLength b m := by
  have hnul : ∀ e ∈ m.properties, cStr e.1 = e.1 ∧ cStr e.2 = e.2 := fun e he =>
    ⟨cStr_eq_self.2 (h.properties e he).1, cStr_eq_self.2 (h.properties e he).2⟩
  rw [map_cStr hnul, foldl_define (by simpa using hkeys), List.nil_append] at hb
  constructor
  · rw [hb]
    rfl
  · rw [hb]
    exact getProperties_eq hsize hkeys hnul h.keys
  · rw [hb]
    exact (getPartitionKey_cStr rfl).2 h.partitionKey
  · rw [hb]
    exact (getOrderingKey_cStr rfl).2 h.orderingKey
  · rw [hb, ← JsNumber.ofUInt64_eq hsafe]
    rfl

variable {J N : Type} (sides : Sides J N) {v : View} {conf : JsValue} {w : World J N}

/-- A producer message is built without a throw, and it comes back exactly when it is ordinary. -/
theorem readsBack_iff (toLength : String → Option Nat) (hplain : v.PlainRun sides (buildMessage conf) [] w)
    (hm : v.ShowsMessage (Answered sides.answer (buildMessage conf) [] w) conf m) :
    ∃ b w', (buildMessage conf).run sides.answer [] w = (.ok (), b, w') ∧ (ReadsBack toLength b m ↔ Ordinary m) := by
  obtain ⟨_, b, w', hrun, hb⟩ := hplain.ends (ensures_buildMessage hplain.reading hm)
  refine ⟨b, w', hrun, ?_⟩
  obtain ⟨_, _, hshows⟩ := hm.properties
  constructor
  · intro h
    refine ⟨?_, ?_, fun e he => (h.properties_ordinary he).1, fun e he => (h.properties_ordinary he).2⟩
    · exact (getPartitionKey_cStr (by rw [hb])).1 h.partitionKey
    · exact (getOrderingKey_cStr (by rw [hb])).1 h.orderingKey
  · exact readsBack_of_ordinary hb hshows.size hm.keys hm.safe

/-- A message whose only property is under the key given. -/
def oneProperty (key : String) : Heap := { Heap.empty with
  props := fun
    | 0 => [("data", .object .buffer 1), ("properties", .object .plain 2), ("partitionKey", .string "part"),
        ("orderingKey", .string "order"), ("eventTimestamp", .number (.finite 7))]
    | 2 => [(key, .string "x")]
    | _ => []
  elements := fun
    | 3 => [.string key]
    | _ => []
  bytes := fun
    | 1 => [0, 255]
    | _ => []
  names := fun _ => 3 }

def onePropertyMessage (key : String) : ProducerMessage := ⟨[0, 255], [(key, "x")], "part", "order", 7⟩

theorem oneProperty_shows (key : String) :
    (oneProperty key).view.ShowsMessage (Answered (oneProperty key).sides.answer (buildMessage (.object .plain 0)) []
      ⟨(), none, ()⟩) (.object .plain 0) (onePropertyMessage key) := by
  refine ⟨rfl, rfl, ⟨.object .plain 2, rfl, (oneProperty key).showsEntries ?_ rfl fun e he => ?_⟩, ?_, rfl, rfl,
    rfl, ?_, fun arr harr => ?_⟩
  · simp [onePropertyMessage]
  · obtain rfl : e = (key, "x") := by simpa [onePropertyMessage] using he
    simp [View.get, oneProperty, Heap.view]
  · simp [onePropertyMessage]
  · simp [onePropertyMessage]
  · cases harr

theorem readsBack_oneProperty :
    ∃ b w', (buildMessage (.object .plain 0)).run (oneProperty "k").sides.answer [] ⟨(), none, ()⟩ = (.ok (), b, w') ∧
      ReadsBack String.toNat? b (onePropertyMessage "k") := by
  have hrun : ∃ b w', (buildMessage (.object .plain 0)).run (oneProperty "k").sides.answer [] ⟨(), none, ()⟩ =
      (.ok (), b, w') := ⟨_, _, rfl⟩
  obtain ⟨b₀, w₀, hrun⟩ := hrun
  obtain ⟨b, w', h, hiff⟩ := readsBack_iff (oneProperty "k").sides String.toNat? ((oneProperty "k").plainRun hrun)
    (oneProperty_shows "k")
  exact ⟨b, w', h, hiff.2 ⟨by decide, by decide, by decide, by decide⟩⟩

/-- A property under `__proto__` does not come back. -/
theorem proto_lost :
    ∃ b w', (buildMessage (.object .plain 0)).run (oneProperty "__proto__").sides.answer [] ⟨(), none, ()⟩ =
        (.ok (), b, w') ∧
      getProperties String.toNat? (some (.ofSetters b)) = .ok .new ∧
      ¬ ReadsBack String.toNat? b (onePropertyMessage "__proto__") := by
  obtain ⟨b, w', hrun, hset⟩ : ∃ b w', (buildMessage (.object .plain 0)).run (oneProperty "__proto__").sides.answer []
      ⟨(), none, ()⟩ = (.ok (), b, w') ∧ (NativeMessage.ofSetters b).properties = [("__proto__", "x")] := ⟨_, _, rfl, rfl⟩
  refine ⟨b, w', hrun, ?_, fun h => ?_⟩
  · rw [getProperties_some]
    unfold cProperties
    rw [hset, List.mergeSort_singleton]
    rfl
  · exact (h.properties_ordinary List.mem_cons_self).2.2 rfl

end Message

end PulsarNode
