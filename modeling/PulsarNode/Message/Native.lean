/-
A native message as its setters leave it, and the getters of `Message` that bring it back to JS.
Strings cross as C strings in both directions; the properties are assigned to an array.
-/
import PulsarNode.Config.Message
import PulsarNode.Napi.Object

namespace PulsarNode

/-! ## Conversions -/

/-- A C string has no NUL in it. -/
theorem nul_notMem_cStr (s : String) : Char.ofNat 0 ∉ (cStr s).toList := by
  unfold cStr
  rw [String.toList_ofList]
  intro h
  simpa using List.mem_takeWhile_imp h

@[simp] theorem cStr_cStr (s : String) : cStr (cStr s) = cStr s := cStr_eq_self.2 (nul_notMem_cStr s)

namespace JsNumber

/-- `Number::New` of an unsigned 64-bit integer: the nearest double, to the even one of two. -/
def ofUInt64 (n : Nat) : JsNumber :=
  -- a double has 53 significant bits; `unit` is the weight of the last
  let unit := 2 ^ (n.log2 - 52)
  let q := n / unit
  let r := n % unit
  let digits := if unit < 2 * r ∨ unit = 2 * r ∧ q % 2 = 1 then q + 1 else q
  finite (digits * unit : Nat)

/-- Integers up to 53 bits are doubles. -/
theorem ofUInt64_eq {n : Nat} (h : n < 2 ^ 53) : ofUInt64 n = finite n := by
  have hlog : n.log2 - 52 = 0 := by
    rcases Nat.eq_zero_or_pos n with rfl | hpos
    · rfl
    · have hlt := (Nat.log2_lt (by omega)).2 h
      omega
  unfold ofUInt64
  simp [hlog, Nat.mod_one]

theorem int64Value_natCast {n : Nat} (h : n < 2 ^ 53) : (finite n).int64Value = n := by
  have htrunc : trunc n = n := by simp [trunc]
  unfold int64Value
  dsimp only
  rw [htrunc]
  omega

end JsNumber

/-! ## Native messages -/

/-- The part of `pulsar_message_t` that the getters below read; the properties are a map. -/
structure NativeMessage where
  content : List UInt8
  properties : List (String × String)
  eventTimestamp : Nat
  partitionKey : String
  orderingKey : String
  deriving DecidableEq, Repr

namespace NativeMessage

/-- `pulsar_message_create`. -/
def create : NativeMessage := ⟨[], [], 0, "", ""⟩

/-- What a setter stores. -/
def set (m : NativeMessage) : MessageSetter → NativeMessage
  | .content bytes => { m with content := bytes }
  | .property key value => { m with properties := define key value m.properties }
  | .eventTimestamp ms => { m with eventTimestamp := (ms % 2 ^ 64).toNat }
  | .partitionKey key => { m with partitionKey := key }
  | .orderingKey key => { m with orderingKey := key }
  | .sequenceId _ | .disableReplication | .replicationClusters _ | .deliverAfter _ | .deliverAt _ => m

/-- The message that the setter calls of a builder leave. -/
def ofSetters (b : Message.Builder) : NativeMessage := b.foldl set create

@[simp] theorem ofSetters_append (b : Message.Builder) (c : MessageSetter) :
    ofSetters (b ++ [c]) = (ofSetters b).set c := by
  simp [ofSetters]

end NativeMessage

namespace Message

/-! ## Getters -/

/-- `ValidateCMessage`: an object made by `new Message()` holds no message. -/
def validateCMessage : Option NativeMessage → Except JsError NativeMessage
  | none => .error (.error "Message has not been built")
  | some m => .ok m

def getData (cMessage : Option NativeMessage) : Except JsError (List UInt8) := do
  let m ← validateCMessage cMessage
  return m.content

/-- The properties as the loop of `GetProperties` goes through them: those that an `int` counts, in the
order of their keys. -/
def cProperties (m : NativeMessage) : List (String × String) :=
  let sorted := m.properties.mergeSort fun a b => decide (a.1 ≤ b.1)
  sorted.take (toInt sorted.length).toNat

/-- The properties are assigned to a new array. -/
def getProperties (toLength : String → Option Nat) (cMessage : Option NativeMessage) : Except JsError JsArray := do
  let m ← validateCMessage cMessage
  JsArray.assignAll toLength ((cProperties m).map fun e => (cStr e.1, cStr e.2)) .new

def getEventTimestamp (cMessage : Option NativeMessage) : Except JsError JsNumber := do
  let m ← validateCMessage cMessage
  return .ofUInt64 m.eventTimestamp

def getPartitionKey (cMessage : Option NativeMessage) : Except JsError String := do
  let m ← validateCMessage cMessage
  return cStr m.partitionKey

def getOrderingKey (cMessage : Option NativeMessage) : Except JsError String := do
  let m ← validateCMessage cMessage
  return cStr m.orderingKey

variable {toLength : String → Option Nat} {m : NativeMessage}

theorem validateCMessage_bind {α : Type} (f : NativeMessage → Except JsError α) :
    validateCMessage (some m) >>= f = f m := rfl

theorem getProperties_some :
    getProperties toLength (some m) =
      JsArray.assignAll toLength ((cProperties m).map fun e => (cStr e.1, cStr e.2)) .new := by
  unfold getProperties
  rw [validateCMessage_bind]

theorem mem_cProperties {e : String × String} (h : e ∈ cProperties m) : e ∈ m.properties :=
  List.mem_mergeSort.1 (List.mem_of_mem_take h)

theorem cProperties_perm (hsize : m.properties.length < 2 ^ 31) : (cProperties m).Perm m.properties := by
  unfold cProperties
  dsimp only
  have hperm := List.mergeSort_perm m.properties fun a b => decide (a.1 ≤ b.1)
  rw [Reading.toInt_length (by rw [hperm.length_eq]; exact hsize), List.take_length]
  exact hperm

/-- Every property that JS sees is one of the message's, cut at NULs, under an ordinary key. -/
theorem mem_getProperties {arr : JsArray} {e : String × String} (h : getProperties toLength (some m) = .ok arr)
    (he : e ∈ arr.props) :
    (∃ e' ∈ m.properties, e = (cStr e'.1, cStr e'.2)) ∧ e.1 ≠ "length" ∧ e.1 ≠ "__proto__" := by
  rw [getProperties_some] at h
  rcases JsArray.mem_assignAll h he with ⟨hmem, hne⟩ | hmem
  · obtain ⟨e', he', rfl⟩ := List.mem_map.1 hmem
    exact ⟨⟨e', mem_cProperties he', rfl⟩, hne⟩
  · cases hmem

/-- Entries without NULs are not cut. -/
theorem map_cStr {props : List (String × String)} (h : ∀ e ∈ props, cStr e.1 = e.1 ∧ cStr e.2 = e.2) :
    props.map (fun e => (cStr e.1, cStr e.2)) = props := by
  conv_rhs => rw [← List.map_id props]
  refine List.map_congr_left fun e he => ?_
  obtain ⟨h1, h2⟩ := h e he
  rw [h1, h2]
  rfl

/-- Assigned under ordinary keys, they are what JS sees. -/
theorem assignAll_cStr {props : List (String × String)} (hnodup : (props.map Prod.fst).Nodup)
    (hnul : ∀ e ∈ props, cStr e.1 = e.1 ∧ cStr e.2 = e.2) (hkeys : ∀ e ∈ props, e.1 ≠ "length" ∧ e.1 ≠ "__proto__") :
    ∃ n, JsArray.assignAll toLength (props.map fun e => (cStr e.1, cStr e.2)) .new = .ok ⟨n, props⟩ := by
  rw [map_cStr hnul]
  exact JsArray.assignAll_eq hkeys hnodup

theorem getProperties_eq (hsize : m.properties.length < 2 ^ 31) (hnodup : (m.properties.map Prod.fst).Nodup)
    (hnul : ∀ e ∈ m.properties, cStr e.1 = e.1 ∧ cStr e.2 = e.2)
    (hkeys : ∀ e ∈ m.properties, e.1 ≠ "length" ∧ e.1 ≠ "__proto__") :
    ∃ arr, getProperties toLength (some m) = .ok arr ∧ arr.props.Perm m.properties := by
  have hperm := cProperties_perm hsize
  have hassign : ∃ n, JsArray.assignAll toLength ((cProperties m).map fun e => (cStr e.1, cStr e.2)) .new =
      .ok ⟨n, cProperties m⟩ :=
    assignAll_cStr ((hperm.map Prod.fst).nodup_iff.2 hnodup) (fun e he => hnul e (mem_cProperties he))
      fun e he => hkeys e (mem_cProperties he)
  obtain ⟨n, hn⟩ := hassign
  rw [getProperties_some, hn]
  refine ⟨_, rfl, ?_⟩
  dsimp only
  exact hperm

end Message

end PulsarNode
