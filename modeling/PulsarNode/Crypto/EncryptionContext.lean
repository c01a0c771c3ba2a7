/-
Encryption metadata on its way to JS: `getEncryptionContext` of a message, and the metadata that the methods
of a `CryptoKeyReader` are called with. Both copy a native map onto a new object by assignment, where
`SchemaInfo::NewObject` defines each property, and an assignment under `__proto__` makes none.
-/
import PulsarNode.Config.SchemaObject
import PulsarNode.Crypto.KeyReader
import PulsarNode.Message.Native
import Mathlib.Data.List.Forall2

namespace PulsarNode

open Prog

/-! ## Native maps -/

/-- `std::map<std::string, std::string>`: its entries, in the order of their keys. -/
structure StringMap where
  entries : List (String × String)
  nodup : (entries.map Prod.fst).Nodup

namespace StringMap

def keys (m : StringMap) : List String := m.entries.map Prod.fst

/-- The keys are not cut as C strings. -/
def NulFree (m : StringMap) : Prop := ∀ e ∈ m.entries, Char.ofNat 0 ∉ e.1.toList

instance (m : StringMap) : Decidable m.NulFree := inferInstanceAs (Decidable (∀ e ∈ m.entries, Char.ofNat 0 ∉ e.1.toList))

/-- The properties of a new object after `obj.Set(entry.first, entry.second)` for each entry. -/
def assigned (m : StringMap) : List (String × String) :=
  m.entries.foldl (fun props e => assign (cStr e.1) e.2 props) []

variable {m : StringMap}

/-- The entry under `__proto__` is lost, and no other one is. -/
theorem assigned_eq (h : m.NulFree) : m.assigned = m.entries.filter (·.1 ≠ "__proto__") := by
  have hself : m.assigned = m.entries.foldl (fun props e => assign e.1 e.2 props) [] := by
    refine List.foldl_ext _ _ _ fun props e he => ?_
    rw [cStr_eq_self.2 (h e he)]
  rw [hself, foldl_assign (by simpa using m.nodup), List.nil_append]

/-- The object has the entries of the map exactly when none of them is under `__proto__`. -/
theorem assigned_perm_iff (h : m.NulFree) : m.assigned.Perm m.entries ↔ "__proto__" ∉ m.keys := by
  have hkeys : "__proto__" ∉ m.keys ↔ ∀ e ∈ m.entries, e.1 ≠ "__proto__" := by
    unfold keys
    simp only [List.mem_map, not_exists, not_and]
  rw [assigned_eq h, hkeys]
  constructor
  · intro hperm
    have hself := List.length_filter_eq_length_iff.1 hperm.length_eq
    simpa using hself
  · intro hall
    rw [List.filter_eq_self.2 (by simpa using hall)]

end StringMap

/-- `SchemaInfo::NewObject` keeps every key. -/
theorem SchemaInfo.newObject_keeps (typeName : String) {info : NativeSchemaInfo} {m : StringMap} (h : m.NulFree)
    (hprops : info.properties = m.entries) : (cfgProps, .object m.entries) ∈ newObject typeName info := by
  rw [newObject_eq, hprops, foldl_define_cStr m.nodup h]
  simp

/-! ## The encryption context of a message -/

/-- `pulsar::EncryptionKey`. -/
structure EncryptionKey where
  key : String
  value : List UInt8
  metadata : StringMap

/-- `pulsar::EncryptionContext`. -/
structure NativeEncryptionContext where
  keys : List EncryptionKey
  param : List UInt8
  algorithm : String
  compressionType : CompressionType
  uncompressedMessageSize : Nat
  batchSize : Int
  isDecryptionFailed : Bool

/-- An object of the array `keys`, by its properties; the value is a buffer. -/
structure EncryptionKeyObject where
  key : String
  value : List UInt8
  metadata : List (String × String)
  deriving DecidableEq, Repr

/-- The object that JS gets, by its properties: the elements of `keys`, and `param` as a buffer. -/
structure EncryptionContextObject where
  keys : List (Option EncryptionKeyObject)
  param : List UInt8
  algorithm : String
  compressionType : String
  uncompressedMessageSize : JsNumber
  batchSize : JsNumber
  isDecryptionFailed : Bool
  deriving DecidableEq

namespace Message

def compressionTypeMap : List (CompressionType × String) :=
  [(.none, "None"), (.lz4, "LZ4"), (.zLib, "Zlib"), (.zstd, "ZSTD"), (.snappy, "SNAPPY")]

def keyObject (keyInfo : EncryptionKey) : EncryptionKeyObject := ⟨keyInfo.key, keyInfo.value, keyInfo.metadata.assigned⟩

/-- The loop over the keys, with the index of the next element. -/
def keysArray (keys : List EncryptionKey) : List (Option EncryptionKeyObject) :=
  (keys.foldl (fun acc keyInfo => (acc.1 + 1, setElement acc.1 (keyObject keyInfo) acc.2)) (0, [])).2

/-- `GetEncryptionContext`, with `null` as `none`. What the native message has is nothing, or a pointer that
may be null. -/
def getEncryptionContext (encryptionContext : NativeMessage → Option (Option NativeEncryptionContext))
    (cMessage : Option NativeMessage) : Except JsError (Option EncryptionContextObject) := do
  let m ← validateCMessage cMessage
  let some encCtxPtr := encryptionContext m | return none
  let some encCtx := encCtxPtr | return none
  return some {
    keys := keysArray encCtx.keys
    param := encCtx.param
    algorithm := encCtx.algorithm
    compressionType := (compressionTypeMap.lookup encCtx.compressionType).getD "None"
    uncompressedMessageSize := .finite encCtx.uncompressedMessageSize
    batchSize := .finite encCtx.batchSize
    isDecryptionFailed := encCtx.isDecryptionFailed }

/-- The object shows the keys in their order, each with its bytes and its metadata, and the parameter. The
properties of an object have an order of their own. -/
structure Mirrors (encCtx : NativeEncryptionContext) (obj : EncryptionContextObject) : Prop where
  keys : List.Forall₂ (fun keyInfo o => ∃ keyObj : EncryptionKeyObject, o = some keyObj ∧ keyObj.key = keyInfo.key ∧
    keyObj.value = keyInfo.value ∧ keyObj.metadata.Perm keyInfo.metadata.entries) encCtx.keys obj.keys
  param : obj.param = encCtx.param

theorem keysArray_eq (keys : List EncryptionKey) : keysArray keys = keys.map fun keyInfo => some (keyObject keyInfo) := by
  have hloop := foldl_setElement keyObject keys []
  unfold keysArray
  rw [List.length_nil] at hloop
  rw [hloop]
  rfl

variable {encryptionContext : NativeMessage → Option (Option NativeEncryptionContext)} {m : NativeMessage}
  {encCtx : NativeEncryptionContext}

theorem getEncryptionContext_some (h : encryptionContext m = some (some encCtx)) :
    ∃ obj, getEncryptionContext encryptionContext (some m) = .ok (some obj) ∧
      obj.keys = encCtx.keys.map (fun keyInfo => some (keyObject keyInfo)) ∧ obj.param = encCtx.param := by
  unfold getEncryptionContext
  rw [validateCMessage_bind, h]
  exact ⟨_, rfl, keysArray_eq encCtx.keys, rfl⟩

/-- The context goes over as it is exactly when no key has metadata under `__proto__`. -/
theorem mirrors_iff (h : encryptionContext m = some (some encCtx)) (hnul : ∀ keyInfo ∈ encCtx.keys, keyInfo.metadata.NulFree) :
    (∃ obj, getEncryptionContext encryptionContext (some m) = .ok (some obj) ∧ Mirrors encCtx obj) ↔
      ∀ keyInfo ∈ encCtx.keys, "__proto__" ∉ keyInfo.metadata.keys := by
  obtain ⟨obj, hobj, hkeys, hparam⟩ := getEncryptionContext_some h
  have hmirrors : Mirrors encCtx obj ↔ ∀ keyInfo ∈ encCtx.keys, (keyObject keyInfo).metadata.Perm keyInfo.metadata.entries := by
    constructor
    · intro hm
      have hall := hm.keys
      rw [hkeys, List.forall₂_map_right_iff, List.forall₂_same] at hall
      intro keyInfo hmem
      obtain ⟨keyObj, heq, -, -, hperm⟩ := hall keyInfo hmem
      rw [Option.some.inj heq]
      exact hperm
    · intro hall
      refine ⟨?_, hparam⟩
      rw [hkeys, List.forall₂_map_right_iff, List.forall₂_same]
      exact fun keyInfo hmem => ⟨keyObject keyInfo, rfl, rfl, rfl, hall keyInfo hmem⟩
  have hgiven : (∃ obj', getEncryptionContext encryptionContext (some m) = .ok (some obj') ∧ Mirrors encCtx obj') ↔
      Mirrors encCtx obj := by
    rw [hobj]
    constructor
    · rintro ⟨obj', ⟨⟩, hm⟩
      exact hm
    · exact fun hm => ⟨obj, rfl, hm⟩
  rw [hgiven, hmirrors]
  exact forall₂_congr fun keyInfo hmem => StringMap.assigned_perm_iff (hnul keyInfo hmem)

end Message

/-! ## The metadata that a reader is called with -/

namespace CryptoKeyReader

variable {J : Type} {own : JsValue → J → List (String × String)} {side : ReaderSide J}

/-- A new object is a plain one: it has no properties, and strings are assigned to it as to any plain object. -/
structure PlainObjects (own : JsValue → J → List (String × String)) (side : ReaderSide J) : Prop where
  newObject : ∀ j, own (side.newObject j).1 (side.newObject j).2 = []
  set : ∀ j₀ key value j j', side.set (side.newObject j₀).1 key value j = (.ok (), j') →
    own (side.newObject j₀).1 j' = assign key value (own (side.newObject j₀).1 j)

theorem own_setAll (h : PlainObjects own side) (j₀ : J) {entries : List (String × String)} {w w' : World J Unit}
    (hset : side.setAll (side.newObject j₀).1 entries w = (.ok (), w')) :
    own (side.newObject j₀).1 w'.js =
      entries.foldl (fun props e => assign (cStr e.1) e.2 props) (own (side.newObject j₀).1 w.js) := by
  induction entries generalizing w with
  | nil =>
    cases hset
    rfl
  | cons e rest ih =>
    obtain ⟨key, value⟩ := e
    unfold ReaderSide.setAll at hset
    rcases hone : side.set (side.newObject j₀).1 (cStr key) value w.js with ⟨e | ⟨⟩, j⟩
    · rw [hone] at hset
      cases hset
    · rw [hone] at hset
      rw [ih hset, h.set j₀ _ _ _ _ hone, List.foldl_cons]

/-- What the object is when the method is called with it. -/
theorem own_prepare (h : PlainObjects own side) {obj func metadataObj : JsValue} {method : Method} {m : StringMap}
    {w w' : World J Unit} (hprepare : prepare side obj method m.entries w = (.ok (some (func, metadataObj)), w')) :
    own metadataObj w'.js = m.assigned := by
  unfold prepare at hprepare
  rcases hfind : (findMethod obj method).run side.sides.answer () w with ⟨e | _ | func', u, w₁⟩
  · rw [hfind] at hprepare
    cases hprepare
  · rw [hfind] at hprepare
    cases hprepare
  · rw [hfind] at hprepare
    dsimp only at hprepare
    rcases hset : side.setAll (side.newObject w₁.js).1 m.entries { w₁ with js := (side.newObject w₁.js).2 } with ⟨e | ⟨⟩, w₂⟩
    · rw [hset] at hprepare
      cases hprepare
    · rw [hset] at hprepare
      cases hprepare
      rw [own_setAll h w₁.js hset, h.newObject]
      rfl

/-! ## Both -/

/-- Metadata goes to JS as it is, in an encryption context and to a key reader, exactly when none of it is
under `__proto__`. -/
theorem metadata_shown_iff (h : PlainObjects own side) :
    (∀ encryptionContext m encCtx, encryptionContext m = some (some encCtx) →
      (∀ keyInfo ∈ encCtx.keys, keyInfo.metadata.NulFree) →
      ((∃ obj, Message.getEncryptionContext encryptionContext (some m) = .ok (some obj) ∧ Message.Mirrors encCtx obj) ↔
        ∀ keyInfo ∈ encCtx.keys, "__proto__" ∉ keyInfo.metadata.keys)) ∧
    ∀ obj method (metadata : StringMap) w func metadataObj w', metadata.NulFree →
      prepare side obj method metadata.entries w = (.ok (some (func, metadataObj)), w') →
      ((own metadataObj w'.js).Perm metadata.entries ↔ "__proto__" ∉ metadata.keys) := by
  refine ⟨fun encryptionContext m encCtx hctx hnul => Message.mirrors_iff hctx hnul, ?_⟩
  intro obj method metadata w func metadataObj w' hnul hprepare
  rw [own_prepare h hprepare]
  exact StringMap.assigned_perm_iff hnul

/-- Objects made one after another, each with its properties, beside a reader that has both methods. -/
def plainReader : ReaderSide (Nat × (Nat → List (String × String))) where
  js q j := (.ok ({ Heap.empty with
    props := fun
      | 0 => [("getPublicKey", .object .function 1), ("getPrivateKey", .object .function 1)]
      | _ => [] }.view q), j)
  newObject j := (.object .plain j.1, (j.1 + 1, Function.update j.2 j.1 []))
  set o key value j :=
    match o with
    | .object _ i => (.ok (), (j.1, Function.update j.2 i (assign key value (j.2 i))))
    | _ => (.ok (), j)
  call _ _ _ _ j := (.ok .undefined, j)

def ownOf : JsValue → Nat × (Nat → List (String × String)) → List (String × String)
  | .object _ i, j => j.2 i
  | _, _ => []

theorem plainReader_plainObjects : PlainObjects ownOf plainReader := by
  refine ⟨fun j => Function.update_self .., fun j₀ key value j j' hset => ?_⟩
  cases hset
  exact Function.update_self ..

def oneKey (key : String) : StringMap := ⟨[(key, "1")], by simp⟩

def oneKeyContext (key : String) : NativeEncryptionContext :=
  ⟨[⟨"rsa", [0, 255], oneKey key⟩], [1, 2], "RSA", .zLib, 10, 1, false⟩

theorem metadata_shown_version :
    (∃ obj, Message.getEncryptionContext (fun _ => some (some (oneKeyContext "version"))) (some .create) = .ok (some obj) ∧
      Message.Mirrors (oneKeyContext "version") obj) ∧
    ∃ func metadataObj w', prepare plainReader (.object .plain 0) .getPublicKey (oneKey "version").entries
        ⟨(2, fun _ => []), none, ()⟩ = (.ok (some (func, metadataObj)), w') ∧
      (ownOf metadataObj w'.js).Perm (oneKey "version").entries := by
  obtain ⟨hcontext, hreader⟩ := metadata_shown_iff plainReader_plainObjects
  have hnul : (oneKey "version").NulFree := by decide
  have hkeys : "__proto__" ∉ (oneKey "version").keys := by decide
  have hprepare : prepare plainReader (.object .plain 0) .getPublicKey (oneKey "version").entries ⟨(2, fun _ => []), none, ()⟩ =
      (.ok (some (.object .function 1, .object .plain 2)), _) := rfl
  refine ⟨(hcontext _ _ (oneKeyContext "version") rfl ?_).2 ?_, _, _, _, hprepare, ?_⟩
  · exact fun keyInfo hmem => List.mem_singleton.1 hmem ▸ hnul
  · exact fun keyInfo hmem => List.mem_singleton.1 hmem ▸ hkeys
  · exact (hreader _ _ (oneKey "version") _ _ _ _ hnul hprepare).2 hkeys

/-- The one entry is lost in both objects, where `SchemaInfo::NewObject` keeps it. -/
theorem metadata_lost_proto :
    (∃ obj, Message.getEncryptionContext (fun _ => some (some (oneKeyContext "__proto__"))) (some .create) = .ok (some obj) ∧
      ¬ Message.Mirrors (oneKeyContext "__proto__") obj) ∧
    (∃ func metadataObj w', prepare plainReader (.object .plain 0) .getPublicKey (oneKey "__proto__").entries
        ⟨(2, fun _ => []), none, ()⟩ = (.ok (some (func, metadataObj)), w') ∧
      ¬ (ownOf metadataObj w'.js).Perm (oneKey "__proto__").entries) ∧
    (SchemaInfo.cfgProps, .object (oneKey "__proto__").entries) ∈
      SchemaInfo.newObject "Bytes" ⟨-1, "", [], (oneKey "__proto__").entries⟩ := by
  have hnul : (oneKey "__proto__").NulFree := by decide
  have hkeys : ¬ "__proto__" ∉ (oneKey "__proto__").keys := by decide
  have hprepare : prepare plainReader (.object .plain 0) .getPublicKey (oneKey "__proto__").entries ⟨(2, fun _ => []), none, ()⟩ =
      (.ok (some (.object .function 1, .object .plain 2)), _) := rfl
  refine ⟨?_, ⟨_, _, _, hprepare, ?_⟩, SchemaInfo.newObject_keeps "Bytes" hnul rfl⟩
  · have hlost {encryptionContext : NativeMessage → Option (Option NativeEncryptionContext)}
        (hctx : encryptionContext .create = some (some (oneKeyContext "__proto__"))) :
        ∃ obj, Message.getEncryptionContext encryptionContext (some .create) = .ok (some obj) ∧
          ¬ Message.Mirrors (oneKeyContext "__proto__") obj := by
      obtain ⟨obj, hobj, -⟩ := Message.getEncryptionContext_some hctx
      refine ⟨obj, hobj, fun hm => ?_⟩
      have hall := (Message.mirrors_iff hctx fun keyInfo hmem => List.mem_singleton.1 hmem ▸ hnul).1 ⟨obj, hobj, hm⟩
      exact hkeys (hall _ List.mem_cons_self)
    exact hlost rfl
  · rw [own_prepare plainReader_plainObjects hprepare, StringMap.assigned_perm_iff hnul]
    exact hkeys

end CryptoKeyReader

end PulsarNode
