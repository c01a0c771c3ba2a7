/-
What a producer's options say of encryption, and what reaches the native configuration. Two options
may supply the key reader and two may name keys; the native client encrypts where it has both a
reader and a name. The single key is read only inside the branch of the key path, and goes through
a C string; the listed keys are read on their own, and keep all their characters.
-/
import PulsarNode.Config.ProducerSections
import PulsarNode.Napi.Object

namespace PulsarNode

open Napi Prog

/-! ## The native configuration -/

/-- Where the native client gets keys from: files, or the object of a `CryptoKeyReader`. -/
inductive KeyReader
  | files (publicKeyPath privateKeyPath : String)
  | object (reader : Handle)
  deriving DecidableEq, Repr

namespace ProducerSetter

/-- The reader that a setter gives. -/
def keyReader : ProducerSetter → Option KeyReader
  | defaultCryptoKeyReader publicKeyPath privateKeyPath => some (.files publicKeyPath privateKeyPath)
  | cryptoKeyReader reader => some (.object reader)
  | _ => none

/-- The key that a setter adds to the encryption keys. -/
def key : ProducerSetter → Option String
  | encryptionKey k | addEncryptionKey k => some k
  | _ => none

end ProducerSetter

namespace ProducerConfig

/-- The setters of a configuration that concern keys. -/
def keySetters (cfg : ProducerConfig) : List ProducerSetter := cfg.cProducerConfig.filter (·.onKeys)

/-- The key reader of the native configuration: the last one set. -/
def keyReader (cfg : ProducerConfig) : Option KeyReader := (cfg.cProducerConfig.filterMap (·.keyReader)).getLast?

/-- The encryption keys of the native configuration. -/
def encryptionKeys (cfg : ProducerConfig) : List String := cfg.cProducerConfig.filterMap (·.key)

theorem filterMap_onKeys {α : Type} {f : ProducerSetter → Option α} (hf : ∀ c, c.onKeys = false → f c = none)
    (l : List ProducerSetter) : (l.filter (·.onKeys)).filterMap f = l.filterMap f := by
  rw [List.filterMap_filter]
  congr 1
  funext c
  cases hc : c.onKeys with
  | true => rfl
  | false => exact (hf c hc).symm

theorem keyReader_eq (cfg : ProducerConfig) : cfg.keyReader = (cfg.keySetters.filterMap (·.keyReader)).getLast? := by
  unfold keyReader keySetters
  rw [filterMap_onKeys]
  intro c hc
  cases c <;> first | rfl | cases hc

theorem encryptionKeys_eq (cfg : ProducerConfig) : cfg.encryptionKeys = cfg.keySetters.filterMap (·.key) := by
  unfold encryptionKeys keySetters
  rw [filterMap_onKeys]
  intro c hc
  cases c <;> first | rfl | cases hc

/-! ## What the other options change -/

/-- The setters on keys are the same. -/
def SameKeys (cfg cfg' : ProducerConfig) : Prop := cfg'.keySetters = cfg.keySetters

/-- Code that leaves the setters on keys alone has left them alone when it returns. -/
theorem ensures_of_moves {ans : (q : Query) → q.Resp → Prop} {α : Type} {p : Napi ProducerConfig α}
    (hp : Moves SameKeys p) (cfg : ProducerConfig) :
    ensures ans (fun _ => True) p (fun _ cfg' => cfg'.keySetters = cfg.keySetters) cfg :=
  Moves.keeps (f := keySetters) hp cfg

theorem set_sameKeys {c : ProducerSetter} (hc : c.onKeys = false) : Moves SameKeys (set c) :=
  set_moves fun cfg => by simp [SameKeys, keySetters, hc]

theorem overlooks_sameKeys : Overlooks SameKeys := by
  refine ⟨fun c hc cfg => ?_, fun _ _ => rfl, fun _ _ => rfl⟩
  have hkeys : c.onKeys = false := by
    cases c <;> first | rfl | cases hc
  simp [SameKeys, keySetters, hkeys]

section

variable (config : JsValue)

theorem readQueueOptions_sameKeys : Moves SameKeys (readQueueOptions config) := by
  refine .bind (ifString_moves fun name => ?_) fun _ => .bind (setPositive_moves fun _ => set_sameKeys rfl) fun _ =>
    .bind (ifNumber_moves fun _ => set_sameKeys rfl) fun _ => .bind (setPositive_moves fun _ => set_sameKeys rfl) fun _ =>
    .bind (setPositive_moves fun _ => set_sameKeys rfl) fun _ => ifBoolean_moves fun _ => set_sameKeys rfl
  exact when_moves (set_sameKeys rfl)

theorem readBatchOptions_sameKeys : Moves SameKeys (readBatchOptions config) :=
  .bind (ifNamed_moves fun _ => set_sameKeys rfl) fun _ => .bind (ifNamed_moves fun _ => set_sameKeys rfl) fun _ =>
    .bind (ifBoolean_moves fun _ => set_sameKeys rfl) fun _ => .bind (setPositive_moves fun _ => set_sameKeys rfl) fun _ =>
    .bind (setPositive_moves fun _ => set_sameKeys rfl) fun _ => setPositive_moves fun _ => set_sameKeys rfl

end

/-! ## What the options on keys give -/

section Keys

variable (v : View) (config : JsValue)

/-- The single key, if the option is a string. -/
def singleKey : Option String := v.string config cfgEncryptionKey

/-- The strings among the listed keys. -/
def listedKeys : List String :=
  match v.array config cfgEncryptionKeys with
  | none => []
  | some keys => (v.elements keys).filterMap JsValue.asString

/-- The setter calls on keys that the constructor makes for the options that a view shows. -/
def keyCalls : List ProducerSetter :=
  (match v.string config cfgPublicKeyPath with
    | none => []
    | some path => .defaultCryptoKeyReader (cStr path) "" :: (singleKey v config).toList.map (.encryptionKey <| cStr ·)) ++
  (listedKeys v config).map .addEncryptionKey ++
  match v.object config cfgCryptoKeyReader with
  | none => []
  | some reader => [.cryptoKeyReader (v (.unwrapCryptoKeyReader reader))]

variable {v config} {ans : (q : Query) → q.Resp → Prop} {cfg : ProducerConfig}

theorem ensures_set (c : ProducerSetter) :
    ensures ans (fun _ => True) (set c)
      (fun _ cfg' => cfg' = { cfg with cProducerConfig := cfg.cProducerConfig ++ [c] }) cfg :=
  ⟨trivial, fun _ _ => rfl⟩

/-- A setter on keys is noted at the end. -/
theorem ensures_set_key {c : ProducerSetter} (hc : c.onKeys = true) :
    ensures ans (fun _ => True) (set c) (fun _ cfg' => cfg'.keySetters = cfg.keySetters ++ [c]) cfg := by
  refine ensures_mono (ensures_set c) ?_
  rintro _ cfg' rfl
  simp [keySetters, hc]

variable (R : Reading v ans (fun _ => True))
include R

theorem ensures_readPublicKey :
    ensures ans (fun _ => True) (readPublicKey config) (fun _ cfg' => cfg'.keySetters = cfg.keySetters ++
      match v.string config cfgPublicKeyPath with
      | none => []
      | some path => .defaultCryptoKeyReader (cStr path) "" :: (singleKey v config).toList.map (.encryptionKey <| cStr ·))
      cfg := by
  refine R.ifString (fun path hpath => ?_) fun hnone => by simp [hnone]
  refine ensures_seq (ensures_set_key rfl) fun _ cfg' hcfg' => ?_
  refine R.ifString (fun key hkey => ?_) fun hnone => ?_
  · refine ensures_mono (ensures_set_key rfl) fun _ cfg'' hcfg'' => ?_
    simp [hcfg'', hcfg', hpath, singleKey, hkey]
  · simp [hcfg', hpath, singleKey, hnone]

theorem ensures_readEncryptionKeys :
    ensures ans (fun _ => True) (readEncryptionKeys config)
      (fun _ cfg' => cfg'.keySetters = cfg.keySetters ++ (listedKeys v config).map .addEncryptionKey) cfg := by
  refine R.forStrings (fun ts (cfg' : ProducerConfig) => cfg'.keySetters = cfg.keySetters ++ ts.map .addEncryptionKey) ?_ ?_
  · simp
  · intro ts t cfg' h
    refine ensures_mono (ensures_set_key rfl) fun _ cfg'' h' => ?_
    rw [h', h, List.map_append, List.append_assoc]
    rfl

theorem ensures_readCryptoKeyReader :
    ensures ans (fun _ => True) (readCryptoKeyReader config) (fun _ cfg' => cfg'.keySetters = cfg.keySetters ++
      match v.object config cfgCryptoKeyReader with
      | none => []
      | some reader => [.cryptoKeyReader (v (.unwrapCryptoKeyReader reader))]) cfg := by
  have hrest : Moves SameKeys (do
      ifNamed config cfgCryptoFailureAction producerCryptoFailureActions fun a => set (.cryptoFailureAction a)
      ifBoolean config cfgChunkEnabled fun b => set (.chunkingEnabled b)) :=
    .bind (ifNamed_moves fun _ => set_sameKeys rfl) fun _ => ifBoolean_moves fun _ => set_sameKeys rfl
  refine (R.hasAs rfl).seq ?_
  unfold View.object JsValue.only
  cases hobj : (v.option config cfgCryptoKeyReader).isObject with
  | false => simpa [SameKeys] using ensures_of_moves hrest cfg
  | true =>
    refine R.get.seq ?_
    rw [View.get_eq_option JsValue.isObject rfl hobj]
    have hunwrap : Gives ans (fun _ => True) (Napi.unwrapCryptoKeyReader (v.option config cfgCryptoKeyReader)) _ cfg :=
      R.js (q := .unwrapCryptoKeyReader _) trivial trivial
    refine hunwrap.seq (ensures_seq (ensures_set_key rfl) fun _ cfg' hcfg' => ?_)
    refine ensures_mono (ensures_of_moves hrest cfg') fun _ cfg'' hcfg'' => ?_
    simp [hcfg'', hcfg']

/-- The constructor makes the setter calls on keys that its options call for, and no others. -/
theorem ensures_producerConfig :
    ensures ans (fun _ => True) (producerConfig config)
      (fun _ cfg' => cfg'.keySetters = cfg.keySetters ++ keyCalls v config) cfg := by
  refine ensures_seq (ensures_of_moves (overlooks_sameKeys.readTopic config) cfg) fun _ c₁ h₁ => ?_
  refine ensures_seq (ensures_of_moves (readQueueOptions_sameKeys config) c₁) fun _ c₂ h₂ => ?_
  refine ensures_seq (ensures_of_moves (overlooks_sameKeys.readRoutingMode config) c₂) fun custom c₃ h₃ => ?_
  refine ensures_seq (ensures_of_moves (readBatchOptions_sameKeys config) c₃) fun _ c₄ h₄ => ?_
  refine ensures_seq (ensures_of_moves (overlooks_sameKeys.readSchema config) c₄) fun _ c₅ h₅ => ?_
  refine ensures_seq (ensures_of_moves (overlooks_sameKeys.readProperties config) c₅) fun _ c₆ h₆ => ?_
  refine ensures_seq (ensures_readPublicKey R) fun _ c₇ h₇ => ?_
  refine ensures_seq (ensures_readEncryptionKeys R) fun _ c₈ h₈ => ?_
  refine ensures_seq (ensures_readCryptoKeyReader R) fun _ c₉ h₉ => ?_
  refine ensures_seq (ensures_of_moves (overlooks_sameKeys.setNamedAny config fun _ => rfl) c₉) fun _ c₁₀ h₁₀ => ?_
  refine ensures_seq (ensures_of_moves (overlooks_sameKeys.setNamedAny config fun _ => rfl) c₁₀) fun _ c₁₁ h₁₁ => ?_
  refine ensures_mono (ensures_of_moves (overlooks_sameKeys.readMessageRouter config custom) c₁₁) fun _ c₁₂ h₁₂ => ?_
  rw [h₁₂, h₁₁, h₁₀, h₉, h₈, h₇, h₆, h₅, h₄, h₃, h₂, h₁]
  simp only [keyCalls, List.append_assoc]

end Keys

/-! ## When the producer encrypts with the keys named -/

section

variable (v : View) (config : JsValue)

/-- The options supply a key reader. -/
def SuppliesReader : Prop :=
  (v.string config cfgPublicKeyPath).isSome = true ∨ (v.object config cfgCryptoKeyReader).isSome = true

/-- The options name an encryption key. -/
def Names (key : String) : Prop := singleKey v config = some key ∨ key ∈ listedKeys v config

/-- The native configuration has a reader, and its keys are those that the options name. -/
structure Encrypts (cfg : ProducerConfig) : Prop where
  keyReader : cfg.keyReader.isSome = true
  keys : ∀ key, key ∈ cfg.encryptionKeys ↔ Names v config key

/-- The single key is listed as well, or there is a key path and the key has no NUL. Where the key is
listed and there is a key path, what precedes a NUL is listed too. -/
def SingleKeyKept : Prop :=
  ∀ key, singleKey v config = some key →
    key ∈ listedKeys v config ∧ ((v.string config cfgPublicKeyPath).isSome = true → cStr key ∈ listedKeys v config) ∨
      (v.string config cfgPublicKeyPath).isSome = true ∧ Char.ofNat 0 ∉ key.toList

variable {v config} {cfg : ProducerConfig}

theorem keyReader_isSome (h : cfg.keySetters = keyCalls v config) :
    cfg.keyReader.isSome = true ↔ SuppliesReader v config := by
  rw [keyReader_eq, h, SuppliesReader]
  unfold keyCalls
  cases hp : v.string config cfgPublicKeyPath <;> cases ho : v.object config cfgCryptoKeyReader <;>
    simp [List.filterMap_append, ProducerSetter.keyReader]

theorem mem_encryptionKeys (h : cfg.keySetters = keyCalls v config) (key : String) :
    key ∈ cfg.encryptionKeys ↔
      (v.string config cfgPublicKeyPath).isSome = true ∧ (∃ k, singleKey v config = some k ∧ key = cStr k) ∨
        key ∈ listedKeys v config := by
  rw [encryptionKeys_eq, h]
  unfold keyCalls
  cases hp : v.string config cfgPublicKeyPath <;> cases ho : v.object config cfgCryptoKeyReader <;>
    cases hk : singleKey v config <;>
      simp [List.filterMap_append, ProducerSetter.key, eq_comm]

/-- The keys come through exactly when the single key does. -/
theorem keys_iff (h : cfg.keySetters = keyCalls v config) :
    (∀ key, key ∈ cfg.encryptionKeys ↔ Names v config key) ↔ SingleKeyKept v config := by
  simp only [mem_encryptionKeys h, Names, SingleKeyKept, ← cStr_eq_self]
  cases singleKey v config with
  | none => simp
  | some single =>
    simp only [Option.some.injEq]
    constructor
    · rintro hkeys _ rfl
      -- the key itself must be there, and so must what its C string puts there
      have hself := (hkeys single).2 (.inl rfl)
      have hcut := fun hp => (hkeys (cStr single)).1 (.inl ⟨hp, single, rfl, rfl⟩)
      rcases hself with ⟨hp, k, rfl, heq⟩ | hlisted
      · exact .inr ⟨hp, heq.symm⟩
      · by_cases heq : cStr single = single
        · exact .inl ⟨hlisted, fun _ => by rwa [heq]⟩
        · exact .inl ⟨hlisted, fun hp => (hcut hp).resolve_left fun h => heq h.symm⟩
    · intro hkept key
      rcases hkept single rfl with ⟨hlisted, hcut⟩ | ⟨hp, heq⟩
      · constructor
        · rintro (⟨hp, k, rfl, rfl⟩ | hmem)
          · exact .inr (hcut hp)
          · exact .inr hmem
        · rintro (rfl | hmem)
          · exact .inr hlisted
          · exact .inr hmem
      · constructor
        · rintro (⟨-, k, rfl, rfl⟩ | hmem)
          · exact .inl heq.symm
          · exact .inr hmem
        · rintro (rfl | hmem)
          · exact .inl ⟨hp, single, rfl, heq.symm⟩
          · exact .inr hmem

variable {J N : Type} (sides : Sides J N) {w w' : World J N}

/-- Where the options supply a reader, the native configuration that results encrypts with the keys
they name exactly when the single key is kept, whichever option supplies the reader. -/
theorem encrypts_iff (hv : v.Lawful) (hshown : v.Shown sides (producerConfig config) .new w)
    (hrun : (producerConfig config).run sides.answer .new w = (.ok (), cfg, w'))
    (hreader : SuppliesReader v config) : Encrypts v config cfg ↔ SingleKeyKept v config := by
  have hpost := ensures_run_ok (ensures_producerConfig (hshown.reading hv)) (fun _ _ h => h) hrun
  have hcfg : cfg.keySetters = keyCalls v config := by simpa [keySetters, new] using hpost
  constructor
  · intro h
    exact (keys_iff hcfg).1 h.keys
  · intro hkept
    exact ⟨(keyReader_isSome hcfg).2 hreader, (keys_iff hcfg).2 hkept⟩

end

/-- A configuration with a key path, a single key and a list of one. -/
def pathAndKeys : Heap := { Heap.empty with
  props := fun
    | 0 => [("publicKeyPath", .string "public.pem"), ("encryptionKey", .string "first"),
        ("encryptionKeys", .object .array 1)]
    | _ => []
  elements := fun
    | 1 => [.string "second"]
    | _ => [] }

theorem encrypts_pathAndKeys :
    ∃ cfg w', (producerConfig (.object .plain 0)).run pathAndKeys.sides.answer .new ⟨(), none, ()⟩ = (.ok (), cfg, w') ∧
      cfg.encryptionKeys = ["first", "second"] ∧ Encrypts pathAndKeys.view (.object .plain 0) cfg := by
  obtain ⟨cfg, w', hrun, hkeys⟩ : ∃ cfg w', (producerConfig (.object .plain 0)).run pathAndKeys.sides.answer .new
      ⟨(), none, ()⟩ = (.ok (), cfg, w') ∧ cfg.encryptionKeys = ["first", "second"] := ⟨_, _, rfl, rfl⟩
  refine ⟨cfg, w', hrun, hkeys, ?_⟩
  refine (encrypts_iff pathAndKeys.sides pathAndKeys.lawful (pathAndKeys.steady.shown _ _ _) hrun (.inl rfl)).2 ?_
  rintro key hkey
  cases hkey
  exact .inr ⟨rfl, by decide⟩

/-- A configuration with a `CryptoKeyReader` and a single key. -/
def readerAndKey : Heap := { Heap.empty with
  props := fun
    | 0 => [("cryptoKeyReader", .object .plain 1), ("encryptionKey", .string "key")]
    | _ => [] }

/-- The key is dropped: the producer publishes plaintext. -/
theorem readerAndKey_dropped :
    ∃ cfg w', (producerConfig (.object .plain 0)).run readerAndKey.sides.answer .new ⟨(), none, ()⟩ = (.ok (), cfg, w') ∧
      SuppliesReader readerAndKey.view (.object .plain 0) ∧ Names readerAndKey.view (.object .plain 0) "key" ∧
      cfg.encryptionKeys = [] ∧ ¬ Encrypts readerAndKey.view (.object .plain 0) cfg :=
  ⟨_, _, rfl, .inr rfl, .inl rfl, rfl, fun h => absurd ((h.keys "key").2 (.inl rfl)) (by decide)⟩

end ProducerConfig

end PulsarNode
