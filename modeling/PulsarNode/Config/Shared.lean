/-
The options that consumers and readers share: the queue size, compaction, the private key path and
the crypto failure action. Each of the two parsers comes to the same setter calls for the first
three; the failure action is read by `ReaderConfig` inside the branch of the key path only.
-/
import PulsarNode.Config.Reader
import PulsarNode.Config.Sections
import PulsarNode.Napi.Object

namespace PulsarNode

open Napi Prog

/-! ## The native settings -/

/-- A setter that both native configurations have. -/
inductive SharedSetter
  | receiverQueueSize (n : Int)
  | readCompacted
  | defaultCryptoKeyReader (publicKeyPath privateKeyPath : String)
  | cryptoFailureAction (a : ConsumerCryptoFailureAction)
  deriving DecidableEq, Repr

/-- What the setters store; `none` where the native default stays. -/
structure SharedSettings where
  receiverQueueSize : Option Int
  readCompacted : Bool
  defaultCryptoKeyReader : Option (String × String)
  cryptoFailureAction : Option ConsumerCryptoFailureAction
  deriving DecidableEq, Repr

namespace SharedSettings

def unset : SharedSettings := ⟨none, false, none, none⟩

/-- A setter stores the value it is given. -/
def store (s : SharedSettings) : SharedSetter → SharedSettings
  | .receiverQueueSize n => { s with receiverQueueSize := some n }
  | .readCompacted => { s with readCompacted := true }
  | .defaultCryptoKeyReader publicKeyPath privateKeyPath =>
    { s with defaultCryptoKeyReader := some (publicKeyPath, privateKeyPath) }
  | .cryptoFailureAction a => { s with cryptoFailureAction := some a }

def ofSetters (l : List SharedSetter) : SharedSettings := l.foldl store unset

end SharedSettings

def ConsumerSetter.shared : ConsumerSetter → Option SharedSetter
  | receiverQueueSize n => some (.receiverQueueSize n)
  | readCompacted => some .readCompacted
  | defaultCryptoKeyReader publicKeyPath privateKeyPath => some (.defaultCryptoKeyReader publicKeyPath privateKeyPath)
  | cryptoFailureAction a => some (.cryptoFailureAction a)
  | _ => none

def ReaderSetter.shared : ReaderSetter → Option SharedSetter
  | receiverQueueSize n => some (.receiverQueueSize n)
  | readCompacted => some .readCompacted
  | defaultCryptoKeyReader publicKeyPath privateKeyPath => some (.defaultCryptoKeyReader publicKeyPath privateKeyPath)
  | cryptoFailureAction a => some (.cryptoFailureAction a)
  | _ => none

def ConsumerConfig.shared (cfg : ConsumerConfig) : List SharedSetter := cfg.cConsumerConfig.filterMap (·.shared)

def ReaderConfig.shared (cfg : ReaderConfig) : List SharedSetter := cfg.cReaderConfig.filterMap (·.shared)

/-! ## The options -/

namespace SharedOptions

variable (v : View) (config : JsValue)

def queueSize : List SharedSetter :=
  match v.number config ConsumerConfig.cfgRecvQueue with
  | some x => if 0 ≤ x.int32Value then [.receiverQueueSize x.int32Value] else []
  | none => []

def compacted : List SharedSetter :=
  match v.boolean config ConsumerConfig.cfgReadCompacted with
  | some true => [.readCompacted]
  | _ => []

def keyReader : List SharedSetter :=
  (v.string config ConsumerConfig.cfgPrivateKeyPath).toList.map (.defaultCryptoKeyReader "" <| cStr ·)

def failureAction : List SharedSetter :=
  (v.named config ConsumerConfig.cfgCryptoFailureAction ConsumerConfig.consumerCryptoFailureActions).toList.map
    .cryptoFailureAction

end SharedOptions

open SharedOptions

/-! ## The consumer's parser -/

namespace ConsumerConfig

def SameShared (cfg cfg' : ConsumerConfig) : Prop := cfg'.shared = cfg.shared

theorem shared_of_kept (cfg : ConsumerConfig) : cfg.shared = cfg.kept.tracked.filterMap (·.shared) := by
  show _ = (cfg.cConsumerConfig.filter (·.tracked)).filterMap (·.shared)
  rw [List.filterMap_filter]
  unfold shared
  congr 1
  funext c
  cases c <;> rfl

theorem SameKept.sameShared (cfg cfg' : ConsumerConfig) (h : SameKept cfg cfg') : SameShared cfg cfg' := by
  unfold SameShared
  rw [shared_of_kept, shared_of_kept cfg, show cfg'.kept = cfg.kept from h]

theorem SameSetters.sameShared (cfg cfg' : ConsumerConfig) (h : SameSetters cfg cfg') : SameShared cfg cfg' := by
  unfold SameShared shared
  rw [show cfg'.cConsumerConfig = cfg.cConsumerConfig from h]

theorem set_sameShared {c : ConsumerSetter} (hc : c.shared = none) : Moves SameShared (set c) :=
  set_moves fun cfg => by simp [SameShared, shared, List.filterMap_append, hc]

section

variable {v : View} {config : JsValue} {ans : (q : Query) → q.Resp → Prop} {cfg : ConsumerConfig}

/-- A setter is noted at the end. -/
theorem ensures_set_shared {c : ConsumerSetter} :
    ensures ans (fun _ => True) (set c) (fun _ cfg' => cfg'.shared = cfg.shared ++ c.shared.toList) cfg := by
  have hset : ensures ans (fun _ => True) (set c)
      (fun _ cfg' => cfg' = { cfg with cConsumerConfig := cfg.cConsumerConfig ++ [c] }) cfg :=
    ⟨trivial, fun _ _ => rfl⟩
  refine ensures_mono hset ?_
  rintro _ cfg' rfl
  cases hc : c.shared <;> simp [shared, List.filterMap_append, hc]

/-- A section that leaves the shared setters alone, and what follows it. -/
theorem ensures_section {p : Section} {ps : List Section} {target : List SharedSetter}
    (hp : Moves SameShared p)
    (hps : ∀ cfg' : ConsumerConfig, cfg'.shared = cfg.shared →
      ensures ans (fun _ => True) (firstError ps) (fun r cfg'' => r = .ok () → cfg''.shared = target) cfg') :
    ensures ans (fun _ => True) (firstError (p :: ps)) (fun r cfg'' => r = .ok () → cfg''.shared = target) cfg := by
  refine ensures_firstError (ensures_mono (Moves.keeps (f := shared) hp cfg) fun r cfg' h => ?_)
  cases r with
  | error msg => nofun
  | ok u => exact hps cfg' h

theorem ensures_kept {p : Napi ConsumerConfig Unit} {ps : List Section} {target : List SharedSetter}
    (hp : Moves SameKept p)
    (hps : ∀ cfg' : ConsumerConfig, cfg'.shared = cfg.shared →
      ensures ans (fun _ => True) (firstError ps) (fun r cfg'' => r = .ok () → cfg''.shared = target) cfg') :
    ensures ans (fun _ => True) (firstError (always p :: ps)) (fun r cfg'' => r = .ok () → cfg''.shared = target) cfg :=
  ensures_section (.bind (hp.mono SameKept.sameShared) fun _ => .pure _) hps

variable (R : Reading v ans (fun _ => True))
include R

theorem ensures_initQueueSizes :
    ensures ans (fun _ => True) (initQueueSizes config)
      (fun _ cfg' => cfg'.shared = cfg.shared ++ queueSize v config) cfg := by
  have hsize : ensures ans (fun _ => True) (setNonNegative config cfgRecvQueue .receiverQueueSize)
      (fun _ cfg' => cfg'.shared = cfg.shared ++ queueSize v config) cfg := by
    unfold queueSize
    refine R.ifNumber (fun x hx => ?_) fun hnone => by simp [hnone]
    rw [hx]
    dsimp only
    by_cases h0 : 0 ≤ x.int32Value
    · rw [if_pos h0, if_pos h0]
      exact ensures_set_shared
    · rw [if_neg h0, if_neg h0]
      simp
  refine ensures_seq hsize fun _ cfg' h => ?_
  rw [← h]
  exact Moves.keeps (f := shared) ((setNonNegative_moves fun _ => set_sameKept rfl).mono SameKept.sameShared) cfg'

theorem ensures_initReadCompacted :
    ensures ans (fun _ => True) (initReadCompacted config)
      (fun _ cfg' => cfg'.shared = cfg.shared ++ compacted v config) cfg := by
  unfold compacted
  refine R.ifBoolean (fun b hb => ?_) fun hnone => by simp [hnone]
  rw [hb]
  cases b with
  | false => simp
  | true => exact ensures_set_shared

theorem ensures_initCrypto (hobj : v.object config cfgCryptoKeyReader = none) :
    ensures ans (fun _ => True) (initCrypto config)
      (fun _ cfg' => cfg'.shared = cfg.shared ++ keyReader v config ++ failureAction v config) cfg := by
  have hpath : ensures ans (fun _ => True)
      (ifString config cfgPrivateKeyPath fun path => set (.defaultCryptoKeyReader "" (cStr path)))
      (fun _ cfg' => cfg'.shared = cfg.shared ++ keyReader v config) cfg := by
    unfold keyReader
    refine R.ifString (fun path hpath => ?_) fun hnone => by simp [hnone]
    rw [hpath]
    exact ensures_set_shared
  refine ensures_seq hpath fun _ cfg' h => (R.hasAs rfl).seq ?_
  unfold View.object JsValue.only at hobj
  rw [if_neg (by simpa using hobj), ← h]
  unfold failureAction
  refine R.ifNamed (fun a ha => ?_) fun hnone => by simp [hnone]
  rw [ha]
  exact ensures_set_shared

/-- A configuration that is accepted has the shared setters that its options call for. -/
theorem ensures_initConfig (hobj : v.object config cfgCryptoKeyReader = none) :
    ensures ans (fun _ => True) (initConfig config)
      (fun r cfg' => r = .ok () → cfg'.shared = cfg.shared ++ queueSize v config ++ compacted v config ++
        keyReader v config ++ failureAction v config) cfg := by
  unfold initConfig sections
  refine ensures_section ((initTarget_sameSetters config).mono SameSetters.sameShared) fun c₁ h₁ => ?_
  refine ensures_section (initSubscription_moves config fun _ _ => rfl) fun c₂ h₂ => ?_
  refine ensures_kept (overlooks_sameKept.initSubscriptionOptions config) fun c₃ h₃ => ?_
  refine ensures_section (initAckTimeout_moves config (fun _ _ => rfl) fun _ _ => set_sameShared rfl) fun c₄ h₄ => ?_
  refine ensures_section (initNAckRedeliverTimeout_moves config (fun _ _ => rfl) fun _ _ => set_sameShared rfl) fun c₅ h₅ => ?_
  refine ensures_firstError (ensures_always (ensures_mono (ensures_initQueueSizes R) fun _ c₆ h₆ => ?_))
  refine ensures_kept (overlooks_sameKept.initSchema config) fun c₇ h₇ => ?_
  refine ensures_kept (overlooks_sameKept.initProperties config) fun c₈ h₈ => ?_
  refine ensures_kept (overlooks_sameKept.initListener config) fun c₉ h₉ => ?_
  refine ensures_firstError (ensures_always (ensures_mono (ensures_initReadCompacted R) fun _ c₁₀ h₁₀ => ?_))
  refine ensures_firstError (ensures_always (ensures_mono (ensures_initCrypto R hobj) fun _ c₁₁ h₁₁ => ?_))
  refine ensures_kept (overlooks_sameKept.initChunking config fun _ => set_sameKept rfl) fun c₁₂ h₁₂ => ?_
  refine ensures_kept (overlooks_sameKept.initDeadLetterPolicy config) fun c₁₃ h₁₃ => ?_
  have hpolicy := (initBatchReceivePolicy_moves config fun _ _ _ => sameKept_append rfl).mono SameKept.sameShared
  refine ensures_section hpolicy fun c₁₄ h₁₄ => ?_
  refine ensures_section ((overlooks_sameKept.initKeySharedPolicy config).mono SameKept.sameShared) fun c₁₅ h₁₅ => ?_
  refine ensures_kept (overlooks_sameKept.initReplicateSubscriptionState config) fun c₁₆ h₁₆ _ => ?_
  rw [h₁₆, h₁₅, h₁₄, h₁₃, h₁₂, h₁₁, h₁₀, h₉, h₈, h₇, h₆, h₅, h₄, h₃, h₂, h₁]

end

end ConsumerConfig

/-! ## The reader's parser -/

namespace ReaderConfig

def SameShared (cfg cfg' : ReaderConfig) : Prop := cfg'.shared = cfg.shared

variable {v : View} {config : JsValue} {ans : (q : Query) → q.Resp → Prop} {cfg : ReaderConfig} {α : Type}

theorem ensures_of_moves {p : Napi ReaderConfig α} (hp : Moves SameShared p) (cfg : ReaderConfig) :
    ensures ans (fun _ => True) p (fun _ cfg' => cfg'.shared = cfg.shared) cfg :=
  Moves.keeps (f := shared) hp cfg

theorem set_sameShared {c : ReaderSetter} (hc : c.shared = none) : Moves SameShared (set c) := by
  refine .bind setter_moves fun _ => .change fun cfg => ?_
  simp [SameShared, shared, List.filterMap_append, hc]

theorem ensures_set_shared {c : ReaderSetter} :
    ensures ans (fun _ => True) (set c) (fun _ cfg' => cfg'.shared = cfg.shared ++ c.shared.toList) cfg := by
  have hset : ensures ans (fun _ => True) (set c)
      (fun _ cfg' => cfg' = { cfg with cReaderConfig := cfg.cReaderConfig ++ [c] }) cfg :=
    ⟨trivial, fun _ _ => rfl⟩
  refine ensures_mono hset ?_
  rintro _ cfg' rfl
  cases hc : c.shared <;> simp [shared, List.filterMap_append, hc]

theorem readTopic_sameShared : Moves SameShared (readTopic config) := ifString_moves fun _ => .change fun _ => rfl

theorem readStartMessageId_sameShared : Moves SameShared (readStartMessageId config) :=
  ifObject_moves fun _ => .bind js_moves fun _ => .change fun _ => rfl

theorem readListener_sameShared : Moves SameShared (readListener config) := by
  refine .bind hasAs_moves fun b => when_moves (.bind js_moves fun _ => .bind js_moves fun _ => .bind ?_ fun _ => ?_)
  · exact .change fun _ => rfl
  · exact set_sameShared rfl

variable (R : Reading v ans (fun _ => True))
include R

theorem ensures_readOptions :
    ensures ans (fun _ => True) (readOptions config)
      (fun _ cfg' => cfg'.shared = cfg.shared ++ queueSize v config ++ compacted v config) cfg := by
  have hsize : ensures ans (fun _ => True)
      (ifNumber config cfgRecvQueue fun x => do if 0 ≤ x.int32Value then set (.receiverQueueSize x.int32Value))
      (fun _ cfg' => cfg'.shared = cfg.shared ++ queueSize v config) cfg := by
    refine R.ifNumber (fun x hx => ?_) fun hnone => ?_
    · unfold queueSize
      rw [show v.number config ConsumerConfig.cfgRecvQueue = some x from hx]
      dsimp only
      by_cases h0 : 0 ≤ x.int32Value
      · rw [if_pos h0, if_pos h0]
        exact ensures_set_shared
      · rw [if_neg h0, if_neg h0]
        simp
    · unfold queueSize
      rw [show v.number config ConsumerConfig.cfgRecvQueue = none from hnone]
      simp
  have hname {key : String} {c : String → ReaderSetter} (hc : ∀ t, (c t).shared = none) :
      Moves SameShared (ifString config key fun t => do if !t.isEmpty then set (c t)) :=
    ifString_moves fun t => when_moves (set_sameShared (hc t))
  refine ensures_seq hsize fun _ c₁ h₁ => ?_
  refine ensures_seq (ensures_of_moves (hname fun _ => rfl) c₁) fun _ c₂ h₂ => ?_
  refine ensures_seq (ensures_of_moves (hname fun _ => rfl) c₂) fun _ c₃ h₃ => ?_
  rw [← h₁, ← h₂, ← h₃]
  refine R.ifBoolean (fun b hb => ?_) fun hnone => ?_
  · unfold compacted
    rw [show v.boolean config ConsumerConfig.cfgReadCompacted = some b from hb]
    cases b with
    | false => simp
    | true => exact ensures_set_shared
  · unfold compacted
    rw [show v.boolean config ConsumerConfig.cfgReadCompacted = none from hnone]
    simp

/-- The failure action comes with the key path or not at all. -/
theorem ensures_readCrypto :
    ensures ans (fun _ => True) (readCrypto config) (fun _ cfg' => cfg'.shared = cfg.shared ++ keyReader v config ++
      if (v.string config cfgPrivateKeyPath).isSome then failureAction v config else []) cfg := by
  refine R.ifString (fun path hpath => ?_) fun hnone => ?_
  · have hkey : keyReader v config = [.defaultCryptoKeyReader "" (cStr path)] := by
      unfold keyReader
      rw [show v.string config ConsumerConfig.cfgPrivateKeyPath = some path from hpath]
      rfl
    refine ensures_seq ensures_set_shared fun _ cfg' h => ?_
    rw [hpath, hkey, if_pos (Option.isSome_some : (some path).isSome = true), ← show cfg'.shared = cfg.shared ++ [_] from h]
    refine R.ifNamed (fun a ha => ?_) fun hnone => ?_
    · unfold failureAction
      rw [show v.named config ConsumerConfig.cfgCryptoFailureAction ConsumerConfig.consumerCryptoFailureActions = some a
        from ha]
      exact ensures_set_shared
    · unfold failureAction
      rw [show v.named config ConsumerConfig.cfgCryptoFailureAction ConsumerConfig.consumerCryptoFailureActions = none
        from hnone]
      simp
  · unfold keyReader
    rw [hnone, show v.string config ConsumerConfig.cfgPrivateKeyPath = none from hnone]
    simp

/-- The constructor makes the shared setter calls that its options call for. -/
theorem ensures_readerConfig :
    ensures ans (fun _ => True) (readerConfig config)
      (fun _ cfg' => cfg'.shared = cfg.shared ++ queueSize v config ++ compacted v config ++ keyReader v config ++
        if (v.string config cfgPrivateKeyPath).isSome then failureAction v config else []) cfg := by
  refine ensures_seq (ensures_of_moves readTopic_sameShared cfg) fun _ c₁ h₁ => ?_
  refine ensures_seq (ensures_of_moves readStartMessageId_sameShared c₁) fun _ c₂ h₂ => ?_
  refine ensures_seq (ensures_readOptions R) fun _ c₃ h₃ => ?_
  refine ensures_seq (ensures_of_moves readListener_sameShared c₃) fun _ c₄ h₄ => ?_
  refine ensures_mono (ensures_readCrypto R) fun _ c₅ h₅ => ?_
  rw [h₅, h₄, h₃, h₂, h₁]

end ReaderConfig

/-! ## Where the two agree -/

namespace SharedSettings

/-- A failure action that is set last is there; without one, there is none. -/
theorem ofSetters_failureAction {l : List SharedSetter} {a : ConsumerCryptoFailureAction} :
    (ofSetters (l ++ [.cryptoFailureAction a])).cryptoFailureAction = some a := by
  simp [ofSetters, store]

theorem ofSetters_noFailureAction {l : List SharedSetter} (h : ∀ a, .cryptoFailureAction a ∉ l) :
    (ofSetters l).cryptoFailureAction = none := by
  suffices hs : ∀ s : SharedSettings, s.cryptoFailureAction = none → (l.foldl store s).cryptoFailureAction = none from
    hs unset rfl
  induction l with
  | nil => exact fun _ hs => hs
  | cons c rest ih =>
    intro s hs
    rw [List.foldl_cons]
    refine ih (fun a ha => h a (List.mem_cons_of_mem _ ha)) _ ?_
    cases c with
    | cryptoFailureAction a => exact absurd List.mem_cons_self (h a)
    | _ => exact hs

end SharedSettings

variable {J N J' N' : Type} (sides : Sides J N) (sides' : Sides J' N') {v : View} {config : JsValue}
  {wr wr' : World J N} {wc wc' : World J' N'} {reader : ReaderConfig} {consumer : ConsumerConfig}

/-- The two parsers come to the same settings unless a failure action is named without a key path:
the consumer has it then, and the reader has not. -/
theorem sharedSettings_eq_iff (hv : v.Lawful) (hshown : v.Shown sides (ReaderConfig.readerConfig config) .new wr)
    (hrun : (ReaderConfig.readerConfig config).run sides.answer .new wr = (.ok (), reader, wr'))
    (hshown' : v.Shown sides' (ConsumerConfig.initConfig config) .new wc)
    (hrun' : (ConsumerConfig.initConfig config).run sides'.answer .new wc = (.ok (.ok ()), consumer, wc'))
    (hobj : v.object config ConsumerConfig.cfgCryptoKeyReader = none) :
    SharedSettings.ofSetters reader.shared = SharedSettings.ofSetters consumer.shared ↔
      (v.string config ConsumerConfig.cfgPrivateKeyPath).isSome = true ∨
        v.named config ConsumerConfig.cfgCryptoFailureAction ConsumerConfig.consumerCryptoFailureActions = none := by
  have hreader := ensures_run_ok (ReaderConfig.ensures_readerConfig (hshown.reading hv)) (fun _ _ h => h) hrun
  have hconsumer := ensures_run_ok (ConsumerConfig.ensures_initConfig (hshown'.reading hv) hobj) (fun _ _ h => h) hrun' rfl
  rw [hreader, hconsumer,
    show v.string config ReaderConfig.cfgPrivateKeyPath = v.string config ConsumerConfig.cfgPrivateKeyPath from rfl,
    show ReaderConfig.new.shared = [] from rfl, show ConsumerConfig.new.shared = [] from rfl, List.nil_append]
  cases hpath : v.string config ConsumerConfig.cfgPrivateKeyPath with
  | some path => simp
  | none =>
    cases haction : v.named config ConsumerConfig.cfgCryptoFailureAction ConsumerConfig.consumerCryptoFailureActions with
    | none => simp [failureAction, haction]
    | some a =>
      refine iff_of_false (fun heq => ?_) (by simp)
      -- the reader has no failure action, the consumer has this one
      have hleft := congrArg SharedSettings.cryptoFailureAction heq
      rw [show failureAction v config = [.cryptoFailureAction a] by unfold failureAction; rw [haction]; rfl,
        SharedSettings.ofSetters_failureAction, if_neg (by simp), List.append_nil,
        SharedSettings.ofSetters_noFailureAction] at hleft
      · cases hleft
      · intro a' hmem
        unfold queueSize compacted keyReader at hmem
        rw [hpath] at hmem
        split at hmem <;> split at hmem <;> simp at hmem
        all_goals split at hmem <;> simp at hmem

/-- A configuration for both, with a key path and a failure action. -/
def pathAndAction : Heap := { Heap.empty with
  props := fun
    | 0 => [("topic", .string "topic"), ("subscription", .string "sub"), ("readCompacted", .bool true),
        ("privateKeyPath", .string "private.pem"), ("cryptoFailureAction", .string "CONSUME")]
    | _ => [] }

theorem sharedSettings_pathAndAction :
    ∃ reader wr consumer wc,
      (ReaderConfig.readerConfig (.object .plain 0)).run pathAndAction.sides.answer .new ⟨(), none, ()⟩ =
        (.ok (), reader, wr) ∧
      (ConsumerConfig.initConfig (.object .plain 0)).run pathAndAction.sides.answer .new ⟨(), none, ()⟩ =
        (.ok (.ok ()), consumer, wc) ∧
      SharedSettings.ofSetters reader.shared = SharedSettings.ofSetters consumer.shared := by
  obtain ⟨reader, wr, consumer, wc, hrun, hrun'⟩ : ∃ reader wr consumer wc,
      (ReaderConfig.readerConfig (.object .plain 0)).run pathAndAction.sides.answer .new ⟨(), none, ()⟩ =
        (.ok (), reader, wr) ∧
      (ConsumerConfig.initConfig (.object .plain 0)).run pathAndAction.sides.answer .new ⟨(), none, ()⟩ =
        (.ok (.ok ()), consumer, wc) := ⟨_, _, _, _, rfl, rfl⟩
  refine ⟨reader, wr, consumer, wc, hrun, hrun', ?_⟩
  exact (sharedSettings_eq_iff pathAndAction.sides pathAndAction.sides pathAndAction.lawful
    (pathAndAction.steady.shown _ _ _) hrun (pathAndAction.steady.shown _ _ _) hrun' rfl).2 (.inl rfl)

/-- A configuration for both that names a failure action only. -/
def actionOnly : Heap := { Heap.empty with
  props := fun
    | 0 => [("topic", .string "topic"), ("subscription", .string "sub"), ("cryptoFailureAction", .string "CONSUME")]
    | _ => [] }

/-- The consumer delivers what it cannot decrypt; the reader keeps to the native default. -/
theorem actionOnly_differs :
    ∃ reader wr consumer wc,
      (ReaderConfig.readerConfig (.object .plain 0)).run actionOnly.sides.answer .new ⟨(), none, ()⟩ =
        (.ok (), reader, wr) ∧
      (ConsumerConfig.initConfig (.object .plain 0)).run actionOnly.sides.answer .new ⟨(), none, ()⟩ =
        (.ok (.ok ()), consumer, wc) ∧
      actionOnly.view.object (.object .plain 0) ConsumerConfig.cfgCryptoKeyReader = none ∧
      (SharedSettings.ofSetters reader.shared).cryptoFailureAction = none ∧
      (SharedSettings.ofSetters consumer.shared).cryptoFailureAction = some .consume :=
  ⟨_, _, _, _, rfl, rfl, rfl, rfl, rfl⟩

end PulsarNode
