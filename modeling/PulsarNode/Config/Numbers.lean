/-
The numeric options of clients, producers, consumers and readers. Each is converted to 32 bits before
its bound is looked at, and the setter is called with what came of the conversion: a number that fits
is passed on as it is, and any other one counts as that which it is congruent to.
-/
import PulsarNode.Config.ClientSections
import PulsarNode.Config.ProducerSections
import PulsarNode.Config.Reader
import PulsarNode.Config.Sections
import PulsarNode.Napi.Number
import PulsarNode.Napi.Object

namespace PulsarNode

open Napi Prog

/-! ## The options -/

/-- The parsers that read numeric options. -/
inductive Parser
  | client | producer | consumer | reader
  deriving DecidableEq, Repr

inductive NumericOption
  | operationTimeoutSeconds | ioThreads | connectionTimeoutMs | messageListenerThreads | concurrentLookupRequest
  | statsIntervalInSeconds
  | sendTimeoutMs | maxPendingMessages | maxPendingMessagesAcrossPartitions | batchingMaxMessages
  | receiverQueueSize | receiverQueueSizeAcrossPartitions | maxPendingChunkedMessage
  | readerReceiverQueueSize
  deriving DecidableEq, Repr

namespace NumericOption

def parser : NumericOption → Parser
  | operationTimeoutSeconds | ioThreads | connectionTimeoutMs | messageListenerThreads | concurrentLookupRequest
  | statsIntervalInSeconds => .client
  | sendTimeoutMs | maxPendingMessages | maxPendingMessagesAcrossPartitions | batchingMaxMessages => .producer
  | receiverQueueSize | receiverQueueSizeAcrossPartitions | maxPendingChunkedMessage => .consumer
  | readerReceiverQueueSize => .reader

def key : NumericOption → String
  | operationTimeoutSeconds => Client.cfgOpTimeout
  | ioThreads => Client.cfgIoThreads
  | connectionTimeoutMs => Client.cfgConnectionTimeout
  | messageListenerThreads => Client.cfgListenerThreads
  | concurrentLookupRequest => Client.cfgConcurrentLookup
  | statsIntervalInSeconds => Client.cfgStatsInterval
  | sendTimeoutMs => ProducerConfig.cfgSendTimeout
  | maxPendingMessages => ProducerConfig.cfgMaxPending
  | maxPendingMessagesAcrossPartitions => ProducerConfig.cfgMaxPendingAcrossPartitions
  | batchingMaxMessages => ProducerConfig.cfgBatchMaxMsg
  | receiverQueueSize => ConsumerConfig.cfgRecvQueue
  | receiverQueueSizeAcrossPartitions => ConsumerConfig.cfgRecvQueueAcrossPartitions
  | maxPendingChunkedMessage => ConsumerConfig.cfgMaxPendingChunkedMessage
  | readerReceiverQueueSize => ReaderConfig.cfgRecvQueue

/-- The least value that an option may have. -/
def bound : NumericOption → Int
  | statsIntervalInSeconds | receiverQueueSize | receiverQueueSizeAcrossPartitions | maxPendingChunkedMessage
  | readerReceiverQueueSize => 0
  | _ => 1

/-- The setters of these two are given an `unsigned int`, the others an `int`. -/
def unsigned : NumericOption → Bool
  | statsIntervalInSeconds | batchingMaxMessages => true
  | _ => false

variable (o : NumericOption)

/-- The values of the type that the setter is given. -/
def Fits (n : Int) : Prop := if o.unsigned then FitsUnsigned n else FitsInt n

instance (n : Int) : Decidable (o.Fits n) := 
  inferInstanceAs (Decidable (if o.unsigned then FitsUnsigned n else FitsInt n))

def convert (x : JsNumber) : Int := if o.unsigned then x.uint32Value else x.int32Value

/-- The values that the setter is called with: the number, converted, if it meets the bound. -/
def passed (x : JsNumber) : List Int := if o.bound ≤ o.convert x then [o.convert x] else []

/-- The values that it should be called with for an integer: that, if it meets the bound and fits. -/
def wanted (n : Int) : List Int := if o.bound ≤ n ∧ o.Fits n then [n] else []

theorem convert_ofInt_eq_self_iff {n : Int} : o.convert (.ofInt n) = n ↔ o.Fits n := by
  unfold convert Fits
  rw [JsNumber.uint32Value_ofInt, JsNumber.int32Value_ofInt]
  cases o.unsigned with
  | true => simpa using emod_eq_self_iff
  | false => simpa using bmod_eq_self_iff

/-- What a number is converted to fits, and is congruent to it; nothing else is both. -/
theorem convert_ofInt_eq_iff {n m : Int} : o.convert (.ofInt n) = m ↔ o.Fits m ∧ (2 ^ 32 : Int) ∣ n - m := by
  unfold convert Fits FitsUnsigned FitsInt
  rw [JsNumber.uint32Value_ofInt, JsNumber.int32Value_ofInt, Int.bmod_def]
  cases o.unsigned with
  | true =>
    simp only [if_true]
    omega
  | false =>
    simp only [Bool.false_eq_true, if_false]
    split <;> omega

/-- A number that fits is treated as it should be; another one is as long as it is congruent to none that
would be passed on. -/
theorem passed_eq_wanted_iff (n : Int) :
    o.passed (.ofInt n) = o.wanted n ↔ o.Fits n ∨ ¬ ∃ m, o.bound ≤ m ∧ o.Fits m ∧ (2 ^ 32 : Int) ∣ n - m := by
  unfold passed wanted
  by_cases hfits : o.Fits n
  · have hself : o.convert (.ofInt n) = n := o.convert_ofInt_eq_self_iff.2 hfits
    rw [hself]
    simp [hfits]
  · have hbound : o.bound ≤ o.convert (.ofInt n) ↔ ∃ m, o.bound ≤ m ∧ o.Fits m ∧ (2 ^ 32 : Int) ∣ n - m := by
      constructor
      · exact fun h => ⟨_, h, o.convert_ofInt_eq_iff.1 rfl⟩
      · rintro ⟨m, hm, hcongr⟩
        rwa [o.convert_ofInt_eq_iff.2 hcongr]
    rw [if_neg (fun h : _ ∧ _ => hfits h.2), ← hbound, or_iff_right hfits]
    simp

end NumericOption

/-! ## The calls of their setters -/

/-- Calls of the setters of numeric options, in order. -/
abbrev NumericCalls := List (NumericOption × Int)

/-- The values that the setter of an option was called with. -/
def NumericOption.calls (o : NumericOption) (l : NumericCalls) : List Int :=
  l.filterMap fun e => if e.1 = o then some e.2 else none

def ClientSetter.numeric : ClientSetter → Option (NumericOption × Int)
  | operationTimeoutSeconds n => some (.operationTimeoutSeconds, n)
  | ioThreads n => some (.ioThreads, n)
  | connectionTimeout n => some (.connectionTimeoutMs, n)
  | messageListenerThreads n => some (.messageListenerThreads, n)
  | concurrentLookupRequest n => some (.concurrentLookupRequest, n)
  | statsIntervalInSeconds n => some (.statsIntervalInSeconds, n)
  | _ => none

def ProducerSetter.numeric : ProducerSetter → Option (NumericOption × Int)
  | sendTimeout n => some (.sendTimeoutMs, n)
  | maxPendingMessages n => some (.maxPendingMessages, n)
  | maxPendingMessagesAcrossPartitions n => some (.maxPendingMessagesAcrossPartitions, n)
  | batchingMaxMessages n => some (.batchingMaxMessages, n)
  | _ => none

def ConsumerSetter.numeric : ConsumerSetter → Option (NumericOption × Int)
  | receiverQueueSize n => some (.receiverQueueSize, n)
  | maxTotalReceiverQueueSizeAcrossPartitions n => some (.receiverQueueSizeAcrossPartitions, n)
  | maxPendingChunkedMessage n => some (.maxPendingChunkedMessage, n)
  | _ => none

def ReaderSetter.numeric : ReaderSetter → Option (NumericOption × Int)
  | receiverQueueSize n => some (.readerReceiverQueueSize, n)
  | _ => none

def ClientState.numeric (st : ClientState) : NumericCalls := st.cClientConfig.filterMap (·.numeric)

def ProducerConfig.numeric (cfg : ProducerConfig) : NumericCalls := cfg.cProducerConfig.filterMap (·.numeric)

def ConsumerConfig.numeric (cfg : ConsumerConfig) : NumericCalls := cfg.cConsumerConfig.filterMap (·.numeric)

def ReaderConfig.numeric (cfg : ReaderConfig) : NumericCalls := cfg.cReaderConfig.filterMap (·.numeric)

/-! ## What programs add to them -/

namespace NumericOption

section

variable (v : View) (config : JsValue) (o : NumericOption)

/-- The calls of its setter that an option gives rise to. -/
def read : NumericCalls :=
  match v.number config o.key with
  | some x => (o.passed x).map (o, ·)
  | none => []

theorem calls_read_self : o.calls (o.read v config) = (v.number config o.key).elim [] o.passed := by
  unfold calls read
  cases v.number config o.key with
  | none => rfl
  | some x =>
    have hsome : (fun e : NumericOption × Int => if e.1 = o then some e.2 else none) ∘ (o, ·) = some :=
      funext fun _ => if_pos rfl
    dsimp only
    rw [List.filterMap_map, hsome, List.filterMap_some]
    rfl

theorem calls_read_other {o' : NumericOption} (h : o' ≠ o) : o.calls (o'.read v config) = [] := by
  unfold calls read
  cases v.number config o'.key with
  | none => rfl
  | some x =>
    have hnone : (fun e : NumericOption × Int => if e.1 = o then some e.2 else none) ∘ (o', ·) = fun _ => none :=
      funext fun _ => if_neg h
    dsimp only
    rw [List.filterMap_map, hnone, List.filterMap_eq_nil_iff]
    exact fun _ _ => rfl

/-- Among the calls for several options, those for one of them are its own. -/
theorem calls_flatMap_read {options : List NumericOption} (hnodup : options.Nodup) (hmem : o ∈ options) :
    o.calls (options.flatMap fun o' => o'.read v config) = (v.number config o.key).elim [] o.passed := by
  induction options with
  | nil => cases hmem
  | cons o' rest ih =>
    have happend (l l' : NumericCalls) : o.calls (l ++ l') = o.calls l ++ o.calls l' := List.filterMap_append
    rw [List.flatMap_cons, happend]
    rw [List.nodup_cons] at hnodup
    rcases List.mem_cons.1 hmem with rfl | hmem
    · have hnone : o.calls (rest.flatMap fun o' => o'.read v config) = [] := by
        unfold calls
        rw [List.filterMap_flatMap, List.flatMap_eq_nil_iff]
        intro o' ho'
        refine calls_read_other v config o ?_
        rintro rfl
        exact hnodup.1 ho'
      rw [hnone, calls_read_self, List.append_nil]
    · have hne : o' ≠ o := by
        rintro rfl
        exact hnodup.1 hmem
      rw [calls_read_other v config o hne, List.nil_append, ih hnodup.2 hmem]

end

end NumericOption

section

variable {S α β : Type} {numeric : S → NumericCalls} {ans : (q : Query) → q.Resp → Prop} {p : Napi S α}
  {l l' : NumericCalls}

/-- The calls so far are the same. -/
def SameCalls (numeric : S → NumericCalls) (s s' : S) : Prop := numeric s' = numeric s

/-- From any start, a run that is told these answers adds the calls `l`. -/
def Notes (numeric : S → NumericCalls) (ans : (q : Query) → q.Resp → Prop) (p : Napi S α) (l : NumericCalls) : Prop :=
  ∀ s, ensures ans (fun _ => True) p (fun _ s' => numeric s' = numeric s ++ l) s

namespace Notes

theorem of_moves (h : Moves (SameCalls numeric) p) : Notes numeric ans p [] := by
  intro s
  refine ensures_mono (Moves.keeps (f := numeric) h s) fun _ s' hs' => ?_
  rw [List.append_nil]
  exact hs'

theorem bind (hp : Notes numeric ans p l) {f : α → Napi S β} (hf : ∀ a, Notes numeric ans (f a) l') :
    Notes numeric ans (p >>= f) (l ++ l') := by
  intro s
  refine ensures_seq (hp s) fun a s' hs' => ensures_mono (hf a s') fun _ s'' hs'' => ?_
  rw [hs'', hs', List.append_assoc]

/-- What is called nothing, and what follows. -/
theorem after (hp : Moves (SameCalls numeric) p) {f : α → Napi S β} (hf : ∀ a, Notes numeric ans (f a) l) :
    Notes numeric ans (p >>= f) l := (of_moves hp).bind hf

theorem before (hp : Notes numeric ans p l) {f : α → Napi S β} (hf : ∀ a, Moves (SameCalls numeric) (f a)) :
    Notes numeric ans (p >>= f) l := by
  have h := hp.bind fun a => of_moves (hf a)
  rwa [List.append_nil] at h

variable {v : View} {config : JsValue}

/-- An option that is converted, checked and passed on. -/
theorem option (R : Reading v ans (fun _ => True)) (o : NumericOption) {convert : JsNumber → Int} {check : Int → Prop}
    [DecidablePred check] {set : Int → Napi S Unit} (hset : ∀ n, Notes numeric ans (set n) [(o, n)])
    (hconvert : ∀ x, o.convert x = convert x) (hcheck : ∀ n, check n ↔ o.bound ≤ n) :
    Notes numeric ans (ifNumber config o.key fun x => do if check (convert x) then set (convert x)) (o.read v config) := by
  intro s
  unfold NumericOption.read
  refine R.ifNumber (fun x hx => ?_) fun hnone => by simp [hnone]
  rw [hx]
  dsimp only
  unfold NumericOption.passed
  rw [hconvert]
  by_cases hc : check (convert x)
  · rw [if_pos hc, if_pos ((hcheck _).1 hc)]
    exact hset _ s
  · rw [if_neg hc, if_neg fun h => hc ((hcheck _).2 h)]
    simp

end Notes

end

/-! ## The setters of a configuration -/

/-- How the configuration `S` is given to native setters `C`: each call is noted, and some are those of
numeric options. -/
structure Setters (S C : Type) where
  calls : S → List C
  numeric : C → Option (NumericOption × Int)
  call : C → Setter
  note : C → S → S
  set : C → Napi S Unit
  set_eq : ∀ c, set c = setter (call c) >>= fun _ => Prog.change (note c)
  calls_note : ∀ c s, calls (note c s) = calls s ++ [c]

namespace Setters

variable {S C : Type} (P : Setters S C) {v : View} {config : JsValue} {ans : (q : Query) → q.Resp → Prop}

def numericCalls (s : S) : NumericCalls := (P.calls s).filterMap P.numeric

theorem notes_set {c : C} {e : NumericOption × Int} (hc : P.numeric c = some e) :
    Notes P.numericCalls ans (P.set c) [e] := by
  intro s
  rw [P.set_eq]
  refine ⟨trivial, fun _ _ => ?_⟩
  show (P.calls (P.note c s)).filterMap P.numeric = _
  simp [P.calls_note, numericCalls, hc]

theorem set_sameCalls {c : C} (hc : P.numeric c = none) : Moves (SameCalls P.numericCalls) (P.set c) := by
  rw [P.set_eq]
  exact .bind setter_moves fun _ => .change fun s => by simp [SameCalls, numericCalls, P.calls_note, hc]

/-- A numeric option that is forwarded when it is positive. -/
theorem notes_setPositive (R : Reading v ans (fun _ => True)) (o : NumericOption) {convert : JsNumber → Int}
    {c : Int → C} (hc : ∀ n, P.numeric (c n) = some (o, n)) (hconvert : ∀ x, o.convert x = convert x)
    (hbound : o.bound = 1) :
    Notes P.numericCalls ans (ifNumber config o.key fun x => do if 0 < convert x then P.set (c (convert x)))
      (o.read v config) := by
  have hcheck : ∀ n : Int, 0 < n ↔ o.bound ≤ n := by
    intro n
    rw [hbound]
    omega
  exact .option R o (fun n => P.notes_set (hc n)) hconvert hcheck

end Setters

/-! ## The parsers -/

section

variable {v : View} {config : JsValue} {ans : (q : Query) → q.Resp → Prop}

namespace ReaderConfig

def setters : Setters ReaderConfig ReaderSetter :=
  ⟨(·.cReaderConfig), (·.numeric), .reader, fun c cfg => { cfg with cReaderConfig := cfg.cReaderConfig ++ [c] }, set,
    fun _ => rfl, fun _ _ => rfl⟩

/-- The numeric options, in the order in which they are read. -/
def numericOptions : List NumericOption := [.readerReceiverQueueSize]

theorem notes_readerConfig (R : Reading v ans (fun _ => True)) :
    Notes numeric ans (readerConfig config) (numericOptions.flatMap fun o => o.read v config) := by
  have hname {key : String} {c : String → ReaderSetter} (hc : ∀ t, (c t).numeric = none) :
      Moves (SameCalls numeric) (ifString config key fun t => do if !t.isEmpty then set (c t)) :=
    ifString_moves fun t => when_moves (setters.set_sameCalls (hc t))
  have hoptions : Notes numeric ans (readOptions config) (numericOptions.flatMap fun o => o.read v config) := by
    refine .before ?_ fun _ => .bind (hname fun _ => rfl) fun _ => .bind (hname fun _ => rfl) fun _ =>
      ifBoolean_moves fun b => when_moves (setters.set_sameCalls rfl)
    rw [numericOptions, List.flatMap_cons, List.flatMap_nil, List.append_nil]
    exact .option R .readerReceiverQueueSize (fun n => setters.notes_set (c := .receiverQueueSize n) rfl) (fun _ => rfl)
      fun _ => Iff.rfl
  refine .after ?_ fun _ => .after ?_ fun _ => .before hoptions fun _ => ?_
  · exact ifString_moves fun _ => .change fun _ => rfl
  · exact ifObject_moves fun _ => .bind js_moves fun _ => .change fun _ => rfl
  · refine .bind ?_ fun _ => ifString_moves fun _ => .bind (setters.set_sameCalls rfl) fun _ =>
      ifNamed_moves fun _ => setters.set_sameCalls rfl
    refine .bind hasAs_moves fun b => when_moves ?_
    exact .bind js_moves fun _ => .bind js_moves fun _ => .bind (.change fun _ => rfl) fun _ => setters.set_sameCalls rfl

end ReaderConfig

namespace ProducerConfig

def setters : Setters ProducerConfig ProducerSetter :=
  ⟨(·.cProducerConfig), (·.numeric), .producer, fun c cfg => { cfg with cProducerConfig := cfg.cProducerConfig ++ [c] },
    set, fun _ => rfl, fun _ _ => rfl⟩

theorem overlooks_sameCalls : Overlooks (SameCalls numeric) := by
  refine ⟨fun c hc cfg => ?_, fun _ _ => rfl, fun _ _ => rfl⟩
  have hnone : c.numeric = none := by
    cases c <;> first | rfl | cases hc
  simp [SameCalls, numeric, hnone]

def numericOptions : List NumericOption :=
  [.sendTimeoutMs, .maxPendingMessages, .maxPendingMessagesAcrossPartitions, .batchingMaxMessages]

theorem notes_producerConfig (R : Reading v ans (fun _ => True)) :
    Notes numeric ans (producerConfig config) (numericOptions.flatMap fun o => o.read v config) := by
  have hqueue : Notes numeric ans (readQueueOptions config) (NumericOption.sendTimeoutMs.read v config ++
      (NumericOption.maxPendingMessages.read v config ++
        NumericOption.maxPendingMessagesAcrossPartitions.read v config)) := by
    refine .after (ifString_moves fun _ => when_moves (setters.set_sameCalls rfl)) fun _ => ?_
    refine .bind (setters.notes_setPositive R .sendTimeoutMs (fun _ => rfl) (fun _ => rfl) rfl) fun _ => ?_
    refine .after (ifNumber_moves fun _ => setters.set_sameCalls rfl) fun _ => ?_
    refine .bind (setters.notes_setPositive R .maxPendingMessages (fun _ => rfl) (fun _ => rfl) rfl) fun _ => ?_
    refine .before (setters.notes_setPositive R .maxPendingMessagesAcrossPartitions (fun _ => rfl) (fun _ => rfl) rfl) fun _ => ?_
    exact ifBoolean_moves fun _ => setters.set_sameCalls rfl
  have hbatch : Notes numeric ans (readBatchOptions config) (NumericOption.batchingMaxMessages.read v config) := by
    refine .after (ifNamed_moves fun _ => setters.set_sameCalls rfl) fun _ => .after (ifNamed_moves fun _ => setters.set_sameCalls rfl)
      fun _ => .after (ifBoolean_moves fun _ => setters.set_sameCalls rfl) fun _ =>
      .after (setPositive_moves fun _ => setters.set_sameCalls rfl) fun _ => ?_
    refine .before (setters.notes_setPositive R .batchingMaxMessages (fun _ => rfl) (fun _ => rfl) rfl) fun _ => ?_
    exact setPositive_moves fun _ => setters.set_sameCalls rfl
  have h := overlooks_sameCalls
  have hall : Notes numeric ans (producerConfig config) ((NumericOption.sendTimeoutMs.read v config ++
      (NumericOption.maxPendingMessages.read v config ++
        NumericOption.maxPendingMessagesAcrossPartitions.read v config)) ++
      NumericOption.batchingMaxMessages.read v config) := by
    refine .after (h.readTopic config) fun _ => .bind hqueue fun _ => .after (h.readRoutingMode config) fun custom =>
      .before hbatch fun _ => .bind (h.readSchema config) fun _ => .bind (h.readProperties config) fun _ =>
      .bind ?_ fun _ => .bind ?_ fun _ => .bind ?_ fun _ => .bind (h.setNamedAny config fun _ => rfl) fun _ =>
      .bind (h.setNamedAny config fun _ => rfl) fun _ => h.readMessageRouter config custom
    · exact ifString_moves fun _ => .bind (setters.set_sameCalls rfl) fun _ => ifString_moves fun _ => setters.set_sameCalls rfl
    · refine ifHasAs_moves (.bind js_moves fun keys => .bind (forLength_moves (fun i _ => ?_) _) fun _ => .pure _) (.pure _)
      refine .bind js_moves fun x => ?_
      split
      · exact .bind js_moves fun _ => .bind js_moves fun _ => .bind (setters.set_sameCalls rfl) fun _ => .pure _
      · exact .pure _
    · have hrest : Moves (SameCalls numeric) (do
          ifNamed config cfgCryptoFailureAction producerCryptoFailureActions fun a => set (.cryptoFailureAction a)
          ifBoolean config cfgChunkEnabled fun b => set (.chunkingEnabled b)) :=
        .bind (ifNamed_moves fun _ => setters.set_sameCalls rfl) fun _ => ifBoolean_moves fun _ => setters.set_sameCalls rfl
      exact ifHasAs_moves (.bind js_moves fun _ => .bind js_moves fun _ => .bind (setters.set_sameCalls rfl) fun _ => hrest) hrest
  simpa [numericOptions] using hall

end ProducerConfig

namespace Client

def setters : Setters ClientState ClientSetter :=
  ⟨(·.cClientConfig), (·.numeric), .client, fun c st => { st with cClientConfig := st.cClientConfig ++ [c] }, set,
    fun _ => rfl, fun _ _ => rfl⟩

def numericOptions : List NumericOption :=
  [.operationTimeoutSeconds, .ioThreads, .connectionTimeoutMs, .messageListenerThreads, .concurrentLookupRequest,
    .statsIntervalInSeconds]

/-- The interval of the statistics has no check; as an unsigned number it is in its bound. -/
theorem notes_statsInterval (R : Reading v ans (fun _ => True)) :
    Notes ClientState.numeric ans (ifNumber config cfgStatsInterval fun x => set (.statsIntervalInSeconds x.uint32Value))
      (NumericOption.statsIntervalInSeconds.read v config) := by
  intro st
  unfold NumericOption.read
  refine R.ifNumber (fun x hx => ?_) fun hnone => ?_
  · rw [show v.number config NumericOption.statsIntervalInSeconds.key = some x from hx]
    have hpos : NumericOption.statsIntervalInSeconds.bound ≤ NumericOption.statsIntervalInSeconds.convert x := by
      change 0 ≤ x.uint32Value
      cases x with
      | finite q => exact Int.emod_nonneg _ (by decide)
      | _ => exact le_refl 0
    dsimp only
    unfold NumericOption.passed
    rw [if_pos hpos]
    exact setters.notes_set rfl st
  · rw [show v.number config NumericOption.statsIntervalInSeconds.key = none from hnone]
    simp

theorem notes_initOptions (R : Reading v ans (fun _ => True)) :
    Notes ClientState.numeric ans (initOptions config) (NumericOption.operationTimeoutSeconds.read v config ++
      (NumericOption.ioThreads.read v config ++ (NumericOption.connectionTimeoutMs.read v config ++
        (NumericOption.messageListenerThreads.read v config ++ NumericOption.concurrentLookupRequest.read v config)))) :=
  .bind (setters.notes_setPositive R .operationTimeoutSeconds (fun _ => rfl) (fun _ => rfl) rfl) fun _ =>
    .bind (setters.notes_setPositive R .ioThreads (fun _ => rfl) (fun _ => rfl) rfl) fun _ =>
    .bind (setters.notes_setPositive R .connectionTimeoutMs (fun _ => rfl) (fun _ => rfl) rfl) fun _ =>
    .bind (setters.notes_setPositive R .messageListenerThreads (fun _ => rfl) (fun _ => rfl) rfl) fun _ =>
    setters.notes_setPositive R .concurrentLookupRequest (fun _ => rfl) (fun _ => rfl) rfl

theorem notes_initTlsOptions (R : Reading v ans (fun _ => True)) :
    Notes ClientState.numeric ans (initTlsOptions config) (NumericOption.statsIntervalInSeconds.read v config) :=
  .after (ifString_moves fun _ => setters.set_sameCalls rfl) fun _ => .after (ifString_moves fun _ => setters.set_sameCalls rfl) fun _ =>
    .after (ifBoolean_moves fun _ => setters.set_sameCalls rfl) fun _ => .after (ifBoolean_moves fun _ => setters.set_sameCalls rfl) fun _ =>
    .before (notes_statsInterval R) fun _ => ifString_moves fun _ => setters.set_sameCalls rfl

/-- A constructor that comes to its `try` block has read them all. -/
theorem ensures_beforeTry (R : Reading v ans (fun _ => True)) (st : ClientState) :
    ensures ans (fun _ => True) (beforeTry config) (fun r st' => r.isSome = true →
      st'.numeric = st.numeric ++ numericOptions.flatMap fun o => o.read v config) st := by
  have hsame {α : Type} {p : Napi ClientState α} (hp : Moves (SameCalls ClientState.numeric) p) (st : ClientState) :
      ensures ans (fun _ => True) p (fun _ st' => st'.numeric = st.numeric) st :=
    Moves.keeps (f := ClientState.numeric) hp st
  refine ensures_seq (hsame (checkServiceUrl_moves config) st) fun r st₁ h₁ => ?_
  cases r with
  | none => nofun
  | some hasProvider =>
    refine ensures_seq (hsame (initLog_moves config (fun _ _ => rfl) (setters.set_sameCalls rfl) fun _ _ => rfl) st₁) fun _ st₂ h₂ => ?_
    refine ensures_seq (hsame (initAuthentication_moves config (fun _ _ => rfl) fun _ => setters.set_sameCalls rfl) st₂)
      fun r st₃ h₃ => ?_
    cases r with
    | none => nofun
    | some auth =>
      refine ensures_seq (notes_initOptions R st₃) fun _ st₄ h₄ => ?_
      refine ensures_seq (hsame (initTlsTrustCert_moves config fun _ => setters.set_sameCalls rfl) st₄) fun tls st₅ h₅ => ?_
      refine ensures_seq (notes_initTlsOptions R st₅) fun _ st₆ h₆ _ => ?_
      rw [h₆, h₅, h₄, h₃, h₂, h₁]
      simp [numericOptions]

end Client

namespace ConsumerConfig

def setters : Setters ConsumerConfig ConsumerSetter :=
  ⟨(·.cConsumerConfig), (·.numeric), .consumer, fun c cfg => { cfg with cConsumerConfig := cfg.cConsumerConfig ++ [c] },
    set, fun _ => rfl, fun _ _ => rfl⟩

theorem overlooks_sameCalls : Overlooks (SameCalls numeric) := by
  refine ⟨fun c hc cfg => ?_, fun _ _ => rfl⟩
  have hnone : c.numeric = none := by
    cases c <;> first | rfl | cases hc
  simp [SameCalls, numeric, hnone]

def numericOptions : List NumericOption :=
  [.receiverQueueSize, .receiverQueueSizeAcrossPartitions, .maxPendingChunkedMessage]

theorem notes_setNonNegative (R : Reading v ans (fun _ => True)) (o : NumericOption) {c : Int → ConsumerSetter}
    (hc : ∀ n, (c n).numeric = some (o, n)) (hconvert : ∀ x, o.convert x = x.int32Value) (hbound : o.bound = 0) :
    Notes numeric ans (setNonNegative config o.key c) (o.read v config) :=
  .option R o (fun n => setters.notes_set (hc n)) hconvert fun n => by rw [hbound]

/-- A section that makes these calls, and what follows it. -/
theorem ensures_numericSection {p : Section} {ps : List Section} {l l' : NumericCalls} (cfg : ConsumerConfig)
    (hp : Notes numeric ans p l)
    (hps : ∀ cfg' : ConsumerConfig, ensures ans (fun _ => True) (firstError ps)
      (fun r cfg'' => r = .ok () → cfg''.numeric = cfg'.numeric ++ l') cfg') :
    ensures ans (fun _ => True) (firstError (p :: ps)) (fun r cfg'' => r = .ok () → cfg''.numeric = cfg.numeric ++ (l ++ l'))
      cfg := by
  refine ensures_firstError (ensures_mono (hp cfg) fun r cfg' h => ?_)
  cases r with
  | error msg => nofun
  | ok u =>
    refine ensures_mono (hps cfg') fun r cfg'' h' hr => ?_
    rw [h' hr, h, List.append_assoc]

theorem notes_always {p : Napi ConsumerConfig Unit} {l : NumericCalls} (hp : Notes numeric ans p l) :
    Notes numeric ans (always p : Section) l := hp.before fun _ => .pure _

theorem ensures_numericCalls (R : Reading v ans (fun _ => True)) (cfg : ConsumerConfig) :
    ensures ans (fun _ => True) (initConfig config) (fun r cfg' => r = .ok () →
      cfg'.numeric = cfg.numeric ++ numericOptions.flatMap fun o => o.read v config) cfg := by
  have h := overlooks_sameCalls
  have hqueues : Notes numeric ans (initQueueSizes config) (NumericOption.receiverQueueSize.read v config ++
      NumericOption.receiverQueueSizeAcrossPartitions.read v config) :=
    .bind (notes_setNonNegative R .receiverQueueSize (fun _ => rfl) (fun _ => rfl) rfl) fun _ =>
      notes_setNonNegative R .receiverQueueSizeAcrossPartitions (fun _ => rfl) (fun _ => rfl) rfl
  have hchunking : Notes numeric ans (initChunking config) (NumericOption.maxPendingChunkedMessage.read v config) :=
    .before (notes_setNonNegative R .maxPendingChunkedMessage (fun _ => rfl) (fun _ => rfl) rfl) fun _ =>
      .bind (ifBoolean_moves fun _ => h.set rfl) fun _ => ifBoolean_moves fun _ => h.set rfl
  have hcompacted : Moves (SameCalls numeric) (initReadCompacted config) :=
    initReadCompacted_moves config (setters.set_sameCalls rfl)
  have hcrypto : Moves (SameCalls numeric) (initCrypto config) :=
    initCrypto_moves config (fun _ _ => setters.set_sameCalls rfl) (fun _ => setters.set_sameCalls rfl) fun _ => setters.set_sameCalls rfl
  have htarget : Moves (SameCalls numeric) (initTarget config) :=
    (initTarget_sameSetters config).mono fun cfg cfg' hsame => by
      rw [SameCalls, numeric, show cfg'.cConsumerConfig = cfg.cConsumerConfig from hsame, numeric]
  have hack : Moves (SameCalls numeric) (initAckTimeout config) :=
    initAckTimeout_moves config (fun _ _ => rfl) fun _ _ => setters.set_sameCalls rfl
  have hnack : Moves (SameCalls numeric) (initNAckRedeliverTimeout config) :=
    initNAckRedeliverTimeout_moves config (fun _ _ => rfl) fun _ _ => setters.set_sameCalls rfl
  have hpolicy : Moves (SameCalls numeric) (initBatchReceivePolicy config) :=
    initBatchReceivePolicy_moves config fun _ _ _ cfg => by simp [SameCalls, numeric, ConsumerSetter.numeric]
  have hall := ensures_numericSection cfg (.of_moves htarget) fun c₁ =>
    ensures_numericSection _ (.of_moves (initSubscription_moves config fun _ _ => rfl)) fun c₂ =>
    ensures_numericSection _ (notes_always (.of_moves (h.initSubscriptionOptions config))) fun c₃ =>
    ensures_numericSection _ (.of_moves hack) fun c₄ =>
    ensures_numericSection _ (.of_moves hnack) fun c₅ =>
    ensures_numericSection _ (notes_always hqueues) fun c₆ =>
    ensures_numericSection _ (notes_always (.of_moves (h.initSchema config))) fun c₇ =>
    ensures_numericSection _ (notes_always (.of_moves (h.initProperties config))) fun c₈ =>
    ensures_numericSection _ (notes_always (.of_moves (h.initListener config))) fun c₉ =>
    ensures_numericSection _ (notes_always (.of_moves hcompacted)) fun c₁₀ =>
    ensures_numericSection _ (notes_always (.of_moves hcrypto)) fun c₁₁ =>
    ensures_numericSection _ (notes_always hchunking) fun c₁₂ =>
    ensures_numericSection _ (notes_always (.of_moves (h.initDeadLetterPolicy config))) fun c₁₃ =>
    ensures_numericSection _ (.of_moves hpolicy) fun c₁₄ =>
    ensures_numericSection _ (.of_moves (h.initKeySharedPolicy config)) fun c₁₅ =>
    ensures_numericSection _ (notes_always (.of_moves (h.initReplicateSubscriptionState config))) fun c₁₆ =>
    show ensures ans (fun _ => True) (firstError []) (fun r cfg'' => r = .ok () → cfg''.numeric = c₁₆.numeric ++ []) c₁₆ from
      fun _ => (List.append_nil _).symm
  simpa [numericOptions, initConfig, sections] using hall

end ConsumerConfig

end

namespace Parser

def State : Parser → Type
  | client => ClientState
  | producer => ProducerConfig
  | consumer => ConsumerConfig
  | reader => ReaderConfig

def Result : Parser → Type
  | client => Option Client.Setup
  | producer => Unit
  | consumer => Except String Unit
  | reader => Unit

def code : (p : Parser) → JsValue → Napi p.State p.Result
  | client => Client.beforeTry
  | producer => ProducerConfig.producerConfig
  | consumer => ConsumerConfig.initConfig
  | reader => ReaderConfig.readerConfig

/-- The parser has come to its end. -/
def Accepts : (p : Parser) → p.Result → Prop
  | client, setup => Option.isSome setup = true
  | producer, _ => True
  | consumer, r => r = Except.ok ()
  | reader, _ => True

/-- The calls of the setters of numeric options so far. -/
def numeric : (p : Parser) → p.State → NumericCalls
  | client => ClientState.numeric
  | producer => ProducerConfig.numeric
  | consumer => ConsumerConfig.numeric
  | reader => ReaderConfig.numeric

def numericOptions : Parser → List NumericOption
  | client => Client.numericOptions
  | producer => ProducerConfig.numericOptions
  | consumer => ConsumerConfig.numericOptions
  | reader => ReaderConfig.numericOptions

theorem mem_numericOptions (o : NumericOption) : o ∈ o.parser.numericOptions := by cases o <;> decide

theorem nodup_numericOptions (p : Parser) : p.numericOptions.Nodup := by cases p <;> decide

/-- A parser that comes to its end has called the setters as its options give rise to. -/
theorem ensures_code (p : Parser) {v : View} {config : JsValue} {ans : (q : Query) → q.Resp → Prop}
    (R : Reading v ans (fun _ => True)) (s : p.State) :
    ensures ans (fun _ => True) (p.code config) (fun r s' => p.Accepts r →
      p.numeric s' = p.numeric s ++ p.numericOptions.flatMap fun o => o.read v config) s := by
  cases p with
  | client => exact Client.ensures_beforeTry R s
  | producer => exact ensures_mono (ProducerConfig.notes_producerConfig R s) fun _ _ h _ => h
  | consumer => exact ConsumerConfig.ensures_numericCalls R s
  | reader => exact ensures_mono (ReaderConfig.notes_readerConfig R s) fun _ _ h _ => h

end Parser

namespace NumericOption

variable {J N : Type} (sides : Sides J N) {v : View} {config : JsValue} {w w' : World J N}

/-- Where an option is given an integer, its setter is called with that if it meets the bound and fits, and
not called otherwise, exactly when the integer fits or is congruent to none that would be passed on. -/
theorem calls_eq_wanted_iff (o : NumericOption) (n : Int) {s s' : o.parser.State} {r : o.parser.Result} (hv : v.Lawful)
    (hshown : v.Shown sides (o.parser.code config) s w)
    (hrun : (o.parser.code config).run sides.answer s w = (.ok r, s', w')) (haccepts : o.parser.Accepts r)
    (hs : o.parser.numeric s = []) (hn : v.number config o.key = some (.ofInt n)) :
    o.calls (o.parser.numeric s') = o.wanted n ↔
      o.Fits n ∨ ¬ ∃ m, o.bound ≤ m ∧ o.Fits m ∧ (2 ^ 32 : Int) ∣ n - m := by
  have hcalls := ensures_run_ok (o.parser.ensures_code (hshown.reading hv) s) (fun _ _ h => h) hrun haccepts
  rw [hcalls, hs, List.nil_append,
    calls_flatMap_read v config o o.parser.nodup_numericOptions (Parser.mem_numericOptions o), hn]
  exact o.passed_eq_wanted_iff n

/-- A configuration for a reader with a queue size. -/
def queueSizeOf (n : Int) : Heap := { Heap.empty with
  props := fun
    | 0 => [(ReaderConfig.cfgRecvQueue, .number (.ofInt n))]
    | _ => [] }

theorem queueSize_passed :
    ∃ cfg w', (ReaderConfig.readerConfig (.object .plain 0)).run (queueSizeOf 500).sides.answer .new ⟨(), none, ()⟩ =
        (.ok (), cfg, w') ∧ readerReceiverQueueSize.calls cfg.numeric = [500] := by
  obtain ⟨cfg, w', hrun⟩ : ∃ cfg w', (ReaderConfig.readerConfig (.object .plain 0)).run (queueSizeOf 500).sides.answer .new
      ⟨(), none, ()⟩ = (.ok (), cfg, w') := ⟨_, _, rfl⟩
  refine ⟨cfg, w', hrun, ?_⟩
  exact (calls_eq_wanted_iff (queueSizeOf 500).sides readerReceiverQueueSize 500 (queueSizeOf 500).lawful
    ((queueSizeOf 500).steady.shown _ _ _) hrun trivial rfl rfl).2 (.inl (by decide))

/-- A queue size of `2^32` becomes a queue of none. -/
theorem queueSize_wraps :
    ∃ cfg w', (ReaderConfig.readerConfig (.object .plain 0)).run (queueSizeOf (2 ^ 32)).sides.answer .new
        ⟨(), none, ()⟩ = (.ok (), cfg, w') ∧
      (queueSizeOf (2 ^ 32)).view.number (.object .plain 0) readerReceiverQueueSize.key = some (.ofInt (2 ^ 32)) ∧
      readerReceiverQueueSize.calls cfg.numeric = [0] ∧ readerReceiverQueueSize.wanted (2 ^ 32) = [] :=
  ⟨_, _, rfl, rfl, by decide +kernel, by decide⟩

end NumericOption

end PulsarNode
