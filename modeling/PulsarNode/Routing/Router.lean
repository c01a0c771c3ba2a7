/-
`choosePartition`, which the native client calls to route a message: the JS message router is called
with a `Message` and the topic's metadata, and what it returns is converted to an `int`. The
conversion wraps around, so that a value which names no partition may come to name one.
-/
import PulsarNode.Napi.Number
import PulsarNode.Napi.Query

namespace PulsarNode.Routing

/-! ## What the router is given -/

/-- What a `shared_ptr` over a message does when its last copy goes: `pulsar_message_free`, or nothing. -/
inductive Deleter
  | free | nothing
  deriving DecidableEq, Repr

/-- `std::shared_ptr<pulsar_message_t>`, the member of a JS `Message`. -/
structure CMessage where
  ptr : Handle
  deleter : Deleter
  deriving DecidableEq, Repr

/-- The message of a routing call, which the native client keeps for itself. -/
def borrowed (msg : Handle) : CMessage := ⟨msg, .nothing⟩

/-- What the native client hands over as the number of partitions: a positive `int`. -/
structure NumPartitions where
  val : Int
  pos : 1 ≤ val
  fits : FitsInt val

inductive RouterQuery
  | newInstance (cMessage : CMessage)
  | newTopicMetadata (numPartitions : Int)
  | call (jsMessage jsTopicMetadata : JsValue)
  | toNumber (v : JsValue)

def RouterQuery.Resp : RouterQuery → Type
  | newInstance _ | newTopicMetadata _ | call _ _ => JsValue
  | toNumber _ => JsNumber

abbrev Routed (α : Type) := Prog RouterQuery RouterQuery.Resp Unit α

def ask (q : RouterQuery) : Routed q.Resp := Prog.ask q Prog.ret

/-- `Message::NewInstance`. -/
def newInstance (cMessage : CMessage) : Routed JsValue := ask (.newInstance cMessage)

def newTopicMetadata (numPartitions : Int) : Routed JsValue := ask (.newTopicMetadata numPartitions)

/-- `router->Call({jsMessage, jsTopicMetadata})`. -/
def call (jsMessage jsTopicMetadata : JsValue) : Routed JsValue := ask (.call jsMessage jsTopicMetadata)

def toNumber (v : JsValue) : Routed JsNumber := ask (.toNumber v)

/-! ## The code -/

/-- Before the `try` block. -/
def arguments (msg : Handle) (numPartitions : Int) : Routed (JsValue × JsValue) := do
  let jsMessage ← newInstance (borrowed msg)
  let jsTopicMetadata ← newTopicMetadata numPartitions
  return (jsMessage, jsTopicMetadata)

/-- The body of the `try` block. -/
def tryBlock (jsMessage jsTopicMetadata : JsValue) : Routed Int := do
  let n : JsNumber ← toNumber (← call jsMessage jsTopicMetadata)
  return n.int32Value

section

variable {E W : Type} (js : Answerer RouterQuery RouterQuery.Resp E W)

/-- `choosePartition`: a caught exception routes to a partition that there is not. -/
def choosePartition (msg : Handle) (numPartitions : Int) (w : W) : Except E Int × W :=
  match (arguments msg numPartitions).run js () w with
  | (.error e, _, w') => (.error e, w')
  | (.ok (jsMessage, jsTopicMetadata), _, w') =>
    match (tryBlock jsMessage jsTopicMetadata).run js () w' with
    | (.ok partition, _, w'') => (.ok partition, w'')
    | (.error _, _, w'') => (.ok numPartitions, w'')

end

/-! ## The JS side -/

/-- What JS does in a routing: `router` is the message router, `text` what a string comes to as a
number, and `toPrimitive` what an object comes to, both of them up to JS. -/
structure JsSide (W : Type) where
  message : CMessage → JsValue
  topicMetadata : Int → JsValue
  router : JsValue → JsValue → W → Except JsError JsValue × W
  text : String → JsNumber
  toPrimitive : ObjKind → Nat → W → Except JsError JsValue × W

namespace JsSide

variable {W : Type} (js : JsSide W)

/-- `ToNumber` of a value that is no object. -/
def primitiveToNumber : JsValue → Except JsError JsNumber
  | .undefined => .ok .nan
  | .null => .ok (.ofInt 0)
  | .bool b => .ok (.ofInt (if b then 1 else 0))
  | .number x => .ok x
  | .string s => .ok (js.text s)
  | .symbol _ => .error (.typeError "Cannot convert a Symbol value to a number")
  | .bigint _ => .error (.typeError "Cannot convert a BigInt value to a number")
  | .object _ _ => .error (.typeError "Cannot convert object to primitive value")

def toNumber (v : JsValue) (w : W) : Except JsError JsNumber × W :=
  match v with
  | .object k i =>
    match js.toPrimitive k i w with
    | (.ok x, w') => (js.primitiveToNumber x, w')
    | (.error e, w') => (.error e, w')
  | x => (js.primitiveToNumber x, w)

def answer : Answerer RouterQuery RouterQuery.Resp JsError W
  | .newInstance cMessage, w => (.ok (js.message cMessage), w)
  | .newTopicMetadata n, w => (.ok (js.topicMetadata n), w)
  | .call jsMessage jsTopicMetadata, w => js.router jsMessage jsTopicMetadata w
  | .toNumber v, w => js.toNumber v w

/-- What the router does when it is called for a message: it returns a value, or throws. -/
def outcome (msg : Handle) (n : NumPartitions) (w : W) : Except JsError JsValue × W :=
  js.router (js.message (borrowed msg)) (js.topicMetadata n.val) w

/-- The number that the value returned is for JS, where there is one. -/
def number (msg : Handle) (n : NumPartitions) (w : W) : Except JsError JsNumber × W :=
  match js.outcome msg n w with
  | (.ok v, w') => js.toNumber v w'
  | (.error e, w') => (.error e, w')

/-- The partition is the number's value as an `int`, or the number of partitions after a throw. -/
theorem choosePartition_eq (msg : Handle) (n : NumPartitions) (w : W) :
    (choosePartition js.answer msg n.val w).1 =
      .ok (match (js.number msg n w).1 with
        | .ok x => x.int32Value
        | .error _ => n.val) := by
  have harguments : (arguments msg n.val).run js.answer () w =
      (.ok (js.message (borrowed msg), js.topicMetadata n.val), (), w) := rfl
  unfold choosePartition
  rw [harguments]
  unfold number outcome
  dsimp only
  generalize js.message (borrowed msg) = jsMessage
  generalize js.topicMetadata n.val = jsTopicMetadata
  unfold tryBlock
  rcases hcall : js.router jsMessage jsTopicMetadata w with ⟨e | v, w'⟩
  · have hrun : (call jsMessage jsTopicMetadata).run js.answer () w = (.error e, (), w') :=
      Prog.run_ask_error js.answer (q := .call _ _) hcall ()
    rw [Prog.run_bind_error js.answer hrun]
  · have hrun : (call jsMessage jsTopicMetadata).run js.answer () w = (.ok v, (), w') :=
      Prog.run_ask_ok js.answer (q := .call _ _) hcall ()
    rw [Prog.run_bind_ok js.answer hrun]
    dsimp only
    rcases hnumber : js.toNumber v w' with ⟨e | x, w''⟩
    · have hrun : (Routing.toNumber v).run js.answer () w' = (.error e, (), w'') :=
        Prog.run_ask_error js.answer (q := .toNumber v) hnumber ()
      rw [Prog.run_bind_error js.answer hrun]
    · have hrun : (Routing.toNumber v).run js.answer () w' = (.ok x, (), w'') :=
        Prog.run_ask_ok js.answer (q := .toNumber v) hnumber ()
      rw [Prog.run_bind_ok js.answer hrun]
      rfl

end JsSide

/-! ## The partition that the router named -/

/-- `p` is a partition of the topic. -/
def NumPartitions.Has (n : NumPartitions) (p : Int) : Prop := 0 ≤ p ∧ p < n.val

/-- The router returned the number `p`, and `p` is a partition. -/
def Named (n : NumPartitions) (r : Except JsError JsValue) (p : Int) : Prop :=
  r = .ok (.number (.ofInt p)) ∧ n.Has p

/-- The partition named by the router is chosen, and no partition where none is named. -/
structure Follows (n : NumPartitions) (r : Except JsError JsValue) (chosen : Int) : Prop where
  named : ∀ p, Named n r p → chosen = p
  unnamed : (∀ p, ¬ Named n r p) → ¬ n.Has chosen

/-- The number is not finite, or its integer part is congruent to a partition modulo `2^32`. -/
def Misleads (n : NumPartitions) : JsNumber → Prop
  | .finite q => ∃ p, n.Has p ∧ (2 ^ 32 : Int) ∣ JsNumber.trunc q - p
  | .nan | .posInfinity | .negInfinity => True

theorem has_int32Value_iff (n : NumPartitions) (x : JsNumber) : n.Has x.int32Value ↔ Misleads n x := by
  have hpos := n.pos
  cases x with
  | finite q =>
    have hle : n.val ≤ 2 ^ 31 := by
      have hfits := n.fits.2
      omega
    unfold NumPartitions.Has Misleads JsNumber.int32Value
    rw [bmod_lt_iff hle]
    simp [NumPartitions.Has, and_assoc]
  | nan | posInfinity | negInfinity =>
    refine iff_of_true ⟨le_refl 0, ?_⟩ trivial
    show 0 < n.val
    omega

section

variable {W : Type} (js : JsSide W) (msg : Handle) (n : NumPartitions) (w : W)

/-- The number that names a partition is itself as an `int`. -/
theorem number_of_named {p : Int} (h : Named n (js.outcome msg n w).1 p) :
    ∃ x, (js.number msg n w).1 = .ok x ∧ x.int32Value = p := by
  obtain ⟨hret, hlo, hhi⟩ := h
  refine ⟨.ofInt p, ?_, ?_⟩
  · unfold JsSide.number
    rcases ho : js.outcome msg n w with ⟨r, w'⟩
    rw [ho] at hret
    obtain rfl : r = .ok (.number (.ofInt p)) := hret
    rfl
  · rw [JsNumber.int32Value_ofInt, bmod_eq_self_iff]
    have hfits := n.fits.2
    exact ⟨by omega, by omega⟩

/-- The router is followed exactly when it names a partition, or throws, or the value it returns does not
convert, or converts to a finite number that is congruent to no partition. -/
theorem follows_iff : ∃ chosen, (choosePartition js.answer msg n.val w).1 = .ok chosen ∧
    (Follows n (js.outcome msg n w).1 chosen ↔
      (∃ p, Named n (js.outcome msg n w).1 p) ∨ ∀ x, (js.number msg n w).1 = .ok x → ¬ Misleads n x) := by
  refine ⟨_, js.choosePartition_eq msg n w, ?_⟩
  by_cases hnamed : ∃ p, Named n (js.outcome msg n w).1 p
  · obtain ⟨p, hp⟩ := hnamed
    obtain ⟨x, hx, hvalue⟩ := number_of_named js msg n w hp
    rw [hx]
    refine iff_of_true ⟨fun p' hp' => ?_, fun hno => absurd hp (hno p)⟩ (.inl ⟨p, hp⟩)
    -- a value names one partition only
    have heq := hp.1.symm.trans hp'.1
    simp only [Except.ok.injEq, JsValue.number.injEq, JsNumber.ofInt_inj] at heq
    rw [← heq]
    exact hvalue
  · have hnone : ∀ p, ¬ Named n (js.outcome msg n w).1 p := fun p hp => hnamed ⟨p, hp⟩
    have hfollows : ∀ chosen, Follows n (js.outcome msg n w).1 chosen ↔ ¬ n.Has chosen := by
      intro chosen
      constructor
      · exact fun h => h.unnamed hnone
      · exact fun h => ⟨fun p hp => absurd hp (hnone p), fun _ => h⟩
    rw [hfollows, or_iff_right hnamed]
    cases (js.number msg n w).1 with
    | error e =>
      refine iff_of_true ?_ (by simp)
      rintro ⟨-, hlt⟩
      exact absurd hlt (lt_irrefl _)
    | ok x => simp [has_int32Value_iff]

end

/-- A router that returns `value`, on a topic of three partitions. -/
def returning (value : JsValue) : JsSide Unit where
  message _ := .object .plain 0
  topicMetadata _ := .object .plain 1
  router _ _ w := (.ok value, w)
  text _ := .nan
  toPrimitive _ _ w := (.ok .undefined, w)

def three : NumPartitions := ⟨3, by decide, by decide⟩

/-- Nothing returned, a fraction, and a number beyond 32 bits: the message goes to a partition. -/
theorem undefined_misroutes :
    (choosePartition (returning .undefined).answer 0 3 ()).1 = .ok 0 ∧
      (choosePartition (returning (.number (.finite (3 / 2)))).answer 0 3 ()).1 = .ok 1 ∧
      (choosePartition (returning (.number (.ofInt (2 ^ 32 + 2)))).answer 0 3 ()).1 = .ok 2 ∧
      ∀ chosen, (choosePartition (returning .undefined).answer 0 3 ()).1 = .ok chosen →
        ¬ Follows three ((returning .undefined).outcome 0 three ()).1 chosen := by
  have hundefined : (choosePartition (returning .undefined).answer 0 3 ()).1 = .ok 0 := rfl
  refine ⟨hundefined, by decide +kernel, by decide +kernel, fun chosen hchosen hfollows => ?_⟩
  rw [hundefined] at hchosen
  cases hchosen
  refine hfollows.unnamed ?_ ⟨by decide, by decide⟩
  rintro p ⟨⟨⟩, -⟩

end PulsarNode.Routing
