/-
`Message::BuildMessage` with the memory that it allocates. Where no `calloc` is refused, it builds the
message that it builds without, does nothing undefined, and gives back what it allocated; only an exception
that leaves it while the array of replication clusters is there leaves that array behind.
-/
import PulsarNode.Config.Message
import PulsarNode.Message.StringArray
import PulsarNode.Napi.Object
import PulsarNode.Prog.Refines

namespace PulsarNode.Message

open Napi Prog

/-! ## `BuildMessage` with its memory -/

/-- A message under construction, the memory of the process, and what went wrong in it. `array` is the
size of the array that is not given back yet, and the C strings that were read for it so far. -/
structure Building where
  builder : Builder
  memory : Memory
  fault : Option Fault
  array : Option (Nat × List String)

def builderPart : Prog.Part Building Builder where
  get s := s.builder
  set b s := { s with builder := b }
  get_set _ _ := rfl
  set_get _ := rfl
  set_set _ _ _ := rfl

def Building.onMemory (f : Memory → Except Fault Memory) (s : Building) : Building :=
  match f s.memory with
  | .ok m => { s with memory := m }
  | .error e => { s with fault := some e }

/-- One more text was read for the array. -/
def Building.reads (text : String) (s : Building) : Building :=
  { s with array := s.array.map fun read => (read.1, read.2 ++ [cStr text]) }

/-- `pulsar_message_set_replication_clusters`: `length` is a `size_t` there. -/
def setReplicationClusters (array : Option Nat) (length : Int) : Napi Building Unit := do
  match readStrings (← Prog.look).memory array 0 (length % 2 ^ 64).toNat with
  | .ok clusters => Prog.zoom builderPart (set (.replicationClusters clusters))
  | .error e => Prog.change ({ · with fault := some e })

/-- The section for `replicationClusters` as it is in memory. -/
def replicationClustersInMemory (conf : JsValue) : Napi Building Unit := do
  if ← hasAs conf cfgReplClusters JsValue.isArray then
    let clusters ← get conf cfgReplClusters
    let size := toInt (← length clusters).toNat
    if size = 0 then
      Prog.zoom builderPart (set .disableReplication)
    else
      let arr := (newStringArray size (← Prog.look).memory).1
      Prog.change fun s => { s with memory := (newStringArray size s.memory).2, array := some (size.toNat, []) }
      let r ← Prog.forLoop (γ := Empty) (fun i => pure (decide ((i : Int) < size)))
        (fun i _ => do
          let cluster ← toString (← getAt clusters i)
          Prog.change fun s => (s.reads cluster).onMemory (setString arr cluster i)
          return .ok ()) size.toNat 0 ()
      match r with
      | .ok _ =>
        setReplicationClusters arr size
        Prog.change fun s => { s.onMemory (freeStringArray arr size) with array := none }

/-- `BuildMessage`, with its memory. -/
def buildMessageInMemory (conf : JsValue) : Napi Building Unit := do
  Prog.zoom builderPart (buildData conf)
  Prog.zoom builderPart (buildProperties conf)
  Prog.zoom builderPart (buildEventTime conf)
  Prog.zoom builderPart (buildSequenceId conf)
  Prog.zoom builderPart (buildPartitionKey conf)
  replicationClustersInMemory conf
  Prog.zoom builderPart (buildDelivery conf)
  Prog.zoom builderPart (buildOrderingKey conf)

/-! ## What it leaves -/

/-- The message is the one built without memory, nothing went wrong, and the blocks are those of `m`. -/
def Kept (m : Memory) (s : Building) (b : Builder) : Prop :=
  s.builder = b ∧ s.fault = none ∧ s.array = none ∧ s.memory.block = m.block

/-- The same, with the array, filled so far, beside the blocks of `m`. -/
def Filling (m : Memory) (n : Nat) (texts : List String) (s : Building) (b : Builder) : Prop :=
  s.builder = b ∧ s.fault = none ∧ s.array = some (n, texts) ∧ Filled m n texts s.memory

/-- What an exception leaves. -/
def Left (m : Memory) (s : Building) (b : Builder) : Prop := Kept m s b ∨ ∃ n texts, Filling m n texts s b

section

variable {J N : Type} {sides : Sides J N} {m : Memory} {s : Building} {b : Builder}

/-- Both programs ask the same of JS. -/
theorem refines_js {q : JsQuery} (hleft : Left m s b) :
    Refines sides.answer (Left m) (fun (x : q.Resp) s' y b' => x = y ∧ s = s' ∧ b = b') (js q : Napi Building q.Resp)
      (js q : Napi Builder q.Resp) s b :=
  Refines.ask (q := Query.js q) hleft fun _ _ _ _ => ⟨rfl, rfl, rfl⟩

theorem refines_hasAs {o : JsValue} {key : String} {is : JsValue → Bool} (hleft : Left m s b) :
    Refines sides.answer (Left m) (fun x s' y b' => x = y ∧ s = s' ∧ b = b') (hasAs o key is : Napi Building Bool)
      (hasAs o key is : Napi Builder Bool) s b := by
  refine .bind (refines_js (q := .has o key) hleft) ?_
  rintro (x : Bool) _ _ _ ⟨rfl, rfl, rfl⟩
  cases x with
  | false => exact .pure ⟨rfl, rfl, rfl⟩
  | true =>
    refine .bind (refines_js (q := .get o key) hleft) ?_
    rintro y _ _ _ ⟨rfl, rfl, rfl⟩
    exact .pure ⟨rfl, rfl, rfl⟩

/-- A section without memory of its own. -/
theorem refines_section (p : Napi Builder Unit) (h : Kept m s b) :
    Refines sides.answer (Left m) (fun _ s' _ b' => Kept m s' b') (Prog.zoom builderPart p) p s b := by
  obtain ⟨rfl, hrest⟩ := h
  exact .zoom p (fun _ => .inl ⟨rfl, hrest⟩) fun _ _ => ⟨rfl, hrest⟩

/-! ## The array of replication clusters -/

/-- The loop leaves the array filled with the texts that the other program has gathered. -/
theorem refines_fill {clusters : JsValue} {size : Int} {arr : Option Nat} (hample : Ample m) (harr : arr = some m.next)
    (h : Filling m size.toNat [] s b) :
    Refines sides.answer (Left m) (fun _ s' r b' => ∃ texts, r = .ok texts ∧ texts.length = size.toNat ∧
        Filling m size.toNat texts s' b')
      (Prog.forLoop (γ := Empty) (fun i => pure (decide ((i : Int) < size))) (fun i _ => do
        let cluster ← toString (← getAt clusters i)
        Prog.change fun s => (s.reads cluster).onMemory (setString arr cluster i)
        return .ok ()) size.toNat 0 () : Napi Building (Except Empty Unit))
      (Prog.forLoop (γ := Empty) (fun i => pure (decide ((i : Int) < size))) (fun i arr => do
        let cluster ← toString (← getAt clusters i)
        return .ok (arr ++ [cStr cluster])) size.toNat 0 [] : Napi Builder (Except Empty (List String))) s b := by
  subst harr
  refine .mono (.forLoop (fun i => decide ((i : Int) < size))
    (fun i (_ : Unit) s texts b => texts.length = i ∧ i ≤ size.toNat ∧ Filling m size.toNat texts s b) ?_ size.toNat 0 () s [] b
    ⟨rfl, Nat.zero_le _, h⟩) ?_
  · rintro i - s texts b hi ⟨hlen, -, hfilling⟩
    have hlt : i < size.toNat := by
      have hi' : (i : Int) < size := of_decide_eq_true hi
      omega
    have hleft : Left m s b := .inr ⟨_, texts, hfilling⟩
    refine .bind (refines_js (q := .getAt clusters i) hleft) ?_
    rintro x _ _ _ ⟨rfl, rfl, rfl⟩
    refine .bind (refines_js (q := .toString x) hleft) ?_
    rintro (cluster : String) _ _ _ ⟨rfl, rfl, rfl⟩
    obtain ⟨hbuilder, hfault, harray, hfilled⟩ := hfilling
    obtain ⟨m', hm', hfilled'⟩ := hfilled.setString hample (by omega) cluster
    rw [hlen] at hm'
    have hset : (s.reads cluster).onMemory (setString (some m.next) cluster i) =
        { s with memory := m', array := some (size.toNat, texts ++ [cStr cluster]) } := by
      unfold Building.onMemory Building.reads
      dsimp only
      rw [hm', harray]
      rfl
    refine .change_left ?_
    rw [hset]
    exact .pure ⟨(), texts ++ [cStr cluster], rfl, rfl, by simp [hlen], hlt, hbuilder, hfault, rfl, hfilled'⟩
  · rintro _ s' _ b' ⟨j, _, texts, rfl, rfl, ⟨hlen, hle, hfilling⟩, hend⟩
    refine ⟨texts, rfl, ?_, hfilling⟩
    rcases hend with rfl | hend
    · omega
    · have hnot : ¬ (j : Int) < size := of_decide_eq_false hend
      omega

/-- The native client reads the texts, and the array is given back. -/
theorem refines_hand_over {size : Int} {arr : Option Nat} {texts : List String} (harr : arr = some m.next)
    (hsize : 0 ≤ size) (hlt : size < 2 ^ 31) (hlen : texts.length = size.toNat) (h : Filling m size.toNat texts s b) :
    Refines sides.answer (Left m) (fun _ s' _ b' => Kept m s' b')
      (do
        setReplicationClusters arr size
        Prog.change fun s => { s.onMemory (freeStringArray arr size) with array := none } : Napi Building Unit)
      (set (.replicationClusters texts) : Napi Builder Unit) s b := by
  subst harr
  obtain ⟨rfl, hfault, harray, hfilled⟩ := h
  have hread : readStrings s.memory (some m.next) 0 (size % 2 ^ 64).toNat = .ok texts := by
    rw [hfilled.readStrings (by omega), List.drop_zero]
  obtain ⟨m', hm', hblock⟩ := hfilled.freeStringArray hlen
  have hset : setReplicationClusters (some m.next) size = (do
      match readStrings (← Prog.look).memory (some m.next) 0 (size % 2 ^ 64).toNat with
      | .ok clusters => Prog.zoom builderPart (set (.replicationClusters clusters))
      | .error e => Prog.change ({ · with fault := some e })) := rfl
  rw [hset, bind_assoc]
  refine .look_left ?_
  rw [hread]
  dsimp only
  have hcall : Refines sides.answer (Left m)
      (fun _ s' _ b' => s'.builder = b' ∧ s'.fault = none ∧ s'.memory = s.memory)
      (Prog.zoom builderPart (set (.replicationClusters texts))) (set (.replicationClusters texts)) s s.builder :=
    .zoom _ (fun _ => .inr ⟨_, texts, rfl, hfault, harray, hfilled⟩) fun _ _ => ⟨rfl, hfault, rfl⟩
  refine .change_after hcall ?_
  rintro - s' - _ ⟨rfl, hfault', hmemory⟩
  unfold Building.onMemory
  rw [hmemory, hm']
  exact ⟨rfl, hfault', rfl, hblock⟩

/-- The lengths that JS shows fit an `int`. -/
def LengthsFit (sides : Sides J N) : Prop :=
  ∀ arr w r w', sides.answer (.js (.length arr)) w = (.ok r, w') → UInt32.toNat r < 2 ^ 31

theorem refines_replicationClusters (hfit : LengthsFit sides) (hample : Ample s.memory) (conf : JsValue) (h : Kept s.memory s b) :
    Refines sides.answer (Left s.memory) (fun _ s' _ b' => Kept s.memory s' b') (replicationClustersInMemory conf)
      (buildReplicationClusters conf) s b := by
  have hleft : Left s.memory s b := .inl h
  refine .bind (refines_hasAs hleft) ?_
  rintro isArray _ _ _ ⟨rfl, rfl, rfl⟩
  cases isArray with
  | false => exact .pure h
  | true =>
    refine .bind (refines_js (q := .get conf cfgReplClusters) hleft) ?_
    rintro (clusters : JsValue) _ _ _ ⟨rfl, rfl, rfl⟩
    have hlength : Refines sides.answer (Left s.memory) (fun x s' y b' => x = y ∧ s = s' ∧ b = b' ∧ x.toNat < 2 ^ 31)
        (length clusters : Napi Building UInt32) (length clusters : Napi Builder UInt32) s b :=
      Refines.ask (q := Query.js (.length clusters)) hleft fun w r w' hr => ⟨rfl, rfl, rfl, hfit clusters w r w' hr⟩
    refine .bind hlength ?_
    rintro n _ _ _ ⟨rfl, rfl, rfl, hn⟩
    dsimp only
    have hsize : toInt n.toNat = (n.toNat : Int) := by
      unfold toInt
      rw [Int.bmod_def]
      omega
    rw [hsize]
    generalize n.toNat = len at hn
    by_cases hzero : (len : Int) = 0
    · rw [if_pos hzero, if_pos hzero]
      exact refines_section _ h
    · rw [if_neg hzero, if_neg hzero]
      obtain ⟨hbuilder, hfault, -, -⟩ := h
      obtain ⟨harr, hfilled⟩ := filled_newStringArray hample (show (0 : Int) ≤ len by omega)
      refine .look_left (.change_left ?_)
      refine .bind (refines_fill hample harr ⟨hbuilder, hfault, rfl, hfilled⟩) ?_
      rintro r s' _ b' ⟨texts, rfl, hlen, hfilling⟩
      cases r with
      | error e => exact e.elim
      | ok u => exact refines_hand_over harr (by omega) (by omega) hlen hfilling

/-! ## The whole of it -/

/-- A section before that of the replication clusters: the memory is as it was. -/
theorem refines_before (p : Napi Builder Unit) (h : s = ⟨b, m, none, none⟩) :
    Refines sides.answer (Left m) (fun _ s' _ b' => s' = ⟨b', m, none, none⟩) (Prog.zoom builderPart p) p s b := by
  subst h
  exact .zoom p (fun _ => .inl ⟨rfl, rfl, rfl, rfl⟩) fun _ _ => rfl

theorem refines_buildMessage (hfit : LengthsFit sides) (hample : Ample m) (conf : JsValue) (b : Builder) :
    Refines sides.answer (Left m) (fun _ s' _ b' => Kept m s' b') (buildMessageInMemory conf) (buildMessage conf)
      ⟨b, m, none, none⟩ b := by
  refine .bind (refines_before _ rfl) fun _ s₁ _ b₁ h₁ => ?_
  refine .bind (refines_before _ h₁) fun _ s₂ _ b₂ h₂ => ?_
  refine .bind (refines_before _ h₂) fun _ s₃ _ b₃ h₃ => ?_
  refine .bind (refines_before _ h₃) fun _ s₄ _ b₄ h₄ => ?_
  refine .bind (refines_before _ h₄) fun _ s₅ _ b₅ h₅ => ?_
  subst h₅
  refine .bind (refines_replicationClusters hfit hample conf ⟨rfl, rfl, rfl, rfl⟩) fun _ s₆ _ b₆ h₆ => ?_
  exact .bind (refines_section _ h₆) fun _ s₇ _ b₇ h₇ => refines_section _ h₇

/-- The blocks of `m`, and beside them the array that is not given back, where there is one: it holds a copy
of each text that was read for it, and nothing else. -/
def Beside (m : Memory) (array : Option (Nat × List String)) (m' : Memory) : Prop :=
  match array with
  | none => m'.block = m.block
  | some (n, texts) => Filled m n texts m'

/-- How a run with memory compares with the one without. -/
structure MemorySafe (m : Memory) (r : Except Exn Unit × Building × World J N) (r₀ : Except Exn Unit × Builder × World J N) :
    Prop where
  outcome : r.1 = r₀.1
  world : r.2.2 = r₀.2.2
  message : r.2.1.builder = r₀.2.1
  defined : r.2.1.fault = none
  /-- A run that returns has given back every block. -/
  returned : r.1 = .ok () → r.2.1.memory.block = m.block
  /-- An exception leaves nothing behind, or the array with a copy of each text that was read. -/
  raised : ∀ e, r.1 = .error e → Beside m r.2.1.array r.2.1.memory

/-- Whatever JS answers, as long as no `calloc` is refused. -/
theorem buildMessage_memorySafe (sides : Sides J N) (hfit : LengthsFit sides) (conf : JsValue) (b : Builder) (m : Memory)
    (hample : Ample m) (w : World J N) :
    MemorySafe m ((buildMessageInMemory conf).run sides.answer ⟨b, m, none, none⟩ w)
      ((buildMessage conf).run sides.answer b w) := by
  obtain ⟨s', b', w', ⟨_, _, hrun, hrun₀, hkept⟩ | ⟨e, hrun, hrun₀, hleft⟩⟩ := refines_buildMessage hfit hample conf b w
  · rw [hrun, hrun₀]
    exact ⟨rfl, rfl, hkept.1, hkept.2.1, fun _ => hkept.2.2.2, nofun⟩
  · rw [hrun, hrun₀]
    rcases hleft with ⟨hbuilder, hfault, harray, hmemory⟩ | ⟨n, texts, hbuilder, hfault, harray, hfilled⟩
    · refine ⟨rfl, rfl, hbuilder, hfault, nofun, fun _ _ => ?_⟩
      rw [harray]
      exact hmemory
    · refine ⟨rfl, rfl, hbuilder, hfault, nofun, fun _ _ => ?_⟩
      rw [harray]
      exact hfilled

end

/-! ## A message for two clusters -/

def twoClusters : Heap := { Heap.empty with
  props := fun
    | 0 => [(cfgReplClusters, .object .array 1), (cfgOrderingKey, .string "key")]
    | _ => []
  elements := fun
    | 1 => [.string "east", .string "west"]
    | _ => [] }

theorem lengthsFit_twoClusters : LengthsFit twoClusters.sides := by
  intro arr w r w' hr
  have hview : r = twoClusters.view (.length arr) := twoClusters.told hr
  have hshort (i : Nat) : (twoClusters.elements i).length ≤ 2 := by
    unfold twoClusters
    dsimp only
    split <;> simp
  rw [hview]
  cases arr with
  | object k i =>
    have hlen := hshort i
    show (UInt32.ofNat (twoClusters.elements i).length).toNat < 2 ^ 31
    rw [UInt32.toNat_ofNat']
    omega
  | _ => exact Nat.zero_lt_succ _

/-- Memory with nothing in it. -/
def unused (grants : Nat → Nat → Bool) : Memory := ⟨fun _ => none, 7, fun _ _ => rfl, grants⟩

theorem buildMessage_memorySafe_twoClusters :
    ∃ s w, (buildMessageInMemory (.object .plain 0)).run twoClusters.sides.answer
        ⟨[], unused fun _ _ => true, none, none⟩ ⟨(), none, ()⟩ = (.ok (), s, w) ∧
      s.builder = [.replicationClusters ["east", "west"], .orderingKey "key"] ∧ s.fault = none ∧
      s.memory.block = fun _ => none := by
  have hsafe := buildMessage_memorySafe twoClusters.sides lengthsFit_twoClusters (.object .plain 0) []
    (unused fun _ _ => true) (fun _ _ => rfl) ⟨(), none, ()⟩
  obtain ⟨b, w', hrun₀, hb⟩ : ∃ b w', (buildMessage (.object .plain 0)).run twoClusters.sides.answer [] ⟨(), none, ()⟩ =
      (.ok (), b, w') ∧ b = [.replicationClusters ["east", "west"], .orderingKey "key"] := ⟨_, _, rfl, rfl⟩
  rw [hrun₀] at hsafe
  rcases hrun : (buildMessageInMemory (.object .plain 0)).run twoClusters.sides.answer
    ⟨[], unused fun _ _ => true, none, none⟩ ⟨(), none, ()⟩ with ⟨r, s, w⟩
  rw [hrun] at hsafe
  obtain rfl : r = .ok () := hsafe.outcome
  exact ⟨s, w, rfl, hsafe.message.trans hb, hsafe.defined, hsafe.returned rfl⟩

-- an array that is refused is written to all the same
example : ((buildMessageInMemory (.object .plain 0)).run twoClusters.sides.answer
    ⟨[], unused fun _ _ => false, none, none⟩ ⟨(), none, ()⟩).2.1.fault = some .nullPointer := by rfl

end PulsarNode.Message
