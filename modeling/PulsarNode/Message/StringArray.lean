/-
The C array behind `replicationClusters`: `NewStringArray`, `SetString` and `FreeStringArray` of
`Message.h`, and how `pulsar_message_set_replication_clusters` reads it. An array that is filled as
`BuildMessage` fills it, with no `calloc` refused, is read as the texts that were put in, and given back
without a rest.
-/
import PulsarNode.Machine.Blocks
import PulsarNode.Napi.Value

namespace PulsarNode.Message

/-! ## Strings and arrays of strings -/

/-- A cell of memory: a character of a string, or a pointer of an array. -/
inductive Cell
  | char (c : Char)
  | pointer (p : Option Nat)
  deriving DecidableEq

abbrev Memory := Blocks Cell

abbrev Fault := Blocks.Fault

def nul : Char := Char.ofNat 0

/-- `calloc(sizeof(char *), size)`: a negative size is, as a `size_t`, more than there is. -/
def newStringArray (size : Int) (m : Memory) : Option Nat × Memory :=
  if size < 0 then (none, m) else m.calloc (.pointer none) size.toNat

/-- What `strcpy` copies. -/
def cells (str : String) : List Cell := str.toList.map .char ++ [.char nul]

/-- `SetString`: `strlen` and `strcpy` go up to the first NUL. What `calloc` gives is used unseen. -/
def setString (array : Option Nat) (str : String) (n : Nat) (m : Memory) : Except Fault Memory := do
  let (copied, m) := m.calloc (.char nul) ((cStr str).toList.length + 1)
  let m ← m.storeFrom copied 0 (cells (cStr str))
  m.store array n (.pointer copied)

/-- The loop of `FreeStringArray`, from `i` on. -/
def freeStrings (array : Option Nat) : Nat → Nat → Memory → Except Fault Memory
  | _, 0, m => .ok m
  | i, k + 1, m => do
    match ← m.load array i with
    | .pointer p => freeStrings array (i + 1) k (← m.free p)
    | .char _ => .error .outOfBounds

def freeStringArray (array : Option Nat) (size : Int) (m : Memory) : Except Fault Memory := do
  (← freeStrings array 0 size.toNat m).free array

/-! ## What the native client reads -/

/-- A C string, up to its NUL. -/
def readText : List Cell → Except Fault (List Char)
  | [] => .error .outOfBounds
  | .pointer _ :: _ => .error .outOfBounds
  | .char c :: cs =>
    if c = nul then .ok []
    else do return c :: (← readText cs)

def readString (m : Memory) (p : Option Nat) : Except Fault String := do
  return String.ofList (← readText (← m.deref p))

/-- The strings of an array, from `i` on. -/
def readStrings (m : Memory) (array : Option Nat) : Nat → Nat → Except Fault (List String)
  | _, 0 => .ok []
  | i, k + 1 => do
    match ← m.load array i with
    | .pointer p => return (← readString m p) :: (← readStrings m array (i + 1) k)
    | .char _ => .error .outOfBounds

/-! ## The array, filled so far -/

/-- The array holds copies of the texts in its first places, each in a block of its own; the rest is as it was. -/
structure Filled (m₀ : Memory) (size : Nat) (texts : List String) (m : Memory) : Prop where
  next : m.next = m₀.next + 1 + texts.length
  old : ∀ q, q < m₀.next → m.block q = m₀.block q
  array : m.block m₀.next = some ((List.range texts.length).map (fun j => .pointer (some (m₀.next + 1 + j))) ++
    List.replicate (size - texts.length) (.pointer none))
  strings : ∀ j (hj : j < texts.length), m.block (m₀.next + 1 + j) = some (cells texts[j])
  texts : ∀ t ∈ texts, nul ∉ t.toList
  grants : m.grants = m₀.grants

theorem nul_not_mem_cStr (s : String) : nul ∉ (cStr s).toList := by
  unfold cStr
  rw [String.toList_ofList]
  intro hmem
  have hne := List.mem_takeWhile_imp hmem
  simp [nul] at hne

section

variable {m₀ m : Memory} {size : Int} {texts : List String}

/-- No `calloc` is refused. -/
def Ample (m : Memory) : Prop := ∀ p count, m.grants p count = true

theorem filled_newStringArray (hample : Ample m₀) (hsize : 0 ≤ size) :
    (newStringArray size m₀).1 = some m₀.next ∧ Filled m₀ size.toNat [] (newStringArray size m₀).2 := by
  unfold newStringArray
  rw [if_neg (by omega), Blocks.calloc_eq (hample _ _)]
  refine ⟨rfl, rfl, fun q hq => Function.update_of_ne (by omega) _ _, ?_, nofun, nofun, rfl⟩
  exact Function.update_self ..

/-- The next place of an array is set. -/
theorem set_next {α : Type} (front : List α) {n : Nat} (hlt : front.length < n) (x y : α) :
    (front ++ List.replicate (n - front.length) x).set front.length y =
      (front ++ [y]) ++ List.replicate (n - (front.length + 1)) x := by
  obtain ⟨k, rfl⟩ : ∃ k, n = front.length + 1 + k := ⟨n - (front.length + 1), by omega⟩
  rw [show front.length + 1 + k - front.length = k + 1 by omega, show front.length + 1 + k - (front.length + 1) = k by omega,
    List.replicate_succ]
  simp

theorem Filled.setString {n : Nat} (h : Filled m₀ n texts m) (hample : Ample m₀) (hlt : texts.length < n) (str : String) :
    ∃ m', setString (some m₀.next) str texts.length m = .ok m' ∧ Filled m₀ n (texts ++ [cStr str]) m' := by
  have hnext := h.next
  have hgrant : m.grants m.next ((cStr str).toList.length + 1) = true := by
    rw [h.grants]
    exact hample _ _
  have hnew : (m.allocate (some (List.replicate ((cStr str).toList.length + 1) (.char nul)))).block m.next =
      some ([] ++ List.replicate ((cStr str).toList.length + 1) (.char nul)) := Function.update_self ..
  -- `strcpy` fills the block to its end
  obtain ⟨m₁, hm₁, hblock₁, hnext₁, hgrants₁⟩ := Blocks.storeFrom_eq hnew
    (show (cells (cStr str)).length ≤ _ by simp [cells])
  have hcells : [] ++ cells (cStr str) ++ (List.replicate ((cStr str).toList.length + 1) (.char nul)).drop
      (cells (cStr str)).length = cells (cStr str) := by simp [cells]
  rw [hcells] at hblock₁
  have hother (q : Nat) (hq : q ≠ m.next) : m₁.block q = m.block q := by
    rw [hblock₁, Function.update_of_ne hq]
    exact Function.update_of_ne hq _ _
  have harray : m₁.block m₀.next = _ := (hother m₀.next (by omega)).trans h.array
  obtain ⟨m₂, hm₂, hblock₂, hnext₂, hgrants₂⟩ :=
    Blocks.store_eq (i := texts.length) harray (by simp; omega) (.pointer (some m.next))
  have hm₂next : m₂.next = m.next + 1 := hnext₂.trans hnext₁
  refine ⟨m₂, ?_, ?_, fun q hq => ?_, ?_, fun j hj => ?_, fun t ht => ?_, ?_⟩
  · unfold Message.setString
    rw [List.length_nil] at hm₁
    rw [Blocks.calloc_eq hgrant]
    dsimp only
    rw [hm₁]
    exact hm₂
  · rw [hm₂next, hnext, List.length_append, List.length_singleton]
    omega
  · rw [hblock₂, Function.update_of_ne (by omega), hother q (by omega), h.old q hq]
  · have hset := set_next ((List.range texts.length).map fun j => Cell.pointer (some (m₀.next + 1 + j)))
      (n := n) (by simpa using hlt) (.pointer none) (.pointer (some m.next))
    rw [List.length_map, List.length_range] at hset
    rw [hblock₂, Function.update_self, hset, List.length_append, List.length_singleton, List.range_succ, List.map_append, hnext]
    rfl
  · rw [hblock₂, Function.update_of_ne (by omega)]
    by_cases hjn : j < texts.length
    · rw [hother _ (by omega), h.strings j hjn, List.getElem_append_left hjn]
    · have hj' : j = texts.length := by
        rw [List.length_append, List.length_singleton] at hj
        omega
      subst hj'
      rw [← hnext, hblock₁, Function.update_self]
      simp
  · rcases List.mem_append.1 ht with ht | ht
    · exact h.texts t ht
    · obtain rfl := List.mem_singleton.1 ht
      exact nul_not_mem_cStr str
  · exact (hgrants₂.trans hgrants₁).trans h.grants

/-! ## Reading it -/

theorem readText_eq {cs : List Char} (h : nul ∉ cs) : readText (cs.map .char ++ [.char nul]) = .ok cs := by
  induction cs with
  | nil => rfl
  | cons c cs ih =>
    have hne : c ≠ nul := fun he => h (he ▸ List.mem_cons_self)
    rw [List.map_cons, List.cons_append, readText, if_neg hne, ih fun hmem => h (List.mem_cons_of_mem _ hmem)]
    rfl

theorem Filled.load {n j : Nat} (h : Filled m₀ n texts m) (hj : j < texts.length) :
    m.load (some m₀.next) j = .ok (.pointer (some (m₀.next + 1 + j))) := by
  refine Blocks.load_eq h.array ?_
  rw [List.getElem?_append_left (by simpa using hj)]
  simp [hj]

theorem Filled.readString {n j : Nat} (h : Filled m₀ n texts m) (hj : j < texts.length) :
    readString m (some (m₀.next + 1 + j)) = .ok texts[j] := by
  unfold Message.readString
  rw [Blocks.deref_eq (h.strings j hj)]
  show (do return String.ofList (← readText (cells texts[j]))) = _
  rw [cells, readText_eq (h.texts _ (List.getElem_mem hj))]
  show Except.ok (String.ofList texts[j].toList) = _
  rw [String.ofList_toList]

/-- The native client reads the texts. -/
theorem Filled.readStrings {n : Nat} (h : Filled m₀ n texts m) :
    ∀ {k j : Nat}, j + k = texts.length → readStrings m (some m₀.next) j k = .ok (texts.drop j)
  | 0, j, hj => by rw [List.drop_of_length_le (by omega)]; rfl
  | k + 1, j, hj => by
    have hrest := h.readStrings (k := k) (j := j + 1) (by omega)
    unfold Message.readStrings
    rw [h.load (j := j) (by omega)]
    dsimp only [bind, Except.bind]
    rw [h.readString (j := j) (by omega)]
    dsimp only
    rw [hrest, List.drop_eq_getElem_cons (show j < texts.length by omega)]
    rfl

/-! ## Giving it back -/

/-- The blocks of the first `j` strings are free, and the others are as they were. -/
theorem Filled.freeStrings {n : Nat} (h : Filled m₀ n texts m) :
    ∀ (k j : Nat) (m₁ : Memory), j + k = texts.length →
      (∀ q, m₁.block q = if m₀.next + 1 ≤ q ∧ q < m₀.next + 1 + j then none else m.block q) →
      ∃ m₂, freeStrings (some m₀.next) j k m₁ = .ok m₂ ∧
        ∀ q, m₂.block q = if m₀.next + 1 ≤ q ∧ q < m₀.next + 1 + texts.length then none else m.block q
  | 0, j, m₁, hj, hm₁ => ⟨m₁, rfl, by simpa [show j = texts.length by omega] using hm₁⟩
  | k + 1, j, m₁, hj, hm₁ => by
    have harray : m₁.block m₀.next = _ := (hm₁ m₀.next).trans ((if_neg (by omega)).trans h.array)
    have hload : m₁.load (some m₀.next) j = .ok (.pointer (some (m₀.next + 1 + j))) := by
      refine Blocks.load_eq harray ?_
      rw [List.getElem?_append_left (by simp; omega)]
      simp [show j < texts.length by omega]
    have hstring : m₁.block (m₀.next + 1 + j) = _ := (hm₁ _).trans ((if_neg (by omega)).trans (h.strings j (by omega)))
    obtain ⟨m₂, hm₂, hblock₂, -⟩ := Blocks.free_eq hstring
    obtain ⟨m₃, hm₃, hblock₃⟩ := h.freeStrings k (j + 1) m₂ (by omega) fun q => by
      rw [hblock₂]
      by_cases hq : q = m₀.next + 1 + j
      · subst hq
        rw [Function.update_self, if_pos (by omega)]
      · rw [Function.update_of_ne hq, hm₁ q]
        by_cases hlt : m₀.next + 1 ≤ q ∧ q < m₀.next + 1 + j
        · rw [if_pos hlt, if_pos (by omega)]
        · rw [if_neg hlt, if_neg (by omega)]
    refine ⟨m₃, ?_, hblock₃⟩
    unfold Message.freeStrings
    rw [hload]
    dsimp only [bind, Except.bind]
    rw [hm₂]
    exact hm₃

/-- Everything that was allocated is given back. -/
theorem Filled.freeStringArray (h : Filled m₀ size.toNat texts m) (hlen : texts.length = size.toNat) :
    ∃ m', freeStringArray (some m₀.next) size m = .ok m' ∧ m'.block = m₀.block := by
  obtain ⟨m₁, hm₁, hblock₁⟩ := h.freeStrings size.toNat 0 m (by omega) fun q => by
    rw [if_neg (by omega)]
  have harray : m₁.block m₀.next = _ := (hblock₁ m₀.next).trans ((if_neg (by omega)).trans h.array)
  obtain ⟨m₂, hm₂, hblock₂, -⟩ := Blocks.free_eq harray
  refine ⟨m₂, ?_, funext fun q => ?_⟩
  · unfold Message.freeStringArray
    rw [hm₁]
    exact hm₂
  · rw [hblock₂]
    by_cases hq : q = m₀.next
    · subst hq
      rw [Function.update_self, m₀.fresh _ (Nat.le_refl _)]
    · rw [Function.update_of_ne hq, hblock₁ q]
      have hnext := h.next
      by_cases hlt : q < m₀.next
      · rw [if_neg (by omega), h.old q hlt]
      · rw [m₀.fresh q (by omega)]
        split
        · rfl
        · exact m.fresh q (by omega)

end

end PulsarNode.Message
