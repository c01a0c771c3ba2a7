/-
Blocks of memory as `calloc` gives them out, or refuses them, and `free` takes them back. A pointer is null
or points to the first cell of a block, and is not given out twice; what is undefined in C is a fault.
-/
import Mathlib.Logic.Function.Basic

/-- Memory of cells `C`: the blocks that are allocated, the pointer that comes next, and whether a call
that would give out a pointer and so many cells is granted. -/
structure Blocks (C : Type*) where
  block : Nat → Option (List C)
  next : Nat
  fresh : ∀ p, next ≤ p → block p = none
  grants : Nat → Nat → Bool

namespace Blocks

variable {C : Type*}

inductive Fault
  | nullPointer | notAllocated | outOfBounds
  deriving DecidableEq, Repr

/-- The memory with a new block. -/
def allocate (m : Blocks C) (cells : Option (List C)) : Blocks C where
  block := Function.update m.block m.next cells
  next := m.next + 1
  fresh p hp := by
    rw [Function.update_of_ne (by omega)]
    exact m.fresh p (by omega)
  grants := m.grants

/-- `calloc`: cells that are zero, or a null pointer. -/
def calloc (m : Blocks C) (zero : C) (count : Nat) : Option Nat × Blocks C :=
  if m.grants m.next count then (some m.next, m.allocate (some (List.replicate count zero)))
  else (none, m.allocate none)

/-- The block that a pointer points to. -/
def deref (m : Blocks C) : Option Nat → Except Fault (List C)
  | none => .error .nullPointer
  | some p =>
    match m.block p with
    | none => .error .notAllocated
    | some cells => .ok cells

def load (m : Blocks C) (p : Option Nat) (i : Nat) : Except Fault C := do
  match (← m.deref p)[i]? with
  | none => .error .outOfBounds
  | some c => .ok c

/-- A block that is allocated gets other cells, or is given back. -/
def replace (m : Blocks C) (p : Nat) (cells : Option (List C)) (h : (m.block p).isSome = true) : Blocks C where
  block := Function.update m.block p cells
  next := m.next
  fresh q hq := by
    have hne : q ≠ p := by
      rintro rfl
      rw [m.fresh q hq] at h
      cases h
    rw [Function.update_of_ne hne]
    exact m.fresh q hq
  grants := m.grants

def store (m : Blocks C) (p : Option Nat) (i : Nat) (c : C) : Except Fault (Blocks C) :=
  match p with
  | none => .error .nullPointer
  | some p =>
    match h : m.block p with
    | none => .error .notAllocated
    | some cells =>
      if i < cells.length then .ok (m.replace p (some (cells.set i c)) (by rw [h]; rfl)) else .error .outOfBounds

/-- `free`: a null pointer is let be. -/
def free (m : Blocks C) : Option Nat → Except Fault (Blocks C)
  | none => .ok m
  | some p => if h : (m.block p).isSome = true then .ok (m.replace p none h) else .error .notAllocated

/-- Cells one after the other. -/
def storeFrom (m : Blocks C) (p : Option Nat) : Nat → List C → Except Fault (Blocks C)
  | _, [] => .ok m
  | i, c :: cs => do storeFrom (← m.store p i c) p (i + 1) cs

variable {m : Blocks C} {p : Nat} {cells : List C}

theorem calloc_eq {count : Nat} (h : m.grants m.next count = true) (zero : C) :
    m.calloc zero count = (some m.next, m.allocate (some (List.replicate count zero))) := if_pos h

theorem deref_eq (h : m.block p = some cells) : m.deref (some p) = .ok cells := by
  dsimp only [deref]
  rw [h]

theorem load_eq {i : Nat} {c : C} (h : m.block p = some cells) (hc : cells[i]? = some c) : m.load (some p) i = .ok c := by
  unfold load
  rw [deref_eq h]
  dsimp only [bind, Except.bind]
  rw [hc]

/-- What a store leaves: the block with the cell, and the other blocks. -/
theorem store_eq {i : Nat} (h : m.block p = some cells) (hi : i < cells.length) (c : C) :
    ∃ m', m.store (some p) i c = .ok m' ∧ m'.block = Function.update m.block p (some (cells.set i c)) ∧
      m'.next = m.next ∧ m'.grants = m.grants := by
  unfold store
  dsimp only
  split
  · rename_i hnone
    rw [h] at hnone
    cases hnone
  · rename_i cells' hcells
    rw [h] at hcells
    cases hcells
    rw [if_pos hi]
    exact ⟨_, rfl, rfl, rfl, rfl⟩

theorem free_eq (h : m.block p = some cells) :
    ∃ m', m.free (some p) = .ok m' ∧ m'.block = Function.update m.block p none ∧ m'.next = m.next := by
  dsimp only [free]
  rw [dif_pos (by rw [h]; rfl)]
  exact ⟨_, rfl, rfl, rfl⟩

/-- A row of cells is stored where the block has room for it. -/
theorem storeFrom_eq {front row rest : List C} (h : m.block p = some (front ++ rest)) (hlen : row.length ≤ rest.length) :
    ∃ m', m.storeFrom (some p) front.length row = .ok m' ∧
      m'.block = Function.update m.block p (some (front ++ row ++ rest.drop row.length)) ∧
      m'.next = m.next ∧ m'.grants = m.grants := by
  induction row generalizing m front rest with
  | nil => exact ⟨m, rfl, by simp [← h], rfl, rfl⟩
  | cons c cs ih =>
    cases rest with
    | nil => simp at hlen
    | cons x rest =>
      obtain ⟨m₁, hm₁, hblock₁, hnext₁, hgrants₁⟩ := store_eq (i := front.length) h (by simp) c
      have hcells : (front ++ x :: rest).set front.length c = (front ++ [c]) ++ rest := by simp
      rw [hcells] at hblock₁
      have hp₁ : m₁.block p = some ((front ++ [c]) ++ rest) := by rw [hblock₁, Function.update_self]
      obtain ⟨m₂, hm₂, hblock₂, hnext₂, hgrants₂⟩ := ih hp₁ (by simpa using hlen)
      rw [List.length_append, List.length_singleton] at hm₂
      refine ⟨m₂, ?_, ?_, hnext₂.trans hnext₁, hgrants₂.trans hgrants₁⟩
      · show (do storeFrom (← m.store (some p) front.length c) (some p) (front.length + 1) cs) = _
        rw [hm₁]
        exact hm₂
      · rw [hblock₂, hblock₁, Function.update_idem]
        simp

end Blocks
