/-
Reference-counted pointers: blocks that each carry one pointer and the owners that share it. The
pointer is freed when the last owner lets go. What is said of double frees is said of one list: the
pointers in the blocks beside those that were freed, which only the making of a block changes.
-/
import Mathlib.Data.List.Basic
import Mathlib.Data.List.Perm.Basic

/-- The blocks, and the pointers freed, each with the owner that let go last. -/
structure Shared (P O : Type*) where
  blocks : List (P × List O)
  freed : List (P × O)

namespace Shared

variable {P O : Type*}

def empty : Shared P O := ⟨[], []⟩

/-- A block for the pointer `p`, owned by `o`. -/
def make (p : P) (o : O) (s : Shared P O) : Shared P O := { s with blocks := s.blocks ++ [(p, [o])] }

/-- The pointers in the blocks and those freed. -/
def ptrs (s : Shared P O) : List P := s.blocks.map Prod.fst ++ s.freed.map Prod.fst

/-- The owner shares the pointer. -/
def Owns (s : Shared P O) (o : O) (p : P) : Prop := ∃ b ∈ s.blocks, b.1 = p ∧ o ∈ b.2

variable {s : Shared P O} {o o' : O} {p : P}

theorem ptrs_make_perm (s : Shared P O) (p : P) (o : O) : (s.make p o).ptrs.Perm (p :: s.ptrs) := by
  unfold ptrs make
  rw [List.map_append, List.append_assoc]
  exact List.perm_middle

theorem mem_blocks_make {b : P × List O} (h : b ∈ (s.make p o).blocks) : b ∈ s.blocks ∨ b = (p, [o]) := by
  simpa [make] using h

/-- Where no pointer occurs twice, none is freed twice, and none that is owned is freed. -/
theorem freed_nodup (h : s.ptrs.Nodup) : (s.freed.map Prod.fst).Nodup := (List.nodup_append.1 h).2.1

theorem not_freed_of_owns (h : s.ptrs.Nodup) (ho : s.Owns o p) : p ∉ s.freed.map Prod.fst := by
  obtain ⟨b, hb, rfl, -⟩ := ho
  intro hmem
  exact (List.nodup_append.1 h).2.2 _ (List.mem_map_of_mem hb) _ hmem rfl

variable [DecidableEq O]

/-- The owner `o'` comes to share what `o` owns. -/
def copy (o o' : O) (s : Shared P O) : Shared P O :=
  { s with blocks := s.blocks.map fun b => if o ∈ b.2 then (b.1, b.2 ++ [o']) else b }

/-- The owner is the last of the block. -/
def Last (o : O) (b : P × List O) : Prop := o ∈ b.2 ∧ b.2.erase o = []

instance (o : O) (b : P × List O) : Decidable (Last o b) := inferInstanceAs (Decidable (_ ∧ _))

/-- The owner lets go of what it owns. -/
def drop (o : O) (s : Shared P O) : Shared P O where
  blocks := (s.blocks.filter fun b => ¬ Last o b).map fun b => (b.1, b.2.erase o)
  freed := s.freed ++ (s.blocks.filter fun b => Last o b).map fun b => (b.1, o)

theorem ptrs_copy (s : Shared P O) (o o' : O) : (s.copy o o').ptrs = s.ptrs := by
  unfold ptrs copy
  congr 1
  rw [List.map_map]
  refine List.map_congr_left fun b _ => ?_
  dsimp only [Function.comp_apply]
  split <;> rfl

theorem ptrs_drop_perm (s : Shared P O) (o : O) : (s.drop o).ptrs.Perm s.ptrs := by
  have hsplit := (List.filter_append_perm (fun b => decide (Last o b)) s.blocks).map Prod.fst
  have hkept : (s.drop o).blocks.map Prod.fst = (s.blocks.filter fun b => ¬ Last o b).map Prod.fst := by
    unfold drop
    rw [List.map_map]
    rfl
  have hfreed : (s.drop o).freed.map Prod.fst = s.freed.map Prod.fst ++ (s.blocks.filter fun b => Last o b).map Prod.fst := by
    unfold drop
    rw [List.map_append, List.map_map]
    rfl
  unfold ptrs
  rw [hkept, hfreed, ← List.append_assoc]
  -- the blocks that go and those that stay are the blocks there were
  refine List.perm_append_comm.trans ?_
  rw [← List.append_assoc]
  refine List.Perm.append_right _ ?_
  rw [← List.map_append]
  simpa using hsplit

/-! ## Owners -/

/-- An owner of a block after a copy is the new one, or was one before. -/
theorem owner_copy {b : P × List O} {q : O} (hb : b ∈ (s.copy o o').blocks) (hq : q ∈ b.2) :
    q = o' ∨ ∃ b' ∈ s.blocks, q ∈ b'.2 := by
  unfold copy at hb
  obtain ⟨b', hb', rfl⟩ := List.mem_map.1 hb
  by_cases ho : o ∈ b'.2
  · rw [if_pos ho] at hq
    rcases List.mem_append.1 hq with hq | hq
    · exact .inr ⟨b', hb', hq⟩
    · exact .inl (List.mem_singleton.1 hq)
  · rw [if_neg ho] at hq
    exact .inr ⟨b', hb', hq⟩

theorem owner_drop {b : P × List O} {q : O} (hb : b ∈ (s.drop o).blocks) (hq : q ∈ b.2) : ∃ b' ∈ s.blocks, q ∈ b'.2 := by
  unfold drop at hb
  obtain ⟨b', hb', rfl⟩ := List.mem_map.1 hb
  exact ⟨b', (List.mem_filter.1 hb').1, List.mem_of_mem_erase hq⟩

/-- A pointer that is freed by letting go was owned by the one who let go. -/
theorem mem_freed_drop {e : P × O} (h : e ∈ (s.drop o).freed) :
    e ∈ s.freed ∨ e.2 = o ∧ ∃ b ∈ s.blocks, o ∈ b.2 := by
  unfold drop at h
  rcases List.mem_append.1 h with h | h
  · exact .inl h
  · obtain ⟨b, hb, rfl⟩ := List.mem_map.1 h
    obtain ⟨hmem, hlast⟩ := List.mem_filter.1 hb
    exact .inr ⟨rfl, b, hmem, (of_decide_eq_true hlast).1⟩

end Shared
