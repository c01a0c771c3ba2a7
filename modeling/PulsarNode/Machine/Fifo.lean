/-
Queues with a memory: what has been taken, and what waits. What was ever put in is the one followed by
the other, so that what has been taken is always a beginning of it.
-/
import Mathlib.Data.List.Basic
import Mathlib.Logic.Function.Basic

structure Fifo (α : Type*) where
  taken : List α
  waiting : List α
  deriving DecidableEq, Repr

namespace Fifo

variable {α ι : Type*}

def empty : Fifo α := ⟨[], []⟩

def put (q : Fifo α) (x : α) : Fifo α := { q with waiting := q.waiting ++ [x] }

/-- Take the first that waits. -/
def take (q : Fifo α) : Option (Fifo α) :=
  match q.waiting with
  | [] => none
  | x :: xs => some ⟨q.taken ++ [x], xs⟩

/-- Everything that was put in, in order. -/
def accepted (q : Fifo α) : List α := q.taken ++ q.waiting

@[simp] theorem accepted_empty : (empty : Fifo α).accepted = [] := rfl

@[simp] theorem accepted_put (q : Fifo α) (x : α) : (q.put x).accepted = q.accepted ++ [x] := by
  simp [accepted, put]

theorem take_eq {q q' : Fifo α} (h : q.take = some q') : ∃ x xs, q.waiting = x :: xs ∧ q' = ⟨q.taken ++ [x], xs⟩ := by
  unfold take at h
  split at h
  · cases h
  · cases h
    exact ⟨_, _, ‹_›, rfl⟩

theorem accepted_take {q q' : Fifo α} (h : q.take = some q') : q'.accepted = q.accepted := by
  obtain ⟨x, xs, hw, rfl⟩ := take_eq h
  simp [accepted, hw]

theorem taken_begins (q : Fifo α) : q.taken <+: q.accepted := List.prefix_append _ _

/-- Something that waits can be taken. -/
theorem take_isSome {q : Fifo α} : q.take.isSome = true ↔ q.waiting ≠ [] := by
  unfold take
  split <;> simp [*]

end Fifo
