/-
Machines that step by named actions: their runs, the states they reach, and the rules by which a
property of every reachable state follows from a property of one step. A machine can be restricted
to steps that meet a condition, given a record of what its steps did, and shown to move inside
another machine. The last section counts the threads of a family whose members step one at a time.
-/
import Mathlib.Algebra.BigOperators.Group.Finset.Basic
import Mathlib.Algebra.Order.BigOperators.Group.Finset

/-- A machine: the states it may start in, and the step an action takes where it is enabled. -/
structure Machine (σ α : Type*) where
  start : σ → Prop
  step : σ → α → Option σ

namespace Machine

variable {σ τ α β η : Type*}

/-! ## Runs -/

/-- Take the actions in order, each of them enabled where it is taken. -/
def run (m : Machine σ α) : σ → List α → Option σ
  | s, [] => some s
  | s, a :: as =>
    match m.step s a with
    | some s' => m.run s' as
    | none => none

/-- The states that runs of the machine pass through. -/
inductive Reachable (m : Machine σ α) : σ → Prop
  | start {s : σ} (h : m.start s) : Reachable m s
  | step {s s' : σ} {a : α} (h : Reachable m s) (hs : m.step s a = some s') : Reachable m s'

theorem Reachable.run {m : Machine σ α} : ∀ {as : List α} {s s' : σ},
    m.Reachable s → m.run s as = some s' → m.Reachable s'
  | [], _, _, h, hr => by cases hr; exact h
  | a :: as, s, s', h, hr => by
    unfold Machine.run at hr
    split at hr
    · rename_i t ht
      exact Reachable.run (h.step ht) hr
    · cases hr

/-- The state after the actions, or the state before where one of them is not enabled. -/
def runFrom (m : Machine σ α) (s : σ) (as : List α) : σ := (m.run s as).getD s

theorem Reachable.runFrom {m : Machine σ α} {s : σ} (h : m.Reachable s) (as : List α) :
    m.Reachable (m.runFrom s as) := by
  unfold Machine.runFrom
  cases hr : m.run s as with
  | none => exact h
  | some s' => exact h.run hr

/-- What holds at the start and is kept by every step from a reachable state holds in every
reachable state. -/
theorem Reachable.invariant {m : Machine σ α} {I : σ → Prop} (h0 : ∀ s, m.start s → I s)
    (hstep : ∀ s a s', m.Reachable s → I s → m.step s a = some s' → I s') {s : σ}
    (h : m.Reachable s) : I s := by
  induction h with
  | start h => exact h0 _ h
  | step h hs ih => exact hstep _ _ _ h ih hs

/-- Runs of actions that each lower a measure are no longer than the measure allows. -/
theorem Reachable.length_le {m : Machine σ α} {μ : σ → ℕ} {ok : α → Prop}
    (hdec : ∀ s a s', m.Reachable s → ok a → m.step s a = some s' → μ s' < μ s) :
    ∀ {as : List α} {s s' : σ}, m.Reachable s → (∀ a ∈ as, ok a) → m.run s as = some s' → as.length ≤ μ s
  | [], _, _, _, _, _ => Nat.zero_le _
  | a :: as, s, s', h, hok, hr => by
    unfold Machine.run at hr
    split at hr
    · rename_i u hu
      have hlt := hdec s a u h (hok a List.mem_cons_self) hu
      have hle := Reachable.length_le hdec (h.step hu) (fun b hb => hok b (List.mem_cons_of_mem _ hb)) hr
      rw [List.length_cons]
      omega
    · cases hr

/-! ## Conditions along a run -/

/-- Every action of the list meets the condition where it is taken. -/
def Along (m : Machine σ α) (ok : σ → α → Prop) : σ → List α → Prop
  | _, [] => True
  | s, a :: as => ok s a ∧ ∀ s', m.step s a = some s' → m.Along ok s' as

/-- Where a step keeps a property exactly when it meets the condition, a run does exactly when all of
its steps do. -/
theorem run_iff_along {m : Machine σ α} {I : σ → Prop} {ok : σ → α → Prop}
    (hstep : ∀ s a s', m.step s a = some s' → (I s' ↔ I s ∧ ok s a)) :
    ∀ {as : List α} {s s' : σ}, m.run s as = some s' → (I s' ↔ I s ∧ m.Along ok s as)
  | [], s, s', h => by
    cases h
    simp [Along]
  | a :: as, s, s', h => by
    unfold Machine.run at h
    split at h
    · rename_i t ht
      have hall : m.Along ok s (a :: as) ↔ ok s a ∧ m.Along ok t as := by simp [Along, ht]
      rw [run_iff_along hstep h, hstep s a t ht, hall, and_assoc]
    · cases h

/-- The property holds in every state that the run passes through. -/
def Throughout (m : Machine σ α) (I : σ → Prop) : σ → List α → Prop
  | s, [] => I s
  | s, a :: as => I s ∧ ∀ s', m.step s a = some s' → m.Throughout I s' as

theorem Throughout.start {m : Machine σ α} {I : σ → Prop} {s : σ} {as : List α} (h : m.Throughout I s as) : I s := by
  cases as with
  | nil => exact h
  | cons a as => exact h.1

/-- Where a step from a state with the property keeps it exactly when it meets the condition, the
property holds throughout a run exactly when all of its steps do. -/
theorem throughout_iff_along {m : Machine σ α} {I : σ → Prop} {ok : σ → α → Prop}
    (hstep : ∀ s a s', I s → m.step s a = some s' → (I s' ↔ ok s a)) :
    ∀ {as : List α} {s s' : σ}, I s → m.run s as = some s' → (m.Throughout I s as ↔ m.Along ok s as)
  | [], s, s', hs, _ => iff_of_true hs trivial
  | a :: as, s, s', hs, h => by
    unfold Machine.run at h
    split at h
    · rename_i t ht
      have hthroughout : m.Throughout I s (a :: as) ↔ m.Throughout I t as := by simp [Throughout, hs, ht]
      have halong : m.Along ok s (a :: as) ↔ ok s a ∧ m.Along ok t as := by simp [Along, ht]
      rw [hthroughout, halong, ← hstep s a t hs ht]
      by_cases hI : I t
      · rw [throughout_iff_along hstep hI h]
        simp [hI]
      -- the run is over for the property at its first step
      · exact iff_of_false (fun hall => hI hall.start) fun hall => hI hall.1
    · cases h

/-! ## Restricted machines -/

/-- The machine whose steps are those of `m` that meet `ok`. -/
def restrict (m : Machine σ α) (ok : σ → α → Prop) [∀ s a, Decidable (ok s a)] : Machine σ α where
  start := m.start
  step s a := if ok s a then m.step s a else none

variable {ok : σ → α → Prop} [∀ s a, Decidable (ok s a)]

theorem restrict_start {m : Machine σ α} {s : σ} : (m.restrict ok).start s ↔ m.start s := Iff.rfl

theorem restrict_step {m : Machine σ α} {s s' : σ} {a : α} (h : (m.restrict ok).step s a = some s') :
    ok s a ∧ m.step s a = some s' := by
  unfold restrict at h
  by_cases hok : ok s a
  · exact ⟨hok, by simpa [hok] using h⟩
  · simp [hok] at h

theorem Reachable.unrestrict {m : Machine σ α} {s : σ} (h : (m.restrict ok).Reachable s) :
    m.Reachable s := by
  induction h with
  | start h => exact .start h
  | step _ hs ih => exact ih.step (restrict_step hs).2

theorem restrict_of_step {m : Machine σ α} {s s' : σ} {a : α} (hok : ok s a) (h : m.step s a = some s') :
    (m.restrict ok).step s a = some s' :=
  (if_pos hok).trans h

/-- A weaker condition leaves the runs that there are. -/
theorem Reachable.mono {ok' : σ → α → Prop} [∀ s a, Decidable (ok' s a)] {m : Machine σ α}
    (himp : ∀ s a, ok s a → ok' s a) {s : σ} (h : (m.restrict ok).Reachable s) : (m.restrict ok').Reachable s := by
  induction h with
  | start h => exact .start h
  | step _ hs ih =>
    obtain ⟨hok, hs⟩ := restrict_step hs
    exact ih.step (restrict_of_step (himp _ _ hok) hs)

/-- The invariant rule for runs whose steps all meet a condition. -/
theorem Reachable.invariantWhere {m : Machine σ α} {I : σ → Prop} (h0 : ∀ s, m.start s → I s)
    (hstep : ∀ s a s', I s → ok s a → m.step s a = some s' → I s') {s : σ}
    (h : (m.restrict ok).Reachable s) : I s := by
  induction h with
  | start h => exact h0 _ h
  | step _ hs ih =>
    obtain ⟨hok, hs⟩ := restrict_step hs
    exact hstep _ _ _ ih hok hs

/-! ## Machines inside machines -/

/-- Where each step of `m` is a step of `m'` on the image of the state, or leaves the image alone,
the image of a reachable state is reachable. -/
theorem Reachable.image {m : Machine σ α} {m' : Machine τ β} (π : σ → τ)
    (h0 : ∀ s, m.start s → m'.start (π s))
    (hstep : ∀ s a s', m.Reachable s → m.step s a = some s' →
      π s' = π s ∨ ∃ b, m'.step (π s) b = some (π s')) {s : σ}
    (h : m.Reachable s) : m'.Reachable (π s) := by
  induction h with
  | start h => exact .start (h0 _ h)
  | step h hs ih =>
    rcases hstep _ _ _ h hs with heq | ⟨b, hb⟩
    · rw [heq]; exact ih
    · exact ih.step hb

/-- The machine with a record that each step updates from the states before and after it. -/
def record (m : Machine σ α) (first : η) (note : σ → α → σ → η → η) : Machine (σ × η) α where
  start p := m.start p.1 ∧ p.2 = first
  step p a :=
    match m.step p.1 a with
    | some s' => some (s', note p.1 a s' p.2)
    | none => none

theorem record_step {m : Machine σ α} {first : η} {note : σ → α → σ → η → η} {p p' : σ × η} {a : α}
    (h : (m.record first note).step p a = some p') :
    m.step p.1 a = some p'.1 ∧ p'.2 = note p.1 a p'.1 p.2 := by
  unfold record at h
  dsimp only at h
  split at h
  · rename_i s' hs
    cases h
    exact ⟨hs, rfl⟩
  · cases h

theorem record_of_step {m : Machine σ α} {first : η} {note : σ → α → σ → η → η} {s s' : σ} {a : α} {e : η}
    (h : m.step s a = some s') : (m.record first note).step (s, e) a = some (s', note s a s' e) := by
  simp [record, h]

theorem Reachable.unrecord {m : Machine σ α} {first : η} {note : σ → α → σ → η → η} {p : σ × η}
    (h : (m.record first note).Reachable p) : m.Reachable p.1 := by
  induction h with
  | start h => exact .start h.1
  | step _ hs ih => exact ih.step (record_step hs).1

end Machine

/-! ## Counting over a family -/

section Total

variable {T τ : Type*} [Fintype T]

/-- The weights of all members of a family together. -/
def total (w : τ → ℕ) (f : T → τ) : ℕ := ∑ t, w (f t)

theorem weight_le_total (w : τ → ℕ) (f : T → τ) (t : T) : w (f t) ≤ total w f :=
  Finset.single_le_sum (f := fun u => w (f u)) (fun _ _ => Nat.zero_le _) (Finset.mem_univ t)

theorem total_eq_zero {w : τ → ℕ} {f : T → τ} : total w f = 0 ↔ ∀ t, w (f t) = 0 := by
  simp [total]

/-- When one member changes, the total changes by the difference of its weights. -/
theorem total_update [DecidableEq T] (w : τ → ℕ) (f : T → τ) (t : T) (x : τ) :
    total w (Function.update f t x) + w (f t) = total w f + w x := by
  -- both totals are the weight of `t` and that of all others, which are the same
  have hl : total w (Function.update f t x) = w x + ∑ u ∈ Finset.univ.erase t, w (f u) := by
    unfold total
    rw [← Finset.add_sum_erase Finset.univ _ (Finset.mem_univ t), Function.update_self]
    congr 1
    refine Finset.sum_congr rfl fun u hu => ?_
    rw [Function.update_of_ne (Finset.ne_of_mem_erase hu)]
  have hr : total w f = w (f t) + ∑ u ∈ Finset.univ.erase t, w (f u) :=
    (Finset.add_sum_erase Finset.univ (fun u => w (f u)) (Finset.mem_univ t)).symm
  omega

end Total
