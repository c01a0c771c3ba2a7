/-
Things that several owners share and that are destroyed with the last of them. A machine is given a count,
for each thing, of the steps that took its last owner away; a thing that is owned as soon as it is made, and
by nobody again once it has no owner, is destroyed once, and only when nobody owns it.
-/
import PulsarNode.Machine.Run

namespace Machine

variable {σ α κ : Type*}

/-- Count the things that lose their last owner in a step. -/
def noteLost (owned : κ → σ → Prop) [∀ k, DecidablePred (owned k)] (s : σ) (_ : α) (s' : σ) (lost : κ → ℕ) : κ → ℕ :=
  fun k => if owned k s ∧ ¬ owned k s' then lost k + 1 else lost k

/-- The machine with the count of what was destroyed. -/
def losing (m : Machine σ α) (owned : κ → σ → Prop) [∀ k, DecidablePred (owned k)] : Machine (σ × (κ → ℕ)) α :=
  m.record (fun _ => 0) (noteLost owned)

/-- How a thing comes and goes: it has an owner when it is made, and no new one after its last. -/
structure Lifetime (m : Machine σ α) (made owned : σ → Prop) : Prop where
  unmade : ∀ s, m.start s → ¬ made s
  made_of_owned : ∀ s, m.Reachable s → owned s → made s
  made_step : ∀ s a s', m.Reachable s → m.step s a = some s' → made s → made s'
  owned_of_new : ∀ s a s', m.Reachable s → m.step s a = some s' → ¬ made s → made s' → owned s'
  unowned_step : ∀ s a s', m.Reachable s → m.step s a = some s' → made s → ¬ owned s → ¬ owned s'

variable {m : Machine σ α} {owned : κ → σ → Prop} [∀ k, DecidablePred (owned k)]

/-- It was destroyed once if it was made and nobody owns it, and else not. -/
theorem Lifetime.lost_eq {k : κ} {made : σ → Prop} [DecidablePred made] (h : Lifetime m made (owned k)) {p : σ × (κ → ℕ)}
    (hp : (m.losing owned).Reachable p) : p.2 k = if made p.1 ∧ ¬ owned k p.1 then 1 else 0 := by
  induction hp with
  | start hs =>
    rw [hs.2, if_neg fun hmade => h.unmade _ hs.1 hmade.1]
  | @step p p' a hp hs ih =>
    obtain ⟨hstep, hnote⟩ := record_step hs
    have hreach : m.Reachable p.1 := hp.unrecord
    rw [hnote]
    unfold noteLost
    rw [ih]
    by_cases howned : owned k p.1
    · -- an owner is left, or the last one goes now
      have hmade := h.made_of_owned _ hreach howned
      have hmade' := h.made_step _ _ _ hreach hstep hmade
      by_cases howned' : owned k p'.1 <;> simp [howned, howned', hmade']
    · by_cases hmade : made p.1
      · have howned' := h.unowned_step _ _ _ hreach hstep hmade howned
        have hmade' := h.made_step _ _ _ hreach hstep hmade
        simp [howned, howned', hmade, hmade']
      · by_cases hmade' : made p'.1
        · have howned' := h.owned_of_new _ _ _ hreach hstep hmade hmade'
          simp [howned, howned', hmade]
        · simp [howned, hmade, hmade']

section

variable {k : κ} {made : σ → Prop} [DecidablePred made] (h : Lifetime m made (owned k)) {p : σ × (κ → ℕ)}
  (hp : (m.losing owned).Reachable p)
include h hp

theorem Lifetime.lost_le_one : p.2 k ≤ 1 := by
  rw [h.lost_eq hp]
  split <;> omega

theorem Lifetime.lost_eq_zero (howned : owned k p.1) : p.2 k = 0 := by
  rw [h.lost_eq hp, if_neg fun hc => hc.2 howned]

/-- It was destroyed exactly when it is gone, where that says of what was made that nobody owns it. -/
theorem Lifetime.lost_eq_one_iff {gone : Prop} (hgone : made p.1 → (¬ owned k p.1 ↔ gone)) (hmade : gone → made p.1) :
    p.2 k = 1 ↔ gone := by
  rw [h.lost_eq hp]
  constructor
  · intro hone
    split at hone
    · rename_i hc
      exact (hgone hc.1).1 hc.2
    · cases hone
  · intro hg
    rw [if_pos ⟨hmade hg, (hgone (hmade hg)).2 hg⟩]

end

end Machine
