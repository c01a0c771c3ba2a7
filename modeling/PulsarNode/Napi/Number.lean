/-
The integers among the JS numbers, and what the conversions of Node-API make of them. A conversion to
32 bits keeps the integers that fit and sends every other one to that which it is congruent to.
-/
import PulsarNode.Napi.Value
import Mathlib.Data.Rat.Lemmas

namespace PulsarNode

/-! ## Wrap-around -/

/-- The values of a C++ `int`. -/
def FitsInt (n : Int) : Prop := -2 ^ 31 ≤ n ∧ n < 2 ^ 31

/-- The values of an `unsigned int`. -/
def FitsUnsigned (n : Int) : Prop := 0 ≤ n ∧ n < 2 ^ 32

instance (n : Int) : Decidable (FitsInt n) := inferInstanceAs (Decidable (_ ∧ _))

instance (n : Int) : Decidable (FitsUnsigned n) := inferInstanceAs (Decidable (_ ∧ _))

theorem fitsInt_bmod (n : Int) : FitsInt (n.bmod (2 ^ 32)) := by
  unfold FitsInt
  rw [Int.bmod_def]
  split <;> omega

theorem fitsInt_toInt (n : Int) : FitsInt (toInt n) := fitsInt_bmod n

theorem bmod_eq_self_iff {n : Int} : n.bmod (2 ^ 32) = n ↔ FitsInt n := by
  constructor
  · intro h
    have hfits := fitsInt_bmod n
    rwa [h] at hfits
  · rintro ⟨hlo, hhi⟩
    rw [Int.bmod_def]
    split <;> omega

theorem emod_eq_self_iff {n : Int} : n % 2 ^ 32 = n ↔ FitsUnsigned n := by
  unfold FitsUnsigned
  omega

/-- An integer wraps to a value below `m` exactly when it is congruent to one of those. -/
theorem bmod_lt_iff {n m : Int} (hm : m ≤ 2 ^ 31) :
    (0 ≤ n.bmod (2 ^ 32) ∧ n.bmod (2 ^ 32) < m) ↔ ∃ p, 0 ≤ p ∧ p < m ∧ (2 ^ 32 : Int) ∣ n - p := by
  constructor
  · rintro ⟨hlo, hhi⟩
    refine ⟨n.bmod (2 ^ 32), hlo, hhi, ?_⟩
    rw [Int.bmod_def]
    split <;> omega
  · rintro ⟨p, hlo, hhi, hdvd⟩
    have hp : n.bmod (2 ^ 32) = p := by
      rw [Int.bmod_def]
      split <;> omega
    rw [hp]
    exact ⟨hlo, hhi⟩

namespace JsNumber

/-! ## Integers -/

/-- The JS number that an integer is. -/
def ofInt (n : Int) : JsNumber := .finite n

@[simp] theorem trunc_intCast (n : Int) : trunc (n : ℚ) = n := by simp [trunc]

theorem int32Value_ofInt (n : Int) : (ofInt n).int32Value = n.bmod (2 ^ 32) := by simp [ofInt, int32Value]

theorem uint32Value_ofInt (n : Int) : (ofInt n).uint32Value = n % 2 ^ 32 := by simp [ofInt, uint32Value]

theorem int64Value_ofInt (n : Int) : (ofInt n).int64Value = max (-2 ^ 63) (min n (2 ^ 63 - 1)) := by
  simp [ofInt, int64Value]

theorem ofInt_inj {n m : Int} : ofInt n = ofInt m ↔ n = m := by simp [ofInt]

end JsNumber

end PulsarNode
