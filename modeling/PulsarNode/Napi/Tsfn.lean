/-
Thread-safe functions of Node-API, as far as their counting goes. A function is created with a
count of holders; `Acquire` is refused once the function is closing, and `Release` is refused when
the count is zero. The JS thread closes a function that has no holders and nothing queued, and
finalizes it later.
-/
import Mathlib.Logic.Basic

namespace PulsarNode

structure Tsfn where
  count : Nat
  closing : Bool
  deriving DecidableEq, Repr

namespace Tsfn

/-- `ThreadSafeFunction::New` with an initial thread count of one. -/
def new : Tsfn := ⟨1, false⟩

/-- `Acquire()`: `none` is `napi_closing`. -/
def acquire (f : Tsfn) : Option Tsfn :=
  if f.closing then none else some { f with count := f.count + 1 }

/-- `Release()`: `none` is `napi_invalid_arg`, and the count stays. -/
def release (f : Tsfn) : Option Tsfn :=
  if f.count = 0 then none else some { f with count := f.count - 1 }

/-- `Release()` where its status is ignored. -/
def drop (f : Tsfn) : Tsfn := f.release.getD f

/-- The JS thread finds the function without holders. -/
def close (f : Tsfn) : Tsfn := { f with closing := true }

theorem acquire_eq {f f' : Tsfn} :
    f.acquire = some f' ↔ f.closing = false ∧ f' = ⟨f.count + 1, false⟩ := by
  unfold acquire
  cases hc : f.closing <;> simp [eq_comm]

theorem acquire_none {f : Tsfn} : f.acquire = none ↔ f.closing = true := by
  unfold acquire
  cases f.closing <;> simp

theorem release_eq {f f' : Tsfn} :
    f.release = some f' ↔ 0 < f.count ∧ f' = ⟨f.count - 1, f.closing⟩ := by
  unfold release
  by_cases hc : f.count = 0
  · simp [hc]
  · simp only [hc, if_false, Option.some.injEq]
    constructor
    · intro h
      exact ⟨by omega, h.symm⟩
    · rintro ⟨_, rfl⟩
      rfl

@[simp] theorem count_drop (f : Tsfn) : f.drop.count = f.count - 1 := by
  unfold drop release
  by_cases hc : f.count = 0 <;> simp [hc]

@[simp] theorem closing_drop (f : Tsfn) : f.drop.closing = f.closing := by
  unfold drop release
  by_cases hc : f.count = 0 <;> simp [hc]

@[simp] theorem count_close (f : Tsfn) : f.close.count = f.count := rfl

end Tsfn

/-- The thread of a process that has only one. -/
abbrev sole : Fin 1 := Fin.last 0

end PulsarNode
