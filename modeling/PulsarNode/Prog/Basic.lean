/-
Programs that ask an outside party questions and keep an object of their own. A question is
answered or refused; a refusal unwinds the program at once, and the object keeps whatever was
stored before. The outside party is a handler: what it answers may depend on everything asked
before. `Quiet` says of one run that none of certain questions was refused; it is a condition on the
handler and the start, and `quiet_iff` reads off it how the run ends.
-/
import Mathlib.Logic.Basic

/-- A program over the questions `Q` (answered in `R`) and an object of type `S`. -/
inductive Prog (Q : Type) (R : Q → Type) (S α : Type) : Type where
  | ret (a : α)
  | ask (q : Q) (k : R q → Prog Q R S α)
  | peek (k : S → Prog Q R S α)
  | poke (f : S → S) (k : Prog Q R S α)

/-- What the outside party does with a question: its answer or refusal, and its own next state. -/
abbrev Answerer (Q : Type) (R : Q → Type) (E W : Type) := (q : Q) → W → Except E (R q) × W

namespace Prog

variable {Q : Type} {R : Q → Type} {S T α β γ E W : Type}

/-! ## Sequencing -/

def bind : Prog Q R S α → (α → Prog Q R S β) → Prog Q R S β
  | ret a, f => f a
  | ask q k, f => ask q fun r => bind (k r) f
  | peek k, f => peek fun s => bind (k s) f
  | poke g k, f => poke g (bind k f)

instance : Monad (Prog Q R S) where
  pure := ret
  bind := bind

/-- Read the object. -/
def look : Prog Q R S S := peek ret

/-- Change the object. -/
def change (f : S → S) : Prog Q R S Unit := poke f (ret ())

/-- Run on an object and an outside state: the result or the refusal, and both states after. -/
def run (H : Answerer Q R E W) : Prog Q R S α → S → W → Except E α × S × W
  | ret a, s, w => (.ok a, s, w)
  | ask q k, s, w =>
    match H q w with
    | (.ok r, w') => run H (k r) s w'
    | (.error e, w') => (.error e, s, w')
  | peek k, s, w => run H (k s) s w
  | poke f k, s, w => run H k (f s) w

/-- None of the questions `asks` that the run comes to is refused. -/
def Quiet (H : Answerer Q R E W) (asks : Q → Prop) : Prog Q R S α → S → W → Prop
  | ret _, _, _ => True
  | ask q k, s, w =>
    match H q w with
    | (.ok r, w') => Quiet H asks (k r) s w'
    | (.error _, _) => ¬ asks q
  | peek k, s, w => Quiet H asks (k s) s w
  | poke f k, s, w => Quiet H asks k (f s) w

theorem bind_assoc (p : Prog Q R S α) (f : α → Prog Q R S β) (g : β → Prog Q R S γ) :
    p >>= f >>= g = p >>= fun a => f a >>= g := by
  show bind (bind p f) g = bind p fun a => bind (f a) g
  induction p with
  | ret a => rfl
  | ask q k ih => exact congrArg (ask q) (funext ih)
  | peek k ih => exact congrArg peek (funext ih)
  | poke h k ih => exact congrArg (poke h) ih

section Run

variable (H : Answerer Q R E W)

/-- A sequence runs its first part; a refusal there is the refusal of the whole. -/
theorem run_bind (p : Prog Q R S α) (f : α → Prog Q R S β) (s : S) (w : W) :
    run H (p >>= f) s w =
      match run H p s w with
      | (.ok a, s', w') => run H (f a) s' w'
      | (.error e, s', w') => (.error e, s', w') := by
  show run H (bind p f) s w = _
  induction p generalizing s w with
  | ret a => rfl
  | ask q k ih =>
    simp only [bind, run]
    rcases H q w with ⟨e | r, w'⟩
    · rfl
    · exact ih r s w'
  | peek k ih => exact ih s s w
  | poke g k ih => exact ih (g s) w

/-- The sequence goes on exactly from what its first part returns. -/
theorem run_bind_ok {p : Prog Q R S α} {f : α → Prog Q R S β} {s s' : S} {w w' : W} {a : α}
    (h : run H p s w = (.ok a, s', w')) : run H (p >>= f) s w = run H (f a) s' w' := by
  rw [run_bind, h]

theorem run_bind_error {p : Prog Q R S α} {f : α → Prog Q R S β} {s s' : S} {w w' : W} {e : E}
    (h : run H p s w = (.error e, s', w')) : run H (p >>= f) s w = (.error e, s', w') := by
  rw [run_bind, h]

/-- One question, answered or refused. -/
theorem run_ask_ok {q : Q} {r : R q} {w w' : W} (h : H q w = (.ok r, w')) (s : S) :
    run H (ask q ret) s w = (.ok r, s, w') := by
  unfold run
  rw [h]
  rfl

theorem run_ask_error {q : Q} {e : E} {w w' : W} (h : H q w = (.error e, w')) (s : S) :
    run H (ask q ret : Prog Q R S (R q)) s w = (.error e, s, w') := by
  unfold run
  rw [h]

/-- Where the questions `asks` are those refused with a `bad` refusal, a run is quiet exactly when it
does not end in one: the first refusal ends it. -/
theorem quiet_iff {asks : Q → Prop} {bad : E → Prop}
    (hH : ∀ q w e w', H q w = (.error e, w') → (asks q ↔ bad e)) (p : Prog Q R S α) (s : S) (w : W) :
    Quiet H asks p s w ↔ ∀ e, (run H p s w).1 = .error e → ¬ bad e := by
  induction p generalizing s w with
  | ret a => simp [Quiet, run]
  | ask q k ih =>
    simp only [Quiet, run]
    rcases hq : H q w with ⟨e | r, w'⟩
    -- a refusal is where the run ends, so the question alone decides
    · simp [hH q w e w' hq]
    · exact ih r s w'
  | peek k ih => exact ih s s w
  | poke g k ih => exact ih (g s) w

/-- A run that returns is quiet. -/
theorem quiet_of_run {asks : Q → Prop} {p : Prog Q R S α} {s s' : S} {w w' : W} {a : α}
    (h : run H p s w = (.ok a, s', w')) : Quiet H asks p s w := by
  induction p generalizing s w with
  | ret a => trivial
  | ask q k ih =>
    unfold run at h
    unfold Quiet
    rcases hq : H q w with ⟨e | r, w''⟩
    · simp [hq] at h
    · simp only [hq] at h ⊢
      exact ih r h
  | peek k ih => exact ih s h
  | poke g k ih => exact ih h

end Run

/-! ## Programs over a part of an object -/

/-- A part `T` of an object `S`: how to read it and how to replace it. -/
structure Part (S T : Type) where
  get : S → T
  set : T → S → S
  get_set : ∀ t s, get (set t s) = t
  set_get : ∀ s, set (get s) s = s
  set_set : ∀ t t' s, set t (set t' s) = set t s

/-- The program on the whole object that a program on a part is. -/
def zoom (l : Part S T) : Prog Q R T α → Prog Q R S α
  | ret a => ret a
  | ask q k => ask q fun r => zoom l (k r)
  | peek k => peek fun s => zoom l (k (l.get s))
  | poke f k => poke (fun s => l.set (f (l.get s)) s) (zoom l k)

/-- A program on a part changes that part only. -/
theorem run_zoom (H : Answerer Q R E W) (l : Part S T) (p : Prog Q R T α) (s : S) (w : W) :
    run H (zoom l p) s w =
      ((run H p (l.get s) w).1, l.set (run H p (l.get s) w).2.1 s, (run H p (l.get s) w).2.2) := by
  induction p generalizing s w with
  | ret a => simp [zoom, run, l.set_get]
  | ask q k ih =>
    simp only [zoom, run]
    rcases H q w with ⟨e | r, w'⟩
    · simp [l.set_get]
    · exact ih r s w'
  | peek k ih => exact ih (l.get s) s w
  | poke f k ih =>
    simp only [zoom, run]
    rw [ih, l.get_set, l.set_set]

/-- A program without an object, in one that has an object. -/
def lift (p : Prog Q R Unit α) : Prog Q R S α := zoom ⟨fun _ => (), fun _ s => s, fun _ _ => rfl, fun _ => rfl, fun _ _ _ => rfl⟩ p

theorem run_lift (H : Answerer Q R E W) (p : Prog Q R Unit α) (s : S) (w : W) :
    run H (lift p) s w = ((run H p () w).1, s, (run H p () w).2.2) := run_zoom H _ p s w

/-! ## Early exit and loops -/

/-- Run the parts in order up to the first that leaves with a value. -/
def firstError : List (Prog Q R S (Except γ Unit)) → Prog Q R S (Except γ Unit)
  | [] => pure (.ok ())
  | p :: ps => do
    match ← p with
    | .error c => pure (.error c)
    | .ok () => firstError ps

/-- A part that never leaves early. -/
def always (p : Prog Q R S Unit) : Prog Q R S (Except γ Unit) := do
  p
  pure (.ok ())

/-- `for (i = start; more(i); i++) body`: the test is asked anew before each pass, the body may
leave the loop early, and `fuel` bounds the passes. -/
def forLoop (more : Nat → Prog Q R S Bool) (body : Nat → β → Prog Q R S (Except γ β)) :
    Nat → Nat → β → Prog Q R S (Except γ β)
  | 0, _, acc => pure (.ok acc)
  | fuel + 1, i, acc => do
    if ← more i then
      match ← body i acc with
      | .error c => pure (.error c)
      | .ok acc' => forLoop more body fuel (i + 1) acc'
    else
      pure (.ok acc)

end Prog
