/-
What a program does once its answers are fixed: the value that it gives and the change that it makes to
its object. `Acts` says so for every object; its rules follow the program. Where a program only adds to
the end of a list that the object keeps, `Adds` names what it adds. `Accepts` is for programs that may
leave early: it speaks of the runs that do not.
-/
import PulsarNode.Prog.Ensures

namespace Prog

variable {Q : Type} {R : Q → Type} {S α β γ C : Type} {ans : (q : Q) → R q → Prop}

/-- Where it does not matter what is asked. -/
theorem ensures_any {may : Q → Prop} {p : Prog Q R S α} {post : α → S → Prop} {s : S} (h : ensures ans may p post s) :
    ensures ans (fun _ => True) p post s := by
  induction p generalizing s with
  | ret a => exact h
  | ask q k ih => exact ⟨trivial, fun r hr => ih r (h.2 r hr)⟩
  | peek k ih => exact ih s h
  | poke g k ih => exact ih h

/-- Whatever the object, a run that is told these answers gives `x` and turns the object `s` into `f s`. -/
def Acts (ans : (q : Q) → R q → Prop) (p : Prog Q R S α) (x : α) (f : S → S) : Prop :=
  ∀ s, ensures ans (fun _ => True) p (fun a s' => a = x ∧ s' = f s) s

namespace Acts

variable {p : Prog Q R S α} {x : α} {f f' : S → S}

theorem pure (x : α) : Acts ans (Pure.pure x : Prog Q R S α) x id := fun _ => ⟨rfl, rfl⟩

theorem change (f : S → S) : Acts ans (Prog.change f : Prog Q R S Unit) () f := fun _ => ⟨rfl, rfl⟩

theorem bind (hp : Acts ans p x f) {g : α → Prog Q R S β} {y : β} (hg : Acts ans (g x) y f') :
    Acts ans (p >>= g) y (f' ∘ f) := by
  intro s
  refine ensures_seq (hp s) ?_
  rintro a s' ⟨rfl, rfl⟩
  exact hg (f s)

/-- A program that gives the same value from every object and leaves it as it is. -/
theorem of_gives (h : ∀ s, Gives ans (fun _ => True) p x s) : Acts ans p x id := h

/-- What follows such a program is told its value. -/
theorem after (h : ∀ s, Gives ans (fun _ => True) p x s) {g : α → Prog Q R S β} {y : β} (hg : Acts ans (g x) y f) :
    Acts ans (p >>= g) y f := fun s => (h s).seq (hg s)

theorem before (hp : Acts ans p x f) {g : α → Prog Q R S β} {y : β} (hg : ∀ s, Gives ans (fun _ => True) (g x) y s) :
    Acts ans (p >>= g) y f := hp.bind (of_gives hg)

theorem congr (h : Acts ans p x f) (hf : ∀ s, f s = f' s) : Acts ans p x f' := by
  intro s
  rw [← hf s]
  exact h s

/-- A run that returns has done so. -/
theorem run_ok (h : Acts ans p x f) {E W : Type} {H : Answerer Q R E W} {s s' : S} {w w' : W} {a : α}
    (hans : ∀ q r, Answered H p s w q r → ans q r) (hrun : run H p s w = (.ok a, s', w')) : a = x ∧ s' = f s := by
  have hend := ensures_run_ok (h s) hans hrun
  exact hend

end Acts

/-! ## Programs that add to a list -/

/-- A list that an object keeps: what adding to its end makes of the object. -/
structure Log (S C : Type) where
  add : List C → S → S
  add_nil : ∀ s, add [] s = s
  add_add : ∀ l l' s, add l' (add l s) = add (l ++ l') s

/-- A list that is a part of the object. -/
def Log.ofPart (part : Part S (List C)) : Log S C where
  add l s := part.set (part.get s ++ l) s
  add_nil s := by rw [List.append_nil, part.set_get]
  add_add l l' s := by rw [part.get_set, part.set_set, List.append_assoc]

/-- The program gives `x` and adds `l`. -/
def Adds (L : Log S C) (ans : (q : Q) → R q → Prop) (p : Prog Q R S α) (x : α) (l : List C) : Prop := Acts ans p x (L.add l)

namespace Adds

variable {L : Log S C} {p : Prog Q R S α} {x : α} {l l' : List C}

theorem of_gives (h : ∀ s, Gives ans (fun _ => True) p x s) : Adds L ans p x [] :=
  Acts.congr (Acts.of_gives h) fun s => (L.add_nil s).symm

theorem acts (h : Adds L ans p x l) : Acts ans p x (L.add l) := h

theorem pure (x : α) : Adds L ans (Pure.pure x : Prog Q R S α) x [] := of_gives fun _ => .pure x

theorem bind (hp : Adds L ans p x l) {g : α → Prog Q R S β} {y : β} (hg : Adds L ans (g x) y l') :
    Adds L ans (p >>= g) y (l ++ l') := Acts.congr (Acts.bind hp hg) fun s => L.add_add l l' s

theorem after (h : ∀ s, Gives ans (fun _ => True) p x s) {g : α → Prog Q R S β} {y : β} (hg : Adds L ans (g x) y l) :
    Adds L ans (p >>= g) y l := Acts.after h hg

theorem before (hp : Adds L ans p x l) {g : α → Prog Q R S β} {y : β} (hg : ∀ s, Gives ans (fun _ => True) (g x) y s) :
    Adds L ans (p >>= g) y l := Acts.before hp hg

/-- Code under a check. -/
theorem ite {c : Prop} [Decidable c] {p : Prog Q R S Unit} (hp : c → Adds L ans p () l) :
    Adds L ans (if c then p else Pure.pure ()) () (if c then l else []) := by
  by_cases hc : c
  · rw [if_pos hc, if_pos hc]
    exact hp hc
  · rw [if_neg hc, if_neg hc]
    exact pure ()

end Adds

/-! ## Programs that may leave early -/

/-- A run that is told these answers and is not left early turns the object `s` into `f s`. -/
def Accepts (ans : (q : Q) → R q → Prop) (p : Prog Q R S (Except γ Unit)) (f : S → S) : Prop :=
  ∀ s, ensures ans (fun _ => True) p (fun r s' => r = .ok () → s' = f s) s

namespace Accepts

variable {p : Prog Q R S (Except γ Unit)} {ps : List (Prog Q R S (Except γ Unit))} {f f' : S → S}

theorem always {p : Prog Q R S Unit} (h : Acts ans p () f) : Accepts ans (Prog.always p : Prog Q R S (Except γ Unit)) f := by
  intro s
  refine ensures_always (ensures_mono (h s) ?_)
  rintro _ s' ⟨-, hs'⟩ _
  exact hs'

theorem nil : Accepts ans (firstError ([] : List (Prog Q R S (Except γ Unit)))) id := fun _ _ => rfl

/-- The parts in order, each from where the one before it has left the object. -/
theorem cons (hp : Accepts ans p f) (hps : Accepts ans (firstError ps) f') : Accepts ans (firstError (p :: ps)) (f' ∘ f) := by
  intro s
  refine ensures_firstError (ensures_mono (hp s) fun r s' hr => ?_)
  cases r with
  | error c => nofun
  | ok u =>
    rw [hr rfl]
    exact hps (f s)

theorem congr (h : Accepts ans p f) (hf : ∀ s, f s = f' s) : Accepts ans p f' := by
  intro s
  rw [← hf s]
  exact h s

end Accepts

end Prog
