/-
Two programs that ask the same questions, each with an object of its own. Run with the same outside party
they are told the same, and return or are refused together; how their objects fare is a relation.
-/
import PulsarNode.Prog.Basic

namespace Prog

variable {Q : Type} {R : Q → Type} {S T α α' β β' γ γ' E W : Type} {H : Answerer Q R E W}

/-- Run from `s` and from `t`, the programs return in `rel` together, or are refused together and leave objects
in `left`. -/
def Refines (H : Answerer Q R E W) (left : S → T → Prop) (rel : α → S → β → T → Prop) (p : Prog Q R S α) (q : Prog Q R T β)
    (s : S) (t : T) : Prop :=
  ∀ w, ∃ s' t' w', (∃ a b, run H p s w = (.ok a, s', w') ∧ run H q t w = (.ok b, t', w') ∧ rel a s' b t') ∨
    ∃ e, run H p s w = (.error e, s', w') ∧ run H q t w = (.error e, t', w') ∧ left s' t'

namespace Refines

variable {left : S → T → Prop} {s : S} {t : T}

theorem pure {rel : α → S → β → T → Prop} {a : α} {b : β} (h : rel a s b t) :
    Refines H left rel (Pure.pure a : Prog Q R S α) (Pure.pure b : Prog Q R T β) s t :=
  fun w => ⟨s, t, w, .inl ⟨a, b, rfl, rfl, h⟩⟩

theorem ask {q : Q} {rel : R q → S → R q → T → Prop} (hleft : left s t)
    (h : ∀ w r w', H q w = (.ok r, w') → rel r s r t) :
    Refines H left rel (Prog.ask q ret : Prog Q R S (R q)) (Prog.ask q ret : Prog Q R T (R q)) s t := by
  intro w
  rcases hq : H q w with ⟨e | r, w'⟩
  · exact ⟨s, t, w', .inr ⟨e, run_ask_error H hq s, run_ask_error H hq t, hleft⟩⟩
  · exact ⟨s, t, w', .inl ⟨r, r, run_ask_ok H hq s, run_ask_ok H hq t, h w r w' hq⟩⟩

theorem bind {mid : α → S → α' → T → Prop} {rel : β → S → β' → T → Prop} {p : Prog Q R S α} {q : Prog Q R T α'}
    {f : α → Prog Q R S β} {g : α' → Prog Q R T β'} (hp : Refines H left mid p q s t)
    (hf : ∀ a s' b t', mid a s' b t' → Refines H left rel (f a) (g b) s' t') :
    Refines H left rel (p >>= f) (q >>= g) s t := by
  intro w
  obtain ⟨s', t', w', ⟨a, b, hrunp, hrunq, hmid⟩ | ⟨e, hrunp, hrunq, hleft⟩⟩ := hp w
  · rw [run_bind_ok H hrunp, run_bind_ok H hrunq]
    exact hf a s' b t' hmid w'
  · exact ⟨s', t', w', .inr ⟨e, run_bind_error H hrunp, run_bind_error H hrunq, hleft⟩⟩

/-- The left program does something with its object alone. -/
theorem change_left {rel : β → S → β' → T → Prop} {g : S → S} {f : Unit → Prog Q R S β} {q : Prog Q R T β'}
    (h : Refines H left rel (f ()) q (g s) t) : Refines H left rel (Prog.change g >>= f) q s t := h

theorem look_left {rel : β → S → β' → T → Prop} {f : S → Prog Q R S β} {q : Prog Q R T β'}
    (h : Refines H left rel (f s) q s t) : Refines H left rel (Prog.look >>= f) q s t := h

/-- The left program does something with its object alone at the end. -/
theorem change_after {mid : α → S → β → T → Prop} {rel : Unit → S → β → T → Prop} {p : Prog Q R S α} {q : Prog Q R T β}
    {g : S → S} (hp : Refines H left mid p q s t) (h : ∀ a s' b t', mid a s' b t' → rel () (g s') b t') :
    Refines H left rel (p >>= fun _ => Prog.change g) q s t := by
  intro w
  obtain ⟨s', t', w', ⟨a, b, hrunp, hrunq, hmid⟩ | ⟨e, hrunp, hrunq, hleft⟩⟩ := hp w
  · exact ⟨g s', t', w', .inl ⟨(), b, run_bind_ok H hrunp, hrunq, h a s' b t' hmid⟩⟩
  · exact ⟨s', t', w', .inr ⟨e, run_bind_error H hrunp, hrunq, hleft⟩⟩

theorem mono {rel rel' : α → S → β → T → Prop} {p : Prog Q R S α} {q : Prog Q R T β} (h : Refines H left rel p q s t)
    (hrel : ∀ a s' b t', rel a s' b t' → rel' a s' b t') : Refines H left rel' p q s t := by
  intro w
  obtain ⟨s', t', w', ⟨a, b, hrunp, hrunq, hab⟩ | herror⟩ := h w
  · exact ⟨s', t', w', .inl ⟨a, b, hrunp, hrunq, hrel a s' b t' hab⟩⟩
  · exact ⟨s', t', w', .inr herror⟩

/-- A program, and the same on the object that its object is a part of. -/
theorem zoom {l : Part S T} {rel : α → S → α → T → Prop} (p : Prog Q R T α) (hleft : ∀ t', left (l.set t' s) t')
    (hrel : ∀ a t', rel a (l.set t' s) a t') : Refines H left rel (Prog.zoom l p) p s (l.get s) := by
  intro w
  rcases hrun : run H p (l.get s) w with ⟨e | a, t', w'⟩
  · exact ⟨l.set t' s, t', w', .inr ⟨e, by rw [run_zoom, hrun], rfl, hleft t'⟩⟩
  · exact ⟨l.set t' s, t', w', .inl ⟨a, a, by rw [run_zoom, hrun], rfl, hrel a t'⟩⟩

/-- The rule of loops, for tests that ask nothing. -/
theorem forLoop (more : Nat → Bool) {body : Nat → β → Prog Q R S (Except γ β)} {body' : Nat → β' → Prog Q R T (Except γ' β')}
    (inv : Nat → β → S → β' → T → Prop)
    (hbody : ∀ i acc s acc' t, more i = true → inv i acc s acc' t →
      Refines H left (fun r s' r' t' => ∃ x x', r = .ok x ∧ r' = .ok x' ∧ inv (i + 1) x s' x' t') (body i acc) (body' i acc') s t) :
    ∀ fuel i acc s acc' t, inv i acc s acc' t →
      Refines H left (fun r s' r' t' => ∃ j x x', r = .ok x ∧ r' = .ok x' ∧ inv j x s' x' t' ∧
          (j = i + fuel ∨ more j = false))
        (Prog.forLoop (fun i => Pure.pure (more i)) body fuel i acc)
        (Prog.forLoop (fun i => Pure.pure (more i)) body' fuel i acc') s t
  | 0, i, acc, s, acc', t, h => .pure ⟨i, acc, acc', rfl, rfl, h, .inl rfl⟩
  | fuel + 1, i, acc, s, acc', t, h => by
    show Refines H left _ (if more i = true then _ else _) (if more i = true then _ else _) s t
    cases hmore : more i with
    | false => exact .pure ⟨i, acc, acc', rfl, rfl, h, .inr hmore⟩
    | true =>
      refine .bind (hbody i acc s acc' t hmore h) ?_
      rintro _ s' _ t' ⟨x, x', rfl, rfl, hinv⟩
      have hrest := forLoop more inv hbody fuel (i + 1) x s' x' t' hinv
      have hsum : i + 1 + fuel = i + (fuel + 1) := by omega
      rw [hsum] at hrest
      exact hrest

end Refines

end Prog
