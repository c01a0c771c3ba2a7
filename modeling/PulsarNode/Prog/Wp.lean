/-
Weakest preconditions of programs. What the outside party may answer is a relation `ans`; a refusal
leaves the object as it is, and there `exc` must hold. The rules follow the constructs of programs,
and `wp_run` brings them down to a run with an answerer that answers as the relation allows. A
program that `Keeps` an assertion is one for which it is an invariant.
-/
import PulsarNode.Prog.Basic

namespace Prog

variable {Q : Type} {R : Q → Type} {S α β γ E W : Type}

/-- The objects from which every run ends in `post`, or in `exc` where a question is refused. -/
def wp (ans : (q : Q) → R q → Prop) (exc : S → Prop) : Prog Q R S α → (α → S → Prop) → S → Prop
  | ret a, post, s => post a s
  | ask q k, post, s => exc s ∧ ∀ r, ans q r → wp ans exc (k r) post s
  | peek k, post, s => wp ans exc (k s) post s
  | poke f k, post, s => wp ans exc k post (f s)

variable {ans : (q : Q) → R q → Prop} {exc : S → Prop}

/-- An answerer that answers as the relation allows runs a program into its postcondition. -/
theorem wp_run {H : Answerer Q R E W} (hH : ∀ q w r w', H q w = (.ok r, w') → ans q r) {p : Prog Q R S α}
    {post : α → S → Prop} {s : S} (h : wp ans exc p post s) (w : W) :
    match run H p s w with
    | (.ok a, s', _) => post a s'
    | (.error _, s', _) => exc s' := by
  induction p generalizing s w with
  | ret a => exact h
  | ask q k ih =>
    unfold run
    rcases hq : H q w with ⟨e | r, w'⟩
    · exact h.1
    · exact ih r (h.2 r (hH q w r w' hq)) w'
  | peek k ih => exact ih s h w
  | poke f k ih => exact ih h w

/-! ## Rules -/

@[simp] theorem wp_pure (a : α) (post : α → S → Prop) (s : S) :
    wp ans exc (pure a : Prog Q R S α) post s ↔ post a s := Iff.rfl

@[simp] theorem wp_look (post : S → S → Prop) (s : S) :
    wp ans exc (look : Prog Q R S S) post s ↔ post s s := Iff.rfl

@[simp] theorem wp_change (f : S → S) (post : Unit → S → Prop) (s : S) :
    wp ans exc (change f : Prog Q R S Unit) post s ↔ post () (f s) := Iff.rfl

theorem wp_bind (p : Prog Q R S α) (f : α → Prog Q R S β) (post : β → S → Prop) (s : S) :
    wp ans exc (p >>= f) post s ↔ wp ans exc p (fun a s => wp ans exc (f a) post s) s := by
  show wp ans exc (bind p f) post s ↔ _
  induction p generalizing s with
  | ret a => rfl
  | ask q k ih => exact and_congr_right fun _ => forall_congr' fun r => imp_congr_right fun _ => ih r s
  | peek k ih => exact ih s s
  | poke g k ih => exact ih (g s)

theorem wp_mono {p : Prog Q R S α} {post post' : α → S → Prop} (hpost : ∀ a s, post a s → post' a s) {s : S}
    (h : wp ans exc p post s) : wp ans exc p post' s := by
  induction p generalizing s with
  | ret a => exact hpost a s h
  | ask q k ih => exact ⟨h.1, fun r hr => ih r (h.2 r hr)⟩
  | peek k ih => exact ih s h
  | poke g k ih => exact ih h

/-- The rule of sequencing, from a triple for the first part. -/
theorem wp_seq {p : Prog Q R S α} {f : α → Prog Q R S β} {mid : α → S → Prop} {post : β → S → Prop} {s : S}
    (hp : wp ans exc p mid s) (hf : ∀ a s', mid a s' → wp ans exc (f a) post s') :
    wp ans exc (p >>= f) post s :=
  (wp_bind p f post s).2 (wp_mono hf hp)

/-! ## Invariants -/

/-- The program keeps an assertion about the object. -/
def Keeps (ans : (q : Q) → R q → Prop) (exc I : S → Prop) (p : Prog Q R S α) : Prop :=
  ∀ s, I s → wp ans exc p (fun _ => I) s

namespace Keeps

variable {I : S → Prop}

theorem pure (a : α) : Keeps ans exc I (Pure.pure a : Prog Q R S α) := fun _ hs => hs

theorem ask (hI : ∀ s, I s → exc s) (q : Q) : Keeps ans exc I (Prog.ask q ret : Prog Q R S (R q)) :=
  fun s hs => ⟨hI s hs, fun _ _ => hs⟩

theorem change {f : S → S} (hf : ∀ s, I s → I (f s)) : Keeps ans exc I (Prog.change f : Prog Q R S Unit) :=
  fun s hs => hf s hs

theorem bind {p : Prog Q R S α} {f : α → Prog Q R S β} (hp : Keeps ans exc I p)
    (hf : ∀ a, Keeps ans exc I (f a)) : Keeps ans exc I (p >>= f) := fun s hs =>
  wp_seq (hp s hs) fun a s' hs' => hf a s' hs'

end Keeps

/-- The rule of loops: the assertion may speak of what has been gathered so far. -/
theorem wp_forLoop {more : Nat → Prog Q R S Bool} {body : Nat → β → Prog Q R S (Except γ β)}
    (inv : β → S → Prop) (left : γ → S → Prop)
    (hmore : ∀ i acc s, inv acc s → wp ans exc (more i) (fun _ => inv acc) s)
    (hbody : ∀ i acc s, inv acc s → wp ans exc (body i acc) (fun r => r.casesOn left inv) s) :
    ∀ fuel i acc s, inv acc s → wp ans exc (forLoop more body fuel i acc) (fun r => r.casesOn left inv) s
  | 0, _, _, _, hs => hs
  | fuel + 1, i, acc, s, hs => by
    refine wp_seq (hmore i acc s hs) fun b s' hs' => ?_
    cases b with
    | false => exact hs'
    | true =>
      refine wp_seq (hbody i acc s' hs') fun r s'' hs'' => ?_
      cases r with
      | error c => exact hs''
      | ok acc' => exact wp_forLoop inv left hmore hbody fuel (i + 1) acc' s'' hs''

end Prog
