/-
Triples about the outside party: where a program finds the outside state, where it leaves it, and how it
may be refused. The object does not matter. A program that leads from an assertion back to it keeps it.
-/
import PulsarNode.Prog.Basic

namespace Prog

variable {Q : Type} {R : Q → Type} {S α β γ E W : Type} {H : Answerer Q R E W}

/-- From any object and an outside state in `pre`, a run returns in `post` or is refused with an `exc`. -/
def Leads (H : Answerer Q R E W) (exc : E → Prop) (pre : W → Prop) (p : Prog Q R S α) (post : α → W → Prop) : Prop :=
  ∀ s w, pre w → match run H p s w with
    | (.ok a, _, w') => post a w'
    | (.error e, _, _) => exc e

namespace Leads

variable {exc : E → Prop} {pre pre' : W → Prop} {p : Prog Q R S α} {mid : α → W → Prop} {post post' : β → W → Prop}

theorem pure {a : β} (h : ∀ w, pre w → post a w) : Leads H exc pre (Pure.pure a : Prog Q R S β) post := fun _ w hw => h w hw

theorem ask {q : Q} {post : R q → W → Prop} (hok : ∀ w r w', pre w → H q w = (.ok r, w') → post r w')
    (herror : ∀ w e w', pre w → H q w = (.error e, w') → exc e) :
    Leads H exc pre (Prog.ask q ret : Prog Q R S (R q)) post := by
  intro s w hw
  rcases hq : H q w with ⟨e | r, w'⟩
  · rw [run_ask_error _ hq]
    exact herror w e w' hw hq
  · rw [run_ask_ok _ hq]
    exact hok w r w' hw hq

theorem look {post : S → W → Prop} (h : ∀ s w, pre w → post s w) : Leads H exc pre (Prog.look : Prog Q R S S) post :=
  fun s w hw => h s w hw

theorem change {f : S → S} {post : Unit → W → Prop} (h : ∀ w, pre w → post () w) :
    Leads H exc pre (Prog.change f : Prog Q R S Unit) post := fun _ w hw => h w hw

theorem bind {f : α → Prog Q R S β} (hp : Leads H exc pre p mid) (hf : ∀ a, Leads H exc (mid a) (f a) post) :
    Leads H exc pre (p >>= f) post := by
  intro s w hw
  have hrun := hp s w hw
  rcases h : run H p s w with ⟨e | a, s', w'⟩
  · rw [h] at hrun
    rw [run_bind_error _ h]
    exact hrun
  · rw [h] at hrun
    rw [run_bind_ok _ h]
    exact hf a s' w' hrun

/-- What is known of a run that returned. -/
theorem run_ok (h : Leads H exc pre p mid) {s s' : S} {w w' : W} {a : α} (hw : pre w)
    (hrun : run H p s w = (.ok a, s', w')) : mid a w' := by
  have hend := h s w hw
  rw [hrun] at hend
  exact hend

theorem run_error (h : Leads H exc pre p mid) {s s' : S} {w w' : W} {e : E} (hw : pre w)
    (hrun : run H p s w = (.error e, s', w')) : exc e := by
  have hend := h s w hw
  rw [hrun] at hend
  exact hend

/-- The rule of loops: `inv` before each pass, `left` where the body leaves. -/
theorem forLoop {more : Nat → Prog Q R S Bool} {body : Nat → β → Prog Q R S (Except γ β)} {inv : W → Prop} {left : γ → W → Prop}
    (hmore : ∀ i, Leads H exc inv (more i) fun _ => inv)
    (hbody : ∀ i acc, Leads H exc inv (body i acc) fun r w => r.casesOn (left · w) fun _ => inv w) :
    ∀ fuel i acc, Leads H exc inv (Prog.forLoop more body fuel i acc) fun r w => r.casesOn (left · w) fun _ => inv w
  | 0, _, _ => .pure fun _ h => h
  | fuel + 1, i, acc => by
    refine .bind (hmore i) fun b => ?_
    cases b with
    | false => exact .pure fun _ h => h
    | true =>
      refine .bind (hbody i acc) fun r => ?_
      cases r with
      | error c => exact .pure fun _ h => h
      | ok acc' => exact forLoop hmore hbody fuel (i + 1) acc'

end Leads

end Prog
