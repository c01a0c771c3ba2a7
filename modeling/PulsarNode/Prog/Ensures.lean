/-
Specifications of programs against the answers that a run is really given. `Answered` is the record
of one run: which questions it came to, and what it was told. `ensures` is a precondition in the
total sense: every question that the program comes to is one that it `may` ask, and every run ends in
the postcondition. `ensures_run` brings it down to a run: it reaches the postcondition, unless a
question that may be asked was refused in it. A program `Moves` along a relation when each
change it makes to the object does, whatever it is told.
-/
import PulsarNode.Prog.Basic

namespace Prog

variable {Q : Type} {R : Q → Type} {S T α β γ E W : Type}

/-- In the run from this object and outside state, the question `q` was answered with `r`. -/
def Answered (H : Answerer Q R E W) : Prog Q R S α → S → W → (q : Q) → R q → Prop
  | ret _, _, _, _, _ => False
  | ask q' k, s, w, q, r =>
    match H q' w with
    | (.ok r', w') => (⟨q', r'⟩ : Sigma R) = ⟨q, r⟩ ∨ Answered H (k r') s w' q r
    | (.error _, _) => False
  | peek k, s, w, q, r => Answered H (k s) s w q r
  | poke f k, s, w, q, r => Answered H k (f s) w q r

/-- An outside party that always gives the same answers gives them in every run. -/
theorem Answered.of_steady {H : Answerer Q R E W} {ans : (q : Q) → R q → Prop}
    (hH : ∀ q w r w', H q w = (.ok r, w') → ans q r) {p : Prog Q R S α} {s : S} {w : W} {q : Q} {r : R q}
    (h : Answered H p s w q r) : ans q r := by
  induction p generalizing s w with
  | ret a => exact h.elim
  | ask q' k ih =>
    unfold Answered at h
    rcases hq : H q' w with ⟨e | r', w'⟩
    · simp [hq] at h
    · simp only [hq] at h
      rcases h with heq | h
      · cases heq
        exact hH _ _ _ _ hq
      · exact ih r' h
  | peek k ih => exact ih s h
  | poke f k ih => exact ih h

/-- What is answered in the first part of a sequence is answered in the sequence. -/
theorem Answered.bind {H : Answerer Q R E W} {p : Prog Q R S α} {f : α → Prog Q R S β} {s : S} {w : W} {q : Q}
    {r : R q} (h : Answered H p s w q r) : Answered H (p >>= f) s w q r := by
  show Answered H (Prog.bind p f) s w q r
  induction p generalizing s w with
  | ret a => exact h.elim
  | ask q' k ih =>
    unfold Answered at h
    unfold Prog.bind Answered
    rcases hq : H q' w with ⟨e | r', w'⟩
    · simp [hq] at h
    · simp only [hq] at h ⊢
      exact h.imp_right (ih r')
  | peek k ih => exact ih s h
  | poke g k ih => exact ih h

/-- So is what is answered in the second part, which goes on from what the first returns. -/
theorem Answered.after {H : Answerer Q R E W} {p : Prog Q R S α} {f : α → Prog Q R S β} {s s' : S} {w w' : W} {a : α}
    {q : Q} {r : R q} (hp : run H p s w = (.ok a, s', w')) (h : Answered H (f a) s' w' q r) :
    Answered H (p >>= f) s w q r := by
  show Answered H (Prog.bind p f) s w q r
  induction p generalizing s w with
  | ret b =>
    cases hp
    exact h
  | ask q' k ih =>
    unfold run at hp
    unfold Prog.bind Answered
    rcases hq : H q' w with ⟨e | r', w''⟩
    · simp [hq] at hp
    · simp only [hq] at hp ⊢
      exact .inr (ih r' hp)
  | peek k ih => exact ih s hp
  | poke g k ih => exact ih hp

/-- A program on a part is told the same in the whole. -/
theorem Answered.zoom {H : Answerer Q R E W} {l : Part S T} {p : Prog Q R T α} {s : S} {w : W} {q : Q} {r : R q}
    (h : Answered H p (l.get s) w q r) : Answered H (Prog.zoom l p) s w q r := by
  induction p generalizing s w with
  | ret a => exact h.elim
  | ask q' k ih =>
    unfold Answered at h
    unfold Prog.zoom Answered
    rcases hq : H q' w with ⟨e | r', w'⟩
    · simp [hq] at h
    · simp only [hq] at h ⊢
      exact h.imp_right (ih r')
  | peek k ih => exact ih _ h
  | poke f k ih => exact ih (by rwa [l.get_set])

/-- The objects from which the program comes to questions in `may` only and every run ends in `post`. -/
def ensures (ans : (q : Q) → R q → Prop) (may : Q → Prop) : Prog Q R S α → (α → S → Prop) → S → Prop
  | ret a, post, s => post a s
  | ask q k, post, s => may q ∧ ∀ r, ans q r → ensures ans may (k r) post s
  | peek k, post, s => ensures ans may (k s) post s
  | poke f k, post, s => ensures ans may k post (f s)

variable {ans : (q : Q) → R q → Prop} {may : Q → Prop}

/-- In the run from this object and outside state, the question `q` was refused with `e`, which ended it. -/
def Refused (H : Answerer Q R E W) : Prog Q R S α → S → W → Q → E → Prop
  | ret _, _, _, _, _ => False
  | ask q' k, s, w, q, e =>
    match H q' w with
    | (.ok r', w') => Refused H (k r') s w' q e
    | (.error e', _) => q' = q ∧ e' = e
  | peek k, s, w, q, e => Refused H (k s) s w q e
  | poke f k, s, w, q, e => Refused H k (f s) w q e

/-- Nothing is refused in a run that returns. -/
theorem not_refused {H : Answerer Q R E W} {p : Prog Q R S α} {s s' : S} {w w' : W} {a : α} {q : Q} {e : E}
    (h : run H p s w = (.ok a, s', w')) : ¬ Refused H p s w q e := by
  intro hr
  induction p generalizing s w with
  | ret a => exact hr
  | ask q' k ih =>
    unfold run at h
    unfold Refused at hr
    rcases hH : H q' w with ⟨e' | r', w''⟩
    · simp [hH] at h
    · simp only [hH] at h hr
      exact ih r' h hr
  | peek k ih => exact ih s h hr
  | poke f k ih => exact ih h hr

/-- It is the outside party that refuses. -/
theorem Refused.refuses {H : Answerer Q R E W} {p : Prog Q R S α} {s : S} {w : W} {q : Q} {e : E}
    (h : Refused H p s w q e) : ∃ w₁ w₂, H q w₁ = (.error e, w₂) := by
  induction p generalizing s w with
  | ret a => exact h.elim
  | ask q' k ih =>
    unfold Refused at h
    rcases hq : H q' w with ⟨e' | r', w'⟩
    · simp only [hq] at h
      obtain ⟨rfl, rfl⟩ := h
      exact ⟨w, w', hq⟩
    · simp only [hq] at h
      exact ih r' h
  | peek k ih => exact ih s h
  | poke g k ih => exact ih h

/-- A refusal in the first part of a sequence, and one in the second, is a refusal in the sequence. -/
theorem Refused.bind {H : Answerer Q R E W} {p : Prog Q R S α} {f : α → Prog Q R S β} {s : S} {w : W} {q : Q} {e : E}
    (h : Refused H p s w q e) : Refused H (p >>= f) s w q e := by
  show Refused H (Prog.bind p f) s w q e
  induction p generalizing s w with
  | ret a => exact h.elim
  | ask q' k ih =>
    unfold Refused at h
    unfold Prog.bind Refused
    rcases hq : H q' w with ⟨e' | r', w'⟩
    · simpa only [hq] using h
    · simp only [hq] at h ⊢
      exact ih r' h
  | peek k ih => exact ih s h
  | poke g k ih => exact ih h

theorem Refused.after {H : Answerer Q R E W} {p : Prog Q R S α} {f : α → Prog Q R S β} {s s' : S} {w w' : W} {a : α}
    {q : Q} {e : E} (hp : run H p s w = (.ok a, s', w')) (h : Refused H (f a) s' w' q e) :
    Refused H (p >>= f) s w q e := by
  show Refused H (Prog.bind p f) s w q e
  induction p generalizing s w with
  | ret b =>
    cases hp
    exact h
  | ask q' k ih =>
    unfold run at hp
    unfold Prog.bind Refused
    rcases hq : H q' w with ⟨e' | r', w''⟩
    · simp [hq] at hp
    · simp only [hq] at hp ⊢
      exact ih r' hp
  | peek k ih => exact ih s hp
  | poke g k ih => exact ih hp

/-- A run ends in the postcondition, or in the refusal of a question that may be asked. -/
theorem ensures_run {H : Answerer Q R E W} {p : Prog Q R S α} {post : α → S → Prop} {s : S} {w : W}
    (h : ensures ans may p post s) (hans : ∀ q r, Answered H p s w q r → ans q r) :
    (∃ a s' w', run H p s w = (.ok a, s', w') ∧ post a s') ∨ ∃ q e, may q ∧ Refused H p s w q e := by
  induction p generalizing s w with
  | ret a => exact .inl ⟨a, s, w, rfl, h⟩
  | ask q k ih =>
    obtain ⟨hq, hk⟩ := h
    unfold run Refused
    unfold Answered at hans
    rcases hH : H q w with ⟨e | r, w'⟩
    · exact .inr ⟨q, e, hq, rfl, rfl⟩
    · simp only [hH] at hans
      exact ih r (hk r (hans q r (.inl rfl))) fun q' r' h' => hans q' r' (.inr h')
  | peek k ih => exact ih s h hans
  | poke f k ih => exact ih h hans

/-- A run that returns has reached the postcondition. -/
theorem ensures_run_ok {H : Answerer Q R E W} {p : Prog Q R S α} {post : α → S → Prop} {s s' : S} {w w' : W}
    {a : α} (h : ensures ans may p post s) (hans : ∀ q r, Answered H p s w q r → ans q r)
    (hrun : run H p s w = (.ok a, s', w')) : post a s' := by
  rcases ensures_run h hans with ⟨a', s'', w'', heq, hpost⟩ | ⟨q, e, -, hr⟩
  · rw [hrun] at heq
    cases heq
    exact hpost
  · exact absurd hr (not_refused hrun)

/-- A run that does not return has been refused a question that may be asked. -/
theorem ensures_run_error {H : Answerer Q R E W} {p : Prog Q R S α} {post : α → S → Prop} {s s' : S} {w w' : W} {e : E}
    (h : ensures ans may p post s) (hans : ∀ q r, Answered H p s w q r → ans q r)
    (hrun : run H p s w = (.error e, s', w')) : ∃ q e, may q ∧ Refused H p s w q e := by
  rcases ensures_run h hans with ⟨a, s'', w'', heq, -⟩ | href
  · rw [hrun] at heq
    cases heq
  · exact href

/-- Where nothing that may be asked is refused, the run reaches the postcondition. -/
theorem ensures_run_total {H : Answerer Q R E W} {p : Prog Q R S α} {post : α → S → Prop} {s : S} {w : W}
    (h : ensures ans may p post s) (hans : ∀ q r, Answered H p s w q r → ans q r)
    (hmay : ∀ q e, may q → ¬ Refused H p s w q e) : ∃ a s' w', run H p s w = (.ok a, s', w') ∧ post a s' := by
  rcases ensures_run h hans with hend | ⟨q, e, hq, hr⟩
  · exact hend
  · exact absurd hr (hmay q e hq)

/-! ## Rules -/

section Rules

variable {s : S}

@[simp] theorem ensures_pure (a : α) (post : α → S → Prop) :
    ensures ans may (pure a : Prog Q R S α) post s ↔ post a s := Iff.rfl

@[simp] theorem ensures_look (post : S → S → Prop) :
    ensures ans may (look : Prog Q R S S) post s ↔ post s s := Iff.rfl

@[simp] theorem ensures_change (f : S → S) (post : Unit → S → Prop) :
    ensures ans may (change f : Prog Q R S Unit) post s ↔ post () (f s) := Iff.rfl

theorem ensures_bind (p : Prog Q R S α) (f : α → Prog Q R S β) (post : β → S → Prop) :
    ensures ans may (p >>= f) post s ↔ ensures ans may p (fun a s => ensures ans may (f a) post s) s := by
  show ensures ans may (bind p f) post s ↔ _
  induction p generalizing s with
  | ret a => rfl
  | ask q k ih => exact and_congr_right fun _ => forall_congr' fun r => imp_congr_right fun _ => ih r
  | peek k ih => exact ih s
  | poke g k ih => exact ih

theorem ensures_mono {p : Prog Q R S α} {post post' : α → S → Prop} (h : ensures ans may p post s)
    (hpost : ∀ a s, post a s → post' a s) : ensures ans may p post' s := by
  induction p generalizing s with
  | ret a => exact hpost a s h
  | ask q k ih => exact ⟨h.1, fun r hr => ih r (h.2 r hr)⟩
  | peek k ih => exact ih s h
  | poke g k ih => exact ih h

theorem ensures_true (p : Prog Q R S α) : ensures ans (fun _ => True) p (fun _ _ => True) s := by
  induction p generalizing s with
  | ret a => trivial
  | ask q k ih => exact ⟨trivial, fun r _ => ih r⟩
  | peek k ih => exact ih s
  | poke g k ih => exact ih

theorem ensures_and {p : Prog Q R S α} {post post' : α → S → Prop} (h : ensures ans may p post s)
    (h' : ensures ans may p post' s) : ensures ans may p (fun a s' => post a s' ∧ post' a s') s := by
  induction p generalizing s with
  | ret a => exact ⟨h, h'⟩
  | ask q k ih => exact ⟨h.1, fun r hr => ih r (h.2 r hr) (h'.2 r hr)⟩
  | peek k ih => exact ih s h h'
  | poke g k ih => exact ih h h'

/-- The rule of sequencing. -/
theorem ensures_seq {p : Prog Q R S α} {f : α → Prog Q R S β} {mid : α → S → Prop} {post : β → S → Prop}
    (hp : ensures ans may p mid s) (hf : ∀ a s', mid a s' → ensures ans may (f a) post s') :
    ensures ans may (p >>= f) post s :=
  (ensures_bind p f post).2 (ensures_mono hp hf)

/-- Parts in order, up to the first that leaves with a value. -/
theorem ensures_firstError {p : Prog Q R S (Except γ Unit)} {ps : List (Prog Q R S (Except γ Unit))}
    {post : Except γ Unit → S → Prop}
    (h : ensures ans may p (fun r s' => match r with
      | .error c => post (.error c) s'
      | .ok () => ensures ans may (firstError ps) post s') s) :
    ensures ans may (firstError (p :: ps)) post s := by
  refine ensures_seq h fun r s' hr => ?_
  cases r with
  | error c => exact hr
  | ok u => exact hr

theorem ensures_always {p : Prog Q R S Unit} {post : Except γ Unit → S → Prop}
    (h : ensures ans may p (fun _ => post (.ok ())) s) : ensures ans may (always p) post s :=
  ensures_seq h fun _ _ hs => hs

/-- The program gives `x` and leaves the object as it is. -/
def Gives (ans : (q : Q) → R q → Prop) (may : Q → Prop) (p : Prog Q R S α) (x : α) (s : S) : Prop :=
  ensures ans may p (fun a s' => a = x ∧ s' = s) s

namespace Gives

variable {p : Prog Q R S α} {x : α}

theorem pure (x : α) : Gives ans may (Pure.pure x : Prog Q R S α) x s := ⟨rfl, rfl⟩

/-- What follows is told `x`. -/
theorem seq (h : Gives ans may p x s) {f : α → Prog Q R S β} {post : β → S → Prop}
    (hf : Prog.ensures ans may (f x) post s) : Prog.ensures ans may (p >>= f) post s := by
  refine ensures_seq h ?_
  rintro a s' ⟨rfl, rfl⟩
  exact hf

theorem bind (h : Gives ans may p x s) {f : α → Prog Q R S β} {y : β} (hf : Gives ans may (f x) y s) :
    Gives ans may (p >>= f) y s := h.seq hf

end Gives

/-- The rule of `for` loops: `inv i` speaks of what the passes before `i` have gathered, and the test
stops the loop at `n`. -/
theorem ensures_forLoop {more : Nat → Prog Q R S Bool} {body : Nat → β → Prog Q R S (Except γ β)} {n : Nat}
    (inv : Nat → β → S → Prop) (left : γ → S → Prop)
    (hmore : ∀ i acc s, i ≤ n → inv i acc s →
      ensures ans may (more i) (fun b s' => b = decide (i < n) ∧ inv i acc s') s)
    (hbody : ∀ i acc s, i < n → inv i acc s →
      ensures ans may (body i acc) (fun r => r.casesOn left (inv (i + 1))) s) :
    ∀ fuel i acc s, i ≤ n → n ≤ i + fuel → inv i acc s →
      ensures ans may (forLoop more body fuel i acc) (fun r => r.casesOn left (inv n)) s
  | 0, i, acc, s, hle, hfuel, hs => by
    obtain rfl : i = n := by omega
    exact hs
  | fuel + 1, i, acc, s, hle, hfuel, hs => by
    refine ensures_seq (hmore i acc s hle hs) ?_
    rintro b s' ⟨rfl, hs'⟩
    by_cases hi : i < n
    · rw [decide_eq_true hi, if_pos rfl]
      refine ensures_seq (hbody i acc s' hi hs') fun r s'' hs'' => ?_
      cases r with
      | error c => exact hs''
      | ok acc' => exact ensures_forLoop inv left hmore hbody fuel (i + 1) acc' s'' (by omega) (by omega) hs''
    · obtain rfl : i = n := by omega
      simpa using hs'

/-- The same for `for (int i = 0; i < size; i++)`. -/
theorem ensures_forInt {size : Int} {body : Nat → β → Prog Q R S (Except γ β)} (inv : Nat → β → S → Prop)
    (left : γ → S → Prop)
    (hbody : ∀ i acc s, i < size.toNat → inv i acc s →
      ensures ans may (body i acc) (fun r => r.casesOn left (inv (i + 1))) s) {acc : β} (h : inv 0 acc s) :
    ensures ans may (forLoop (fun i => pure (decide ((i : Int) < size))) body size.toNat 0 acc)
      (fun r => r.casesOn left (inv size.toNat)) s := by
  refine ensures_forLoop inv left (fun i acc s _ hi => ?_) hbody size.toNat 0 acc s (Nat.zero_le _) (by omega) h
  rw [ensures_pure, decide_eq_decide]
  constructor
  · omega
  · exact hi

end Rules

/-! ## What a program can change -/

/-- Each change that the program makes to the object goes along `ρ`. -/
def Moves (ρ : S → S → Prop) : Prog Q R S α → Prop
  | ret _ => True
  | ask _ k => ∀ r, Moves ρ (k r)
  | peek k => ∀ s, Moves ρ (k s)
  | poke f k => (∀ s, ρ s (f s)) ∧ Moves ρ k

namespace Moves

variable {ρ ρ' : S → S → Prop}

theorem pure (a : α) : Moves ρ (Pure.pure a : Prog Q R S α) := trivial

theorem ask (q : Q) : Moves ρ (Prog.ask q ret : Prog Q R S (R q)) := fun _ => trivial

theorem look : Moves ρ (Prog.look : Prog Q R S S) := fun _ => trivial

theorem change {f : S → S} (h : ∀ s, ρ s (f s)) : Moves ρ (Prog.change f : Prog Q R S Unit) := ⟨h, trivial⟩

theorem bind {p : Prog Q R S α} {f : α → Prog Q R S β} (hp : Moves ρ p) (hf : ∀ a, Moves ρ (f a)) :
    Moves ρ (p >>= f) := by
  show Moves ρ (Prog.bind p f)
  induction p with
  | ret a => exact hf a
  | ask q k ih => exact fun r => ih r (hp r)
  | peek k ih => exact fun s => ih s (hp s)
  | poke g k ih => exact ⟨hp.1, ih hp.2⟩

theorem mono {p : Prog Q R S α} (h : Moves ρ p) (hρ : ∀ s s', ρ s s' → ρ' s s') : Moves ρ' p := by
  induction p with
  | ret a => trivial
  | ask q k ih => exact fun r => ih r (h r)
  | peek k ih => exact fun s => ih s (h s)
  | poke g k ih => exact ⟨fun s => hρ _ _ (h.1 s), ih h.2⟩

theorem forLoop {more : Nat → Prog Q R S Bool} {body : Nat → β → Prog Q R S (Except γ β)}
    (hmore : ∀ i, Moves ρ (more i)) (hbody : ∀ i acc, Moves ρ (body i acc)) :
    ∀ fuel i acc, Moves ρ (Prog.forLoop more body fuel i acc)
  | 0, _, _ => trivial
  | fuel + 1, i, acc => by
    refine bind (hmore i) fun b => ?_
    cases b with
    | false => trivial
    | true =>
      refine bind (hbody i acc) fun r => ?_
      cases r with
      | error c => trivial
      | ok acc' => exact forLoop hmore hbody fuel (i + 1) acc'

theorem always {p : Prog Q R S Unit} (h : Moves ρ p) : Moves ρ (Prog.always p : Prog Q R S (Except γ Unit)) :=
  bind h fun _ => trivial

theorem firstError {ps : List (Prog Q R S (Except γ Unit))} (h : ∀ p ∈ ps, Moves ρ p) :
    Moves ρ (Prog.firstError ps) := by
  induction ps with
  | nil => trivial
  | cons p ps ih =>
    refine bind (h p List.mem_cons_self) fun r => ?_
    cases r with
    | error c => trivial
    | ok u => exact ih fun p' hp' => h p' (List.mem_cons_of_mem _ hp')

/-- A program that moves along a preorder ends somewhere above its start. -/
theorem ensures {p : Prog Q R S α} (h : Moves ρ p) (h0 : ∀ s, ρ s s)
    (htrans : ∀ s s' s'', ρ s s' → ρ s' s'' → ρ s s'') (s : S) : Prog.ensures ans (fun _ => True) p (fun _ => ρ s) s := by
  suffices hs : ∀ s₀, ρ s₀ s → Prog.ensures ans (fun _ => True) p (fun _ => ρ s₀) s from hs s (h0 s)
  intro s₀ hs₀
  induction p generalizing s with
  | ret a => exact hs₀
  | ask q k ih => exact ⟨trivial, fun r _ => ih r (h r) s hs₀⟩
  | peek k ih => exact ih s (h s) s hs₀
  | poke g k ih => exact ih h.2 (g s) (htrans _ _ _ hs₀ (h.1 s))

/-- However a run ends, its object has moved along the preorder. -/
theorem run {H : Answerer Q R E W} {p : Prog Q R S α} (h : Moves ρ p) (h0 : ∀ s, ρ s s)
    (htrans : ∀ s s' s'', ρ s s' → ρ s' s'' → ρ s s'') (s : S) (w : W) : ρ s (Prog.run H p s w).2.1 := by
  induction p generalizing s w with
  | ret a => exact h0 s
  | ask q k ih =>
    unfold Prog.run
    rcases H q w with ⟨e | r, w'⟩
    · exact h0 s
    · exact ih r (h r) s w'
  | peek k ih => exact ih s (h s) s w
  | poke g k ih => exact htrans _ _ _ (h.1 s) (ih h.2 (g s) w)

/-- What no change touches is as it was. -/
theorem keeps {f : S → T} {p : Prog Q R S α} (h : Moves (fun s s' => f s' = f s) p) (s : S) :
    Prog.ensures ans (fun _ => True) p (fun _ s' => f s' = f s) s :=
  h.ensures (fun _ => rfl) (fun _ _ _ hs hs' => hs'.trans hs) s

theorem run_keeps {H : Answerer Q R E W} {f : S → T} {p : Prog Q R S α} (h : Moves (fun s s' => f s' = f s) p)
    (s : S) (w : W) : f (Prog.run H p s w).2.1 = f s :=
  h.run (fun _ => rfl) (fun _ _ _ hs hs' => hs'.trans hs) s w

/-- Parts that move along a preorder, and then the others: the first lot may leave with a value as well. -/
theorem ensures_append {ps qs : List (Prog Q R S (Except γ Unit))} {post : Except γ Unit → S → Prop} {s : S}
    (hps : ∀ p ∈ ps, Moves ρ p) (h0 : ∀ s, ρ s s) (htrans : ∀ s s' s'', ρ s s' → ρ s' s'' → ρ s s'')
    (hleft : ∀ c s', ρ s s' → post (.error c) s')
    (hqs : ∀ s', ρ s s' → Prog.ensures ans (fun _ => True) (Prog.firstError qs) post s') :
    Prog.ensures ans (fun _ => True) (Prog.firstError (ps ++ qs)) post s := by
  suffices h : ∀ s', ρ s s' → Prog.ensures ans (fun _ => True) (Prog.firstError (ps ++ qs)) post s' from h s (h0 s)
  induction ps with
  | nil => exact hqs
  | cons p ps ih =>
    intro s' hs'
    refine ensures_firstError (ensures_mono ((hps p List.mem_cons_self).ensures h0 htrans s') fun r s'' hs'' => ?_)
    cases r with
    | error c => exact hleft c s'' (htrans _ _ _ hs' hs'')
    | ok u => exact ih (fun p' hp' => hps p' (List.mem_cons_of_mem _ hp')) s'' (htrans _ _ _ hs' hs'')

end Moves

-- the rules above are all that is used of the definition
attribute [irreducible] Moves

end Prog
