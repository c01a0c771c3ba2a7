/-
The reference counts of the log handlers. A call takes its reference from the function that the
record has then and returns it to the one the record has later, so the counts are right where a
record is overwritten only while no call holds a reference, and deleted only while no call is in
flight.
-/
import PulsarNode.Log.Handler

namespace PulsarNode.Log

variable {n : Nat} {s s' : State n}

/-! ## The holders of a function -/

/-- The record that a call in flight has read. -/
def Pc.record : Pc → Option RecordId
  | .idle => none
  | .read r | .acquired r | .called r => some r

/-- A call between its `Acquire` and its `Release`. -/
def Pc.weight : Pc → Nat
  | .acquired _ | .called _ => 1
  | _ => 0

namespace State

/-- The calls that hold a reference. -/
def users (s : State n) : Nat := total Pc.weight s.threads

/-- The function of the current record. -/
def installed (s : State n) : Option FnId := s.logCallback.bind fun r => (s.records r).callback

/-- The handler in force: once the old one is released, the new one. -/
def handler (s : State n) : Option FnId :=
  match s.writer with
  | .idle | .created _ => s.installed
  | .installing f => some f
  | .removing => none

/-- The reference of the JS thread. -/
def owned (s : State n) (f : FnId) : Nat := if s.handler = some f ∨ s.writer = .created f then 1 else 0

/-- The references of the calls. -/
def used (s : State n) (f : FnId) : Nat := if s.installed = some f then s.users else 0

theorem users_setPc (s : State n) (t : Fin n) (pc : Pc) :
    (s.setPc t pc).users + (s.threads t).weight = s.users + pc.weight :=
  total_update Pc.weight s.threads t pc

theorem users_setPc_eq {t : Fin n} {pc : Pc} (h : pc.weight = (s.threads t).weight) :
    (s.setPc t pc).users = s.users := by
  have hu := s.users_setPc t pc
  omega

theorem weight_le_users (s : State n) (t : Fin n) : (s.threads t).weight ≤ s.users :=
  weight_le_total Pc.weight s.threads t

theorem users_eq_zero (h : ∀ t, s.threads t = .idle) : s.users = 0 :=
  total_eq_zero.2 fun t => by rw [h t]; rfl

theorem used_eq_zero (h : s.users = 0) (f : FnId) : s.used f = 0 := by simp [used, h]

theorem installed_eq {r : RecordId} (hr : s.logCallback = some r) : s.installed = (s.records r).callback := by
  rw [installed, hr]
  rfl

end State

/-! ## The condition -/

/-- A record is overwritten while no call holds a reference, and deleted while no call is in
flight. -/
def Undisturbed (s : State n) (a : Action n) : Prop :=
  match a with
  | .overwrite => s.users = 0
  | .delete => ∀ t, s.threads t = .idle
  | _ => True

instance (s : State n) (a : Action n) : Decidable (Undisturbed s a) :=
  match a with
  | .overwrite => inferInstanceAs (Decidable (_ = 0))
  | .delete => inferInstanceAs (Decidable (∀ t, s.threads t = .idle))
  | .read _ | .acquire _ | .call _ | .release _ | .create | .releaseOld | .releaseLast | .closeFunction _
  | .finalize _ =>
    inferInstanceAs (Decidable True)

/-- The log handler where no call is disturbed. -/
def undisturbedMachine (n : Nat) : Machine (State n) (Action n) := (machine n).restrict Undisturbed

theorem undisturbedMachine_start : (undisturbedMachine n).start .init := rfl

/-! ## The invariant -/

/-- What holds after any step that disturbs no call. -/
structure CountInv (s : State n) : Prop where
  fault : s.fault ≠ some .recordDeleted
  underflow : s.underflow = false
  count : ∀ f, f < s.made → (s.fns f).count = s.owned f + s.used f
  closed : ∀ f, (s.fns f).closing = true → (s.fns f).count = 0
  record : ∀ r, s.logCallback = some r → r < s.allocated ∧ (s.records r).deleted = false
  inFlight : ∀ t r, (s.threads t).record = some r → s.logCallback = some r
  made : ∀ f, s.installed = some f → f < s.made
  created : ∀ f, s.writer = .created f ∨ s.writer = .installing f → f < s.made ∧ s.installed ≠ some f

namespace CountInv

theorem init : CountInv (State.init : State n) where
  fault := nofun
  underflow := rfl
  count f hf := absurd hf (Nat.not_lt_zero f)
  closed _ _ := rfl
  record := nofun
  inFlight := nofun
  made := nofun
  created f h := by rcases h with h | h <;> cases h

/-- A call that comes in has read the current record. -/
theorem inFlight_setPc (h : CountInv s) {t : Fin n} {pc : Pc}
    (hr : ∀ r, pc.record = some r → s.logCallback = some r) :
    ∀ u r, ((s.setPc t pc).threads u).record = some r → s.logCallback = some r :=
  (Function.forall_update_iff s.threads fun _ pc => ∀ r, pc.record = some r → s.logCallback = some r).2
    ⟨hr, fun u _ => h.inFlight u⟩

/-- A native thread takes a step that leaves the number of references as it is. -/
theorem setPc (h : CountInv s) {t : Fin n} {pc : Pc} (hw : pc.weight = (s.threads t).weight)
    (hr : ∀ r, pc.record = some r → s.logCallback = some r) : CountInv (s.setPc t pc) := by
  have hu := State.users_setPc_eq (s := s) hw
  refine { h with count := fun f hf => ?_, inFlight := h.inFlight_setPc hr }
  have hc := h.count f hf
  unfold State.used at hc ⊢
  rw [hu]
  exact hc

theorem fail (h : CountInv s) {f : Fault} (hf : f ≠ .recordDeleted) : CountInv (s.fail f) :=
  { h with fault := fun he => hf (Option.some.inj he) }

/-- The function that the record of a call has is the installed one. -/
theorem installed_of_call (h : CountInv s) {t : Fin n} {r : RecordId} {f : FnId}
    (hr : (s.threads t).record = some r) (hf : (s.records r).callback = some f) : s.installed = some f :=
  (State.installed_eq (h.inFlight t r hr)).trans hf

/-- The count of the installed function, and what it leaves for the other functions. -/
theorem count_installed (h : CountInv s) {f : FnId} (hi : s.installed = some f) :
    (s.fns f).count = s.owned f + s.users := by
  have hc := h.count f (h.made f hi)
  rwa [State.used, if_pos hi] at hc

theorem count_other (h : CountInv s) {f g : FnId} (hi : s.installed = some f) (hg : g < s.made) (hne : g ≠ f) :
    (s.fns g).count = s.owned g := by
  have hc := h.count g hg
  rwa [State.used, if_neg (fun he => hne (Option.some.inj (he.symm.trans hi))), Nat.add_zero] at hc

/-- A function that is stored without references when it is closing keeps the others so. -/
theorem closed_setFn (h : CountInv s) {f : FnId} {x : Tsfn} (hx : x.closing = true → x.count = 0) :
    ∀ g, ((s.setFn f x).fns g).closing = true → ((s.setFn f x).fns g).count = 0 :=
  (Function.forall_update_iff s.fns fun _ x => x.closing = true → x.count = 0).2 ⟨hx, fun g _ => h.closed g⟩

/-- The installed function and a thread change together. -/
theorem setFn_setPc (h : CountInv s) {t : Fin n} {pc : Pc} {f : FnId} {x : Tsfn} (hi : s.installed = some f)
    (hx : x.count = s.owned f + (s.setPc t pc).users) (hc : x.closing = true → x.count = 0)
    (hr : ∀ r, pc.record = some r → s.logCallback = some r) : CountInv ((s.setFn f x).setPc t pc) := by
  refine { h with
    count := fun g hg => ?_
    closed := h.closed_setFn hc
    inFlight := h.inFlight_setPc hr }
  change ((s.setFn f x).fns g).count = s.owned g + if s.installed = some g then (s.setPc t pc).users else 0
  by_cases hgf : g = f
  · subst hgf
    rw [State.fns_setFn_self, if_pos hi]
    exact hx
  · rw [State.fns_setFn_of_ne s hgf, h.count_other hi hg hgf,
      if_neg fun he => hgf (Option.some.inj (he.symm.trans hi)), Nat.add_zero]

/-- The JS thread gives up its reference to the installed function. -/
theorem releaseFn (h : CountInv s) {f : FnId} {w : Writer} (hi : s.installed = some f) (hown : s.owned f = 1)
    (hown' : ∀ g, State.owned { s with writer := w } g = if g = f then 0 else s.owned g)
    (hcr : ∀ g, w = .created g ∨ w = .installing g → s.writer = .created g) :
    CountInv { s.releaseFn f with writer := w } := by
  have hcount := h.count_installed hi
  rw [State.releaseFn_eq (by omega)]
  refine { h with count := fun g hg => ?_, closed := fun g hg => ?_, created := fun g hg => ?_ }
  · change ((s.setFn f _).fns g).count = State.owned { s with writer := w } g +
      if s.installed = some g then s.users else 0
    rw [hown']
    by_cases hgf : g = f
    · subst hgf
      rw [State.fns_setFn_self, if_pos rfl, if_pos hi]
      dsimp only
      omega
    · rw [State.fns_setFn_of_ne s hgf, if_neg hgf, h.count_other hi hg hgf,
        if_neg fun he => hgf (Option.some.inj (he.symm.trans hi)), Nat.add_zero]
  · refine h.closed_setFn (fun hc => ?_) g hg
    dsimp only
    rw [h.closed f hc]
  · exact h.created g (.inl (hcr g hg))

theorem create (h : CountInv s) (hw : s.writer = .idle) : CountInv { s with
    fns := Function.update s.fns s.made .new, made := s.made + 1, writer := .created s.made } := by
  have hne : s.installed ≠ some s.made := fun hi => absurd (h.made _ hi) (Nat.lt_irrefl _)
  refine { h with
    count := fun g hg => ?_
    closed := fun g hg => ?_
    made := fun f hf => (h.made f hf).trans (Nat.lt_succ_self _)
    created := fun f hf => ?_ }
  · change ((Function.update s.fns s.made .new) g).count =
      (if s.installed = some g ∨ Writer.created s.made = .created g then 1 else 0) + s.used g
    by_cases hgm : g = s.made
    · subst hgm
      rw [Function.update_self, if_pos (.inr rfl), State.used, if_neg hne]
      rfl
    · have hlt : g < s.made := lt_of_le_of_ne (Nat.lt_succ_iff.1 hg) hgm
      have hown : s.owned g = if s.installed = some g ∨ Writer.created s.made = .created g then 1 else 0 := by
        simp [State.owned, State.handler, hw, Ne.symm hgm]
      rw [Function.update_of_ne hgm, h.count g hlt, hown]
  · exact h.closed_setFn (f := s.made) (x := .new) (by rintro ⟨⟩) g hg
  · rcases hf with hf | hf <;> cases hf
    exact ⟨Nat.lt_succ_self _, hne⟩

theorem allocate (h : CountInv s) {f : FnId} (hw : s.writer = .created f) (hr : s.logCallback = none) :
    CountInv { s with
      records := Function.update s.records s.allocated ⟨none, false⟩, allocated := s.allocated + 1
      logCallback := some s.allocated, writer := .installing f } := by
  have hi : s.installed = none := by rw [State.installed, hr]; rfl
  have hi' : State.installed { s with
      records := Function.update s.records s.allocated ⟨none, false⟩, allocated := s.allocated + 1
      logCallback := some s.allocated, writer := .installing f } = none := by
    simp [State.installed]
  refine { h with
    count := fun g hg => ?_
    record := fun r hr' => ?_
    inFlight := fun t r ht => ?_
    made := fun g hg => by rw [hi'] at hg; cases hg
    created := fun g hg => ?_ }
  · have hc := h.count g hg
    rw [State.used, if_neg (by rw [hi]; nofun)] at hc
    rw [State.used, if_neg (by rw [hi']; nofun)]
    have hown : s.owned g = if some f = some g then 1 else 0 := by
      simp [State.owned, State.handler, hw, hi]
    rw [hown] at hc
    simpa [State.owned, State.handler] using hc
  · cases hr'
    exact ⟨Nat.lt_succ_self _, by simp⟩
  · rw [h.inFlight t r ht] at hr
    cases hr
  · rcases hg with hg | hg <;> cases hg
    exact ⟨(h.created f (.inl hw)).1, by rw [hi']; nofun⟩

theorem overwrite (h : CountInv s) {f : FnId} {r : RecordId} (hw : s.writer = .installing f)
    (hr : s.logCallback = some r) (hu : s.users = 0) : CountInv { s with
      records := Function.update s.records r { s.records r with callback := some f }, writer := .idle } := by
  have hi : State.installed { s with
      records := Function.update s.records r { s.records r with callback := some f }, writer := .idle } =
      some f := by
    simp [State.installed, hr]
  have hlt := (h.created f (.inr hw)).1
  refine { h with
    count := fun g hg => ?_
    record := fun r' hr' => ?_
    made := fun g hg => by rw [hi] at hg; cases hg; exact hlt
    created := fun g hg => by rcases hg with hg | hg <;> cases hg }
  · have hown : s.owned g = if some f = some g then 1 else 0 := by simp [State.owned, State.handler, hw]
    have hc := h.count g hg
    -- no call holds a reference, so the change of the record moves none
    rw [State.used_eq_zero hu, hown] at hc
    refine hc.trans (congrArg₂ (· + ·) ?_ (State.used_eq_zero (by exact hu) g).symm)
    simp [State.owned, State.handler, hi]
  · rw [show s.logCallback = _ from hr'] at hr
    cases hr
    obtain ⟨hlt, hd⟩ := h.record r hr'
    exact ⟨hlt, by simpa using hd⟩

theorem delete (h : CountInv s) {r : RecordId} (hw : s.writer = .removing) (hidle : ∀ t, s.threads t = .idle) :
    CountInv { s with
      records := Function.update s.records r { s.records r with deleted := true }
      logCallback := none, writer := .idle } := by
  have hu := State.users_eq_zero hidle
  refine { h with
    count := fun g hg => ?_
    record := nofun
    inFlight := fun t r' ht => ?_
    made := nofun
    created := fun g hg => by rcases hg with hg | hg <;> cases hg }
  · have hc := h.count g hg
    simpa [State.owned, State.handler, State.used, State.installed, hw, hu] using hc
  · rw [show s.threads t = _ from hidle t] at ht
    cases ht

theorem closeFunction (h : CountInv s) {f : FnId} (hc : (s.fns f).count = 0) :
    CountInv (s.setFn f (s.fns f).close) := by
  refine { h with count := fun g hg => ?_, closed := h.closed_setFn fun _ => hc }
  change ((s.setFn f (s.fns f).close).fns g).count = s.owned g + s.used g
  rw [← h.count g hg]
  by_cases hgf : g = f
  · subst hgf
    rw [State.fns_setFn_self, Tsfn.count_close]
  · rw [State.fns_setFn_of_ne s hgf]

/-- Every step that disturbs no call keeps the invariant. -/
theorem step {a : Action n} (h : CountInv s) (hok : Undisturbed s a) (hs : Step s a s') : CountInv s' := by
  cases hs with
  | noRecord => exact h
  | read hpc hr =>
    refine h.setPc (by rw [hpc]; rfl) ?_
    rintro r' hr'
    cases hr'
    exact hr
  | @deleted _ t r hpc hd =>
    have hr : (s.threads t).record = some r := by rcases hpc with hpc | hpc | hpc <;> rw [hpc] <;> rfl
    rw [(h.record r (h.inFlight t r hr)).2] at hd
    cases hd
  | writerDeleted hr hd =>
    rw [(h.record _ hr).2] at hd
    cases hd
  | unusable he => exact h.fail he
  | refused hpc => exact h.setPc (by rw [hpc]; rfl) nofun
  | @acquired t r f hpc hf hc =>
    have hr : (s.threads t).record = some r := by rw [hpc]; rfl
    have hi := h.installed_of_call hr hf
    have hu := s.users_setPc t (.acquired r)
    have hcount := h.count_installed hi
    rw [hpc] at hu
    refine h.setFn_setPc hi ?_ nofun ?_
    · dsimp only [Pc.weight] at hu ⊢
      omega
    · rintro r' hr'
      cases hr'
      exact h.inFlight t r hr
  | @callClosing t r f hpc hf hc =>
    -- the call holds a reference, so the function is not closing
    have hi := h.installed_of_call (t := t) (by rw [hpc]; rfl) hf
    have hcount := h.count_installed hi
    have hle := s.weight_le_users t
    rw [hpc] at hle
    rw [h.closed f hc] at hcount
    dsimp only [Pc.weight] at hle
    omega
  | @called t r hpc =>
    refine h.setPc (by rw [hpc]; rfl) ?_
    rintro r' hr'
    cases hr'
    exact h.inFlight t r (by rw [hpc]; rfl)
  | @release t r f hpc hf =>
    have hi := h.installed_of_call (t := t) (by rw [hpc]; rfl) hf
    have hcount := h.count_installed hi
    have hle := s.weight_le_users t
    have hu := s.users_setPc t .idle
    rw [hpc] at hle hu
    dsimp only [Pc.weight] at hle hu
    rw [State.releaseFn_eq (by omega)]
    refine h.setFn_setPc hi ?_ (fun hc => ?_) nofun
    · dsimp only
      omega
    · have hzero := h.closed f hc
      dsimp only
      omega
  | create hw => exact h.create hw
  | @releaseOld f g r hw hr hg =>
    have hi := (State.installed_eq hr).trans hg
    -- the new function is in no record yet
    have hne : f ≠ g := by
      rintro rfl
      exact (h.created f (.inl hw)).2 hi
    refine h.releaseFn hi (by simp [State.owned, State.handler, hw, hi]) (fun g' => ?_) ?_
    · by_cases hg' : g' = g
      · subst hg'
        simp [State.owned, State.handler, hne]
      · simp [State.owned, State.handler, hw, hi, hg', Ne.symm hg']
    · rintro g' (hg' | hg') <;> cases hg'
      exact hw
  | allocate hw hr => exact h.allocate hw hr
  | overwrite hw hr => exact h.overwrite hw hr hok
  | @releaseLast g r hw hr hg =>
    have hi := (State.installed_eq hr).trans hg
    refine h.releaseFn hi (by simp [State.owned, State.handler, hw, hi]) (fun g' => ?_) ?_
    · by_cases hg' : g' = g
      · subst hg'
        simp [State.owned, State.handler]
      · simp [State.owned, State.handler, hw, hi, Ne.symm hg']
    · rintro g' (hg' | hg') <;> cases hg'
  | delete hw hr => exact h.delete hw hok
  | closeFunction hf hc => exact h.closeFunction hc
  | finalize => exact { h with }

end CountInv

theorem countInv_reachable (h : (undisturbedMachine n).Reachable s) : CountInv s :=
  h.invariantWhere (fun _ h0 => h0 ▸ CountInv.init) fun _ _ _ hI hok hs => hI.step hok (Step.of_step hs).2

/-! ## The handler in force -/

/-- What the log handlers promise in a state. -/
structure HandlersKept (s : State n) : Prop where
  /-- With no call in flight the handler in force has its one reference. -/
  inForce : (∀ t, s.threads t = .idle) → ∀ f, s.handler = some f → (s.fns f).count = 1
  /-- With no call in flight a handler that was replaced or removed has none. -/
  past : (∀ t, s.threads t = .idle) → ∀ f, f < s.made → s.handler ≠ some f → s.writer ≠ .created f →
    (s.fns f).count = 0
  underflow : s.underflow = false
  record : s.fault ≠ some .recordDeleted
  /-- The handler in force takes messages. -/
  receives : ∀ f, s.handler = some f → (s.fns f).closing = false

/-- In every run that disturbs no call the log handlers are kept. -/
theorem handlersKept_reachable (h : (undisturbedMachine n).Reachable s) : HandlersKept s := by
  have hI := countInv_reachable h
  have hused : (∀ t, s.threads t = .idle) → ∀ f, s.used f = 0 := fun hidle =>
    State.used_eq_zero (State.users_eq_zero hidle)
  have hmade : ∀ f, s.handler = some f → f < s.made := by
    intro f hf
    unfold State.handler at hf
    split at hf
    · exact hI.made f hf
    · exact hI.made f hf
    · rename_i g hw
      cases hf
      exact (hI.created f (.inr hw)).1
    · cases hf
  have hcount : ∀ f, s.handler = some f → (s.fns f).count = 1 + s.used f := by
    intro f hf
    rw [hI.count f (hmade f hf), State.owned, if_pos (.inl hf)]
  exact {
    inForce := fun hidle f hf => by rw [hcount f hf, hused hidle f]
    past := fun hidle f hlt hne hw => by
      rw [hI.count f hlt, hused hidle f, State.owned, if_neg (not_or.2 ⟨hne, hw⟩)]
    underflow := hI.underflow
    record := hI.fault
    receives := fun f hf => by
      by_contra hc
      have hzero := hI.closed f (by simpa using hc)
      have hone := hcount f hf
      omega }

/-- A handler is set, takes a message, is replaced and removed. -/
def setReplacedRemoved : State 1 :=
  (undisturbedMachine 1).runFrom .init
    [.create, .releaseOld, .overwrite, .read sole, .acquire sole, .create, .call sole, .releaseOld,
      .release sole, .overwrite, .read sole, .acquire sole, .call sole, .release sole, .closeFunction 0,
      .releaseLast, .delete]

theorem handlersKept_setReplacedRemoved :
    setReplacedRemoved.made = 2 ∧ setReplacedRemoved.logCallback = none ∧ HandlersKept setReplacedRemoved :=
  ⟨by decide, by decide, handlersKept_reachable (.runFrom (.start undisturbedMachine_start) _)⟩

/-- The handler is replaced while a call is between its `Acquire` and its `Release`. -/
def replacedUnderCall : State 1 :=
  (machine 1).runFrom .init
    [.create, .releaseOld, .overwrite, .read sole, .acquire sole, .create, .releaseOld, .overwrite,
      .call sole, .release sole]

/-- The handler is removed while a call has read its record. -/
def removedUnderCall : State 1 :=
  (machine 1).runFrom .init
    [.create, .releaseOld, .overwrite, .read sole, .releaseLast, .delete, .acquire sole]

/-- The old handler keeps a reference, the new one has none; and a deleted record is used. -/
theorem disturbed_calls :
    ((machine 1).Reachable replacedUnderCall ∧ replacedUnderCall.threads sole = .idle ∧
        replacedUnderCall.handler = some 1 ∧ (replacedUnderCall.fns 1).count = 0 ∧
        (replacedUnderCall.fns 0).count = 1 ∧ ¬ HandlersKept replacedUnderCall) ∧
      (machine 1).Reachable removedUnderCall ∧ removedUnderCall.fault = some .recordDeleted := by
  refine ⟨⟨.runFrom (.start machine_start) _, by decide, by decide, by decide, by decide, ?_⟩,
    .runFrom (.start machine_start) _, by decide⟩
  intro h
  have hone := h.inForce (by decide) 1 (by decide)
  revert hone
  decide

end PulsarNode.Log
