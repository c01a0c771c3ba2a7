/-
The lifetimes of the record and the wrapper. A thread between its entry and `Acquire` holds nothing
that keeps the record, and a job holds nothing that keeps the wrapper, so both may be used too late;
they are not where the record is deleted only while no thread reads it, and the wrapper is collected
only while no job can come for it.
-/
import PulsarNode.Listener.Misuse

namespace PulsarNode.Listener

variable {n : Nat} {k : Kind} {own : WrapperPtr} {al : Allowed} {s s' : State n} {φ : Fin n → Phase}

/-! ## Threads on their way -/

/-- The thread reads the record before it holds the function. -/
def Thread.reads (th : Thread) : Bool :=
  match th.pc with
  | .entered _ | .read _ _ => true
  | _ => false

/-- The thread would queue a job for the wrapper if `Acquire` let it. -/
def Thread.aims (th : Thread) : Bool :=
  match th.pc with
  | .entered _ => true
  | .read _ p => p.isSome
  | _ => false

/-- The thread is going to queue a job for the wrapper. -/
def Thread.commits (th : Thread) : Bool :=
  match th.pc with
  | .acquired _ p => p.isSome
  | _ => false

/-- The record is deleted while no thread reads it, and read by no later delivery; the wrapper is
collected while no job for it is queued, no promise of a consumer's listener is pending, and no
thread can queue a job for it any more. The promises of the listener go the way of the built-in
`then`. -/
def KeepsAlive (k : Kind) (s : State n) (a : Action n) : Prop :=
  match a with
  | .deliver _ _ => s.recordDeleted = false ∧ (s.wrapper = .destroyed → s.tsfn.closing = true)
  | .listenerReturns o => (Action.listenerReturns o : Action n).strays k = false
  | .finalize => ∀ t, (s.threads t).reads = false
  | .collect =>
    (∀ j ∈ s.queue, j.wrapper = none) ∧ (k = .consumer → s.pending = []) ∧
      (∀ t, (s.threads t).commits = false) ∧ (s.tsfn.closing = true ∨ ∀ t, (s.threads t).aims = false)
  | _ => True

instance (k : Kind) (s : State n) (a : Action n) : Decidable (KeepsAlive k s a) :=
  match a with
  | .deliver _ _ =>
    inferInstanceAs (Decidable (s.recordDeleted = false ∧ (s.wrapper = .destroyed → s.tsfn.closing = true)))
  | .listenerReturns _ => inferInstanceAs (Decidable (_ = _))
  | .finalize => inferInstanceAs (Decidable (∀ t, (s.threads t).reads = false))
  | .collect => inferInstanceAs (Decidable ((∀ j ∈ s.queue, j.wrapper = none) ∧ (k = .consumer → s.pending = []) ∧
      (∀ t, (s.threads t).commits = false) ∧ (s.tsfn.closing = true ∨ ∀ t, (s.threads t).aims = false)))
  | .readPointer _ | .acquire _ | .blockingCall _ | .release _ | .wake _ | .dispatch | .settle ..
  | .callBack .. | .createOk | .createFail | .publish | .close | .forget | .closeFunction =>
    inferInstanceAs (Decidable True)

theorem KeepsAlive.not_strays {a : Action n} (h : KeepsAlive k s a) : a.strays k = false := by
  cases a with
  | listenerReturns o => exact h
  | _ => rfl

def carefulMachine (k : Kind) (own : WrapperPtr) (n : Nat) : Machine (State n) (Action n) :=
  (machine k own n).restrict (KeepsAlive k)

/-- Where no thread has the property `f`, and a step of one thread does not bring it about, no thread
has it after the step. -/
theorem State.none_setThread {f : Thread → Bool} {t : Fin n} {th : Thread} (h : ∀ u, f (s.threads u) = false)
    (ht : f th = true → f (s.threads t) = true) : ∀ u, f ((s.setThread t th).threads u) = false := by
  refine (Function.forall_update_iff s.threads fun _ th => f th = false).2 ⟨?_, fun u _ => h u⟩
  by_contra hth
  have hold := ht (by simpa using hth)
  rw [h t] at hold
  cases hold

/-! ## The invariant -/

/-- Nothing is left that would use the record or the wrapper too late. -/
structure LifeInv (k : Kind) (s : State n) : Prop where
  fault : s.fault = none
  record : s.recordDeleted = true → ∀ t, (s.threads t).reads = false
  queue : s.wrapper = .destroyed → ∀ j ∈ s.queue, j.wrapper = none
  pending : s.wrapper = .destroyed → k = .consumer → s.pending = []
  commits : s.wrapper = .destroyed → ∀ t, (s.threads t).commits = false
  aims : s.wrapper = .destroyed → s.tsfn.closing = true ∨ ∀ t, (s.threads t).aims = false

namespace LifeInv

theorem init : LifeInv k (State.init : State n) where
  fault := rfl
  record := nofun
  queue := nofun
  pending := nofun
  commits := nofun
  aims := nofun

/-- A thread takes a step on which it comes no nearer to the record or the wrapper. -/
theorem setThread (h : LifeInv k s) {t : Fin n} {th : Thread}
    (hr : s.recordDeleted = true → th.reads = true → (s.threads t).reads = true)
    (hc : s.wrapper = .destroyed → th.commits = true → (s.threads t).commits = true)
    (ha : s.wrapper = .destroyed → s.tsfn.closing = false → th.aims = true → (s.threads t).aims = true) :
    LifeInv k (s.setThread t th) where
  fault := h.fault
  record hd := State.none_setThread (h.record hd) (hr hd)
  queue := h.queue
  pending := h.pending
  commits hw := State.none_setThread (h.commits hw) (hc hw)
  aims hw := by
    cases hcl : s.tsfn.closing with
    | true => exact .inl hcl
    | false =>
      have hall : ∀ t, (s.threads t).aims = false := (h.aims hw).resolve_left (by rw [hcl]; decide)
      exact .inr (State.none_setThread hall (ha hw hcl))

/-- A thread takes a step after which it needs neither. -/
theorem setPast (h : LifeInv k s) {t : Fin n} {th : Thread} (hr : th.reads = false) (hc : th.commits = false)
    (ha : th.aims = false) : LifeInv k (s.setThread t th) := by
  refine h.setThread (fun _ hth => ?_) (fun _ hth => ?_) fun _ _ hth => ?_
  · rw [hr] at hth
    cases hth
  · rw [hc] at hth
    cases hth
  · rw [ha] at hth
    cases hth

/-- The JS thread notes an event on a thread. -/
theorem log (h : LifeInv k s) (t : Fin n) (e : Event) : LifeInv k (s.setThread t ((s.threads t).log e)) :=
  h.setThread (fun _ => id) (fun _ => id) fun _ _ => id

theorem finish (h : LifeInv k s) (j : Job n) : LifeInv k (State.finish j s) := h.log ..

theorem signal (h : LifeInv k s) {j : Job n} (hf : (State.signal j s).fault = none) : LifeInv k (State.signal j s) := by
  unfold State.signal at hf ⊢
  dsimp only at hf ⊢
  split
  · exact h.setThread (fun _ => id) (fun _ => id) fun _ _ => id
  · rename_i hne
    rw [if_neg hne] at hf
    cases hf

/-- No step that keeps the record and the wrapper alive faults. -/
theorem step_fault {a : Action n} (h : LifeInv k s) (hF : FnInv k own s) (hJ : JobInv own al s φ)
    (hnull : k = .consumer → ¬ al.null) (hs : Step k own s a s') : s'.fault = none := by
  rcases hs.fault hF hJ hnull with hf | ⟨f, -, hm⟩
  · rw [hf, h.fault]
  · cases hm with
    | @readPointer t m hpc hd | @acquire t m p hpc hd =>
      have hr := h.record hd t
      rw [Thread.reads, hpc] at hr
      cases hr
    | dispatch hj hp hw => exact absurd (h.queue hw _ hj) hp
    | settle hk hj hw =>
      rw [h.pending hw hk] at hj
      cases hj

theorem step {a : Action n} (h : LifeInv k s) (hF : FnInv k own s) (hok : KeepsAlive k s a)
    (hs : Step k own s a s') (hf : s'.fault = none) : LifeInv k s' := by
  cases hs with
  | deliver hpc =>
    refine h.setThread (fun hd => ?_) (fun _ => by rintro ⟨⟩) fun hw hcl => ?_
    · rw [hok.1] at hd
      cases hd
    · rw [hok.2 hw] at hcl
      cases hcl
  | readPointer hpc hd hp =>
    refine h.setThread (fun _ _ => by rw [Thread.reads, hpc]) (fun _ => by rintro ⟨⟩) fun _ _ _ => by rw [Thread.aims, hpc]
  | refused hpc hc => exact h.setPast rfl rfl rfl
  | @acquired t m p hpc hc =>
    -- with the wrapper gone and the function open, the thread has a null pointer
    have hset : LifeInv k (s.setThread t { s.threads t with pc := .acquired m p, ready := false }) := by
      refine h.setThread (fun _ => by rintro ⟨⟩) (fun hw hth => ?_) fun _ _ => by rintro ⟨⟩
      have haims := (h.aims hw).resolve_left (by rw [hc]; rintro ⟨⟩) t
      rw [Thread.aims, hpc] at haims
      rw [Thread.commits] at hth
      exact absurd (haims.symm.trans hth) (by rintro ⟨⟩)
    refine { hset with aims := fun hw => ?_ }
    refine .inr ((hset.aims hw).resolve_left ?_)
    change s.tsfn.closing ≠ true
    rw [hc]
    rintro ⟨⟩
  | @callClosing t m p hpc hc =>
    -- a thread that holds the function keeps it open
    rw [hF.open_of_holds (t := t) (by rw [Thread.holds, hpc])] at hc
    cases hc
  | @queued t m p hpc =>
    have hset : LifeInv k (s.setThread t ({ s.threads t with pc := .called m }.log (.queued m))) :=
      h.setPast rfl rfl rfl
    refine { hset with queue := fun hw j hj => ?_ }
    rcases List.mem_append.1 hj with hj | hj
    · exact h.queue hw j hj
    · rw [List.mem_singleton.1 hj]
      have hc : p.isSome = false := by simpa [Thread.commits, hpc] using h.commits hw t
      cases p with
      | none => rfl
      | some q => cases hc
  | @release t m hpc =>
    have hset : LifeInv k (s.setThread t { s.threads t with pc := .waiting m }) :=
      h.setPast rfl rfl rfl
    exact { hset with aims := fun hw => (hset.aims hw).imp_left ((Tsfn.closing_drop _).trans) }
  | wake hpc hr => exact h.setPast rfl rfl rfl
  -- a listener is called with a live wrapper, and keeps it while it runs
  | @call j rest p hr hq hw halive =>
    have hlog := h.log j.thread (.called j.msg p)
    exact { hlog with queue := fun hw => by rw [show s.wrapper = _ from hw] at halive; cases halive }
  | @skip j rest hr hq hw hk =>
    have hlog := h.log j.thread (.skipped j.msg)
    have hrest : LifeInv k { s.setThread j.thread ((s.threads j.thread).log (.skipped j.msg)) with queue := rest } :=
      { hlog with queue := fun hw j' hj' => h.queue hw j' (by rw [hq]; exact List.mem_cons_of_mem _ hj') }
    exact hrest.signal hf
  | @ends j o hr ho =>
    have hdone : LifeInv k { s with running := none } := { h with }
    exact (hdone.finish j).signal hf
  | @throwsReader j hr hk =>
    have hdone : LifeInv k { s with running := none } := { h with }
    exact hdone.finish j
  | promise hr =>
    have halive := (hF.running (by rw [hr]; rintro ⟨⟩)).2
    exact { h with pending := fun hw => by rw [show s.wrapper = _ from hw] at halive; cases halive }
  | escapes hr hk | keeps hr => exact { h with }
  | @signals j hj => exact (h.finish j).signal hf
  | logs hj hk => exact h
  | @settles j b hj hr hb =>
    have hdone : LifeInv k { s with pending := s.pending.erase j } :=
      { h with pending := fun hw hk => by rw [h.pending hw hk] at hj; cases hj }
    exact (hdone.finish j).signal hf
  | @rejectsReader j hj hr hk =>
    have hdone : LifeInv k { s with pending := s.pending.erase j } :=
      { h with pending := fun hw hk => by rw [h.pending hw hk] at hj; cases hj }
    exact hdone.finish j
  | createFail hh | close hh =>
    exact { h with aims := fun hw => (h.aims hw).imp_left ((Tsfn.closing_drop _).trans) }
  | publish hh hr => exact { h with
      queue := by rintro ⟨⟩
      pending := by rintro ⟨⟩
      commits := by rintro ⟨⟩
      aims := by rintro ⟨⟩ }
  | collect hw hs hj =>
    exact { h with
      queue := fun _ => hok.1
      pending := fun _ => hok.2.1
      commits := fun _ => hok.2.2.1
      aims := fun _ => hok.2.2.2 }
  | closeFunction hc hq => exact { h with aims := fun _ => .inl rfl }
  | finalize hc hr => exact { h with record := fun _ => hok }
  | createOk hh | forget hr => exact { h with }
  | _ => cases hf

end LifeInv

theorem lifeInv_reachable (h : (carefulMachine k own n).Reachable s) : LifeInv k s := by
  have hJ : ∀ {s}, (carefulMachine k own n).Reachable s →
      ∃ φ, JobInv own ⟨k = .reader, k = .reader⟩ s φ := by
    intro s hr
    have hr : ((machine k own n).restrict (KeepsAlive k)).Reachable s := hr
    exact jobInv_reachable (fun _ _ hk _ _ => hk) (fun _ hk _ => hk) (fun _ _ hk _ => hk)
      (fun _ _ hok => hok.not_strays) hr
  refine h.invariant (I := LifeInv k) ?_ ?_
  · rintro s rfl
    exact LifeInv.init
  · intro s a s' hr hI hs
    obtain ⟨hok, hs⟩ := Machine.restrict_step hs
    obtain ⟨φ, hJ⟩ := hJ hr
    have hF := fnInv_reachable hr.unrestrict
    have hs := (Step.of_step hs).2
    exact hI.step hF hok hs (hI.step_fault hF hJ (by rintro rfl; nofun) hs)

/-- In every run that keeps the record and the wrapper alive, neither is ever used too late. -/
theorem alive_reachable (h : (carefulMachine k own n).Reachable s) : s.fault = none :=
  (lifeInv_reachable h).fault

/-- A consumer that is closed after its only delivery, let go and collected. -/
def orderlyEnd : State 1 :=
  (carefulMachine .consumer 9 1).runFrom .init
    [.createOk, .publish, .deliver sole 5, .readPointer sole, .acquire sole, .blockingCall sole, .dispatch,
      .release sole, .listenerReturns .value, .wake sole, .close, .closeFunction, .finalize, .forget, .collect]

theorem carefulMachine_start : (carefulMachine k own n).start .init := rfl

theorem alive_orderlyEnd :
    orderlyEnd.wrapper = .destroyed ∧ orderlyEnd.recordDeleted = true ∧ orderlyEnd.fault = none :=
  ⟨by decide, by decide, alive_reachable (k := .consumer) (.runFrom (.start carefulMachine_start) _)⟩

/-- A consumer is closed while a delivery has begun; its record is gone when the thread reads it. -/
def closedUnderDelivery : State 1 :=
  (machine .consumer 9 1).runFrom .init
    [.createOk, .publish, .deliver sole 5, .close, .closeFunction, .finalize, .readPointer sole]

/-- A consumer is closed, let go and collected while a job is queued; its wrapper is gone when the
proxy uses it. -/
def collectedUnderJob : State 1 :=
  (machine .consumer 9 1).runFrom .init
    [.createOk, .publish, .deliver sole 5, .readPointer sole, .acquire sole, .blockingCall sole,
      .release sole, .close, .forget, .collect, .dispatch]

theorem used_too_late :
    ((machine .consumer 9 1).Reachable closedUnderDelivery ∧ closedUnderDelivery.fault = some .recordDeleted) ∧
      (machine .consumer 9 1).Reachable collectedUnderJob ∧ collectedUnderJob.fault = some .wrapperDestroyed :=
  ⟨⟨.runFrom (.start machine_start) _, by decide⟩, .runFrom (.start machine_start) _, by decide⟩

end PulsarNode.Listener
