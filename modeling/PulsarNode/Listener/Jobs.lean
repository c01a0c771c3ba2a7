/-
The jobs of a listener, in every run whose promises go the way of the built-in `then`: a job belongs
to the delivery its thread waits for, no thread has two of them, and the history of each thread is one
that the delivery machine accepts. Two things can go wrong with a reader, and the invariant is kept for
each choice of those allowed: a pointer read before it is published is null, and a thread is lost when
its listener throws or the promise is rejected.
-/
import PulsarNode.Listener.Function

namespace PulsarNode.Listener

/-- What may go wrong in the runs looked at: null pointers read, threads lost. -/
structure Allowed where
  null : Prop
  lost : Prop

variable {n : Nat} {k : Kind} {own : WrapperPtr} {al : Allowed} {s s' : State n} {φ : Fin n → Phase}

/-- The pointer of the wrapper, once that is `made`, or a null. -/
def PointerOk (own : WrapperPtr) (al : Allowed) (made : Prop) (p : Option WrapperPtr) : Prop :=
  p = some own ∧ made ∨ p = none ∧ al.null

/-- A thread in phase `φ`, where `q` are the jobs queued and `r` those under way. -/
structure ThreadOk (own : WrapperPtr) (al : Allowed) (made : Prop) (q r : List (Job n)) (t : Fin n)
    (th : Thread) (φ : Phase) : Prop where
  accepts : Accepts own th.history φ
  skipped : ∀ m, .skipped m ∈ th.history → al.null
  idle : th.pc = .idle → φ = .idle
  entered : ∀ m, th.entering = some m → φ = .entered m
  pointer : ∀ m p, th.pc = .read m p ∨ th.pc = .acquired m p → PointerOk own al made p
  fresh : ∀ m p, th.pc = .acquired m p → th.ready = false
  signalled : ∀ m, th.awaited = some m → th.ready = true → ∃ g, φ = .done g m
  lost : ∀ m, th.awaited = some m → th.ready = false → (∀ j ∈ q ++ r, j.thread ≠ t) →
    al.lost ∧ φ = .ended .called m
  job : ∀ j ∈ q ++ r, j.thread = t → th.seq = j.seq ∧ th.awaited = some j.msg ∧ th.ready = false
  queued : ∀ j ∈ q, j.thread = t → φ = .queued j.msg ∧ PointerOk own al made j.wrapper
  running : ∀ j ∈ r, j.thread = t → φ = .running j.msg ∧ j.wrapper = some own

/-- What holds of the threads and the jobs after any step. -/
structure JobInv (own : WrapperPtr) (al : Allowed) (s : State n) (φ : Fin n → Phase) : Prop where
  threads : ∀ t, ThreadOk own al (s.wrapper ≠ .absent) s.queue s.underWay t (s.threads t) (φ t)
  nodup : ((s.queue ++ s.underWay).map Job.thread).Nodup
  kept : s.kept = []

/-! ## One thread -/

namespace ThreadOk

variable {made made' : Prop} {q q' r r' : List (Job n)} {t : Fin n} {th : Thread} {ψ : Phase}

/-- Only the jobs of the thread matter. -/
theorem congr (h : ThreadOk own al made q r t th ψ) (hm : made → made')
    (hq : ∀ j, j.thread = t → (j ∈ q' ↔ j ∈ q)) (hr : ∀ j, j.thread = t → (j ∈ r' ↔ j ∈ r)) :
    ThreadOk own al made' q' r' t th ψ := by
  have hqr : ∀ j, j.thread = t → (j ∈ q' ++ r' ↔ j ∈ q ++ r) := by
    intro j hj
    rw [List.mem_append, List.mem_append, hq j hj, hr j hj]
  have hp : ∀ p, PointerOk own al made p → PointerOk own al made' p := by
    rintro p (⟨hp, hmade⟩ | hp)
    · exact .inl ⟨hp, hm hmade⟩
    · exact .inr hp
  exact { h with
    pointer := fun m p hpc => hp p (h.pointer m p hpc)
    lost := fun m ha hready hno => h.lost m ha hready fun j hj hjt => hno j ((hqr j hjt).2 hj) hjt
    job := fun j hj hjt => h.job j ((hqr j hjt).1 hj) hjt
    queued := fun j hj hjt => ⟨(h.queued j ((hq j hjt).1 hj) hjt).1, hp _ (h.queued j ((hq j hjt).1 hj) hjt).2⟩
    running := fun j hj hjt => h.running j ((hr j hjt).1 hj) hjt }

/-- A thread that waits for nothing has no job. -/
theorem no_job (h : ThreadOk own al made q r t th ψ) (ha : th.awaited = none) : ∀ j ∈ q ++ r, j.thread ≠ t := by
  intro j hj hjt
  rw [(h.job j hj hjt).2.1] at ha
  cases ha

/-- Where a thread is, and what its jobs are, says which phase it is in. -/
theorem phase_cases (h : ThreadOk own al made q r t th ψ) :
    ψ = .idle ∨ (∃ m, th.entering = some m ∧ ψ = .entered m) ∨ (∃ j ∈ q, j.thread = t ∧ ψ = .queued j.msg) ∨
      (∃ m, ψ = .running m ∨ ψ = .ended .called m) ∨ ∃ g m, ψ = .done g m := by
  have hwait : ∀ m, th.awaited = some m → (∃ j ∈ q, j.thread = t ∧ ψ = .queued j.msg) ∨
      (∃ m, ψ = .running m ∨ ψ = .ended .called m) ∨ ∃ g m, ψ = .done g m := by
    intro m ha
    cases hr : th.ready with
    | true =>
      obtain ⟨g, hψ⟩ := h.signalled m ha hr
      exact .inr (.inr ⟨g, m, hψ⟩)
    | false =>
      by_cases hj : ∃ j ∈ q ++ r, j.thread = t
      · obtain ⟨j, hj, hjt⟩ := hj
        rcases List.mem_append.1 hj with hj | hj
        · exact .inl ⟨j, hj, hjt, (h.queued j hj hjt).1⟩
        · exact .inr (.inl ⟨j.msg, .inl (h.running j hj hjt).1⟩)
      · exact .inr (.inl ⟨m, .inr (h.lost m ha hr fun j hm hjt => hj ⟨j, hm, hjt⟩).2⟩)
  cases hpc : th.pc with
  | idle => exact .inl (h.idle hpc)
  | entered m | read m p | acquired m p =>
    have he : th.entering = some m := by rw [Thread.entering, hpc]
    exact .inr (.inl ⟨m, he, h.entered m he⟩)
  | called m | waiting m => exact .inr (.inr (hwait m (by rw [Thread.awaited, hpc])))

/-- A thread without a job that does not wait either. -/
theorem of_not_awaiting (hno : ∀ j ∈ q ++ r, j.thread ≠ t) (ha : th.awaited = none)
    (accepts : Accepts own th.history ψ) (skipped : ∀ m, .skipped m ∈ th.history → al.null)
    (idle : th.pc = .idle → ψ = .idle) (entered : ∀ m, th.entering = some m → ψ = .entered m)
    (pointer : ∀ m p, th.pc = .read m p ∨ th.pc = .acquired m p → PointerOk own al made p)
    (fresh : ∀ m p, th.pc = .acquired m p → th.ready = false) : ThreadOk own al made q r t th ψ where
  accepts := accepts
  skipped := skipped
  idle := idle
  entered := entered
  pointer := pointer
  fresh := fresh
  signalled m hm := by rw [ha] at hm; cases hm
  lost m hm := by rw [ha] at hm; cases hm
  job j hj hjt := absurd hjt (hno j hj)
  queued j hj hjt := absurd hjt (hno j (List.mem_append_left _ hj))
  running j hj hjt := absurd hjt (hno j (List.mem_append_right _ hj))

/-- A thread that waits for a signal has its job queued already. -/
theorem not_entering {m m' : Msg} (ha : th.awaited = some m) : th.entering ≠ some m' := by
  unfold Thread.awaited at ha
  unfold Thread.entering
  cases hpc : th.pc with
  | called m₁ | waiting m₁ => nofun
  | idle | entered m₁ | read m₁ p | acquired m₁ p =>
    rw [hpc] at ha
    cases ha

/-- Nor is it anywhere before. -/
theorem not_acquired {m m' : Msg} {p : Option WrapperPtr} (ha : th.awaited = some m) :
    ¬ (th.pc = .read m' p ∨ th.pc = .acquired m' p) := by
  intro hp
  have he : th.entering = some m' := by
    rcases hp with hp | hp <;> rw [Thread.entering, hp]
  exact not_entering ha he

theorem not_idle {m : Msg} (ha : th.awaited = some m) : th.pc ≠ .idle := by
  intro hpc
  rw [Thread.awaited, hpc] at ha
  cases ha

/-- A thread that waits for a signal to come. -/
theorem of_waiting {m : Msg} (ha : th.awaited = some m) (hready : th.ready = false)
    (accepts : Accepts own th.history ψ) (skipped : ∀ m, .skipped m ∈ th.history → al.null)
    (lost : (∀ j ∈ q ++ r, j.thread ≠ t) → al.lost ∧ ψ = .ended .called m)
    (job : ∀ j ∈ q ++ r, j.thread = t → th.seq = j.seq ∧ j.msg = m)
    (queued : ∀ j ∈ q, j.thread = t → ψ = .queued j.msg ∧ PointerOk own al made j.wrapper)
    (running : ∀ j ∈ r, j.thread = t → ψ = .running j.msg ∧ j.wrapper = some own) :
    ThreadOk own al made q r t th ψ where
  accepts := accepts
  skipped := skipped
  idle hpc := absurd hpc (not_idle ha)
  entered m' hm := absurd hm (not_entering ha)
  pointer m' p hp := absurd hp (not_acquired ha)
  fresh _ _ hp := (not_acquired ha (.inr hp)).elim
  signalled m' _ hr := by rw [hready] at hr; cases hr
  lost m' hm _ hno := by
    rw [ha] at hm
    cases hm
    exact lost hno
  job j hj hjt := ⟨(job j hj hjt).1, by rw [ha, (job j hj hjt).2], hready⟩
  queued := queued
  running := running

/-- A thread whose delivery has been signalled. -/
theorem of_signalled {m : Msg} {g : Handling} (hno : ∀ j ∈ q ++ r, j.thread ≠ t) (ha : th.awaited = some m)
    (hready : th.ready = true) (accepts : Accepts own th.history (.done g m))
    (skipped : ∀ m, .skipped m ∈ th.history → al.null) :
    ThreadOk own al made q r t th (.done g m) where
  accepts := accepts
  skipped := skipped
  idle hpc := absurd hpc (not_idle ha)
  entered m' hm := absurd hm (not_entering ha)
  pointer m' p hp := absurd hp (not_acquired ha)
  fresh _ _ hp := (not_acquired ha (.inr hp)).elim
  signalled m' hm _ := by
    rw [ha] at hm
    cases hm
    exact ⟨g, rfl⟩
  lost m' _ hf := by rw [hready] at hf; cases hf
  job j hj hjt := absurd hjt (hno j hj)
  queued j hj hjt := absurd hjt (hno j (List.mem_append_left _ hj))
  running j hj hjt := absurd hjt (hno j (List.mem_append_right _ hj))

end ThreadOk

/-! ## Obligations -/

/-- The jobs that a thread waits for. -/
def State.obligations (s : State n) (t : Fin n) : List (Job n) :=
  (s.queue ++ s.underWay).filter (·.thread = t)

theorem State.mem_obligations {t : Fin n} {j : Job n} :
    j ∈ s.obligations t ↔ j ∈ s.queue ++ s.underWay ∧ j.thread = t := by
  rw [State.obligations, List.mem_filter, decide_eq_true_iff]

/-! ## One step of one thread -/

namespace JobInv

theorem init : JobInv own al (State.init : State n) fun _ => .idle where
  threads t := ThreadOk.of_not_awaiting nofun rfl .nil nofun (fun _ => rfl) nofun
    (fun m p hp => by rcases hp with hp | hp <;> cases hp) nofun
  nodup := List.nodup_nil
  kept := rfl

/-- A step that changes one thread, and jobs of that thread only. -/
theorem update (h : JobInv own al s φ) {t : Fin n} {th : Thread} {ψ : Phase}
    (hth : s'.threads = Function.update s.threads t th)
    (hq : ∀ j : Job n, j.thread ≠ t → (j ∈ s'.queue ↔ j ∈ s.queue))
    (hr : ∀ j : Job n, j.thread ≠ t → (j ∈ s'.underWay ↔ j ∈ s.underWay))
    (hn : ((s'.queue ++ s'.underWay).map Job.thread).Nodup)
    (hw : s'.wrapper = s.wrapper) (hk : s'.kept = s.kept)
    (ht : ThreadOk own al (s'.wrapper ≠ .absent) s'.queue s'.underWay t th ψ) :
    JobInv own al s' (Function.update φ t ψ) where
  threads u := by
    rw [hth]
    by_cases hu : u = t
    · subst hu
      rw [Function.update_self, Function.update_self]
      exact ht
    · rw [Function.update_of_ne hu, Function.update_of_ne hu]
      exact (h.threads u).congr (by rw [hw]; exact id) (fun j hj => hq j (hj ▸ hu)) fun j hj => hr j (hj ▸ hu)
  nodup := hn
  kept := hk.trans h.kept

/-- A step that changes one thread and no job. -/
theorem setThread (h : JobInv own al s φ) {t : Fin n} {th : Thread} {ψ : Phase}
    (ht : ThreadOk own al (s.wrapper ≠ .absent) s.queue s.underWay t th ψ) :
    JobInv own al (s.setThread t th) (Function.update φ t ψ) :=
  h.update rfl (fun _ _ => Iff.rfl) (fun _ _ => Iff.rfl) h.nodup rfl rfl ht

/-- The jobs of a thread are at most one. -/
theorem unique (h : JobInv own al s φ) {j j' : Job n} (hj : j ∈ s.queue ++ s.underWay)
    (hj' : j' ∈ s.queue ++ s.underWay) (ht : j.thread = j'.thread) : j = j' :=
  List.inj_on_of_nodup_map h.nodup hj hj' ht

/-- A thread that has a job has no other. -/
theorem obligations_eq (h : JobInv own al s φ) {j : Job n} (hj : j ∈ s.queue ++ s.underWay) :
    s.obligations j.thread = [j] := by
  have hnd : (s.obligations j.thread).Nodup := (List.Nodup.of_map _ h.nodup).filter _
  refine List.perm_singleton.1 ((List.perm_ext_iff_of_nodup hnd (List.nodup_singleton j)).2 fun j' => ?_)
  rw [State.mem_obligations, List.mem_singleton]
  constructor
  · rintro ⟨hj', ht⟩
    exact h.unique hj' hj ht
  · rintro rfl
    exact ⟨hj, rfl⟩

/-- Where no thread may be lost, one that waits for its signal has exactly one job. -/
theorem obliged (h : JobInv own al s φ) (hl : ¬ al.lost) {t : Fin n} {m : Msg}
    (ha : (s.threads t).awaited = some m) (hr : (s.threads t).ready = false) :
    ∃ j, s.obligations t = [j] ∧ j.msg = m := by
  by_contra hno
  refine hl ((h.threads t).lost m ha hr fun j hj hjt => hno ⟨j, ?_, ?_⟩).1
  · rw [← hjt]
    exact h.obligations_eq hj
  · have hjm := ((h.threads t).job j hj hjt).2.1
    rw [ha] at hjm
    exact (Option.some.inj hjm).symm

/-- A thread that waits for nothing, or has been signalled, has none. -/
theorem not_obliged (h : JobInv own al s φ) {t : Fin n}
    (ht : (s.threads t).awaited = none ∨ (s.threads t).ready = true) : s.obligations t = [] := by
  refine List.eq_nil_iff_forall_not_mem.2 fun j hj => ?_
  obtain ⟨hj, hjt⟩ := State.mem_obligations.1 hj
  obtain ⟨-, ha, hr⟩ := (h.threads t).job j hj hjt
  rcases ht with ht | ht
  · rw [ha] at ht
    cases ht
  · rw [hr] at ht
    cases ht

theorem fail (h : JobInv own al s φ) (f : Fault) : JobInv own al (s.fail f) φ := ⟨h.threads, h.nodup, h.kept⟩

end JobInv

/-! ## Signals -/

/-- The thread with its future set. -/
def Thread.signal (th : Thread) (m : Msg) : Thread := { th with ready := true }.log (.signalled m)

/-- After an event noted by the JS thread, the signal of a job finds its delivery waiting. -/
theorem State.signal_log {j : Job n} (e : Event) (hseq : (s.threads j.thread).seq = j.seq)
    (ha : (s.threads j.thread).awaited = some j.msg) (hready : (s.threads j.thread).ready = false) :
    State.signal j (s.setThread j.thread ((s.threads j.thread).log e)) =
      s.setThread j.thread (((s.threads j.thread).log e).signal j.msg) := by
  unfold State.signal
  dsimp only
  rw [State.threads_setThread_self, if_pos]
  · unfold State.setThread
    dsimp only
    rw [Function.update_idem]
    rfl
  · refine ⟨hseq, ?_, hready⟩
    have : ((s.threads j.thread).log e).awaited = (s.threads j.thread).awaited := rfl
    rw [this, ha]
    rfl

/-- An event other than a skip leaves the skips as they are. -/
theorem skipped_log {th : Thread} {e : Event} (h : ∀ m, .skipped m ∈ th.history → al.null)
    (he : ∀ m, e = .skipped m → al.null) : ∀ m, .skipped m ∈ (th.log e).history → al.null := by
  intro m hm
  rcases List.mem_append.1 hm with hm | hm
  · exact h m hm
  · exact he m (List.mem_singleton.1 hm).symm

/-! ## A job taken away -/

theorem State.underWay_running {j : Job n} (hr : s.running = some j) : s.underWay = j :: s.pending := by
  rw [State.underWay, hr]
  rfl

theorem State.underWay_idle (hr : s.running = none) : s.underWay = s.pending := by
  rw [State.underWay, hr]
  rfl

/-- The state `s₁` is `s` without the job `j`; the other jobs, the threads and the wrapper are as they
were. -/
structure State.Without (j : Job n) (s s₁ : State n) : Prop where
  perm : (j :: (s₁.queue ++ s₁.underWay)).Perm (s.queue ++ s.underWay)
  queue : ∀ j', j'.thread ≠ j.thread → (j' ∈ s₁.queue ↔ j' ∈ s.queue)
  underWay : ∀ j', j'.thread ≠ j.thread → (j' ∈ s₁.underWay ↔ j' ∈ s.underWay)
  threads : s₁.threads = s.threads
  wrapper : s₁.wrapper = s.wrapper
  kept : s₁.kept = s.kept

namespace State.Without

variable {j j' : Job n} {s₁ : State n}

theorem mem (h : Without j s s₁) : j ∈ s.queue ++ s.underWay := h.perm.subset List.mem_cons_self

/-- A job of another thread is in a list exactly when it is behind `j` there. -/
theorem mem_cons_iff {l : List (Job n)} (hne : j'.thread ≠ j.thread) : j' ∈ l ↔ j' ∈ j :: l := by
  rw [List.mem_cons]
  constructor
  · exact .inr
  · intro hm
    exact hm.resolve_left fun he => hne (he ▸ rfl)

theorem of_queue {rest : List (Job n)} (hq : s.queue = j :: rest) :
    Without j s { s with queue := rest } where
  perm := by
    rw [hq]
    rfl
  queue j' hne := by
    rw [hq]
    exact mem_cons_iff hne
  underWay _ _ := Iff.rfl
  threads := rfl
  wrapper := rfl
  kept := rfl

theorem of_running (hr : s.running = some j) : Without j s { s with running := none } where
  perm := by
    rw [State.underWay_running hr]
    exact List.perm_middle.symm
  queue _ _ := Iff.rfl
  underWay j' hne := by
    rw [State.underWay_running hr]
    exact mem_cons_iff hne
  threads := rfl
  wrapper := rfl
  kept := rfl

theorem of_pending (hr : s.running = none) (hj : j ∈ s.pending) :
    Without j s { s with pending := s.pending.erase j } where
  perm := by
    rw [State.underWay_idle hr, State.underWay_idle (s := { s with pending := s.pending.erase j }) hr]
    exact List.perm_middle.symm.trans ((List.perm_cons_erase hj).symm.append_left s.queue)
  queue _ _ := Iff.rfl
  underWay j' hne := by
    rw [State.underWay_idle hr, State.underWay_idle (s := { s with pending := s.pending.erase j }) hr]
    exact List.mem_erase_of_ne fun he => hne (he ▸ rfl)
  threads := rfl
  wrapper := rfl
  kept := rfl

end State.Without

/-! ## The steps -/

namespace JobInv

variable {t : Fin n} {j : Job n} {s₁ : State n}

theorem nodup_cons (h : JobInv own al s φ) (hw : s.Without j s₁) :
    ((j :: (s₁.queue ++ s₁.underWay)).map Job.thread).Nodup :=
  (hw.perm.map Job.thread).nodup_iff.2 h.nodup

/-- The job taken away was its thread's only one. -/
theorem no_other (h : JobInv own al s φ) (hw : s.Without j s₁) :
    ∀ j' ∈ s₁.queue ++ s₁.underWay, j'.thread ≠ j.thread := by
  have hn := h.nodup_cons hw
  rw [List.map_cons, List.nodup_cons] at hn
  intro j' hj' ht
  exact hn.1 (ht ▸ List.mem_map_of_mem hj')

/-- A step that takes a job away and changes its thread. -/
theorem without {th : Thread} {ψ : Phase} (h : JobInv own al s φ) (hw : s.Without j s₁)
    (ht : ThreadOk own al (s.wrapper ≠ .absent) s₁.queue s₁.underWay j.thread th ψ) :
    JobInv own al (s₁.setThread j.thread th) (Function.update φ j.thread ψ) := by
  have hth : (s₁.setThread j.thread th).threads = Function.update s.threads j.thread th := by
    rw [State.setThread, hw.threads]
  refine h.update hth hw.queue hw.underWay ?_ hw.wrapper hw.kept ?_
  · have hn := h.nodup_cons hw
    rw [List.map_cons, List.nodup_cons] at hn
    exact hn.2
  · change ThreadOk own al (s₁.wrapper ≠ .absent) s₁.queue s₁.underWay j.thread th ψ
    rw [hw.wrapper]
    exact ht

/-- A job is over: its thread has noted `e` and been signalled. -/
theorem signalled {e : Event} {g : Handling} (h : JobInv own al s φ) (hw : s.Without j s₁)
    (hskip : ∀ m, e = .skipped m → al.null) (he : (φ j.thread).step own e = some (.ended g j.msg)) :
    JobInv own al (State.signal j (s₁.setThread j.thread ((s₁.threads j.thread).log e)))
      (Function.update φ j.thread (.done g j.msg)) := by
  have hok := h.threads j.thread
  obtain ⟨hseq, ha, hready⟩ := hok.job j hw.mem rfl
  have hdone : Phase.step own (.ended g j.msg) (.signalled j.msg) = some (.done g j.msg) := by
    simp [Phase.step]
  rw [← hw.threads] at hseq ha hready
  rw [State.signal_log e hseq ha hready, hw.threads]
  rw [hw.threads] at ha
  refine h.without hw (ThreadOk.of_signalled (h.no_other hw) ha rfl ((hok.accepts.snoc he).snoc hdone) ?_)
  exact skipped_log (skipped_log hok.skipped hskip) (by simp)

/-- A job under way is over without a signal: its reader thread is lost. -/
theorem lost (h : JobInv own al s φ) (hl : al.lost) (hj : j ∈ s.underWay) (hw : s.Without j s₁) :
    JobInv own al (State.finish j s₁) (Function.update φ j.thread (.ended .called j.msg)) := by
  have hok := h.threads j.thread
  obtain ⟨_, ha, hready⟩ := hok.job j hw.mem rfl
  obtain ⟨hφ, _⟩ := hok.running j hj rfl
  have hno := h.no_other hw
  unfold State.finish
  rw [hw.threads]
  refine h.without hw (ThreadOk.of_waiting ha hready (hok.accepts.snoc ?_) (skipped_log hok.skipped (by simp))
    (fun _ => ⟨hl, rfl⟩) (fun j' hj' ht => absurd ht (hno j' hj'))
    (fun j' hj' ht => absurd ht (hno j' (List.mem_append_left _ hj')))
    fun j' hj' ht => absurd ht (hno j' (List.mem_append_right _ hj')))
  rw [hφ]
  simp [Phase.step]

theorem deliver {m : Msg} (h : JobInv own al s φ) (hpc : (s.threads t).pc = .idle) :
    JobInv own al (s.setThread t
      ({ s.threads t with pc := .entered m, seq := (s.threads t).seq + 1 }.log (.delivered m)))
      (Function.update φ t (.entered m)) := by
  have hok := h.threads t
  refine h.setThread (ThreadOk.of_not_awaiting (hok.no_job (by rw [Thread.awaited, hpc])) rfl
    (hok.accepts.snoc ?_) (skipped_log hok.skipped (by simp)) nofun ?_ ?_ nofun)
  · rw [hok.idle hpc]
    rfl
  · intro m' hm
    cases hm
    rfl
  · rintro m' p (hp | hp) <;> cases hp

theorem readPointer {m : Msg} (h : JobInv own al s φ) (hF : FnInv k own s) (hpc : (s.threads t).pc = .entered m)
    (hnull : s.pointer = none → al.null) :
    JobInv own al (s.setThread t { s.threads t with pc := .read m s.pointer })
      (Function.update φ t (.entered m)) := by
  have hok := h.threads t
  have hφ := hok.entered m (by rw [Thread.entering, hpc])
  refine h.setThread (ThreadOk.of_not_awaiting (hok.no_job (by rw [Thread.awaited, hpc])) rfl
    (hφ ▸ hok.accepts) hok.skipped nofun ?_ ?_ nofun)
  · intro m' hm
    cases hm
    rfl
  · rintro m' p (hp' | hp') <;> cases hp'
    rw [hF.pointer] at hnull ⊢
    by_cases hw : s.wrapper = .absent
    · rw [if_pos hw] at hnull ⊢
      exact .inr ⟨rfl, hnull rfl⟩
    · rw [if_neg hw]
      exact .inl ⟨rfl, hw⟩

theorem refused {m : Msg} {p : Option WrapperPtr} (h : JobInv own al s φ) (hpc : (s.threads t).pc = .read m p) :
    JobInv own al (s.setThread t ({ s.threads t with pc := .idle }.log (.refused m)))
      (Function.update φ t .idle) := by
  have hok := h.threads t
  have hφ := hok.entered m (by rw [Thread.entering, hpc])
  refine h.setThread (ThreadOk.of_not_awaiting (hok.no_job (by rw [Thread.awaited, hpc])) rfl
    (hok.accepts.snoc ?_) (skipped_log hok.skipped (by simp)) (fun _ => rfl) nofun ?_ nofun)
  · rw [hφ]
    simp [Phase.step]
  · rintro m' p (hp | hp) <;> cases hp

theorem acquired {m : Msg} {p : Option WrapperPtr} {f : Tsfn} (h : JobInv own al s φ)
    (hpc : (s.threads t).pc = .read m p) :
    JobInv own al { s.setThread t { s.threads t with pc := .acquired m p, ready := false } with tsfn := f }
      (Function.update φ t (.entered m)) := by
  have hok := h.threads t
  have hφ := hok.entered m (by rw [Thread.entering, hpc])
  refine h.update rfl (fun _ _ => Iff.rfl) (fun _ _ => Iff.rfl) h.nodup rfl rfl (ThreadOk.of_not_awaiting
    (hok.no_job (by rw [Thread.awaited, hpc])) rfl (hφ ▸ hok.accepts) hok.skipped nofun ?_ ?_ fun _ _ _ => rfl)
  · intro m' hm
    cases hm
    rfl
  · rintro m' p' (hp | hp) <;> cases hp
    exact hok.pointer m p (.inl hpc)

theorem queued {m : Msg} {p : Option WrapperPtr} (h : JobInv own al s φ) (hpc : (s.threads t).pc = .acquired m p) :
    JobInv own al { s.setThread t ({ s.threads t with pc := .called m }.log (.queued m)) with
        queue := s.queue ++ [⟨t, (s.threads t).seq, m, p⟩] } (Function.update φ t (.queued m)) := by
  have hok := h.threads t
  have hφ := hok.entered m (by rw [Thread.entering, hpc])
  have hno := hok.no_job (by rw [Thread.awaited, hpc])
  have hready := hok.fresh m p hpc
  -- the job is the only one of its thread, so the places where it is looked for hold no other
  have honly : ∀ j ∈ s.queue ++ [⟨t, (s.threads t).seq, m, p⟩], j.thread = t →
      j = ⟨t, (s.threads t).seq, m, p⟩ := by
    intro j hj hjt
    rcases List.mem_append.1 hj with hj | hj
    · exact absurd hjt (hno j (List.mem_append_left _ hj))
    · exact List.mem_singleton.1 hj
  refine h.update rfl ?_ (fun _ _ => Iff.rfl) ?_ rfl rfl ?_
  · intro j hj
    simp only [List.mem_append, List.mem_singleton, or_iff_left_iff_imp]
    rintro rfl
    exact absurd rfl hj
  · have hperm : (s.queue ++ [(⟨t, (s.threads t).seq, m, p⟩ : Job n)] ++ s.underWay).Perm
        ((⟨t, (s.threads t).seq, m, p⟩ : Job n) :: (s.queue ++ s.underWay)) := by
      rw [List.append_assoc]
      exact List.perm_middle
    refine (hperm.map Job.thread).nodup_iff.2 ?_
    rw [List.map_cons, List.nodup_cons]
    refine ⟨?_, h.nodup⟩
    intro hm
    obtain ⟨j, hj, hjt⟩ := List.mem_map.1 hm
    exact hno j hj hjt
  · refine ThreadOk.of_waiting rfl hready (hok.accepts.snoc ?_) (skipped_log hok.skipped (by simp)) ?_ ?_ ?_
      fun j hj hjt => absurd hjt (hno j (List.mem_append_right _ hj))
    · rw [hφ]
      simp [Phase.step]
    · intro hno'
      exact absurd rfl (hno' ⟨t, (s.threads t).seq, m, p⟩ (List.mem_append_left _ (by simp)))
    · intro j hj hjt
      rcases List.mem_append.1 hj with hj | hj
      · rw [honly j hj hjt]
        exact ⟨rfl, rfl⟩
      · exact absurd hjt (hno j (List.mem_append_right _ hj))
    · intro j hj hjt
      rw [honly j hj hjt]
      exact ⟨rfl, hok.pointer m p (.inr hpc)⟩

theorem release {m : Msg} {f : Tsfn} (h : JobInv own al s φ) (hpc : (s.threads t).pc = .called m) :
    JobInv own al { s.setThread t { s.threads t with pc := .waiting m } with tsfn := f }
      (Function.update φ t (φ t)) := by
  have hok := h.threads t
  have ha : (s.threads t).awaited = some m := by rw [Thread.awaited, hpc]
  have ha' : Thread.awaited { s.threads t with pc := .waiting m } = (s.threads t).awaited := by rw [ha]; rfl
  refine h.update rfl (fun _ _ => Iff.rfl) (fun _ _ => Iff.rfl) h.nodup rfl rfl { hok with
    idle := nofun
    entered := nofun
    pointer := by rintro m' p' (hp | hp) <;> cases hp
    fresh := nofun
    signalled := fun m' hm => hok.signalled m' (ha' ▸ hm)
    lost := fun m' hm => hok.lost m' (ha' ▸ hm)
    job := fun j hj hjt => ?_ }
  rw [ha']
  exact hok.job j hj hjt

theorem wake {m : Msg} (h : JobInv own al s φ) (hpc : (s.threads t).pc = .waiting m)
    (hr : (s.threads t).ready = true) :
    JobInv own al (s.setThread t ({ s.threads t with pc := .idle }.log (.returned m)))
      (Function.update φ t .idle) := by
  have hok := h.threads t
  have ha : (s.threads t).awaited = some m := by rw [Thread.awaited, hpc]
  obtain ⟨g, hφ⟩ := hok.signalled m ha hr
  have hno : ∀ j ∈ s.queue ++ s.underWay, j.thread ≠ t := by
    intro j hj hjt
    rw [(hok.job j hj hjt).2.2] at hr
    cases hr
  refine h.setThread (ThreadOk.of_not_awaiting hno rfl (hok.accepts.snoc ?_)
    (skipped_log hok.skipped (by simp)) (fun _ => rfl) nofun ?_ nofun)
  · rw [hφ]
    simp [Phase.step]
  · rintro m' p (hp | hp) <;> cases hp

/-- The JS thread begins the first job of the queue. -/
theorem call {j : Job n} {rest : List (Job n)} {p : WrapperPtr} {b : Bool} (h : JobInv own al s φ)
    (hr : s.running = none) (hq : s.queue = j :: rest) (hw : j.wrapper = some p) :
    JobInv own al { s.setThread j.thread ((s.threads j.thread).log (.called j.msg p)) with
      queue := rest, running := some j, jsRef := b } (Function.update φ j.thread (.running j.msg)) := by
  have hmem : j ∈ s.queue := by rw [hq]; exact List.mem_cons_self
  have hok := h.threads j.thread
  obtain ⟨hseq, ha, hready⟩ := hok.job j (List.mem_append_left _ hmem) rfl
  obtain ⟨hφ, hptr⟩ := hok.queued j hmem rfl
  have hp : p = own := by
    rcases hptr with ⟨hptr, _⟩ | ⟨hptr, _⟩
    · rw [hw] at hptr
      exact Option.some.inj hptr
    · rw [hw] at hptr
      cases hptr
  subst hp
  have hu := State.underWay_idle hr
  have hwithout : s.Without j { s with queue := rest } := .of_queue hq
  have hno : ∀ j' ∈ rest ++ s.underWay, j'.thread ≠ j.thread := h.no_other hwithout
  rw [hu] at hno
  have honly : ∀ j' ∈ rest ++ j :: s.pending, j'.thread = j.thread → j' = j := by
    intro j' hj' ht
    by_contra hne
    rw [List.mem_append, List.mem_cons] at hj'
    exact hno j' (List.mem_append.2 (hj'.imp_right fun hm => hm.resolve_left hne)) ht
  refine h.update rfl hwithout.queue ?_ ?_ rfl rfl ?_
  · intro j' hj'
    rw [hu]
    exact (State.Without.mem_cons_iff hj').symm
  · have hmid : (rest ++ j :: s.pending).Perm (j :: (rest ++ s.pending)) := List.perm_middle
    refine (hmid.map Job.thread).nodup_iff.2 ?_
    rw [← hu]
    exact h.nodup_cons hwithout
  · refine ThreadOk.of_waiting ha hready (hok.accepts.snoc ?_) (skipped_log hok.skipped (by simp)) ?_ ?_
      (fun j' hj' ht => absurd ht (hno j' (List.mem_append_left _ hj'))) ?_
    · rw [hφ]
      simp [Phase.step]
    · exact fun hno' => absurd rfl (hno' j (by simp [State.underWay]))
    · intro j' hj' ht
      rw [honly j' hj' ht]
      exact ⟨hseq, rfl⟩
    · intro j' hj' ht
      rw [honly j' (List.mem_append_right _ hj') ht]
      exact ⟨rfl, hw⟩

/-- The promise of the running job takes its place among the pending ones. -/
theorem promise {j : Job n} (h : JobInv own al s φ) (hr : s.running = some j) :
    JobInv own al { s with running := none, pending := s.pending ++ [j] } φ := by
  have hu := State.underWay_running hr
  have hperm : (s.pending ++ [j]).Perm s.underWay := by
    rw [hu]
    exact List.perm_append_singleton j s.pending
  refine ⟨fun t => (h.threads t).congr id (fun _ _ => Iff.rfl) fun _ _ => hperm.mem_iff, ?_, h.kept⟩
  exact ((hperm.append_left s.queue).map Job.thread).nodup_iff.2 h.nodup

/-- Every step keeps the invariant, for the phases that the histories have come to. -/
theorem step {a : Action n} (h : JobInv own al s φ) (hF : FnInv k own s) (hs : Step k own s a s')
    (hnull : k = .reader → (∃ t, a = .readPointer t) → s.pointer = none → al.null)
    (hlost : k = .reader → (a = .listenerReturns .throws ∨ ∃ j, a = .settle j false) → al.lost)
    (hthen : a.strays k = false) : ∃ φ', JobInv own al s' φ' := by
  cases hs with
  | deliver hpc => exact ⟨_, h.deliver hpc⟩
  | @readPointer t m hpc hd hp =>
    refine ⟨_, h.readPointer hF hpc fun hn => ?_⟩
    cases k with
    | consumer => exact absurd hn (hp rfl)
    | reader => exact hnull rfl ⟨t, rfl⟩ hn
  | refused hpc hc => exact ⟨_, h.refused hpc⟩
  | acquired hpc hc => exact ⟨_, h.acquired hpc⟩
  | callClosing hpc hc =>
    rw [hF.open_of_holds (by rw [Thread.holds, hpc])] at hc
    cases hc
  | queued hpc => exact ⟨_, h.queued hpc⟩
  | release hpc => exact ⟨_, h.release hpc⟩
  | wake hpc hr => exact ⟨_, h.wake hpc hr⟩
  | call hr hq hw halive => exact ⟨_, h.call hr hq hw⟩
  | @skip j rest hr hq hw hk =>
    have hmem : j ∈ s.queue := by rw [hq]; exact List.mem_cons_self
    obtain ⟨hφ, hptr⟩ := (h.threads j.thread).queued j hmem rfl
    have hal : al.null := by
      rcases hptr with ⟨hptr, _⟩ | ⟨_, hal⟩
      · rw [hw] at hptr
        cases hptr
      · exact hal
    exact ⟨_, h.signalled (g := .skipped) (.of_queue hq) (fun _ _ => hal) (by rw [hφ]; simp [Phase.step])⟩
  | @ends j o hr ho =>
    have hmem : j ∈ s.underWay := by rw [State.underWay_running hr]; exact List.mem_cons_self
    obtain ⟨hφ, _⟩ := (h.threads j.thread).running j hmem rfl
    exact ⟨_, h.signalled (g := .called) (.of_running hr) (by simp) (by rw [hφ]; simp [Phase.step])⟩
  | @throwsReader j hr hk =>
    have hmem : j ∈ s.underWay := by rw [State.underWay_running hr]; exact List.mem_cons_self
    exact ⟨_, h.lost (hlost hk (.inl rfl)) hmem (.of_running hr)⟩
  | promise hr => exact ⟨_, h.promise hr⟩
  | escapes hr hk =>
    subst hk
    cases hthen
  | keeps hr => cases hthen
  | @settles j b hj hr hb =>
    have hmem : j ∈ s.underWay := List.mem_append_right _ hj
    obtain ⟨hφ, _⟩ := (h.threads j.thread).running j hmem rfl
    exact ⟨_, h.signalled (g := .called) (.of_pending hr hj) (by simp) (by rw [hφ]; simp [Phase.step])⟩
  | @rejectsReader j hj hr hk =>
    exact ⟨_, h.lost (hlost hk (.inr ⟨j, rfl⟩)) (List.mem_append_right _ hj) (.of_pending hr hj)⟩
  | signals hj | logs hj hk =>
    rw [h.kept] at hj
    cases hj
  | createOk hh => exact ⟨φ, h.threads, h.nodup, h.kept⟩
  | createFail hh => exact ⟨φ, h.threads, h.nodup, h.kept⟩
  | publish hh hr =>
    refine ⟨φ, fun t => ?_, h.nodup, h.kept⟩
    exact (h.threads t).congr (fun _ => by rintro ⟨⟩) (fun _ _ => Iff.rfl) fun _ _ => Iff.rfl
  | close hh => exact ⟨φ, h.threads, h.nodup, h.kept⟩
  | forget hr => exact ⟨φ, h.threads, h.nodup, h.kept⟩
  | collect hw hs' hj =>
    refine ⟨φ, fun t => ?_, h.nodup, h.kept⟩
    exact (h.threads t).congr (fun _ => by rintro ⟨⟩) (fun _ _ => Iff.rfl) fun _ _ => Iff.rfl
  | closeFunction hc hq => exact ⟨φ, h.threads, h.nodup, h.kept⟩
  | finalize hc hr => exact ⟨φ, h.threads, h.nodup, h.kept⟩
  | _ => exact ⟨φ, h.fail _⟩

end JobInv

/-- In every run whose steps meet a condition that rules out what is not allowed, the jobs and the
histories are in order. -/
theorem jobInv_reachable {ok : State n → Action n → Prop} [∀ s a, Decidable (ok s a)]
    (hnull : ∀ s t, k = .reader → ok s (.readPointer t) → s.pointer = none → al.null)
    (hthrow : ∀ s, k = .reader → ok s (.listenerReturns .throws) → al.lost)
    (hreject : ∀ s j, k = .reader → ok s (.settle j false) → al.lost)
    (hthen : ∀ s a, ok s a → a.strays k = false) (h : ((machine k own n).restrict ok).Reachable s) : ∃ φ, JobInv own al s φ := by
  refine h.invariant (I := fun s => ∃ φ, JobInv own al s φ) ?_ ?_
  · rintro s rfl
    exact ⟨_, JobInv.init⟩
  · rintro s a s' hr ⟨φ, hI⟩ hs
    obtain ⟨hok, hs⟩ := Machine.restrict_step hs
    refine hI.step (fnInv_reachable hr.unrestrict) (Step.of_step hs).2 ?_ ?_ (hthen s a hok)
    · rintro hk ⟨t, rfl⟩ hn
      exact hnull s t hk hok hn
    · rintro hk (rfl | ⟨j, rfl⟩)
      · exact hthrow s hk hok
      · exact hreject s j hk hok

end PulsarNode.Listener
