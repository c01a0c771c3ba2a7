/-
How the deliveries under way go on: each step that carries one on leaves less work, and such a step is
open wherever a thread has a message to queue, or waits and is not lost. It stays open in the machines
that are restricted, as long as JS may return what it likes and fulfil its promises.
-/
import PulsarNode.Listener.Lifetime

namespace PulsarNode.Listener

variable {n : Nat} {k : Kind} {own : WrapperPtr} {al : Allowed} {s s' : State n} {φ : Fin n → Phase}
variable {ok : State n → Action n → Prop} [∀ s a, Decidable (ok s a)]

/-! ## The work that is left -/

/-- The steps that carry the deliveries and the creation of the wrapper on. -/
def Action.advances : Action n → Bool
  | .readPointer _ | .acquire _ | .blockingCall _ | .release _ | .wake _ => true
  | .dispatch | .listenerReturns _ | .settle _ _ | .createOk | .publish => true
  | _ => false

/-- How many steps a thread has left at most; what the JS thread does with its job counts there. -/
def Thread.work (th : Thread) : Nat :=
  match th.pc with
  | .idle => 0
  | .entered _ => 8
  | .read _ _ => 7
  | .acquired _ _ => 6
  | .called _ => 2
  | .waiting _ => 1

def Holder.work : Holder → Nat
  | .config => 2
  | .resolver => 1
  | _ => 0

/-- A bound on the steps until all deliveries are over. -/
def State.work (s : State n) : Nat :=
  total Thread.work s.threads + 3 * s.queue.length + 2 * s.running.toList.length + s.pending.length +
    s.holder.work

@[simp] theorem Thread.work_log (th : Thread) (e : Event) : (th.log e).work = th.work := rfl

theorem State.work_setThread (s : State n) (t : Fin n) (th : Thread) :
    (s.setThread t th).work + (s.threads t).work = s.work + th.work := by
  have hu := total_update Thread.work s.threads t th
  unfold State.work State.setThread
  dsimp only
  omega

theorem State.work_setThread_eq {t : Fin n} {th : Thread} (h : th.work = (s.threads t).work) :
    (s.setThread t th).work = s.work := by
  have hu := s.work_setThread t th
  omega

theorem State.work_setThread_lt {t : Fin n} {th : Thread} (h : th.work < (s.threads t).work) :
    (s.setThread t th).work < s.work := by
  have hu := s.work_setThread t th
  omega

/-- A job in the queue counts for three steps. -/
theorem State.work_queue_lt {t : Fin n} {th : Thread} (j : Job n) (h : th.work + 3 < (s.threads t).work) :
    State.work { s.setThread t th with queue := s.queue ++ [j] } < s.work := by
  have hu := total_update Thread.work s.threads t th
  unfold State.work State.setThread
  dsimp only
  rw [List.length_append, List.length_singleton]
  omega

theorem State.work_finish (s : State n) (j : Job n) : (State.finish j s).work = s.work :=
  State.work_setThread_eq rfl

theorem State.work_signal (s : State n) (j : Job n) : (State.signal j s).work = s.work := by
  unfold State.signal
  dsimp only
  split
  · exact State.work_setThread_eq rfl
  · rfl

/-- A step that carries on leaves less work, unless it faults. -/
theorem Step.work_lt {a : Action n} (hs : Step k own s a s') (ha : a.advances = true) (hf : s'.fault = none) :
    s'.work < s.work := by
  cases hs with
  | readPointer hpc hd hp => exact State.work_setThread_lt (by simp [Thread.work, hpc])
  | refused hpc hc => exact State.work_setThread_lt (by simp [Thread.work, Thread.log, hpc])
  | @acquired t m p hpc hc =>
    change (s.setThread t _).work < s.work
    exact State.work_setThread_lt (by simp [Thread.work, hpc])
  | @callClosing t m p hpc hc =>
    change (s.setThread t _).work < s.work
    exact State.work_setThread_lt (by simp [Thread.work, hpc])
  -- the job takes over three of the four steps that the thread gives up
  | queued hpc => exact State.work_queue_lt _ (by simp [Thread.work, Thread.log, hpc])
  | @release t m hpc =>
    change (s.setThread t _).work < s.work
    exact State.work_setThread_lt (by simp [Thread.work, hpc])
  | wake hpc hr => exact State.work_setThread_lt (by simp [Thread.work, Thread.log, hpc])
  | @call j rest p hr hq hw halive =>
    have hu := total_update Thread.work s.threads j.thread ((s.threads j.thread).log (.called j.msg p))
    rw [Thread.work_log] at hu
    unfold State.work State.setThread
    simp only [hr, hq, List.length_cons, Option.toList_some, Option.toList_none, List.length_nil]
    omega
  | @skip j rest hr hq hw hk =>
    have hu := total_update Thread.work s.threads j.thread ((s.threads j.thread).log (.skipped j.msg))
    rw [Thread.work_log] at hu
    rw [State.work_signal]
    unfold State.work State.setThread
    simp only [hq, List.length_cons]
    omega
  | @ends j o hr ho =>
    rw [State.work_signal, State.work_finish]
    simp [State.work, hr]
  | @throwsReader j hr hk =>
    rw [State.work_finish]
    simp [State.work, hr]
  | promise hr => simp [State.work, hr]; omega
  | escapes hr hk => simp [State.work, hr]
  | keeps hr => simp [State.work, State.keep, hr]
  | @settles j b hj hr hb =>
    have hlen := List.length_erase_of_mem hj
    have hpos := List.length_pos_of_mem hj
    rw [State.work_signal, State.work_finish]
    unfold State.work
    dsimp only
    omega
  | @rejectsReader j hj hr hk =>
    have hlen := List.length_erase_of_mem hj
    have hpos := List.length_pos_of_mem hj
    rw [State.work_finish]
    unfold State.work
    dsimp only
    omega
  | createOk hh => simp [State.work, hh, Holder.work]
  | publish hh hr => simp [State.work, hh, hr, Holder.work]
  | deliver | signals | logs | createFail | close | forget | collect | closeFunction | finalize => cases ha
  | _ => cases hf

/-! ## Steps that are always open -/

/-- A step of the machine carries the deliveries on. -/
def Moves {σ : Type} (m : Machine σ (Action n)) (p : σ) : Prop :=
  ∃ a : Action n, a.advances = true ∧ ∃ p', m.step p a = some p'

/-- The actions that carry on where the listener returns no promise, or one that is fulfilled, and a
thread waits for its pointer. -/
def Smooth (s : State n) : Action n → Prop
  | .readPointer _ => s.pointer ≠ none
  | .acquire _ | .blockingCall _ | .release _ | .wake _ | .dispatch => True
  | .listenerReturns .value | .settle _ true | .createOk | .publish => True
  | _ => False

theorem Smooth.advances {a : Action n} (h : Smooth s a) : a.advances = true := by
  cases a <;> first | rfl | cases h

theorem Smooth.keepsAlive {a : Action n} (h : Smooth s a) : KeepsAlive k s a := by
  cases a with
  | listenerReturns o =>
    cases o with
    | value => rfl
    | throws | promise t => cases h
  | deliver | finalize | collect => cases h
  | _ => trivial

theorem Moves.of_smooth {a : Action n} (hok : ∀ a, Smooth s a → ok s a) (ha : Smooth s a)
    (hs : (s.step k own a).isSome = true) : Moves ((machine k own n).restrict ok) s := by
  obtain ⟨s', hs⟩ := Option.isSome_iff_exists.1 hs
  exact ⟨a, ha.advances, s', Machine.restrict_of_step (hok a ha) hs⟩

/-- While the JS thread has jobs, it can take one of them a step on. -/
theorem jsThread_moves (hok : ∀ a, Smooth s a → ok s a) (hf : s.fault = none) (hj : s.queue ++ s.underWay ≠ []) :
    Moves ((machine k own n).restrict ok) s := by
  cases hr : s.running with
  | some j =>
    refine .of_smooth (a := .listenerReturns .value) hok trivial ?_
    cases k <;> simp [State.step, State.listenerReturns, hf, hr]
  | none =>
    cases hp : s.pending with
    | cons j rest =>
      exact .of_smooth (a := .settle j true) hok trivial (by simp [State.step, State.settle, hf, hr, hp])
    | nil =>
      cases hq : s.queue with
      | nil => exact absurd (by rw [State.underWay, hr, hp, hq]; rfl) hj
      | cons j rest =>
        refine .of_smooth (a := .dispatch) hok trivial ?_
        cases hw : j.wrapper <;> cases k <;> simp [State.step, State.dispatch, hf, hr, hq, hw] <;> split <;> rfl

/-- The wrapper is on its way until the record has its pointer. -/
theorem publish_moves (hok : ∀ a, Smooth s a → ok s a) (hF : FnInv k own s) (hf : s.fault = none)
    (hh : s.holder ≠ .released) (hp : s.pointer = none) : Moves ((machine k own n).restrict ok) s := by
  have habsent : s.wrapper = .absent := by
    by_contra hw
    rw [hF.pointer, if_neg hw] at hp
    cases hp
  cases hst : s.holder with
  | config =>
    exact .of_smooth (a := .createOk) hok trivial (by simp [State.step, State.createOk, hf, hst])
  | resolver =>
    have hd := hF.record_of_open (hF.open_of_holder hh)
    have hr : s.running = none := by
      by_contra hr
      rw [(hF.running hr).2] at habsent
      cases habsent
    exact .of_smooth (a := .publish) hok trivial (by simp [State.step, State.publish, hf, hst, hr, hd])
  | wrapper =>
    rw [hF.alive hst] at habsent
    cases habsent
  | released => exact absurd hst hh

/-- A delivery that is not queued yet can go on: its pointer is there, or on its way, or is read as
it is. -/
theorem entering_moves (hok : ∀ a, Smooth s a → ok s a) (hF : FnInv k own s) (hf : s.fault = none) {t : Fin n}
    (hd : s.recordDeleted = true → (s.threads t).reads = false)
    (hp : s.pointer ≠ none ∨ s.holder ≠ .released ∨ k = .reader ∧ ok s (.readPointer t))
    (ht : (s.threads t).entering ≠ none) : Moves ((machine k own n).restrict ok) s := by
  have hkept : (s.threads t).reads = true → s.recordDeleted = false := by
    intro hr
    by_contra hdel
    rw [hd (by simpa using hdel)] at hr
    cases hr
  cases hpc : (s.threads t).pc with
  | entered m =>
    have hd' := hkept (by rw [Thread.reads, hpc])
    cases hptr : s.pointer with
    | some p =>
      have hsmooth : Smooth s (.readPointer t) := by rw [Smooth, hptr]; rintro ⟨⟩
      refine .of_smooth hok hsmooth ?_
      cases k <;> simp [State.step, State.readPointer, hf, hpc, hd', hptr]
    | none =>
      rcases hp with hne | hh | ⟨rfl, hread⟩
      · exact absurd hptr hne
      · exact publish_moves hok hF hf hh hptr
      -- a reader does not wait for its pointer
      · have hs : ((machine .reader own n).step s (.readPointer t)).isSome = true := by
          simp [machine, State.step, State.readPointer, hf, hpc, hd', hptr]
        obtain ⟨s', hs⟩ := Option.isSome_iff_exists.1 hs
        exact ⟨.readPointer t, rfl, s', Machine.restrict_of_step hread hs⟩
  | read m p =>
    have hd' := hkept (by rw [Thread.reads, hpc])
    refine .of_smooth (a := .acquire t) hok trivial ?_
    cases hacq : s.tsfn.acquire <;> simp [State.step, State.acquire, hf, hpc, hd', hacq]
  | acquired m p =>
    have hopen := hF.open_of_holds (t := t) (by rw [Thread.holds, hpc])
    by_cases hq : s.queue = []
    · refine .of_smooth (a := .blockingCall t) hok trivial ?_
      simp [State.step, State.blockingCall, hf, hpc, hF.record_of_open hopen, hopen, hq]
    · exact jsThread_moves hok hf fun he => hq (List.append_eq_nil_iff.1 he).1
  | idle | called m | waiting m => exact absurd (by rw [Thread.entering, hpc]) ht

/-- A delivery that waits for its signal can go on where no thread may be lost. -/
theorem awaited_moves (hok : ∀ a, Smooth s a → ok s a) (hF : FnInv k own s) (hJ : JobInv own al s φ)
    (hl : ¬ al.lost) (hf : s.fault = none) {t : Fin n} (ht : (s.threads t).awaited ≠ none) :
    Moves ((machine k own n).restrict ok) s := by
  cases hpc : (s.threads t).pc with
  | called m =>
    have hd := hF.record_of_open (hF.open_of_holds (t := t) (by rw [Thread.holds, hpc]))
    exact .of_smooth (a := .release t) hok trivial (by simp [State.step, State.release, hf, hpc, hd])
  | waiting m =>
    cases hr : (s.threads t).ready with
    | true => exact .of_smooth (a := .wake t) hok trivial (by simp [State.step, State.wake, hf, hpc, hr])
    | false =>
      obtain ⟨j, hj, -⟩ := hJ.obliged hl (by rw [Thread.awaited, hpc]) hr
      have hmem : j ∈ s.queue ++ s.underWay :=
        (State.mem_obligations.1 (hj ▸ List.mem_singleton_self j : j ∈ s.obligations t)).1
      exact jsThread_moves hok hf (List.ne_nil_of_mem hmem)
  | idle | entered m | read m p | acquired m p => exact absurd (by rw [Thread.awaited, hpc]) ht

/-- So every delivery under way can, where no thread may be lost. -/
theorem delivery_moves (hok : ∀ a, Smooth s a → ok s a) (hF : FnInv k own s) (hJ : JobInv own al s φ)
    (hl : ¬ al.lost) (hf : s.fault = none) {t : Fin n}
    (hd : s.recordDeleted = true → (s.threads t).reads = false)
    (hp : s.pointer ≠ none ∨ s.holder ≠ .released ∨ k = .reader ∧ ok s (.readPointer t))
    (ht : (s.threads t).pc ≠ .idle) : Moves ((machine k own n).restrict ok) s := by
  cases hpc : (s.threads t).pc with
  | idle => exact absurd hpc ht
  | entered m | read m p | acquired m p =>
    exact entering_moves hok hF hf hd hp (by rw [Thread.entering, hpc]; rintro ⟨⟩)
  | called m | waiting m => exact awaited_moves hok hF hJ hl hf (t := t) (by rw [Thread.awaited, hpc]; rintro ⟨⟩)

/-- Steps that carry on come to an end, where no step faults. -/
theorem advances_length_le (hfault : ∀ s, ((machine k own n).restrict ok).Reachable s → s.fault = none)
    (h : ((machine k own n).restrict ok).Reachable s) {as : List (Action n)} (has : ∀ a ∈ as, a.advances = true)
    (hrun : ((machine k own n).restrict ok).run s as = some s') : as.length ≤ s.work :=
  h.length_le (fun _ _ _ hr ha hs =>
    (Step.of_step (Machine.restrict_step hs).2).2.work_lt ha (hfault _ (hr.step hs))) has hrun

end PulsarNode.Listener
