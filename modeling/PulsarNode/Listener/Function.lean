/-
The thread-safe function of a listener, its record and its wrapper, in every run: the count of the
function is the initial reference plus the threads between `Acquire` and `Release`, so the function
closes, and the record is deleted, only when no such thread is left. While the wrapper holds the
initial reference it refers to itself, and it is not destroyed.
-/
import PulsarNode.Listener.Machine

namespace PulsarNode.Listener

variable {n : Nat} {k : Kind} {own : WrapperPtr} {s s' : State n}

/-! ## Counting the holders -/

def Thread.weight (th : Thread) : Nat := if th.holds then 1 else 0

/-- The threads that hold the function. -/
def State.holders (s : State n) : Nat := total Thread.weight s.threads

/-- The initial reference, until it is released. -/
def State.initialRef (s : State n) : Nat := if s.holder = .released then 0 else 1

theorem State.holders_setThread (s : State n) (t : Fin n) (th : Thread) :
    (s.setThread t th).holders + (s.threads t).weight = s.holders + th.weight :=
  total_update Thread.weight s.threads t th

theorem State.weight_le_holders (s : State n) (t : Fin n) : (s.threads t).weight ≤ s.holders :=
  weight_le_total Thread.weight s.threads t

theorem State.threads_setThread_self (s : State n) (t : Fin n) (th : Thread) :
    (s.setThread t th).threads t = th := Function.update_self ..

theorem State.threads_setThread_of_ne (s : State n) {t u : Fin n} (h : u ≠ t) (th : Thread) :
    (s.setThread t th).threads u = s.threads u := Function.update_of_ne h ..

/-- A step that notes no event leaves every history as it was. -/
theorem State.history_setThread (s : State n) (t : Fin n) (th : Thread)
    (hh : th.history = (s.threads t).history) :
    ∀ u, ((s.setThread t th).threads u).history = (s.threads u).history :=
  (Function.forall_update_iff s.threads fun u th => th.history = (s.threads u).history).2 ⟨hh, fun _ _ => rfl⟩

theorem State.holder_signal (s : State n) (j : Job n) : (State.signal j s).holder = s.holder := by
  unfold State.signal
  dsimp only
  split
  · rfl
  · rfl

theorem State.wrapper_signal (s : State n) (j : Job n) : (State.signal j s).wrapper = s.wrapper := by
  unfold State.signal
  dsimp only
  split
  · rfl
  · rfl

/-! ## The invariant -/

/-- What holds of the function, the record and the wrapper after any step. -/
structure FnInv (k : Kind) (own : WrapperPtr) (s : State n) : Prop where
  count : s.tsfn.count = s.initialRef + s.holders
  closed : s.tsfn.closing = true → s.tsfn.count = 0
  record : s.recordDeleted = true → s.tsfn.closing = true
  strong : s.strong = true ↔ s.holder = .wrapper
  alive : s.holder = .wrapper → s.wrapper = .alive
  absent : s.holder = .config ∨ s.holder = .resolver → s.wrapper = .absent
  pointer : s.pointer = if s.wrapper = .absent then none else some own
  running : s.running ≠ none → s.jsRef = true ∧ s.wrapper = .alive
  refused : ∀ t m, .refused m ∈ (s.threads t).history → s.tsfn.closing = true

namespace FnInv

theorem init : FnInv k own (State.init : State n) where
  count := by
    have hz : (State.init : State n).holders = 0 := total_eq_zero.2 fun _ => rfl
    rw [hz]
    rfl
  closed := nofun
  record := nofun
  strong := by simp [State.init]
  alive := nofun
  absent _ := rfl
  pointer := rfl
  running h := absurd rfl h
  refused := nofun

/-- A thread that holds the function keeps it open. -/
theorem open_of_holds (h : FnInv k own s) {t : Fin n} (ht : (s.threads t).holds = true) :
    s.tsfn.closing = false := by
  by_contra hc
  have h0 := h.closed (by simpa using hc)
  have hle := s.weight_le_holders t
  have hw : (s.threads t).weight = 1 := by rw [Thread.weight, if_pos ht]
  have hcount := h.count
  omega

/-- The initial reference keeps the function open. -/
theorem open_of_holder (h : FnInv k own s) (hh : s.holder ≠ .released) : s.tsfn.closing = false := by
  by_contra hc
  have h0 := h.closed (by simpa using hc)
  have hcount := h.count
  rw [State.initialRef, if_neg hh] at hcount
  omega

theorem record_of_open (h : FnInv k own s) (hc : s.tsfn.closing = false) : s.recordDeleted = false := by
  by_contra hd
  rw [h.record (by simpa using hd)] at hc
  cases hc

/-- A thread's step that leaves the function alone. -/
theorem setThread (h : FnInv k own s) {t : Fin n} {th : Thread} (hh : th.weight = (s.threads t).weight)
    (hr : ∀ m, .refused m ∈ th.history → .refused m ∈ (s.threads t).history ∨ s.tsfn.closing = true) :
    FnInv k own (s.setThread t th) where
  count := by
    have hu := s.holders_setThread t th
    have hc := h.count
    change s.tsfn.count = s.initialRef + (s.setThread t th).holders
    omega
  closed := h.closed
  record := h.record
  strong := h.strong
  alive := h.alive
  absent := h.absent
  pointer := h.pointer
  running := h.running
  refused := by
    refine (Function.forall_update_iff s.threads fun _ th => ∀ m, .refused m ∈ th.history →
      s.tsfn.closing = true).2 ⟨fun m hm => ?_, fun u _ => h.refused u⟩
    exact (hr m hm).elim (h.refused t m) id

theorem fail (h : FnInv k own s) (f : Fault) : FnInv k own (s.fail f) := { h with }

/-- An event other than a refusal leaves the refusals as they are. -/
theorem refused_log {th : Thread} {e : Event} {m : Msg} (he : ∀ m, e ≠ .refused m)
    (hm : .refused m ∈ (th.log e).history) : .refused m ∈ th.history := by
  rcases List.mem_append.1 hm with hm | hm
  · exact hm
  · exact absurd (List.mem_singleton.1 hm).symm (he m)

theorem log (h : FnInv k own s) (t : Fin n) {e : Event} (he : ∀ m, e ≠ .refused m) :
    FnInv k own (s.setThread t ((s.threads t).log e)) :=
  h.setThread rfl fun _ hm => .inl (refused_log he hm)

theorem finish (h : FnInv k own s) (j : Job n) : FnInv k own (State.finish j s) :=
  h.log j.thread (by simp)

theorem signal (h : FnInv k own s) (j : Job n) : FnInv k own (State.signal j s) := by
  unfold State.signal
  dsimp only
  split
  · exact h.setThread rfl fun _ hm => .inl (refused_log (by simp) hm)
  · exact h.fail _

/-- The initial reference is released. -/
theorem releaseInitial {b : Bool} (h : FnInv k own s) (hh : s.holder ≠ .released) (hb : b = false) :
    FnInv k own { s with holder := .released, tsfn := s.tsfn.drop, strong := b } := by
  have hc := h.count
  rw [State.initialRef, if_neg hh] at hc
  refine { h with
    count := ?_
    closed := fun hcl => ?_
    record := fun hd => ?_
    strong := by simp [hb]
    alive := by rintro ⟨⟩
    absent := by rintro (⟨⟨⟩⟩ | ⟨⟨⟩⟩)
    refused := fun u m hm => ?_ }
  · change s.tsfn.drop.count = 0 + s.holders
    rw [Tsfn.count_drop]
    omega
  · rw [Tsfn.closing_drop] at hcl
    rw [Tsfn.count_drop, h.closed hcl]
  · rw [Tsfn.closing_drop, h.record hd]
  · rw [Tsfn.closing_drop, h.refused u m hm]

/-- No step breaks the invariant. -/
theorem step {a : Action n} (h : FnInv k own s) (hs : Step k own s a s') : FnInv k own s' := by
  cases hs with
  | deliver hpc =>
    exact h.setThread (by simp [Thread.weight, Thread.holds, Thread.log, hpc]) fun _ hm =>
      .inl (refused_log (by simp) hm)
  | readPointer hpc hd hp =>
    exact h.setThread (by simp [Thread.weight, Thread.holds, hpc]) fun _ hm => .inl hm
  | refused hpc hc =>
    exact h.setThread (by simp [Thread.weight, Thread.holds, Thread.log, hpc]) fun _ _ => .inr hc
  | @acquired t m p hpc hc =>
    have hu := s.holders_setThread t { s.threads t with pc := .acquired m p, ready := false }
    have hw : (s.threads t).weight = 0 := by simp [Thread.weight, Thread.holds, hpc]
    have hc' := h.count
    refine { h with
      count := ?_
      closed := nofun
      record := fun hd => ?_
      refused := fun u m' hm => ?_ }
    · change s.tsfn.count + 1 = s.initialRef + (s.setThread t _).holders
      have hw' : Thread.weight { s.threads t with pc := .acquired m p, ready := false } = 1 := rfl
      omega
    · rw [h.record hd] at hc
      cases hc
    · have hh := State.history_setThread s t { s.threads t with pc := .acquired m p, ready := false } rfl u
      rw [h.refused u m' (hh ▸ hm)] at hc
      cases hc
  | callClosing hpc hc =>
    rw [h.open_of_holds (by rw [Thread.holds, hpc])] at hc
    cases hc
  | @queued t m p hpc =>
    have h' : FnInv k own (s.setThread t ({ s.threads t with pc := .called m }.log (.queued m))) :=
      h.setThread (by simp [Thread.weight, Thread.holds, Thread.log, hpc]) fun _ hm =>
        .inl (refused_log (by simp) hm)
    exact { h' with }
  | @release t m hpc =>
    have hopen := h.open_of_holds (t := t) (by rw [Thread.holds, hpc])
    have hu := s.holders_setThread t { s.threads t with pc := .waiting m }
    have hw : (s.threads t).weight = 1 := by simp [Thread.weight, Thread.holds, hpc]
    have hw' : Thread.weight { s.threads t with pc := .waiting m } = 0 := rfl
    have hc := h.count
    refine { h with
      count := ?_
      closed := fun hcl => ?_
      record := fun hd => ?_
      refused := fun u m' hm => ?_ }
    · change s.tsfn.drop.count = s.initialRef + (s.setThread t _).holders
      rw [Tsfn.count_drop]
      omega
    · rw [Tsfn.closing_drop, hopen] at hcl
      cases hcl
    · rw [h.record hd] at hopen
      cases hopen
    · have hh := State.history_setThread s t { s.threads t with pc := .waiting m } rfl u
      rw [h.refused u m' (hh ▸ hm)] at hopen
      cases hopen
  | wake hpc hr =>
    exact h.setThread (by simp [Thread.weight, Thread.holds, Thread.log, hpc]) fun _ hm =>
      .inl (refused_log (by simp) hm)
  | @call j rest p hr hq hw halive =>
    have h' := h.log j.thread (e := .called j.msg p) (by simp)
    exact { h' with running := fun _ => ⟨rfl, halive⟩ }
  | @skip j rest hr hq hw hk =>
    have h' := h.log j.thread (e := .skipped j.msg) (by simp)
    have hq' : FnInv k own { s.setThread j.thread ((s.threads j.thread).log (.skipped j.msg)) with
        queue := rest } := { h' with }
    exact hq'.signal j
  | @ends j o hr ho =>
    have h' : FnInv k own { s with running := none } := { h with running := fun hn => absurd rfl hn }
    exact (h'.finish j).signal j
  | @throwsReader j hr hk =>
    have h' : FnInv k own { s with running := none } := { h with running := fun hn => absurd rfl hn }
    exact h'.finish j
  | promise hr | escapes hr hk | keeps hr => exact { h with running := fun hn => absurd rfl hn }
  | @settles j b hj hr hb =>
    have h' : FnInv k own { s with pending := s.pending.erase j } := { h with }
    exact (h'.finish j).signal j
  | @rejectsReader j hj hr hk =>
    have h' : FnInv k own { s with pending := s.pending.erase j } := { h with }
    exact h'.finish j
  | @signals j hj => exact (h.finish j).signal j
  | logs hj hk => exact h
  | createOk hh =>
    have hc := h.count
    refine { h with
      count := by rw [State.initialRef, hh] at hc; exact hc
      strong := ⟨fun hs => ?_, nofun⟩
      alive := nofun
      absent := fun _ => h.absent (.inl hh) }
    rw [h.strong.1 hs] at hh
    cases hh
  | createFail hh =>
    refine h.releaseInitial (by rw [hh]; decide) ?_
    by_contra hs
    rw [h.strong.1 (by simpa using hs)] at hh
    cases hh
  | publish hh hr =>
    have hc := h.count
    exact { h with
      count := by rw [State.initialRef, hh] at hc; exact hc
      strong := by simp
      alive := fun _ => rfl
      absent := fun ha => by rcases ha with ha | ha <;> cases ha
      pointer := rfl
      running := fun hn => absurd hr hn }
  | close hh => exact h.releaseInitial (by rw [hh]; decide) rfl
  | forget hr => exact { h with running := fun hn => absurd hr hn }
  | collect hw hs hj =>
    refine { h with
      alive := fun hh => ?_
      absent := fun ha => ?_
      pointer := ?_
      running := fun hn => ?_ }
    · rw [h.strong.2 hh] at hs
      cases hs
    · rw [h.absent ha] at hw
      cases hw
    · rw [h.pointer, hw]
      rfl
    · rw [(h.running hn).1] at hj
      cases hj
  | closeFunction hc hq => exact { h with closed := fun _ => hc, record := fun _ => rfl, refused := fun _ _ _ => rfl }
  | finalize hc hr => exact { h with record := fun _ => hc }
  | _ => exact h.fail _

end FnInv

theorem fnInv_reachable (h : (machine k own n).Reachable s) : FnInv k own s :=
  h.invariant (fun _ h0 => h0 ▸ FnInv.init) fun _ _ _ _ hI hs => hI.step (Step.of_step hs).2

end PulsarNode.Listener
