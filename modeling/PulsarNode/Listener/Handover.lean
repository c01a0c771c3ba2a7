/-
How a reader hands messages over: where no thread reads the reader pointer before it is published, and
the record and the wrapper are kept alive, every message delivered to the open function is handed to
the JS listener along with the reader, once and in order.
-/
import PulsarNode.Listener.Progress

namespace PulsarNode.Listener

variable {n : Nat} {own : WrapperPtr} {al : Allowed} {s s' : State n} {φ : Fin n → Phase}

/-! ## Messages handed over -/

/-- The messages that the JS listener was called with, along with the wrapper `own`. -/
def passed (own : WrapperPtr) (h : List Event) : List Msg :=
  h.filterMap fun e =>
    match e with
    | .called m w => if w = own then some m else none
    | _ => none

/-- The message of the present delivery, where that is still to be handed over; `closing` tells
whether the function refuses it. -/
def Phase.due (closing : Bool) : Phase → List Msg
  | .entered m => if closing then [] else [m]
  | .queued m => [m]
  | _ => []

theorem Accepts.of_snoc {h : List Event} {e : Event} {ψ' : Phase} (ha : Accepts own (h ++ [e]) ψ') :
    ∃ ψ, Accepts own h ψ ∧ ψ.step own e = some ψ' := by
  generalize hg : h ++ [e] = g at ha
  cases ha with
  | nil => simp at hg
  | snoc ha he =>
    obtain ⟨rfl, he'⟩ := List.append_inj' hg rfl
    cases he'
    exact ⟨_, ha, he⟩

theorem Accepts.unique {h : List Event} {ψ ψ' : Phase} (ha : Accepts own h ψ) (ha' : Accepts own h ψ') :
    ψ = ψ' := by
  induction ha generalizing ψ' with
  | nil =>
    generalize hg : ([] : List Event) = g at ha'
    cases ha' with
    | nil => rfl
    | snoc _ _ => simp at hg
  | snoc _ he ih =>
    obtain ⟨χ, hχ, he'⟩ := ha'.of_snoc
    rw [ih hχ, he'] at he
    exact (Option.some.inj he).symm

/-- Between the delivery and its end, handing over is what settles the debt. -/
theorem passed_step {h : List Event} {e : Event} {ψ ψ' : Phase} {closing : Bool} (he : ψ.step own e = some ψ')
    (hne : ∀ m, e ≠ .delivered m ∧ e ≠ .refused m ∧ e ≠ .skipped m) (hq : ∀ m, e = .queued m → closing = false) :
    passed own (h ++ [e]) ++ ψ'.due closing = passed own h ++ ψ.due closing := by
  have happ : passed own (h ++ [e]) = passed own h ++ passed own [e] := List.filterMap_append ..
  rw [happ, List.append_assoc]
  congr 1
  unfold Phase.step at he
  split at he
  · exact absurd rfl (hne _).1
  · exact absurd rfl (hne _).2.1
  · split at he <;> cases he
    simp [passed, Phase.due, hq _ rfl]
  · split at he <;> cases he
    rename_i hm
    simp [passed, Phase.due, hm.1, hm.2]
  · exact absurd rfl (hne _).2.2
  · split at he <;> cases he
    simp [passed, Phase.due]
  · split at he <;> cases he
    simp [passed, Phase.due]
  · split at he <;> cases he
    simp [passed, Phase.due]
  · cases he

/-- The messages in `opened` were delivered to each thread while the function was open. What was
handed over of them is all but what is due. -/
def Owes (own : WrapperPtr) (opened : Fin n → List Msg) (s : State n) : Prop :=
  ∀ t ψ, Accepts own (s.threads t).history ψ →
    opened t = passed own (s.threads t).history ++ ψ.due s.tsfn.closing

namespace Owes

variable {opened : Fin n → List Msg} {t : Fin n} {th : Thread}

theorem congr (h : Owes own opened s) (hh : ∀ t, (s'.threads t).history = (s.threads t).history)
    (hc : s'.tsfn.closing = s.tsfn.closing) : Owes own opened s' := by
  intro t ψ ha
  rw [hh] at ha ⊢
  rw [hc]
  exact h t ψ ha

/-- A thread notes an event that is no delivery, refusal or skip. -/
theorem log (h : Owes own opened s) {e : Event} (hth : th.history = (s.threads t).history ++ [e])
    (hne : ∀ m, e ≠ .delivered m ∧ e ≠ .refused m ∧ e ≠ .skipped m)
    (hq : ∀ m, e = .queued m → s.tsfn.closing = false) : Owes own opened (s.setThread t th) := by
  refine (Function.forall_update_iff s.threads fun t th => ∀ ψ, Accepts own th.history ψ →
    opened t = passed own th.history ++ ψ.due s.tsfn.closing).2 ⟨?_, fun u _ => h u⟩
  intro ψ' ha
  rw [hth] at ha ⊢
  obtain ⟨ψ, ha, he⟩ := ha.of_snoc
  exact (h t ψ ha).trans (passed_step he hne hq).symm

theorem finish (h : Owes own opened s) (j : Job n) : Owes own opened (State.finish j s) :=
  h.log rfl (by simp) (by simp)

theorem signal (h : Owes own opened s) (j : Job n) : Owes own opened (State.signal j s) := by
  unfold State.signal
  dsimp only
  split
  · exact h.log rfl (by simp) (by simp)
  · exact h

theorem deliver {m : Msg} (h : Owes own opened s) (hth : th.history = (s.threads t).history ++ [.delivered m]) :
    Owes own (if s.tsfn.closing then opened else Function.update opened t (opened t ++ [m])) (s.setThread t th) := by
  intro u ψ' ha
  by_cases hu : u = t
  · subst hu
    rw [State.threads_setThread_self, hth] at ha ⊢
    obtain ⟨ψ, ha, he⟩ := ha.of_snoc
    have hold := h u ψ ha
    have happ : passed own ((s.threads u).history ++ [.delivered m]) = passed own (s.threads u).history := by
      simp [passed]
    rw [happ]
    -- only a thread at rest takes a delivery, and it owes nothing
    cases ψ <;> cases he
    have hidle : Phase.due s.tsfn.closing .idle = [] := rfl
    rw [hidle, List.append_nil] at hold
    change _ = _ ++ (if s.tsfn.closing then [] else [m])
    split
    · rw [hold, List.append_nil]
    · rw [Function.update_self, hold]
  · rw [State.threads_setThread_of_ne s hu] at ha ⊢
    refine Eq.trans ?_ (h u ψ' ha)
    split
    · rfl
    · rw [Function.update_of_ne hu]

/-- A closing function owes nothing for what it refuses. -/
theorem refused {m : Msg} {p : Option WrapperPtr} (h : Owes own opened s) (hJ : JobInv own al s φ)
    (hpc : (s.threads t).pc = .read m p) (hc : s.tsfn.closing = true) :
    Owes own opened (s.setThread t ({ s.threads t with pc := .idle }.log (.refused m))) := by
  refine (Function.forall_update_iff s.threads fun t th => ∀ ψ, Accepts own th.history ψ →
    opened t = passed own th.history ++ ψ.due s.tsfn.closing).2 ⟨?_, fun u _ => h u⟩
  intro ψ' ha
  obtain ⟨ψ, ha, he⟩ := Accepts.of_snoc ha
  obtain rfl := ha.unique (hJ.threads t).accepts
  rw [(hJ.threads t).entered m (by rw [Thread.entering, hpc])] at ha he
  have hold := h t _ ha
  simp only [Phase.step, if_true, Option.some.injEq] at he
  subst he
  simpa [passed, Thread.log, Phase.due, hc] using hold

/-- The function closes when nothing is due. -/
theorem closeFunction (h : Owes own opened s) (hJ : JobInv own al s φ) (hq : s.queue = [])
    (hen : ∀ t, (s.threads t).entering = none) : Owes own opened { s with tsfn := s.tsfn.close } := by
  intro t ψ ha
  -- what is due is on its way to the queue or in it, and neither is so
  have hdue : ∀ c, ψ.due c = [] := by
    intro c
    obtain rfl := ha.unique (hJ.threads t).accepts
    rcases (hJ.threads t).phase_cases with hφ | ⟨m, he, hφ⟩ | ⟨j, hj, -, hφ⟩ | ⟨m, hφ | hφ⟩ | ⟨g, m, hφ⟩
    · rw [hφ, Phase.due] <;> nofun
    · rw [hen t] at he
      cases he
    · rw [hq] at hj
      cases hj
    all_goals rw [hφ, Phase.due] <;> nofun
  rw [hdue, h t ψ ha, hdue]

end Owes

/-! ## Pointers read after they are published -/

/-- The message that a thread has taken from the native client. -/
def Thread.present (th : Thread) : Option Msg :=
  match th.pc with
  | .idle => none
  | .entered m | .read m _ | .acquired m _ | .called m | .waiting m => some m

/-- Note the messages that are delivered while the function is open. -/
def noteOpened (s : State n) (a : Action n) (_ : State n) (opened : Fin n → List Msg) : Fin n → List Msg :=
  match a with
  | .deliver t m => if s.tsfn.closing then opened else Function.update opened t (opened t ++ [m])
  | _ => opened

/-- The pointer is read only once it is published, and the function closes only when no thread is on
its way to `BlockingCall`. -/
def ReadsPublished (s : State n) (a : Action n) : Prop :=
  match a with
  | .readPointer _ => s.pointer ≠ none
  | .closeFunction => ∀ t, (s.threads t).entering = none
  | _ => True

instance (s : State n) (a : Action n) : Decidable (ReadsPublished s a) :=
  match a with
  | .readPointer _ => inferInstanceAs (Decidable (_ ≠ _))
  | .closeFunction => inferInstanceAs (Decidable (∀ t, (s.threads t).entering = none))
  | .deliver .. | .acquire _ | .blockingCall _ | .release _ | .wake _ | .dispatch | .listenerReturns _
  | .settle .. | .callBack .. | .createOk | .createFail | .publish | .close | .forget | .collect | .finalize =>
    inferInstanceAs (Decidable True)

/-- The reader is created, its pointer is read in time, and nothing that a delivery needs is freed. -/
def LosesNone (s : State n) (a : Action n) : Prop := ReadsPublished s a ∧ KeepsAlive .reader s a ∧ a ≠ .createFail

instance (s : State n) (a : Action n) : Decidable (LosesNone s a) := inferInstanceAs (Decidable (_ ∧ _))

/-- A reader, with the messages that each thread was delivered while the function was open. -/
def reader (own : WrapperPtr) (n : Nat) : Machine (State n × (Fin n → List Msg)) (Action n) :=
  (machine .reader own n).record (fun _ => []) noteOpened

/-- A reader that reads its pointer only once it is published. -/
def publishedReader (own : WrapperPtr) (n : Nat) : Machine (State n × (Fin n → List Msg)) (Action n) :=
  ((machine .reader own n).restrict LosesNone).record (fun _ => []) noteOpened

/-- How messages are handed over in a state of the runs of `m`. -/
structure HandsOver (m : Machine (State n × (Fin n → List Msg)) (Action n)) (own : WrapperPtr)
    (p : State n × (Fin n → List Msg)) : Prop where
  fault : p.1.fault = none
  /-- All messages delivered to a thread while the function was open have been handed to the JS
  listener along with the reader, once each and in order, but for the one under way. -/
  handed : ∀ t, ∃ rest : List Msg, rest <+: (p.1.threads t).present.toList ∧
    p.2 t = passed own (p.1.threads t).history ++ rest
  /-- While one of them is still to be handed over, a step that carries on is open. -/
  moves : ∀ t, p.2 t ≠ passed own (p.1.threads t).history → Moves m p
  /-- Such steps alone come to an end. -/
  ends : ∀ as p', (∀ a ∈ as, a.advances = true) → m.run p as = some p' → as.length ≤ p.1.work

/-- A reader that reads its pointer only once it is published reads no null. -/
theorem jobInv_published {p : State n × (Fin n → List Msg)} (h : (publishedReader own n).Reachable p) :
    ∃ φ, JobInv own ⟨False, True⟩ p.1 φ := by
  refine jobInv_reachable (k := .reader) ?_ (fun _ _ _ => trivial) (fun _ _ _ _ => trivial)
    (fun _ _ hok => hok.2.1.not_strays) h.unrecord
  intro s t _ hok hn
  exact absurd hn hok.1

theorem lifeInv_published {p : State n × (Fin n → List Msg)} (h : (publishedReader own n).Reachable p) :
    LifeInv .reader p.1 := by
  have hcareful : (carefulMachine .reader own n).Reachable p.1 := h.unrecord.mono fun _ _ hok => hok.2.1
  exact lifeInv_reachable hcareful

/-- The initial reference is not released before the wrapper is made. -/
theorem unreleased_published {p : State n × (Fin n → List Msg)} (h : (publishedReader own n).Reachable p) :
    p.1.wrapper = .absent → p.1.holder ≠ .released := by
  refine h.unrecord.invariant (I := fun s => s.wrapper = .absent → s.holder ≠ .released) ?_ ?_
  · rintro s rfl _
    nofun
  · intro s a s' hr hI hs
    obtain ⟨hok, hs⟩ := Machine.restrict_step hs
    have hsignal : ∀ (s : State n) (j : Job n), (s.wrapper = .absent → s.holder ≠ .released) →
        (State.signal j s).wrapper = .absent → (State.signal j s).holder ≠ .released := by
      intro s j hs
      rw [State.wrapper_signal, State.holder_signal]
      exact hs
    cases (Step.of_step hs).2 with
    | createOk hh => exact fun _ => nofun
    | createFail hh => exact absurd rfl hok.2.2
    | publish hh hr => nofun
    | close hh =>
      have halive := (fnInv_reachable hr.unrestrict).alive hh
      intro hw
      rw [show s.wrapper = _ from hw] at halive
      cases halive
    | collect hw hs hj => nofun
    | skip => exact hsignal _ _ hI
    | ends => exact hsignal _ _ hI
    | settles => exact hsignal _ _ hI
    | signals => exact hsignal _ _ hI
    | _ => exact hI

/-- What a step hands over, and what it delivers, keeps the books. -/
theorem Owes.step {opened : Fin n → List Msg} {a : Action n} (h : Owes own opened s) (hF : FnInv .reader own s)
    (hJ : JobInv own al s φ) (hnull : ¬ al.null) (hok : ReadsPublished s a) (hs : Step .reader own s a s') :
    Owes own (noteOpened s a s' opened) s' := by
  cases hs with
  | deliver hpc => exact h.deliver rfl
  | readPointer hpc hd hp => exact h.congr (State.history_setThread s _ _ rfl) rfl
  | refused hpc hc => exact h.refused hJ hpc hc
  | acquired hpc hc => exact h.congr (State.history_setThread s _ _ rfl) hc.symm
  | callClosing hpc hc => exact h.congr (State.history_setThread s _ _ rfl) (Tsfn.closing_drop _)
  | @queued t m p hpc =>
    have hopen := hF.open_of_holds (t := t) (by rw [Thread.holds, hpc])
    have hlog : Owes own opened (s.setThread t ({ s.threads t with pc := .called m }.log (.queued m))) :=
      h.log rfl (by simp) fun _ _ => hopen
    exact hlog.congr (fun _ => rfl) rfl
  | release hpc => exact h.congr (State.history_setThread s _ _ rfl) (Tsfn.closing_drop _)
  | wake hpc hr => exact h.log rfl (by simp) (by simp)
  | @call j rest p hr hq hw halive =>
    have hlog : Owes own opened (s.setThread j.thread ((s.threads j.thread).log (.called j.msg p))) :=
      h.log rfl (by simp) (by simp)
    exact hlog.congr (fun _ => rfl) rfl
  -- a job to skip carries a null, which no thread has read
  | @skip j rest hr hq hw hk =>
    obtain ⟨-, hptr⟩ := (hJ.threads j.thread).queued j (by rw [hq]; exact List.mem_cons_self) rfl
    rcases hptr with ⟨hptr, -⟩ | ⟨-, hn⟩
    · rw [hw] at hptr
      cases hptr
    · exact absurd hn hnull
  | @ends j o hr ho =>
    have h' : Owes own opened { s with running := none } := h.congr (fun _ => rfl) rfl
    exact (h'.finish j).signal j
  | @throwsReader j hr hk =>
    have h' : Owes own opened { s with running := none } := h.congr (fun _ => rfl) rfl
    exact h'.finish j
  | @settles j b hj hr hb =>
    have h' : Owes own opened { s with pending := s.pending.erase j } := h.congr (fun _ => rfl) rfl
    exact (h'.finish j).signal j
  | @rejectsReader j hj hr hk =>
    have h' : Owes own opened { s with pending := s.pending.erase j } := h.congr (fun _ => rfl) rfl
    exact h'.finish j
  | @signals j hj => exact (h.finish j).signal j
  | createFail hh => exact h.congr (fun _ => rfl) (Tsfn.closing_drop _)
  | close hh => exact h.congr (fun _ => rfl) (Tsfn.closing_drop _)
  | closeFunction hc hq => exact h.closeFunction hJ hq hok
  | _ => exact h.congr (fun _ => rfl) rfl

theorem owes_reachable {p : State n × (Fin n → List Msg)} (h : (publishedReader own n).Reachable p) :
    Owes own p.2 p.1 := by
  refine h.invariant (I := fun p => Owes own p.2 p.1) ?_ ?_
  · rintro p ⟨h0, h1⟩ t ψ ha
    have h0 : p.1 = .init := h0
    rw [h0] at ha ⊢
    rw [h1, Accepts.unique ha .nil]
    rfl
  · intro p a p' hr hI hs
    obtain ⟨hs, hnote⟩ := Machine.record_step hs
    obtain ⟨hok, hs⟩ := Machine.restrict_step hs
    obtain ⟨φ, hJ⟩ := jobInv_published hr
    rw [hnote]
    exact hI.step (fnInv_reachable hr.unrecord.unrestrict) hJ id hok.1 (Step.of_step hs).2

/-- What is due is the message under way. -/
theorem ThreadOk.due_present {made : Prop} {q r : List (Job n)} {t : Fin n} {th : Thread} {ψ : Phase}
    (h : ThreadOk own al made q r t th ψ) (closing : Bool) : ψ.due closing <+: th.present.toList := by
  rcases h.phase_cases with hψ | ⟨m, he, hψ⟩ | ⟨j, hj, hjt, hψ⟩ | ⟨m, hψ | hψ⟩ | ⟨g, m, hψ⟩
  · rw [hψ]
    exact List.nil_prefix
  · have hp : th.present = some m := by
      unfold Thread.entering at he
      unfold Thread.present
      split at he <;> simp_all
    rw [hψ, hp, Phase.due]
    split
    · exact List.nil_prefix
    · exact List.prefix_rfl
  · have ha := (h.job j (List.mem_append_left _ hj) hjt).2.1
    have hp : th.present = some j.msg := by
      unfold Thread.awaited at ha
      unfold Thread.present
      split at ha <;> simp_all
    rw [hψ, hp]
    exact List.prefix_rfl
  all_goals
    rw [hψ]
    exact List.nil_prefix

/-- What is due is on its way to the queue, or in it. -/
theorem due_moves {ok : State n → Action n → Prop} [∀ s a, Decidable (ok s a)] (hok : ∀ a, Smooth s a → ok s a)
    (hF : FnInv k own s) (hJ : JobInv own al s φ) (hf : s.fault = none) {t : Fin n}
    (hd : s.recordDeleted = true → (s.threads t).reads = false) (hp : s.pointer ≠ none ∨ s.holder ≠ .released)
    (hdue : (φ t).due s.tsfn.closing ≠ []) : Moves ((machine k own n).restrict ok) s := by
  rcases (hJ.threads t).phase_cases with hφ | ⟨m, he, hφ⟩ | ⟨j, hj, -, hφ⟩ | ⟨m, hφ | hφ⟩ | ⟨g, m, hφ⟩
  · rw [hφ] at hdue
    exact absurd rfl hdue
  · exact entering_moves hok hF hf hd (hp.imp_right .inl) (by rw [he]; rintro ⟨⟩)
  · exact jsThread_moves hok hf (List.ne_nil_of_mem (List.mem_append_left _ hj))
  all_goals
    rw [hφ] at hdue
    exact absurd rfl hdue

theorem Smooth.losesNone {a : Action n} (h : Smooth s a) : LosesNone s a := by
  refine ⟨?_, h.keepsAlive, ?_⟩
  · cases a with
    | readPointer t => exact h
    | closeFunction => cases h
    | _ => trivial
  · rintro rfl
    exact h

/-- In every run in which no thread reads the pointer before it is published, the function does not
close on a thread that is about to queue, and the record and the wrapper are kept alive, every message
delivered to the open function is handed over. -/
theorem handsOver_reachable {p : State n × (Fin n → List Msg)} (h : (publishedReader own n).Reachable p) :
    HandsOver (publishedReader own n) own p := by
  obtain ⟨φ, hJ⟩ := jobInv_published h
  have hF := fnInv_reachable h.unrecord.unrestrict
  have hL := lifeInv_published h
  have howes : ∀ t, p.2 t = passed own (p.1.threads t).history ++ (φ t).due p.1.tsfn.closing := fun t =>
    owes_reachable h t (φ t) (hJ.threads t).accepts
  exact {
    fault := hL.fault
    handed := fun t => ⟨_, (hJ.threads t).due_present _, howes t⟩
    moves := fun t ht => by
      have hdue : (φ t).due p.1.tsfn.closing ≠ [] := by
        intro hnil
        rw [howes t, hnil, List.append_nil] at ht
        exact ht rfl
      have hp : p.1.pointer ≠ none ∨ p.1.holder ≠ .released := by
        by_cases hw : p.1.wrapper = .absent
        · exact .inr (unreleased_published h hw)
        · refine .inl ?_
          rw [hF.pointer, if_neg hw]
          rintro ⟨⟩
      obtain ⟨a, ha, s', hs'⟩ := due_moves (fun _ => Smooth.losesNone) hF hJ hL.fault (fun hd => hL.record hd t) hp hdue
      exact ⟨a, ha, _, Machine.record_of_step hs'⟩
    ends := fun as p' has hrun => by
      have hdec : ∀ p (a : Action n) p', (publishedReader own n).Reachable p → a.advances = true →
          (publishedReader own n).step p a = some p' → p'.1.work < p.1.work := by
        intro p a p' hr ha hs
        obtain ⟨hs', -⟩ := Machine.record_step hs
        exact (Step.of_step (Machine.restrict_step hs').2).2.work_lt ha (lifeInv_published (hr.step hs)).fault
      exact h.length_le hdec has hrun }

theorem publishedReader_start : (publishedReader own n).start (.init, fun _ => []) := ⟨rfl, rfl⟩

/-- A message delivered before the wrapper exists, its thread stopped until the pointer is there. -/
def patientDelivery : State 1 × (Fin 1 → List Msg) :=
  (publishedReader 9 1).runFrom (.init, fun _ => [])
    [.createOk, .deliver sole 5, .publish, .readPointer sole, .acquire sole, .blockingCall sole, .dispatch,
      .release sole, .listenerReturns .value, .wake sole, .deliver sole 6]

theorem handsOver_patientDelivery :
    patientDelivery.2 sole = [5, 6] ∧ passed 9 (patientDelivery.1.threads sole).history = [5] ∧
      HandsOver (publishedReader 9 1) 9 patientDelivery :=
  ⟨by decide, by decide, handsOver_reachable (.runFrom (.start publishedReader_start) _)⟩

theorem reader_start : (reader own n).start (.init, fun _ => []) := ⟨rfl, rfl⟩

/-- The native client has created the reader and delivers a message at once; its thread reads the
pointer before the JS thread publishes it. -/
def hastyDelivery : State 1 × (Fin 1 → List Msg) :=
  (reader 9 1).runFrom (.init, fun _ => [])
    [.createOk, .deliver sole 5, .readPointer sole, .acquire sole, .blockingCall sole, .publish, .dispatch,
      .release sole, .wake sole]

/-- The message is delivered to the open function, and never handed over. -/
theorem hastyDelivery_lost :
    (reader 9 1).Reachable hastyDelivery ∧ hastyDelivery.1.fault = none ∧
      hastyDelivery.1.tsfn.closing = false ∧ hastyDelivery.2 sole = [5] ∧
      (hastyDelivery.1.threads sole).history =
        [.delivered 5, .queued 5, .skipped 5, .signalled 5, .returned 5] ∧ ¬ HandsOver (reader 9 1) 9 hastyDelivery := by
  refine ⟨.runFrom (.start reader_start) _, by decide, by decide, by decide, by decide, ?_⟩
  intro h
  obtain ⟨rest, hrest, heq⟩ := h.handed sole
  have hp : (hastyDelivery.1.threads sole).present = none := by decide
  rw [hp] at hrest
  rw [List.prefix_nil.1 hrest] at heq
  revert heq
  decide

end PulsarNode.Listener
