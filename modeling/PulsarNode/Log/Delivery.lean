/-
Where the log messages go. In every run each struct is in one place, and the handlers are called with what
was queued for them, in order. Where no call is disturbed, none is refused, and each comes to the handler
that its call acquired.
-/
import PulsarNode.Log.Messages

namespace PulsarNode.Log

variable {n : Nat}

namespace Delivery

variable {d d' : Delivery n} {s' : State n}

/-! ## Conservation -/

/-- Whether a thread holds the message `i`. -/
def held (i : Nat) : Option (LogMessage n) → Nat
  | none => 0
  | some m => if m.id = i then 1 else 0

/-- How often the message `i` is held, sent or dropped. -/
def copies (d : Delivery n) (i : Nat) : Nat :=
  total (held i) d.holding + d.sent.countP (·.logMessage.id = i) + d.dropped.countP (·.id = i)

theorem copies_allocate {t : Fin n} {f : FnId} (ht : d.holding t = none) (i : Nat) :
    (d.allocate s' t f).copies i = d.copies i + if d.allocated = i then 1 else 0 := by
  have htotal := total_update (held i) d.holding t (some ⟨d.allocated, t, f⟩)
  rw [ht] at htotal
  simp only [held] at htotal
  simp only [copies, allocate]
  omega

theorem copies_send {t : Fin n} {m : LogMessage n} (ht : d.holding t = some m) (f : FnId) (i : Nat) :
    (d.send s' t m f).copies i = d.copies i := by
  have htotal := total_update (held i) d.holding t none
  rw [ht] at htotal
  simp only [held] at htotal
  simp only [copies, send, List.countP_append, List.countP_singleton, decide_eq_true_eq]
  omega

theorem copies_drop {t : Fin n} {m : LogMessage n} (ht : d.holding t = some m) (i : Nat) :
    (d.drop s' t m).copies i = d.copies i := by
  have htotal := total_update (held i) d.holding t none
  rw [ht] at htotal
  simp only [held] at htotal
  simp only [copies, drop, List.countP_append, List.countP_singleton, decide_eq_true_eq]
  omega

/-- What holds of the messages in every run. -/
structure Inv (d : Delivery n) : Prop where
  holding : ∀ t, (d.holding t).isSome = (d.log.threads t).carries
  own : ∀ t m, d.holding t = some m → m.thread = t
  queued : ∀ f, (d.queues f).accepted = (d.sent.filter (·.queuedOn = f)).map (·.logMessage)
  copies : ∀ i, d.copies i = if i < d.allocated then 1 else 0
  order : d.sent.Pairwise fun a b => a.logMessage.thread = b.logMessage.thread → a.logMessage.id < b.logMessage.id
  newest : ∀ t m, d.holding t = some m → ∀ a ∈ d.sent, a.logMessage.thread = t → a.logMessage.id < m.id
  closed : ∀ f, (d.log.fns f).closing = true → (d.queues f).waiting = []

namespace Inv

theorem init : Inv (Delivery.init : Delivery n) where
  holding _ := rfl
  own := nofun
  queued _ := rfl
  copies i := by
    have hnone : total (held i) (Delivery.init : Delivery n).holding = 0 := total_eq_zero.2 fun _ => rfl
    show total (held i) (Delivery.init : Delivery n).holding + 0 + 0 = _
    rw [hnone]
    rfl
  order := .nil
  newest := nofun
  closed _ _ := rfl

/-- A message that was sent has been allocated. -/
theorem sent_lt (h : Inv d) {a : Sent n} (ha : a ∈ d.sent) : a.logMessage.id < d.allocated := by
  have hcopies := h.copies a.logMessage.id
  have hpos : 0 < d.sent.countP (·.logMessage.id = a.logMessage.id) := List.countP_pos_iff.2 ⟨a, ha, by simp⟩
  by_contra hlt
  rw [if_neg hlt, Delivery.copies] at hcopies
  omega

theorem holding_update (h : Inv d) {t : Fin n} {pc : Pc} {x : Option (LogMessage n)}
    (hthreads : s'.threads = Function.update d.log.threads t pc) (hx : x.isSome = pc.carries) (u : Fin n) :
    (Function.update d.holding t x u).isSome = (s'.threads u).carries := by
  rw [hthreads]
  by_cases hu : u = t
  · subst hu
    rw [Function.update_self, Function.update_self, hx]
  · rw [Function.update_of_ne hu, Function.update_of_ne hu, h.holding u]

/-- What a thread holds after `t` was given a message, or its message was taken. -/
theorem of_holding_some {t u : Fin n} {x m : LogMessage n} (hm : Function.update d.holding t (some x) u = some m) :
    u = t ∧ m = x ∨ d.holding u = some m := by
  by_cases hu : u = t
  · subst hu
    rw [Function.update_self] at hm
    cases hm
    exact .inl ⟨rfl, rfl⟩
  · rw [Function.update_of_ne hu] at hm
    exact .inr hm

theorem of_holding_none {t u : Fin n} {m : LogMessage n} (hm : Function.update d.holding t none u = some m) :
    u ≠ t ∧ d.holding u = some m := by
  by_cases hu : u = t
  · subst hu
    rw [Function.update_self] at hm
    cases hm
  · rw [Function.update_of_ne hu] at hm
    exact ⟨hu, hm⟩

theorem quiet (h : Inv d) (hcarries : ∀ u, (s'.threads u).carries = (d.log.threads u).carries)
    (hclosing : ∀ g, (s'.fns g).closing = true → (d.log.fns g).closing = true ∨ (d.queues g).waiting = []) :
    Inv { d with log := s' } where
  holding t := (h.holding t).trans (hcarries t).symm
  own := h.own
  queued := h.queued
  copies := h.copies
  order := h.order
  newest := h.newest
  closed f hf := (hclosing f hf).elim (h.closed f) id

theorem allocate (h : Inv d) {t : Fin n} {r : RecordId} {f : FnId} (hpc : d.log.threads t = .read r)
    (hthreads : s'.threads = Function.update d.log.threads t (.acquired r))
    (hclosing : ∀ g, (s'.fns g).closing = true → (d.log.fns g).closing = true) : Inv (d.allocate s' t f) where
  holding := h.holding_update hthreads rfl
  own u m hm := by
    rcases of_holding_some hm with ⟨rfl, rfl⟩ | hm
    · rfl
    · exact h.own u m hm
  queued := h.queued
  copies i := by
    have hnone : d.holding t = none := by
      have ht := h.holding t
      rw [hpc] at ht
      exact Option.not_isSome_iff_eq_none.1 (by rw [ht]; exact Bool.false_ne_true)
    rw [copies_allocate hnone, h.copies i]
    show _ = if i < d.allocated + 1 then 1 else 0
    split <;> split <;> split <;> omega
  order := h.order
  newest u m hm a ha hthread := by
    rcases of_holding_some hm with ⟨rfl, rfl⟩ | hm
    · exact h.sent_lt ha
    · exact h.newest u m hm a ha hthread
  closed g hg := h.closed g (hclosing g hg)

theorem send (h : Inv d) {t : Fin n} {r : RecordId} {f : FnId} {m : LogMessage n} (hm : d.holding t = some m)
    (hopen : (d.log.fns f).closing = false) (hthreads : s'.threads = Function.update d.log.threads t (.called r))
    (hclosing : ∀ g, (s'.fns g).closing = true → (d.log.fns g).closing = true) : Inv (d.send s' t m f) where
  holding := h.holding_update hthreads rfl
  own u m' hm' := h.own u m' (of_holding_none hm').2
  queued g := by
    show (Function.update d.queues f ((d.queues f).put m) g).accepted =
      ((d.sent ++ [(⟨m, f⟩ : Sent n)]).filter (·.queuedOn = g)).map (·.logMessage)
    rw [List.filter_append, List.map_append, ← h.queued g]
    by_cases hg : g = f
    · subst hg
      simp
    · rw [Function.update_of_ne hg]
      simp [Ne.symm hg]
  copies i := (copies_send hm f i).trans (h.copies i)
  order := by
    refine List.pairwise_append.2 ⟨h.order, List.pairwise_singleton _ _, fun a ha b hb hthread => ?_⟩
    obtain rfl := List.mem_singleton.1 hb
    exact h.newest t m hm a ha (hthread.trans (h.own t m hm))
  newest u m' hm' a ha hthread := by
    obtain ⟨hu, hm'⟩ := of_holding_none hm'
    rcases List.mem_append.1 ha with ha | ha
    · exact h.newest u m' hm' a ha hthread
    · obtain rfl := List.mem_singleton.1 ha
      exact absurd (hthread.symm.trans (h.own t m hm)) hu
  closed g hg := by
    have hg' := hclosing g hg
    by_cases hgf : g = f
    · subst hgf
      rw [hopen] at hg'
      cases hg'
    · show (Function.update d.queues f _ g).waiting = []
      rw [Function.update_of_ne hgf]
      exact h.closed g hg'

theorem drop (h : Inv d) {t : Fin n} {r : RecordId} {m : LogMessage n} (hm : d.holding t = some m)
    (hthreads : s'.threads = Function.update d.log.threads t (.called r))
    (hclosing : ∀ g, (s'.fns g).closing = true → (d.log.fns g).closing = true) : Inv (d.drop s' t m) where
  holding := h.holding_update hthreads rfl
  own u m' hm' := h.own u m' (of_holding_none hm').2
  queued := h.queued
  copies i := (copies_drop hm i).trans (h.copies i)
  order := h.order
  newest u m' hm' a ha hthread := h.newest u m' (of_holding_none hm').2 a ha hthread
  closed g hg := h.closed g (hclosing g hg)

theorem dispatch (h : Inv d) {f : FnId} {q : Fifo (LogMessage n)} (hopen : (d.log.fns f).closing ≠ true)
    (hq : (d.queues f).take = some q) : Inv { d with queues := Function.update d.queues f q } where
  holding := h.holding
  own := h.own
  queued g := by
    by_cases hg : g = f
    · subst hg
      show (Function.update d.queues g q g).accepted = _
      rw [Function.update_self, Fifo.accepted_take hq, h.queued g]
    · show (Function.update d.queues f q g).accepted = _
      rw [Function.update_of_ne hg, h.queued g]
  copies := h.copies
  order := h.order
  newest := h.newest
  closed g hg := by
    by_cases hgf : g = f
    · subst hgf
      exact absurd hg hopen
    · show (Function.update d.queues f q g).waiting = []
      rw [Function.update_of_ne hgf]
      exact h.closed g hg

theorem step {a : DeliveryAction n} (h : Inv d) (hs : d.step a = some d') : Inv d' := by
  obtain ⟨b, s', rfl, hblocked, hlog, rfl⟩ | ⟨f, q, rfl, hopen, hq, rfl⟩ := step_cases hs
  · have hfollows := Follows.of_step hblocked hlog h.holding
    generalize d.follow s' b = d' at hfollows
    cases hfollows with
    | quiet hcarries hclosing => exact h.quiet hcarries hclosing
    | allocate hpc hf hthreads hinstalled hclosing => exact h.allocate hpc hthreads hclosing
    | send hpc hf hm hopen hthreads hclosing => exact h.send hm hopen hthreads hclosing
    | drop hpc hf hm hc hthreads hclosing => exact h.drop hm hthreads hclosing
  · exact h.dispatch hopen hq

end Inv

theorem inv_reachable (h : (deliveryMachine n).Reachable d) : Inv d :=
  h.invariant (fun _ h0 => h0 ▸ Inv.init) fun _ _ _ _ hI hs => hI.step hs

/-! ## Delivery -/

/-- How the messages fare. -/
structure Delivered (d : Delivery n) : Prop where
  /-- An allocated message is in one place: a thread holds it, or it was queued, or it was refused. -/
  conserved : ∀ i, d.copies i = if i < d.allocated then 1 else 0
  /-- No message is queued twice. -/
  once : (d.sent.map (·.logMessage.id)).Nodup
  /-- A handler has been called with the first of the messages queued on it, in order. -/
  inOrder : ∀ f, (d.queues f).taken <+: (d.sent.filter (·.queuedOn = f)).map (·.logMessage)
  /-- The messages of one thread come to a handler in the order in which it logged them. -/
  threadOrder : ∀ f, (d.queues f).taken.Pairwise fun a b => a.thread = b.thread → a.id < b.id
  /-- A handler for which a message waits can be called with it when the JS thread is done with its call. -/
  waiting : d.log.fault = none → d.log.writer = .idle → ∀ f, (d.queues f).waiting ≠ [] →
    (d.step (.dispatch f)).isSome = true

theorem Inv.delivered (h : Inv d) : Delivered d where
  conserved := h.copies
  once := by
    refine List.nodup_iff_count_le_one.2 fun i => ?_
    have hcount : (d.sent.map (·.logMessage.id)).count i = d.sent.countP (·.logMessage.id = i) := by
      rw [List.count_eq_countP, List.countP_map]
      exact List.countP_congr fun a _ => by simp
    have hcopies := h.copies i
    rw [hcount]
    unfold Delivery.copies at hcopies
    split at hcopies <;> omega
  inOrder f := h.queued f ▸ (d.queues f).taken_begins
  threadOrder f := by
    have hall : ((d.sent.filter (·.queuedOn = f)).map (·.logMessage)).Pairwise fun a b => a.thread = b.thread → a.id < b.id :=
      List.pairwise_map.2 (h.order.sublist List.filter_sublist)
    exact hall.sublist (h.queued f ▸ (d.queues f).taken_begins.sublist)
  waiting hfault hidle f hw := by
    have hopen : (d.log.fns f).closing ≠ true := fun hc => hw (h.closed f hc)
    dsimp only [Delivery.step]
    rw [if_neg (by simp [hfault, hidle, hopen]), Option.isSome_map]
    exact Fifo.take_isSome.2 hw

/-- In every run, whatever the threads and the JS thread do in between, up to a fault. -/
theorem delivered_reachable (h : (deliveryMachine n).Reachable d) : Delivered d := (inv_reachable h).delivered

/-- The handler is replaced while two calls hold a message. The first one's release takes the new handler's only
reference, so that it closes and the second one's message is refused. -/
theorem delivered_replacedUnderCalls : ∃ d : Delivery 2, (deliveryMachine 2).Reachable d ∧ d.log.fault = none ∧
    (d.queues 1).taken = [⟨0, 0, 0⟩] ∧ d.dropped = [⟨1, 1, 0⟩] ∧ Delivered d := by
  have hrun : (deliveryMachine 2).run .init [.log .create, .log .releaseOld, .log .overwrite, .log (.read 0),
      .log (.acquire 0), .log (.read 1), .log (.acquire 1), .log .create, .log .releaseOld, .log .overwrite,
      .log (.call 0), .log (.release 0), .dispatch 1, .log (.closeFunction 1), .log (.call 1)] = some _ := rfl
  have hreach := Machine.Reachable.run (.start rfl) hrun
  exact ⟨_, hreach, rfl, rfl, rfl, delivered_reachable hreach⟩

/-! ## Where no call is disturbed -/

end Delivery

/-- The step of the log, if it is one, disturbs no call. -/
def DeliveryAction.Undisturbs (d : Delivery n) : DeliveryAction n → Prop
  | .log a => Undisturbed d.log a
  | .dispatch _ => True

instance (d : Delivery n) (a : DeliveryAction n) : Decidable (a.Undisturbs d) :=
  match a with
  | .log a => inferInstanceAs (Decidable (Undisturbed d.log a))
  | .dispatch _ => inferInstanceAs (Decidable True)

def undisturbedDelivery (n : Nat) : Machine (Delivery n) (DeliveryAction n) :=
  (deliveryMachine n).restrict fun d a => a.Undisturbs d

namespace State

variable {s s' : State n}

theorem installed_releaseFn (s : State n) (f : FnId) : (s.releaseFn f).installed = s.installed := by
  unfold releaseFn
  split <;> rfl

/-- While a call holds a message the installed function stays. -/
theorem installed_of_carries (h : CountInv s) {a : Action n} (hok : Undisturbed s a) (hs : Step s a s') {t : Fin n}
    (ht : (s.threads t).carries = true) : s'.installed = s.installed := by
  obtain ⟨r, hpc⟩ : ∃ r, s.threads t = .acquired r := by
    cases hp : s.threads t with
    | acquired r => exact ⟨r, rfl⟩
    | _ => rw [hp] at ht; cases ht
  have hle := s.weight_le_users t
  rw [hpc] at hle
  cases hs with
  | @release u r f hp hf => exact installed_releaseFn s f
  | releaseOld hw hr hg => exact installed_releaseFn s _
  | releaseLast hw hr hg => exact installed_releaseFn s _
  | allocate hw hr =>
    have hin := h.inFlight t r (by rw [hpc]; rfl)
    rw [hr] at hin
    cases hin
  | overwrite hw hr =>
    have hzero : s.users = 0 := hok
    dsimp only [Pc.weight] at hle
    omega
  | delete hw hr =>
    have hidle : s.threads t = .idle := hok t
    rw [hpc] at hidle
    cases hidle
  | _ => rfl

/-- The function of a call in flight is the installed one. -/
theorem function_eq_installed (h : CountInv s) {t : Fin n} {f : FnId} (hf : s.function t = some f) :
    s.installed = some f := by
  obtain ⟨r, hr, hcallback⟩ := Option.bind_eq_some_iff.1 hf
  exact h.installed_of_call hr hcallback

end State

namespace Delivery

/-- What holds besides where no call is disturbed. -/
structure Addressed (d : Delivery n) : Prop where
  holding : ∀ t m, d.holding t = some m → d.log.installed = some m.acquired
  sent : ∀ a ∈ d.sent, a.queuedOn = a.logMessage.acquired
  dropped : d.dropped = []

namespace Addressed

theorem follows (h : Addressed d) (hI : Inv d) (hcount : CountInv d.log) {a : Action n} (hok : Undisturbed d.log a)
    (hlog : d.log.step a = some s') (hf : Follows d s' d') : Addressed d' := by
  have hstays {t : Fin n} {m : LogMessage n} (hm : d.holding t = some m) : s'.installed = some m.acquired := by
    have hcarries : (d.log.threads t).carries = true := by rw [← hI.holding t, hm]; rfl
    rw [State.installed_of_carries hcount hok (Step.of_step hlog).2 hcarries]
    exact h.holding t m hm
  cases hf with
  | quiet hcarries hclosing => exact ⟨fun t m hm => hstays hm, h.sent, h.dropped⟩
  | @allocate t r f hpc hf hthreads hinstalled hclosing =>
    refine ⟨fun u m hm => ?_, h.sent, h.dropped⟩
    rcases Inv.of_holding_some hm with ⟨rfl, rfl⟩ | hm
    · exact hinstalled.trans (State.function_eq_installed hcount hf)
    · exact hstays hm
  | @send t r f m hpc hf hm hopen hthreads hclosing =>
    refine ⟨fun u m' hm' => hstays (Inv.of_holding_none hm').2, fun a ha => ?_, h.dropped⟩
    rcases List.mem_append.1 ha with ha | ha
    · exact h.sent a ha
    · obtain rfl := List.mem_singleton.1 ha
      exact Option.some.inj ((State.function_eq_installed hcount hf).symm.trans (h.holding t m hm))
  | @drop t r f m hpc hf hm hc hthreads hclosing =>
    -- the call holds a reference, so the function is not closing
    have hzero := hcount.closed f hc
    have hreferences := hcount.count_installed (State.function_eq_installed hcount hf)
    have hle := d.log.weight_le_users t
    rw [hpc] at hle
    dsimp only [Pc.weight] at hle
    omega

end Addressed

theorem follow_log (d : Delivery n) (s' : State n) (a : Action n) : (d.follow s' a).log = s' := by
  cases a with
  | acquire t =>
    dsimp only [follow]
    split <;> rfl
  | call t =>
    dsimp only [follow]
    split
    · split <;> rfl
    · rfl
  | _ => rfl

/-- The log of such a run is one where no call is disturbed. -/
theorem log_reachable (h : (undisturbedDelivery n).Reachable d) : (undisturbedMachine n).Reachable d.log := by
  refine h.image (·.log) (fun d h0 => ?_) fun d a d' _ hs => ?_
  · rw [show d = .init from h0]
    rfl
  · obtain ⟨hok, hs⟩ := Machine.restrict_step hs
    obtain ⟨b, s', rfl, hblocked, hlog, rfl⟩ | ⟨f, q, rfl, hopen, hq, rfl⟩ := step_cases hs
    · refine .inr ⟨b, ?_⟩
      show (if Undisturbed d.log b then d.log.step b else none) = _
      rw [follow_log, ← hlog]
      exact if_pos hok
    · exact .inl rfl

theorem addressed_reachable (h : (undisturbedDelivery n).Reachable d) : Addressed d := by
  refine h.invariant (I := Addressed) (fun d h0 => ?_) fun d a d' hreach hI hs => ?_
  · rw [show d = .init from h0]
    exact ⟨nofun, nofun, rfl⟩
  · have hcount := countInv_reachable (log_reachable hreach)
    have hinv : Inv d := inv_reachable hreach.unrestrict
    obtain ⟨hok, hs⟩ := Machine.restrict_step hs
    obtain ⟨b, s', rfl, hblocked, hlog, rfl⟩ | ⟨f, q, rfl, hopen, hq, rfl⟩ := step_cases hs
    · exact hI.follows hinv hcount hok hlog (Follows.of_step hblocked hlog hinv.holding)
    · exact ⟨hI.holding, hI.sent, hI.dropped⟩

/-- Where no call is disturbed no message is refused, and a message comes to the handler that its call acquired. -/
theorem addressed_undisturbed (h : (undisturbedDelivery n).Reachable d) :
    d.dropped = [] ∧ ∀ f, ∀ m ∈ (d.queues f).taken, m.acquired = f := by
  have haddressed := addressed_reachable h
  refine ⟨haddressed.dropped, fun f m hm => ?_⟩
  obtain ⟨a, ha, rfl⟩ := List.mem_map.1 (((delivered_reachable h.unrestrict).inOrder f).subset hm)
  obtain ⟨hsent, hon⟩ := List.mem_filter.1 ha
  rw [← haddressed.sent a hsent]
  simpa using hon

/-- A handler that is replaced between two calls. -/
theorem addressed_replaced : ∃ d : Delivery 1, (undisturbedDelivery 1).Reachable d ∧ (d.queues 0).taken = [⟨0, sole, 0⟩] ∧
    (d.queues 1).taken = [⟨1, sole, 1⟩] ∧ d.dropped = [] ∧ ∀ f, ∀ m ∈ (d.queues f).taken, m.acquired = f := by
  have hrun : (undisturbedDelivery 1).run .init [.log .create, .log .releaseOld, .log .overwrite, .log (.read sole),
      .log (.acquire sole), .log (.call sole), .log (.release sole), .log .create, .log .releaseOld, .log .overwrite,
      .log (.read sole), .log (.acquire sole), .log (.call sole), .dispatch 1, .dispatch 0] = some _ := rfl
  have hreach := Machine.Reachable.run (.start rfl) hrun
  exact ⟨_, hreach, rfl, rfl, addressed_undisturbed hreach⟩

end Delivery

end PulsarNode.Log
