/-
The messages of `Client::LogMessage`. A call allocates a struct after `Acquire`, `BlockingCall` queues it
on the function that the record has by then, and `LogMessageProxy` deletes it and calls the handler. A
struct that `BlockingCall` refuses, because the function is closing, nobody deletes.
-/
import PulsarNode.Log.Count
import PulsarNode.Machine.Fifo

namespace PulsarNode.Log

variable {n : Nat}

/-! ## States -/

/-- `struct LogMessage`, by the order of allocation, with the thread that logs it and the function that the
thread has acquired. -/
structure LogMessage (n : Nat) where
  id : Nat
  thread : Fin n
  acquired : FnId
  deriving DecidableEq, Repr

/-- A `BlockingCall` that queued its message, and on which function. -/
structure Sent (n : Nat) where
  logMessage : LogMessage n
  queuedOn : FnId
  deriving DecidableEq, Repr

/-- The log with its messages: those that threads hold, the queue of each function with what its handler
has been called with, the calls that queued one, and what was refused. -/
structure Delivery (n : Nat) where
  log : State n
  holding : Fin n → Option (LogMessage n)
  allocated : Nat
  queues : FnId → Fifo (LogMessage n)
  sent : List (Sent n)
  dropped : List (LogMessage n)

/-- A step of the log, or the JS thread that calls a handler with the first message of its queue. -/
inductive DeliveryAction (n : Nat)
  | log (a : Action n)
  | dispatch (f : FnId)
  deriving DecidableEq, Repr

/-- The function of the record that a thread has read. -/
def State.function (s : State n) (t : Fin n) : Option FnId := (s.threads t).record.bind fun r => (s.records r).callback

namespace Delivery

def init : Delivery n := ⟨.init, fun _ => none, 0, fun _ => .empty, [], []⟩

/-- `new struct LogMessage(...)`. -/
def allocate (d : Delivery n) (s' : State n) (t : Fin n) (f : FnId) : Delivery n :=
  { d with
    log := s', holding := Function.update d.holding t (some ⟨d.allocated, t, f⟩), allocated := d.allocated + 1 }

/-- `BlockingCall(logMessage, LogMessageProxy)`. -/
def send (d : Delivery n) (s' : State n) (t : Fin n) (m : LogMessage n) (f : FnId) : Delivery n :=
  { d with
    log := s', holding := Function.update d.holding t none
    queues := Function.update d.queues f ((d.queues f).put m), sent := d.sent ++ [⟨m, f⟩] }

/-- `BlockingCall` on a function that is closing: its status is not looked at. -/
def drop (d : Delivery n) (s' : State n) (t : Fin n) (m : LogMessage n) : Delivery n :=
  { d with log := s', holding := Function.update d.holding t none, dropped := d.dropped ++ [m] }

/-- What a step of the log to `s'` does to the messages. -/
def follow (d : Delivery n) (s' : State n) : Action n → Delivery n
  | .acquire t =>
    match d.log.threads t, s'.threads t, d.log.function t with
    | .read _, .acquired _, some f => d.allocate s' t f
    | _, _, _ => { d with log := s' }
  | .call t =>
    match d.log.threads t, s'.threads t, d.log.function t, d.holding t with
    | .acquired _, .called _, some f, some m => if (d.log.fns f).closing then d.drop s' t m else d.send s' t m f
    | _, _, _, _ => { d with log := s' }
  | _ => { d with log := s' }

/-- A function is closed when nothing waits in its queue. -/
def blocked (d : Delivery n) : Action n → Bool
  | .closeFunction f => !(d.queues f).waiting.isEmpty
  | _ => false

def step (d : Delivery n) : DeliveryAction n → Option (Delivery n)
  | .log a => if d.blocked a then none else (d.log.step a).map fun s' => d.follow s' a
  | .dispatch f =>
    if d.log.fault ≠ none ∨ d.log.writer ≠ .idle ∨ (d.log.fns f).closing = true then none
    else (d.queues f).take.map fun q => { d with queues := Function.update d.queues f q }

end Delivery

/-- The log handler with `n` native threads, and its messages. -/
def deliveryMachine (n : Nat) : Machine (Delivery n) (DeliveryAction n) where
  start d := d = .init
  step := Delivery.step

/-! ## What a step does to the messages -/

/-- Between `Acquire` and `BlockingCall` a call has a message. -/
def Pc.carries : Pc → Bool
  | .acquired _ => true
  | _ => false

namespace State

variable {s s' : State n} {t : Fin n}

theorem acquire_cases (h : s.acquire t = some s') :
    s'.threads = s.threads ∨ s'.threads = Function.update s.threads t .idle ∧ (s.threads t).carries = false ∨
      ∃ r f, s.threads t = .read r ∧ s.function t = some f ∧ s'.threads = Function.update s.threads t (.acquired r) ∧
        s'.installed = s.installed := by
  unfold acquire at h
  split at h <;> cases h
  rename_i r hpc
  unfold withCallback
  split
  · exact .inl rfl
  · split
    · exact .inl rfl
    · rename_i f hf
      split
      · exact .inl rfl
      · dsimp only
        split
        · exact .inr (.inl ⟨rfl, by rw [hpc]; rfl⟩)
        · exact .inr (.inr ⟨r, f, hpc, by rw [function, hpc]; exact hf, rfl, rfl⟩)

theorem call_cases (h : s.call t = some s') :
    s'.threads = s.threads ∨
      ∃ r f, s.threads t = .acquired r ∧ s.function t = some f ∧ s'.threads = Function.update s.threads t (.called r) := by
  unfold call at h
  split at h <;> cases h
  rename_i r hpc
  unfold withCallback
  split
  · exact .inl rfl
  · split
    · exact .inl rfl
    · rename_i f hf
      split
      · exact .inl rfl
      · refine .inr ⟨r, f, hpc, by rw [function, hpc]; exact hf, ?_⟩
        dsimp only
        split <;> rfl

theorem releaseFn_threads (s : State n) (f : FnId) : (s.releaseFn f).threads = s.threads := by
  unfold releaseFn
  split <;> rfl

theorem carries_update {f : Fin n → Pc} {u : Fin n} {pc : Pc} (hpc : pc.carries = (f t).carries) :
    (Function.update f t pc u).carries = (f u).carries := by
  by_cases hu : u = t
  · subst hu
    rw [Function.update_self, hpc]
  · rw [Function.update_of_ne hu]

/-- No other step lets a call come to a message or part with one. -/
theorem carries_eq {a : Action n} (h : s.step a = some s') (hacquire : ∀ t, a ≠ .acquire t) (hcall : ∀ t, a ≠ .call t)
    (u : Fin n) : (s'.threads u).carries = (s.threads u).carries := by
  obtain ⟨-, hs⟩ := Step.of_step h
  cases hs with
  | read hpc hr => exact carries_update (by rw [hpc]; rfl)
  | refused hpc => exact absurd rfl (hacquire _)
  | acquired hpc hf hc => exact absurd rfl (hacquire _)
  | callClosing hpc hf hc => exact absurd rfl (hcall _)
  | called hpc => exact absurd rfl (hcall _)
  | @release t r f hpc hf =>
    have hthreads := releaseFn_threads s f
    show (Function.update (s.releaseFn f).threads t .idle u).carries = _
    rw [hthreads]
    exact carries_update (by rw [hpc]; rfl)
  | releaseOld hw hr hg => exact congrArg (fun th => (th u).carries) (releaseFn_threads s _)
  | releaseLast hw hr hg => exact congrArg (fun th => (th u).carries) (releaseFn_threads s _)
  | _ => rfl

theorem closing_releaseFn (s : State n) (f g : FnId) : ((s.releaseFn f).fns g).closing = (s.fns g).closing := by
  unfold releaseFn
  split
  · rename_i x hx
    obtain ⟨-, rfl⟩ := Tsfn.release_eq.1 hx
    by_cases hg : g = f
    · subst hg
      rw [fns_setFn_self]
    · rw [fns_setFn_of_ne s hg]
  · rfl

theorem closing_setFn {f g : FnId} {x : Tsfn} (hx : x.closing = (s.fns f).closing) :
    ((s.setFn f x).fns g).closing = (s.fns g).closing := by
  by_cases hg : g = f
  · subst hg
    rw [fns_setFn_self, hx]
  · rw [fns_setFn_of_ne s hg]

/-- A function begins to close on the JS thread only. -/
theorem closing_step {a : Action n} (h : s.step a = some s') {g : FnId} (hclosing : (s'.fns g).closing = true) :
    (s.fns g).closing = true ∨ a = .closeFunction g := by
  obtain ⟨-, hs⟩ := Step.of_step h
  cases hs with
  | @acquired t r f hpc hf hc =>
    exact .inl ((closing_setFn (x := ⟨(s.fns f).count + 1, false⟩) hc.symm).symm.trans hclosing)
  | @callClosing t r f hpc hf hc =>
    exact .inl ((closing_setFn (x := (s.fns f).drop) (by simp)).symm.trans hclosing)
  | @release t r f hpc hf => exact .inl ((closing_releaseFn s f g).symm.trans hclosing)
  | @releaseOld f k r hw hr hg => exact .inl ((closing_releaseFn s k g).symm.trans hclosing)
  | @releaseLast k r hw hr hg => exact .inl ((closing_releaseFn s k g).symm.trans hclosing)
  | create hw =>
    by_cases hg : g = s.made
    · subst hg
      simp [Tsfn.new] at hclosing
    · refine .inl ?_
      simpa [Function.update_of_ne hg] using hclosing
  | @closeFunction f hf hc =>
    by_cases hg : g = f
    · exact .inr (by rw [hg])
    · rw [fns_setFn_of_ne s hg] at hclosing
      exact .inl hclosing
  | _ => exact .inl hclosing

end State

namespace Delivery

/-- A step is one of the log, or a call of a handler. -/
theorem step_cases {d d' : Delivery n} {a : DeliveryAction n} (h : d.step a = some d') :
    (∃ b s', a = .log b ∧ d.blocked b = false ∧ d.log.step b = some s' ∧ d' = d.follow s' b) ∨
      ∃ f q, a = .dispatch f ∧ (d.log.fns f).closing ≠ true ∧ (d.queues f).take = some q ∧
        d' = { d with queues := Function.update d.queues f q } := by
  cases a with
  | log b =>
    dsimp only [step] at h
    split at h
    · cases h
    · rename_i hblocked
      obtain ⟨s', hlog, rfl⟩ := Option.map_eq_some_iff.1 h
      exact .inl ⟨b, s', rfl, Bool.not_eq_true _ ▸ hblocked, hlog, rfl⟩
  | dispatch f =>
    dsimp only [step] at h
    split at h
    · cases h
    · rename_i hopen
      obtain ⟨q, hq, rfl⟩ := Option.map_eq_some_iff.1 h
      exact .inr ⟨f, q, rfl, fun hc => hopen (.inr (.inr hc)), hq, rfl⟩

/-- What a step of the log does to the messages, case by case. -/
inductive Follows (d : Delivery n) (s' : State n) : Delivery n → Prop
  | quiet (hcarries : ∀ u, (s'.threads u).carries = (d.log.threads u).carries)
      (hclosing : ∀ g, (s'.fns g).closing = true → (d.log.fns g).closing = true ∨ (d.queues g).waiting = []) :
    Follows d s' { d with log := s' }
  | allocate {t : Fin n} {r : RecordId} {f : FnId} (hpc : d.log.threads t = .read r) (hf : d.log.function t = some f)
      (hthreads : s'.threads = Function.update d.log.threads t (.acquired r)) (hinstalled : s'.installed = d.log.installed)
      (hclosing : ∀ g, (s'.fns g).closing = true → (d.log.fns g).closing = true) : Follows d s' (d.allocate s' t f)
  | send {t : Fin n} {r : RecordId} {f : FnId} {m : LogMessage n} (hpc : d.log.threads t = .acquired r)
      (hf : d.log.function t = some f) (hm : d.holding t = some m) (hopen : (d.log.fns f).closing = false)
      (hthreads : s'.threads = Function.update d.log.threads t (.called r))
      (hclosing : ∀ g, (s'.fns g).closing = true → (d.log.fns g).closing = true) : Follows d s' (d.send s' t m f)
  | drop {t : Fin n} {r : RecordId} {f : FnId} {m : LogMessage n} (hpc : d.log.threads t = .acquired r)
      (hf : d.log.function t = some f) (hm : d.holding t = some m) (hclosing : (d.log.fns f).closing = true)
      (hthreads : s'.threads = Function.update d.log.threads t (.called r))
      (hclosing : ∀ g, (s'.fns g).closing = true → (d.log.fns g).closing = true) : Follows d s' (d.drop s' t m)

variable {d d' : Delivery n} {s' : State n}

theorem follow_of_threads {a : Action n} (h : s'.threads = d.log.threads) : d.follow s' a = { d with log := s' } := by
  cases a with
  | acquire t =>
    dsimp only [follow]
    rw [h]
    cases d.log.threads t <;> rfl
  | call t =>
    dsimp only [follow]
    rw [h]
    cases d.log.threads t <;> rfl
  | _ => rfl

/-- A step of the log is one of the cases. -/
theorem Follows.of_step {a : Action n} (hblocked : d.blocked a = false) (h : d.log.step a = some s')
    (hholding : ∀ t, (d.holding t).isSome = (d.log.threads t).carries) : Follows d s' (d.follow s' a) := by
  have hclosing (g : FnId) (hg : (s'.fns g).closing = true) : (d.log.fns g).closing = true ∨ (d.queues g).waiting = [] := by
    refine (State.closing_step h hg).imp_right ?_
    rintro rfl
    simpa [blocked] using hblocked
  have hsame (hthreads : s'.threads = d.log.threads) : Follows d s' (d.follow s' a) := by
    rw [follow_of_threads hthreads]
    exact .quiet (fun u => by rw [hthreads]) hclosing
  have hstep := (Step.of_step h).1
  cases a with
  | acquire t =>
    have hacquire : d.log.acquire t = some s' := by simpa [State.step, hstep] using h
    rcases State.acquire_cases hacquire with hthreads | ⟨hthreads, hcarries⟩ | ⟨r, f, hpc, hf, hthreads, hinstalled⟩
    · exact hsame hthreads
    · have hfollow : d.follow s' (.acquire t) = { d with log := s' } := by
        dsimp only [follow]
        rw [hthreads, Function.update_self]
        cases d.log.threads t <;> rfl
      rw [hfollow]
      exact .quiet (fun u => by rw [hthreads]; exact State.carries_update hcarries.symm) hclosing
    · have hfollow : d.follow s' (.acquire t) = d.allocate s' t f := by
        dsimp only [follow]
        rw [hpc, hf, hthreads, Function.update_self]
      rw [hfollow]
      exact .allocate hpc hf hthreads hinstalled fun g hg => (State.closing_step h hg).resolve_right nofun
  | call t =>
    have hcall : d.log.call t = some s' := by simpa [State.step, hstep] using h
    rcases State.call_cases hcall with hthreads | ⟨r, f, hpc, hf, hthreads⟩
    · exact hsame hthreads
    · have hm := hholding t
      rw [hpc] at hm
      obtain ⟨m, hm⟩ := Option.isSome_iff_exists.1 hm
      have hfollow : d.follow s' (.call t) = if (d.log.fns f).closing then d.drop s' t m else d.send s' t m f := by
        dsimp only [follow]
        rw [hpc, hf, hm, hthreads, Function.update_self]
      rw [hfollow]
      cases hc : (d.log.fns f).closing with
      | true => exact .drop hpc hf hm hc hthreads fun g hg => (State.closing_step h hg).resolve_right nofun
      | false => exact .send hpc hf hm hc hthreads fun g hg => (State.closing_step h hg).resolve_right nofun
  | _ => exact .quiet (State.carries_eq h nofun nofun) hclosing

end Delivery

end PulsarNode.Log
