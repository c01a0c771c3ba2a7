/-
JS `Message` objects over native messages, and how long these live. The addon makes one for each
message received, which keeps its message alive until it is collected, and one for each routing call,
whose message the native client keeps alive for that call only. What JS still refers to after a
routing call, it can use.
-/
import PulsarNode.Message.Wrappers
import PulsarNode.Routing.Router

namespace PulsarNode.Routing

/-! ## The machine -/

/-- A JS `Message`, whether JS refers to it, and whether the native message under it is alive. -/
structure JsMessage where
  cMessage : CMessage
  held : Bool
  alive : Bool
  deriving DecidableEq, Repr

/-- An operation on a `Message`: what happened in it, and whether the native message was alive. -/
structure Use where
  events : List Wrappers.Event
  alive : Bool

/-- The objects, by the numbers of their native messages; the messages of the routing calls that have not
returned, the innermost first; and the operations so far. -/
structure State where
  messages : List JsMessage
  routing : List Handle
  uses : List Use

inductive Action
  /-- A received message is wrapped. -/
  | deliver
  /-- `choosePartition` is called, and calls the router. -/
  | route
  /-- JS calls a method of an object, or acknowledges it. -/
  | operate (op : Wrappers.Operation) (i : Handle) (native : Wrappers.Returns)
  /-- The last reference that JS has to an object goes. -/
  | release (i : Handle)
  /-- The engine finalizes an object that JS does not refer to. -/
  | collect (i : Handle)
  /-- The innermost `choosePartition` returns. -/
  | routeReturns

namespace State

def init : State := ⟨[], [], []⟩

/-- `Message::NewInstance`. -/
def newInstance (cMessage : CMessage) (s : State) : State :=
  { s with messages := s.messages ++ [⟨cMessage, true, true⟩] }

/-- A change of the `i`-th object, where it is as it should be. -/
def update (i : Handle) (ok : JsMessage → Bool) (f : JsMessage → JsMessage) (s : State) : Option State :=
  match s.messages[i]? with
  | none => none
  | some m => if ok m then some { s with messages := s.messages.set i (f m) } else none

def operate (op : Wrappers.Operation) (i : Handle) (native : Wrappers.Returns) (s : State) : Option State :=
  match s.messages[i]? with
  | none => none
  | some m =>
    if m.held = true ∧ op.cls = .message then
      some { s with uses := s.uses ++ [⟨Wrappers.events native (some m.cMessage.ptr) op.code, m.alive⟩] }
    else none

def step (s : State) : Action → Option State
  | .deliver => some (s.newInstance ⟨s.messages.length, .free⟩)
  | .route => some { s.newInstance (borrowed s.messages.length) with routing := s.messages.length :: s.routing }
  | .operate op i native => s.operate op i native
  | .release i => s.update i (·.held) fun m => { m with held := false }
  | .collect i => s.update i (! ·.held) fun m => { m with alive := m.alive && m.cMessage.deleter == .nothing }
  | .routeReturns =>
    match s.routing with
    | [] => none
    | i :: rest => { s with routing := rest }.update i (fun _ => true) fun m => { m with alive := false }

end State

def machine : Machine State Action where
  start s := s = .init
  step := State.step

/-! ## Live messages -/

/-- The operation reported an error, or used the native message while that was alive. -/
structure Use.Fine (u : Use) : Prop where
  sound : Wrappers.Sound u.events
  alive : (∃ f h, .called f (some h) ∈ u.events) → u.alive = true

/-- No object that JS refers to has lost its native message, and no operation has used a dead one. -/
structure State.RefersToLive (s : State) : Prop where
  live : ∀ m ∈ s.messages, m.held = true → m.alive = true
  fine : ∀ u ∈ s.uses, u.Fine

theorem refersToLive_init : State.init.RefersToLive := ⟨by rintro m ⟨⟩, by rintro u ⟨⟩⟩

/-- A routing call returns when JS does not refer to its message. -/
def LetsGo (s : State) : Action → Prop
  | .routeReturns => ∀ i ∈ s.routing.head?, ∀ m ∈ s.messages[i]?, m.held = false
  | _ => True

variable {s s' : State}

theorem State.RefersToLive.newInstance (h : s.RefersToLive) (cMessage : CMessage) (l : List Handle) :
    State.RefersToLive { s.newInstance cMessage with routing := l } := by
  refine ⟨fun m hm hheld => ?_, h.fine⟩
  rcases List.mem_append.1 hm with hm | hm
  · exact h.live m hm hheld
  · rw [List.mem_singleton.1 hm]

/-- Another object stays as it is when one is changed. -/
theorem State.update_spec {i : Handle} {ok : JsMessage → Bool} {f : JsMessage → JsMessage} (h : s.update i ok f = some s') :
    ∃ m, s.messages[i]? = some m ∧ ok m = true ∧ s' = { s with messages := s.messages.set i (f m) } := by
  unfold State.update at h
  split at h
  · cases h
  · rename_i m hm
    split at h <;> cases h
    exact ⟨m, hm, by assumption, rfl⟩

/-- A change after which the object is live, or not referred to, does no harm; any other one does. -/
theorem State.RefersToLive.set_iff (h : s.RefersToLive) {i : Handle} {m : JsMessage} (hm : s.messages[i]? = some m)
    (m' : JsMessage) (l : List Handle) :
    State.RefersToLive ⟨s.messages.set i m', l, s.uses⟩ ↔ (m'.held = true → m'.alive = true) := by
  constructor
  · intro h'
    obtain ⟨hi, -⟩ := List.getElem?_eq_some_iff.1 hm
    exact h'.live m' (List.mem_set hi m')
  · intro hm'
    refine ⟨fun m₁ hm₁ hheld => ?_, h.fine⟩
    rcases List.mem_or_eq_of_mem_set hm₁ with hm₁ | rfl
    · exact h.live m₁ hm₁ hheld
    · exact hm' hheld

/-- An operation on a live message is fine. -/
theorem fine_operate (op : Wrappers.Operation) (native : Wrappers.Returns) (h : Handle) :
    Use.Fine ⟨Wrappers.events native (some h) op.code, true⟩ :=
  ⟨(Wrappers.sound_iff native (some h) op).2 (.inr rfl), fun _ => rfl⟩

/-- A step from a state in which JS refers to live messages only leads to another one exactly when it is
not the return of a routing call whose message JS still refers to. -/
theorem refersToLive_step {a : Action} (h : s.RefersToLive) (hs : machine.step s a = some s') :
    s'.RefersToLive ↔ LetsGo s a := by
  cases a with
  | deliver =>
    cases hs
    exact iff_of_true (h.newInstance _ s.routing) trivial
  | route =>
    cases hs
    exact iff_of_true (h.newInstance _ _) trivial
  | operate op i native =>
    change s.operate op i native = some s' at hs
    unfold State.operate at hs
    split at hs
    · cases hs
    · rename_i m hm
      split at hs <;> cases hs
      rename_i hok
      have halive := h.live m (List.mem_of_getElem? hm) hok.1
      refine iff_of_true ⟨h.live, fun u hu => ?_⟩ trivial
      rcases List.mem_append.1 hu with hu | hu
      · exact h.fine u hu
      · rw [List.mem_singleton.1 hu, halive]
        exact fine_operate op native m.cMessage.ptr
  | release i =>
    obtain ⟨m, hm, -, rfl⟩ := State.update_spec hs
    exact iff_of_true ((h.set_iff hm _ _).2 (by simp)) trivial
  | collect i =>
    obtain ⟨m, hm, hheld, rfl⟩ := State.update_spec hs
    have hnot : m.held = false := by simpa using hheld
    exact iff_of_true ((h.set_iff hm _ _).2 (by simp [hnot])) trivial
  | routeReturns =>
    change s.step .routeReturns = some s' at hs
    unfold State.step at hs
    cases hr : s.routing with
    | nil => simp [hr] at hs
    | cons i rest =>
      simp only [hr] at hs
      obtain ⟨m, hm, -, rfl⟩ := State.update_spec hs
      change s.messages[i]? = some m at hm
      rw [h.set_iff hm]
      simp [LetsGo, hr, hm]

/-- JS refers to live messages only, and uses no other, throughout a run exactly when at each return of a
routing call JS does not refer to its message any more. -/
theorem refersToLive_iff {as : List Action} {s : State} (h : machine.run .init as = some s) :
    machine.Throughout State.RefersToLive .init as ↔ machine.Along LetsGo .init as :=
  Machine.throughout_iff_along (fun _ _ _ => refersToLive_step) refersToLive_init h

/-- A received message is acknowledged; a router reads the key of the message it is given. -/
def keyRouter : List Action :=
  [.deliver, .operate .acknowledge 0 ⟨0, false⟩, .route, .operate .getPartitionKey 1 ⟨0, false⟩, .release 1,
    .routeReturns, .operate .getData 0 ⟨0, false⟩]

theorem refersToLive_keyRouter : ∃ s, machine.run .init keyRouter = some s ∧
    machine.Throughout State.RefersToLive .init keyRouter ∧ s.uses.length = 3 := by
  obtain ⟨s, hrun, hlen⟩ : ∃ s, machine.run .init keyRouter = some s ∧ s.uses.length = 3 := ⟨_, rfl, rfl⟩
  refine ⟨s, hrun, (refersToLive_iff hrun).2 ?_, hlen⟩
  refine ⟨trivial, ?_⟩
  rintro s₁ ⟨⟩
  refine ⟨trivial, ?_⟩
  rintro s₂ ⟨⟩
  refine ⟨trivial, ?_⟩
  rintro s₃ ⟨⟩
  refine ⟨trivial, ?_⟩
  rintro s₄ ⟨⟩
  refine ⟨trivial, ?_⟩
  rintro s₅ ⟨⟩
  refine ⟨?_, fun _ _ => ⟨trivial, fun _ _ => trivial⟩⟩
  -- the object was let go before
  rintro i ⟨⟩ m ⟨⟩
  rfl

/-- The router keeps the message it is given, and its data is read after the call. -/
def keepingRouter : List Action := [.route, .routeReturns, .operate .getData 0 ⟨0, false⟩]

theorem keepingRouter_usesDead : ∃ s, machine.run .init keepingRouter = some s ∧
    s.uses.map Use.alive = [false] ∧ ¬ machine.Throughout State.RefersToLive .init keepingRouter := by
  obtain ⟨s, hrun, huses⟩ : ∃ s, machine.run .init keepingRouter = some s ∧ s.uses.map Use.alive = [false] := ⟨_, rfl, rfl⟩
  refine ⟨s, hrun, huses, fun h => ?_⟩
  obtain ⟨-, hroute⟩ := h
  obtain ⟨-, hreturns⟩ := hroute _ rfl
  have hlive := (hreturns _ rfl).start.live ⟨⟨0, .nothing⟩, true, false⟩ (List.mem_singleton_self _) rfl
  cases hlive

end PulsarNode.Routing
