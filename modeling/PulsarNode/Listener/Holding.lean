/-
Who holds the initial reference of a listener's function, from the parsing of the configuration to
the destruction of the wrapper: the configuration, the closure of the resolver, or the wrapper. The
pointer is handed on by `GetListenerCallback`, on the native thread for a consumer and in the resolver
for a reader. `ConsumerConfig` parses in a method, `ReaderConfig` in its constructor, and no destructor
runs for an object whose constructor throws.
-/
import PulsarNode.Config.Reader
import PulsarNode.Listener.Machine
import PulsarNode.Napi.Object

namespace PulsarNode.Holding

open Listener (Kind WrapperState)

/-! ## States -/

/-- Where the `shared_ptr` to the configuration is that travels with the native call: in its context,
in the callback, in the closure of the resolver. -/
inductive OpState
  | unstarted
  | context
  | callback (ok : Bool)
  | closure (ran : Bool)
  | ended
  deriving DecidableEq, Repr

/-- `config`, `closure` and `listener` tell whether the pointer to the listener is there in the
configuration, in the closure, and in the wrapper; `newInstance` whether `NewInstance` has its
`shared_ptr` to the configuration. -/
structure State where
  parsing : Bool
  newInstance : Bool
  op : OpState
  made : Bool
  config : Bool
  closure : Bool
  wrapper : WrapperState
  listener : Bool
  selfRefs : Nat
  releases : Nat
  promiseSets : Nat
  deriving DecidableEq, Repr

inductive Action
  | createListener
  | parseThrows
  | reject
  | accept
  | newInstanceReturns
  | nativeCallback (ok : Bool)
  | createFailed
  | createSucceeded
  | resolve
  | destroyClosure
  | close
  | destroyWrapper
  deriving DecidableEq, Repr

def OpState.holdsConfig : OpState → Bool
  | context | callback _ | closure _ => true
  | unstarted | ended => false

namespace State

def init : State := ⟨true, true, .unstarted, false, false, false, .absent, false, 0, 0, 0⟩

/-- There is a `shared_ptr` to the configuration. -/
def shared (s : State) : Bool := s.newInstance || s.op.holdsConfig

/-- `~ConsumerConfig` and `~ReaderConfig`. -/
def destroyConfig (s : State) : State :=
  if s.config then { s with config := false, releases := s.releases + 1 } else s

/-- A `shared_ptr` to the configuration has gone; the last takes the configuration with it. -/
def letGo (s : State) : State := if s.shared then s else s.destroyConfig

/-- `Consumer::Cleanup` and `Reader::Cleanup`. -/
def cleanup (s : State) : State :=
  if s.listener then { s with listener := false, releases := s.releases + 1, selfRefs := s.selfRefs - 1 } else s

@[simp] theorem listener_cleanup (s : State) : s.cleanup.listener = false := by
  unfold cleanup
  by_cases hl : s.listener = true
  · rw [if_pos hl]
  · rw [if_neg hl]
    simpa using hl

@[simp] theorem op_cleanup (s : State) : s.cleanup.op = s.op := by
  unfold cleanup
  split <;> rfl

/-- `SetListenerCallback`: a consumer's record gets the pointer of the wrapper through its promise. -/
def setListenerCallback (k : Kind) (listener : Bool) (s : State) : State :=
  if s.listener then s
  else if listener then
    { s with
      promiseSets := if k = .consumer then s.promiseSets + 1 else s.promiseSets
      selfRefs := s.selfRefs + 1
      listener := true }
  else s

/-! ## Steps -/

/-- The option is a function: its record and its thread-safe function are made. -/
def createListener (s : State) : Option State :=
  if s.parsing ∧ s.made = false then some { s with made := true, config := true } else none

/-- A read of the configuration throws. A reader's configuration is an object under construction: its
memory is freed, and no destructor is run. -/
def parseThrows (k : Kind) (s : State) : Option State :=
  if s.parsing then
    match k with
    | .consumer => some { s with parsing := false, newInstance := false }.letGo
    | .reader => some { s with parsing := false, newInstance := false, config := false }
  else none

/-- The deferred is rejected, and `NewInstance` returns. -/
def reject (s : State) : Option State :=
  if s.parsing then some { s with parsing := false, newInstance := false }.letGo else none

/-- The native call is started with a context. -/
def accept (s : State) : Option State :=
  if s.parsing then some { s with parsing := false, op := .context } else none

def newInstanceReturns (s : State) : Option State :=
  if s.parsing = false ∧ s.newInstance then some { s with newInstance := false }.letGo else none

/-- `subscribeCallback` and `createReaderCallback`: the context is deleted. -/
def nativeCallback (ok : Bool) (s : State) : Option State :=
  if s.op = .context then some { s with op := .callback ok } else none

def createFailed (s : State) : Option State :=
  if s.op = .callback false then some { s with op := .ended }.letGo else none

/-- The closure of the resolver is made; a consumer's takes the pointer from the configuration. -/
def createSucceeded (k : Kind) (s : State) : Option State :=
  if s.op = .callback true then
    match k with
    | .consumer => some { s with op := .closure false, config := false, closure := s.config }
    | .reader => some { s with op := .closure false }
  else none

/-- The resolver runs and makes the wrapper. -/
def resolve (k : Kind) (s : State) : Option State :=
  if s.op = .closure false then
    match k with
    | .consumer =>
      some ({ s with op := .closure true, closure := false, wrapper := .alive }.setListenerCallback k s.closure)
    | .reader =>
      some ({ s with op := .closure true, config := false, wrapper := .alive }.setListenerCallback k s.config)
  else none

def destroyClosure (s : State) : Option State :=
  if s.op = .closure true then some { s with op := .ended }.letGo else none

def close (s : State) : Option State := if s.wrapper = .alive then some s.cleanup else none

/-- `~Consumer` and `~Reader`. -/
def destroyWrapper (s : State) : Option State :=
  if s.wrapper = .alive then some { s.cleanup with wrapper := .destroyed } else none

def step (k : Kind) (s : State) : Action → Option State
  | .createListener => s.createListener
  | .parseThrows => s.parseThrows k
  | .reject => s.reject
  | .accept => s.accept
  | .newInstanceReturns => s.newInstanceReturns
  | .nativeCallback ok => s.nativeCallback ok
  | .createFailed => s.createFailed
  | .createSucceeded => s.createSucceeded k
  | .resolve => s.resolve k
  | .destroyClosure => s.destroyClosure
  | .close => s.close
  | .destroyWrapper => s.destroyWrapper

end State

def machine (k : Kind) : Machine State Action where
  start s := s = .init
  step := State.step k

/-! ## The invariant -/

/-- What holds also while a `shared_ptr` is going away. -/
structure Parts (k : Kind) (s : State) : Prop where
  count : s.config.toNat + s.closure.toNat + s.listener.toNat + s.releases = s.made.toNat
  parsing : s.parsing = true → s.newInstance = true ∧ s.op = .unstarted
  closure : s.closure = true → s.op = .closure false
  listener : s.listener = true → s.wrapper = .alive
  selfRefs : s.selfRefs = s.listener.toNat
  absent : s.wrapper = .absent → s.promiseSets = 0
  once : s.promiseSets ≤ 1
  resolved : s.op ≠ .closure true ∧ s.op ≠ .ended → s.wrapper = .absent
  reader : k = .reader → s.closure = false

/-- And the pointer of the configuration is there only with the configuration. -/
structure Inv (k : Kind) (s : State) : Prop extends Parts k s where
  config : s.config = true → s.shared = true

namespace Parts

variable {s : State} {k : Kind}

theorem not_parsing (h : Parts k s) (hop : s.op ≠ .unstarted) : s.parsing = false := by
  by_contra hp
  exact hop (h.parsing (by simpa using hp)).2

theorem no_closure (h : Parts k s) (hop : s.op ≠ .closure false) : s.closure = false := by
  by_contra hc
  exact hop (h.closure (by simpa using hc))

theorem no_listener (h : Parts k s) (hw : s.wrapper ≠ .alive) : s.listener = false := by
  by_contra hl
  exact hw (h.listener (by simpa using hl))

end Parts

namespace Inv

variable {s s' : State} {k : Kind}

theorem init : Inv k .init := by
  refine ⟨⟨rfl, ?_, ?_, ?_, rfl, ?_, ?_, ?_, ?_⟩, ?_⟩ <;> simp [State.init]

/-- The destructor runs with the last `shared_ptr`. -/
theorem letGo (h : Parts k s) : Inv k s.letGo := by
  unfold State.letGo State.destroyConfig
  by_cases hs : s.shared = true
  · rw [if_pos hs]
    exact ⟨h, fun _ => hs⟩
  · rw [if_neg hs]
    by_cases hc : s.config = true
    · rw [if_pos hc]
      have hcount := h.count
      rw [hc, Bool.toNat_true] at hcount
      refine ⟨{ h with count := ?_ }, by rintro ⟨⟩⟩
      dsimp only
      rw [Bool.toNat_false]
      omega
    · rw [if_neg hc]
      exact ⟨h, fun h' => absurd h' hc⟩

theorem cleanup (h : Inv k s) : Inv k s.cleanup := by
  unfold State.cleanup
  by_cases hl : s.listener = true
  · rw [if_pos hl]
    have hcount := h.count
    have hself := h.selfRefs
    rw [hl, Bool.toNat_true] at hcount hself
    refine { h with count := ?_, listener := by rintro ⟨⟩, selfRefs := ?_ }
    · dsimp only
      rw [Bool.toNat_false]
      omega
    · dsimp only
      rw [hself]
      rfl
  · rw [if_neg hl]
    exact h

/-- A new wrapper without a listener is handed what the resolver has of one. -/
theorem setListenerCallback {p : Bool} (hop : s.op = .closure true) (hparsing : s.parsing = false)
    (hclosure : s.closure = false) (hwrapper : s.wrapper = .alive) (hlistener : s.listener = false)
    (hself : s.selfRefs = 0) (hsets : s.promiseSets = 0)
    (hcount : s.config.toNat + p.toNat + s.releases = s.made.toNat) : Inv k (s.setListenerCallback k p) := by
  have hshared : s.shared = true := by simp [State.shared, hop, OpState.holdsConfig]
  unfold State.setListenerCallback
  rw [if_neg (by simp [hlistener])]
  cases p with
  | true =>
    rw [if_pos rfl]
    constructor
    · constructor
      · simpa [hclosure] using hcount
      · simp [hparsing]
      · simp [hclosure]
      · exact fun _ => hwrapper
      · simp [hself]
      · simp [hwrapper]
      · dsimp only
        split <;> omega
      · simp [hop]
      · exact fun _ => hclosure
    · exact fun _ => hshared
  | false =>
    rw [if_neg (by simp)]
    constructor
    · constructor
      · simpa [hclosure, hlistener] using hcount
      · simp [hparsing]
      · simp [hclosure]
      · exact fun _ => hwrapper
      · simp [hself, hlistener]
      · exact fun _ => hsets
      · omega
      · simp [hop]
      · exact fun _ => hclosure
    · exact fun _ => hshared

theorem createListener (h : Inv k s) (hs : s.createListener = some s') : Inv k s' := by
  unfold State.createListener at hs
  split at hs <;> cases hs
  rename_i hg
  obtain ⟨hp, hm⟩ := hg
  have hcount := h.count
  rw [hm, Bool.toNat_false] at hcount
  refine { h with count := ?_, config := fun _ => ?_ }
  · dsimp only
    rw [Bool.toNat_true]
    omega
  · simp [State.shared, (h.parsing hp).1]

/-- Where a throw takes a configuration along without its destructor, there must be no listener in it. -/
theorem parseThrows (h : Inv k s) (hk : k = .reader → s.config = false) (hs : s.parseThrows k = some s') : Inv k s' := by
  unfold State.parseThrows at hs
  split at hs
  · cases k with
    | consumer =>
      cases hs
      exact letGo { h with parsing := by rintro ⟨⟩ }
    | reader =>
      cases hs
      have hcount := h.count
      rw [hk rfl] at hcount
      exact { h with count := hcount, parsing := by rintro ⟨⟩, config := by rintro ⟨⟩ }
  · cases hs

theorem reject (h : Inv k s) (hs : s.reject = some s') : Inv k s' := by
  unfold State.reject at hs
  split at hs <;> cases hs
  exact letGo { h with parsing := by rintro ⟨⟩ }

theorem accept (h : Inv k s) (hs : s.accept = some s') : Inv k s' := by
  unfold State.accept at hs
  split at hs <;> cases hs
  rename_i hp
  have hop := (h.parsing hp).2
  refine { h with parsing := by rintro ⟨⟩, closure := fun hc => ?_, resolved := fun _ => ?_, config := fun _ => ?_ }
  · rw [h.closure hc] at hop
    cases hop
  · exact h.resolved (by simp [hop])
  · simp [State.shared, OpState.holdsConfig]

theorem newInstanceReturns (h : Inv k s) (hs : s.newInstanceReturns = some s') : Inv k s' := by
  unfold State.newInstanceReturns at hs
  split at hs <;> cases hs
  rename_i hg
  refine letGo { h with parsing := fun hp => ?_ }
  rw [hg.1] at hp
  cases hp

/-- The `shared_ptr` that travels goes from one place to the next. -/
theorem move {op : OpState} (h : Inv k s) (hop : s.op ≠ .unstarted ∧ s.op ≠ .closure false)
    (hheld : op.holdsConfig = true) (hresolved : op ≠ .closure true → s.wrapper = .absent) : Inv k { s with op := op } := by
  refine { h with parsing := fun hp => ?_, closure := fun hc => ?_, resolved := fun hr => ?_, config := fun _ => ?_ }
  · exact absurd (h.parsing hp).2 hop.1
  · exact absurd (h.closure hc) hop.2
  · exact hresolved hr.1
  · simp [State.shared, hheld]

theorem nativeCallback {ok : Bool} (h : Inv k s) (hs : s.nativeCallback ok = some s') : Inv k s' := by
  unfold State.nativeCallback at hs
  split at hs <;> cases hs
  rename_i hop
  exact h.move (by simp [hop]) rfl fun _ => h.resolved (by simp [hop])

/-- The native operation is over, and its `shared_ptr` gone. -/
theorem ends (h : Inv k s) (hop : s.op ≠ .unstarted ∧ s.op ≠ .closure false) : Inv k { s with op := .ended }.letGo := by
  refine letGo { h with parsing := fun hp => ?_, closure := fun hc => ?_, resolved := by simp }
  · exact absurd (h.parsing hp).2 hop.1
  · exact absurd (h.closure hc) hop.2

theorem createFailed (h : Inv k s) (hs : s.createFailed = some s') : Inv k s' := by
  unfold State.createFailed at hs
  split at hs <;> cases hs
  rename_i hop
  exact h.ends (by simp [hop])

theorem createSucceeded (h : Inv k s) (hs : s.createSucceeded k = some s') : Inv k s' := by
  unfold State.createSucceeded at hs
  split at hs
  · rename_i hop
    have hmoved : Inv k { s with op := .closure false } := h.move (by simp [hop]) rfl fun _ => h.resolved (by simp [hop])
    cases k with
    | reader =>
      cases hs
      exact hmoved
    | consumer =>
      cases hs
      have hclosure := h.no_closure (by simp [hop])
      have hcount := h.count
      rw [hclosure] at hcount
      refine { hmoved with count := ?_, closure := fun _ => rfl, reader := by rintro ⟨⟩, config := by rintro ⟨⟩ }
      dsimp only
      rw [Bool.toNat_false] at hcount ⊢
      omega
  · cases hs

theorem resolve (h : Inv k s) (hs : s.resolve k = some s') : Inv k s' := by
  unfold State.resolve at hs
  split at hs
  · rename_i hop
    have habsent := h.resolved (by simp [hop])
    have hsets := h.absent habsent
    have hlistener := h.no_listener (by simp [habsent])
    have hparsing := h.not_parsing (by simp [hop])
    have hcount := h.count
    have hself := h.selfRefs
    rw [hlistener] at hcount hself
    cases k with
    | consumer =>
      cases hs
      refine setListenerCallback rfl hparsing rfl rfl hlistener hself hsets ?_
      dsimp only
      rw [Bool.toNat_false] at hcount
      omega
    | reader =>
      cases hs
      have hclosure := h.reader rfl
      refine setListenerCallback rfl hparsing hclosure rfl hlistener hself hsets ?_
      dsimp only
      rw [hclosure] at hcount
      rw [Bool.toNat_false] at hcount ⊢
      omega
  · cases hs

theorem destroyClosure (h : Inv k s) (hs : s.destroyClosure = some s') : Inv k s' := by
  unfold State.destroyClosure at hs
  split at hs <;> cases hs
  rename_i hop
  exact h.ends (by simp [hop])

theorem close (h : Inv k s) (hs : s.close = some s') : Inv k s' := by
  unfold State.close at hs
  split at hs <;> cases hs
  exact h.cleanup

theorem destroyWrapper (h : Inv k s) (hs : s.destroyWrapper = some s') : Inv k s' := by
  unfold State.destroyWrapper at hs
  split at hs <;> cases hs
  rename_i hw
  refine { h.cleanup with listener := fun hl => ?_, absent := by rintro ⟨⟩, resolved := fun hr => ?_ }
  · simp at hl
  · have habsent := h.resolved (by simpa using hr)
    rw [hw] at habsent
    cases habsent

/-- Every step keeps the invariant, save a throw that takes a reader's listener along. -/
theorem step {a : Action} (h : Inv k s) (hk : a = .parseThrows → k = .reader → s.config = false)
    (hs : s.step k a = some s') : Inv k s' := by
  cases a with
  | createListener => exact h.createListener hs
  | parseThrows => exact h.parseThrows (hk rfl) hs
  | reject => exact h.reject hs
  | accept => exact h.accept hs
  | newInstanceReturns => exact h.newInstanceReturns hs
  | nativeCallback ok => exact h.nativeCallback hs
  | createFailed => exact h.createFailed hs
  | createSucceeded => exact h.createSucceeded hs
  | resolve => exact h.resolve hs
  | destroyClosure => exact h.destroyClosure hs
  | close => exact h.close hs
  | destroyWrapper => exact h.destroyWrapper hs

end Inv

/-! ## One owner -/

/-- Parsing does not throw after the listener of a reader was made. -/
def Unwinds (k : Kind) (s : State) (a : Action) : Prop := a = .parseThrows → k = .reader → s.config = false

instance (k : Kind) (s : State) (a : Action) : Decidable (Unwinds k s a) :=
  inferInstanceAs (Decidable (a = .parseThrows → k = .reader → s.config = false))

/-- The configuration, the closure and the wrapper that have the listener. -/
def State.owners (s : State) : Nat := s.config.toNat + s.closure.toNat + s.listener.toNat

/-- Nothing is left: no `shared_ptr` to the configuration, hence no closure, and no wrapper. -/
def State.Gone (s : State) : Prop := s.parsing = false ∧ s.shared = false ∧ s.wrapper ≠ .alive

/-- A listener that was made has one owner, or its reference was released, once; it was released when all
are gone; and the record and the wrapper are handed it once, the wrapper with a reference to itself. -/
structure Owned (s : State) : Prop where
  one : s.made = true → s.owners = 1 ∧ s.releases = 0 ∨ s.owners = 0 ∧ s.releases = 1
  once : s.releases ≤ 1
  gone : s.made = true → s.Gone → s.releases = 1
  promise : s.promiseSets ≤ 1
  strong : 0 < s.selfRefs ↔ s.listener = true

theorem Inv.owned {k : Kind} {s : State} (h : Inv k s) : Owned s where
  one hm := by
    have hcount := h.count
    rw [hm, Bool.toNat_true] at hcount
    unfold State.owners
    omega
  once := by
    have hcount := h.count
    have hle := Bool.toNat_le s.made
    omega
  gone hm hgone := by
    obtain ⟨-, hshared, hwrapper⟩ := hgone
    have hcount := h.count
    have hconfig : s.config = false := by
      by_contra hc
      rw [h.config (by simpa using hc)] at hshared
      cases hshared
    have hclosure : s.closure = false := h.no_closure fun hop => by
      simp [State.shared, hop, OpState.holdsConfig] at hshared
    have hlistener := h.no_listener hwrapper
    rw [hm, hconfig, hclosure, hlistener, Bool.toNat_true, Bool.toNat_false] at hcount
    omega
  promise := h.once
  strong := by
    rw [h.selfRefs]
    cases s.listener <;> simp

/-- In a run in which no throw takes a reader's listener along, the listener is owned in every state. -/
theorem oneOwner_reachable {k : Kind} {s : State} (h : ((machine k).restrict (Unwinds k)).Reachable s) : Owned s := by
  have hinv : Inv k s := h.invariantWhere (fun _ h0 => h0 ▸ Inv.init) fun _ _ _ hI hok hs => hI.step hok hs
  exact hinv.owned

/-- A consumer's listener, from its configuration to its wrapper, which is closed and destroyed. -/
theorem oneOwner_consumer :
    ∃ s, ((machine .consumer).restrict (Unwinds .consumer)).Reachable s ∧ s.releases = 1 ∧ s.promiseSets = 1 ∧
      s.Gone ∧ Owned s := by
  have hrun : ((machine .consumer).restrict (Unwinds .consumer)).run .init [.createListener, .accept,
      .nativeCallback true, .newInstanceReturns, .createSucceeded, .resolve, .destroyClosure, .close, .close,
      .destroyWrapper] = some _ := rfl
  have hreach := Machine.Reachable.run (.start rfl) hrun
  exact ⟨_, hreach, rfl, rfl, ⟨rfl, rfl, by decide⟩, oneOwner_reachable hreach⟩

/-- A reader's configuration with a listener and a key path. -/
def listenerAndPath : Heap := { Heap.empty with
  props := fun
    | 0 => [("listener", .object .function 1), ("privateKeyPath", .string "private.pem")]
    | _ => [] }

/-- The getter of `privateKeyPath` throws. -/
def throwingPath : Sides Unit Unit := { listenerAndPath.sides with
  js := fun
    | .get _ "privateKeyPath", j => (.error (.error "getter"), j)
    | q, j => (.ok (listenerAndPath.view q), j) }

/-- A reader's listener is lost when a later option throws: nothing has it, and it was never released. -/
theorem readerThrows_leaks :
    (∃ e cfg w', (ReaderConfig.readerConfig (.object .plain 0)).run throwingPath.answer .new ⟨(), none, ()⟩ =
        (.error (.napi e), cfg, w') ∧ cfg.listener.isSome = true) ∧
      ∃ s, (machine .reader).Reachable s ∧ s.made = true ∧ s.Gone ∧ s.releases = 0 ∧ ¬ Owned s := by
  have hrun : (machine .reader).run .init [.createListener, .parseThrows] = some _ := rfl
  refine ⟨⟨_, _, _, rfl, rfl⟩, _, Machine.Reachable.run (.start rfl) hrun, rfl, ⟨rfl, rfl, by decide⟩, rfl, fun h => ?_⟩
  exact absurd (h.gone rfl ⟨rfl, rfl, by decide⟩) (by decide)

end PulsarNode.Holding
