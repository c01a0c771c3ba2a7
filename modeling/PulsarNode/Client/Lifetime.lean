/-
The lifetimes of clients, of the operations that they have pending, and of authentications. The
native client calls back into two kinds of record: the log level, a member of the `Client` wrapper,
and the record of a token supplier, which lives as long as its `Authentication` wrapper does. A
wrapper keeps its authentications by the references in `authRefs_`; the context of a pending create
operation keeps the native client alone.
-/
import PulsarNode.Client.References
import PulsarNode.Machine.Run
import PulsarNode.Napi.Object
import PulsarNode.Napi.Tsfn

namespace PulsarNode.Client

/-! ## States -/

inductive WrapperState
  | absent | alive | destroyed
  deriving DecidableEq, Repr

/-- `TokenSupplierCallback`; its record is deleted by the finalizer of the function. -/
structure TokenSupplier where
  callback : Tsfn
  deleted : Bool
  deriving DecidableEq, Repr

/-- An `Authentication` wrapper, known by its native authentication. -/
structure Authentication where
  wrapper : WrapperState
  jsRef : Bool
  tokenSupplier : Option TokenSupplier
  deriving DecidableEq, Repr

/-- A client: its wrapper with the references in it, what the native client was created with, and
how many contexts of pending create operations own the native client. -/
structure Instance where
  wrapper : WrapperState
  jsRef : Bool
  authRefs : List JsValue
  cClient : Option ClientCreation
  pending : Nat

structure State where
  clients : Nat → Instance
  constructed : Nat
  auths : Handle → Authentication

/-- How a constructor has left its members: what is in use is referenced. -/
structure Built (wrapped : JsValue → Option Handle) where
  members : ClientState
  covered : Covered wrapped [] members

/-- The members of a fresh wrapper; the log level is `pulsar_INFO`. -/
def freshMembers (log : LogState) : ClientState := ⟨none, [], 1, [], log⟩

/-- What the constructor of a client leaves, whatever the config holds. -/
def Built.ofConstruct {wrapped : JsValue → Option Handle} {J N : Type} (sides : Sides J N)
    (hs : UnwrapsAs wrapped sides) (config : JsValue) (log : LogState) (w : World J N) : Built wrapped where
  members := (construct sides config (freshMembers log) w).2.1
  covered :=
    have hfresh : Covered wrapped [] (freshMembers log) := ⟨by simp, by simp [freshMembers], by simp [freshMembers]⟩
    construct_covered sides hs config hfresh w

inductive Action (wrapped : JsValue → Option Handle)
  | newAuthentication (a : Handle) (function : Bool)
  | newClient (b : Built wrapped)
  | create (c : Nat)
  | callback (c : Nat)
  | dropClient (c : Nat)
  | dropAuthentication (a : Handle)
  | collectClient (c : Nat)
  | collectAuthentication (a : Handle)
  | closeSupplier (a : Handle)
  | finalizeSupplier (a : Handle)

namespace State

variable {wrapped : JsValue → Option Handle}

def init : State where
  clients _ := ⟨.absent, false, [], none, 0⟩
  constructed := 0
  auths _ := ⟨.absent, false, none⟩

def setClient (s : State) (c : Nat) (x : Instance) : State := { s with clients := Function.update s.clients c x }

def setAuth (s : State) (a : Handle) (x : Authentication) : State := { s with auths := Function.update s.auths a x }

/-- JS holds the authentication that the object wraps, if it wraps one. -/
def reachesAuth (wrapped : JsValue → Option Handle) (s : State) (b : JsValue) : Bool :=
  match wrapped b with
  | some a => (s.auths a).wrapper == .alive && (s.auths a).jsRef
  | none => true

/-- `new Authentication`, for the method `token` with a function or for another one. -/
def newAuthentication (a : Handle) (function : Bool) (s : State) : Option State :=
  if (s.auths a).wrapper = .absent then
    some (s.setAuth a ⟨.alive, true, if function then some ⟨.new, false⟩ else none⟩)
  else none

/-- `new Client`. JS has the wrapper only where the constructor has come to its end. -/
def newClient (b : Built wrapped) (s : State) : Option State :=
  if b.members.authRefs.all (s.reachesAuth wrapped) then
    some { s.setClient s.constructed
        ⟨.alive, b.members.cClient.isSome, b.members.authRefs, b.members.cClient, 0⟩ with
      constructed := s.constructed + 1 }
  else none

/-- `createProducer`, `subscribe` or `createReader`: a context that owns `cClient` is pending. -/
def create (c : Nat) (s : State) : Option State :=
  let x := s.clients c
  if x.wrapper = .alive ∧ x.jsRef ∧ x.cClient.isSome then
    some (s.setClient c { x with pending := x.pending + 1 })
  else none

/-- The native callback of a pending operation returns; its context is deleted. -/
def callback (c : Nat) (s : State) : Option State :=
  let x := s.clients c
  if 0 < x.pending then some (s.setClient c { x with pending := x.pending - 1 }) else none

def dropClient (c : Nat) (s : State) : Option State :=
  some (s.setClient c { s.clients c with jsRef := false })

def dropAuthentication (a : Handle) (s : State) : Option State :=
  some (s.setAuth a { s.auths a with jsRef := false })

/-- The garbage collector destroys the wrapper of a client, and with it the references. -/
def collectClient (c : Nat) (s : State) : Option State :=
  let x := s.clients c
  if x.wrapper = .alive ∧ x.jsRef = false then
    some (s.setClient c { x with wrapper := .destroyed, authRefs := [] })
  else none

/-- The garbage collector destroys the wrapper of an authentication that no client refers to;
`Authentication::~Authentication` releases the function of its token supplier. -/
def collectAuthentication (wrapped : JsValue → Option Handle) (a : Handle) (s : State) : Option State :=
  let x := s.auths a
  if x.wrapper = .alive ∧ x.jsRef = false ∧
      ∀ c < s.constructed, ∀ b ∈ (s.clients c).authRefs, wrapped b ≠ some a then
    some (s.setAuth a { x with
      wrapper := .destroyed
      tokenSupplier := x.tokenSupplier.map fun p => { p with callback := p.callback.drop } })
  else none

/-- The JS thread closes the function of a token supplier that has no holders. -/
def closeSupplier (a : Handle) (s : State) : Option State :=
  match (s.auths a).tokenSupplier with
  | some p =>
    if p.callback.count = 0 then
      some (s.setAuth a { s.auths a with tokenSupplier := some { p with callback := p.callback.close } })
    else none
  | none => none

/-- `FinalizeTokenSupplierCallback`. -/
def finalizeSupplier (a : Handle) (s : State) : Option State :=
  match (s.auths a).tokenSupplier with
  | some p =>
    if p.callback.closing ∧ p.deleted = false then
      some (s.setAuth a { s.auths a with tokenSupplier := some { p with deleted := true } })
    else none
  | none => none

def step (s : State) (a : Action wrapped) : Option State :=
  match a with
  | .newAuthentication a function => s.newAuthentication a function
  | .newClient b => s.newClient b
  | .create c => s.create c
  | .callback c => s.callback c
  | .dropClient c => s.dropClient c
  | .dropAuthentication a => s.dropAuthentication a
  | .collectClient c => s.collectClient c
  | .collectAuthentication a => s.collectAuthentication wrapped a
  | .closeSupplier a => s.closeSupplier a
  | .finalizeSupplier a => s.finalizeSupplier a

end State

/-- Clients and authentications, where `wrapped` says which authentication a JS object wraps. -/
def machine (wrapped : JsValue → Option Handle) : Machine State (Action wrapped) where
  start s := s = .init
  step := State.step

/-! ## Records that the native client uses -/

/-- The native client has an owner: the wrapper, or the context of a pending operation. -/
def Instance.owned (x : Instance) : Prop := x.cClient.isSome = true ∧ (x.wrapper = .alive ∨ 0 < x.pending)

/-- The member that the context of the logger points to. -/
def Instance.logLevelAlive (x : Instance) : Prop := x.wrapper = .alive

/-- The record that the token supplier of a native authentication is called with, if it has one. -/
def Authentication.supplierAlive (x : Authentication) : Prop := ∀ p, x.tokenSupplier = some p → p.deleted = false

/-- Every record that a native client with an owner uses is alive. -/
def RecordsAlive (s : State) : Prop :=
  ∀ c, (s.clients c).owned → (s.clients c).logLevelAlive ∧
    ∀ creation, (s.clients c).cClient = some creation → ∀ a ∈ creation.auths, (s.auths a).supplierAlive

section

variable {wrapped : JsValue → Option Handle} {s s' : State}

/-- The wrapper of a client is collected only while none of its operations is pending. -/
def CollectsIdle (s : State) (a : Action wrapped) : Prop :=
  match a with
  | .collectClient c => (s.clients c).pending = 0
  | _ => True

instance (s : State) (a : Action wrapped) : Decidable (CollectsIdle s a) :=
  match a with
  | .collectClient _ => inferInstanceAs (Decidable (_ = 0))
  | .newAuthentication .. | .newClient _ | .create _ | .callback _ | .dropClient _ | .dropAuthentication _
  | .collectAuthentication _ | .closeSupplier _ | .finalizeSupplier _ => inferInstanceAs (Decidable True)

def idleMachine (wrapped : JsValue → Option Handle) : Machine State (Action wrapped) :=
  (machine wrapped).restrict CollectsIdle

/-! ## The invariant -/

/-- What holds after any step that collects idle clients only. -/
structure LifeInv (wrapped : JsValue → Option Handle) (s : State) : Prop where
  pending : ∀ c, 0 < (s.clients c).pending → (s.clients c).wrapper = .alive ∧ (s.clients c).cClient.isSome = true
  refs : ∀ c, ∀ b ∈ (s.clients c).authRefs, ∀ a, wrapped b = some a → (s.auths a).wrapper = .alive
  covered : ∀ c, (s.clients c).wrapper = .alive → ∀ creation, (s.clients c).cClient = some creation →
    ∀ a ∈ creation.auths, ∃ b ∈ (s.clients c).authRefs, wrapped b = some a
  supplier : ∀ a, (s.auths a).wrapper = .alive → ∀ p, (s.auths a).tokenSupplier = some p → p = ⟨.new, false⟩
  fresh : ∀ c, s.constructed ≤ c → (s.clients c).authRefs = []

namespace LifeInv

theorem init : LifeInv wrapped State.init where
  pending := nofun
  refs := nofun
  covered := nofun
  supplier := nofun
  fresh _ _ := rfl

theorem recordsAlive (h : LifeInv wrapped s) : RecordsAlive s := by
  rintro c ⟨-, howner⟩
  have halive : (s.clients c).wrapper = .alive := by
    rcases howner with halive | hpending
    · exact halive
    · exact (h.pending c hpending).1
  refine ⟨halive, fun creation hc a ha p hp => ?_⟩
  obtain ⟨b, hb, hwrap⟩ := h.covered c halive creation hc a ha
  rw [h.supplier a (h.refs c b hb a hwrap) p hp]

/-- The wrapper of client `c` is built or changes, and refers to live authentications only. -/
theorem buildClient (h : LifeInv wrapped s) {c k : Nat} {x : Instance} (hk : s.constructed ≤ k)
    (hp : 0 < x.pending → x.wrapper = .alive ∧ x.cClient.isSome = true)
    (hr : ∀ b ∈ x.authRefs, ∀ a, wrapped b = some a → (s.auths a).wrapper = .alive)
    (hc : x.wrapper = .alive → ∀ creation, x.cClient = some creation →
      ∀ a ∈ creation.auths, ∃ b ∈ x.authRefs, wrapped b = some a)
    (hf : k ≤ c → x.authRefs = []) : LifeInv wrapped { s.setClient c x with constructed := k } where
  pending := (Function.forall_update_iff s.clients fun _ x => 0 < x.pending →
    x.wrapper = .alive ∧ x.cClient.isSome = true).2 ⟨hp, fun c' _ => h.pending c'⟩
  refs := (Function.forall_update_iff s.clients fun _ x => ∀ b ∈ x.authRefs, ∀ a, wrapped b = some a →
    (s.auths a).wrapper = .alive).2 ⟨hr, fun c' _ => h.refs c'⟩
  covered := (Function.forall_update_iff s.clients fun _ x => x.wrapper = .alive → ∀ creation,
    x.cClient = some creation → ∀ a ∈ creation.auths, ∃ b ∈ x.authRefs, wrapped b = some a).2
      ⟨hc, fun c' _ => h.covered c'⟩
  supplier := h.supplier
  fresh := (Function.forall_update_iff s.clients fun c' x => k ≤ c' → x.authRefs = []).2
    ⟨hf, fun c' _ hc' => h.fresh c' (hk.trans hc')⟩

/-- A client changes, and refers to nothing new. -/
theorem setClient (h : LifeInv wrapped s) {c : Nat} {x : Instance}
    (hp : 0 < x.pending → x.wrapper = .alive ∧ x.cClient.isSome = true)
    (hr : x.authRefs ⊆ (s.clients c).authRefs)
    (hc : x.wrapper = .alive → ∀ creation, x.cClient = some creation →
      ∀ a ∈ creation.auths, ∃ b ∈ x.authRefs, wrapped b = some a) :
    LifeInv wrapped (s.setClient c x) := by
  refine h.buildClient (Nat.le_refl _) hp (fun b hb => h.refs c b (hr hb)) hc fun hk => ?_
  rw [h.fresh c hk] at hr
  exact List.subset_nil.1 hr

/-- An authentication changes, and stays alive where a client refers to it. -/
theorem setAuth (h : LifeInv wrapped s) {a : Handle} {x : Authentication}
    (ha : (s.auths a).wrapper = .alive → (∃ c, ∃ b ∈ (s.clients c).authRefs, wrapped b = some a) →
      x.wrapper = .alive)
    (hs : x.wrapper = .alive → ∀ p, x.tokenSupplier = some p → p = ⟨.new, false⟩) :
    LifeInv wrapped (s.setAuth a x) where
  pending := h.pending
  refs c b hb := by
    refine (Function.forall_update_iff s.auths fun a' x => wrapped b = some a' → x.wrapper = .alive).2
      ⟨fun hw => ?_, fun a' _ => h.refs c b hb a'⟩
    exact ha (h.refs c b hb a hw) ⟨c, b, hb, hw⟩
  covered := h.covered
  supplier := (Function.forall_update_iff s.auths fun _ x => x.wrapper = .alive → ∀ p,
    x.tokenSupplier = some p → p = ⟨.new, false⟩).2 ⟨hs, fun a' _ => h.supplier a'⟩
  fresh := h.fresh

theorem newClient {b : Built wrapped} (h : LifeInv wrapped s) (hs : s.newClient b = some s') :
    LifeInv wrapped s' := by
  unfold State.newClient at hs
  split at hs <;> cases hs
  rename_i hall
  refine h.buildClient (Nat.le_succ _) (by rintro ⟨⟩) (fun v hv a hw => ?_) (fun _ => b.covered.client)
    fun hk => absurd hk (Nat.not_succ_le_self _)
  -- the constructor ran in JS code that reaches what the wrapper refers to
  have hr := List.all_eq_true.1 hall v hv
  rw [State.reachesAuth, hw] at hr
  simp only [Bool.and_eq_true, beq_iff_eq] at hr
  exact hr.1

/-- Every step that collects idle clients only keeps the invariant. -/
theorem step {a : Action wrapped} (h : LifeInv wrapped s) (hok : CollectsIdle s a) (hs : s.step a = some s') :
    LifeInv wrapped s' := by
  cases a with
  | newAuthentication a function =>
    dsimp only [State.step, State.newAuthentication] at hs
    split at hs <;> cases hs
    refine h.setAuth (fun _ _ => rfl) fun _ p hp => ?_
    cases function with
    | false => cases hp
    | true => exact (Option.some.inj hp).symm
  | newClient b => exact h.newClient hs
  | create c =>
    dsimp only [State.step, State.create] at hs
    split at hs <;> cases hs
    rename_i hc
    exact h.setClient (fun _ => ⟨hc.1, hc.2.2⟩) (List.Subset.refl _) (h.covered c)
  | callback c =>
    dsimp only [State.step, State.callback] at hs
    split at hs <;> cases hs
    rename_i hc
    exact h.setClient (fun _ => h.pending c hc) (List.Subset.refl _) (h.covered c)
  | dropClient c =>
    cases hs
    exact h.setClient (h.pending c) (List.Subset.refl _) (h.covered c)
  | dropAuthentication a =>
    cases hs
    exact h.setAuth (fun ha _ => ha) (h.supplier a)
  | collectClient c =>
    dsimp only [State.step, State.collectClient] at hs
    split at hs <;> cases hs
    -- the references go with the wrapper, and nothing pending needs them
    have hidle : (s.clients c).pending = 0 := hok
    refine h.setClient (fun hp => ?_) (List.nil_subset _) nofun
    rw [hidle] at hp
    cases hp
  | collectAuthentication a =>
    dsimp only [State.step, State.collectAuthentication] at hs
    split at hs <;> cases hs
    rename_i hc
    refine h.setAuth (fun _ href => ?_) nofun
    obtain ⟨c, b, hb, hw⟩ := href
    -- a client not constructed yet refers to nothing
    by_cases hlt : c < s.constructed
    · exact absurd hw (hc.2.2 c hlt b hb)
    · rw [h.fresh c (by omega)] at hb
      cases hb
  | closeSupplier a =>
    dsimp only [State.step, State.closeSupplier] at hs
    split at hs
    · rename_i p hp
      split at hs <;> cases hs
      rename_i hc
      -- the function of a live authentication has its holder
      refine h.setAuth (fun ha _ => ha) fun ha => ?_
      rw [h.supplier a ha p hp] at hc
      cases hc
    · cases hs
  | finalizeSupplier a =>
    dsimp only [State.step, State.finalizeSupplier] at hs
    split at hs
    · rename_i p hp
      split at hs <;> cases hs
      rename_i hc
      refine h.setAuth (fun ha _ => ha) fun ha => ?_
      rw [h.supplier a ha p hp] at hc
      cases hc.1
    · cases hs

end LifeInv

/-- From a state in order, a step leaves every record alive exactly when it does not collect a
client with an operation pending. -/
theorem recordsAlive_step_iff {a : Action wrapped} (h : LifeInv wrapped s) (hs : s.step a = some s') :
    RecordsAlive s' ↔ CollectsIdle s a := by
  constructor
  · intro hrec
    cases a with
    | collectClient c =>
      dsimp only [State.step, State.collectClient] at hs
      split at hs <;> cases hs
      by_contra hp
      have hp : 0 < (s.clients c).pending := Nat.pos_of_ne_zero hp
      have hc : (s.setClient c { s.clients c with wrapper := .destroyed, authRefs := [] }).clients c =
          { s.clients c with wrapper := .destroyed, authRefs := [] } := Function.update_self ..
      have howned : ((s.setClient c { s.clients c with wrapper := .destroyed, authRefs := [] }).clients c).owned := by
        rw [hc]
        exact ⟨(h.pending c hp).2, .inr hp⟩
      have hlog := (hrec c howned).1
      rw [Instance.logLevelAlive, hc] at hlog
      cases hlog
    | _ => trivial
  · intro hok
    exact (h.step hok hs).recordsAlive

/-- In every run in which no client is collected while an operation of it is pending, whatever a
native client with an owner uses is alive. -/
theorem recordsAlive_reachable (h : (idleMachine wrapped).Reachable s) : RecordsAlive s := by
  have hI : LifeInv wrapped s := h.invariantWhere (fun _ h0 => h0 ▸ LifeInv.init) fun _ _ _ hI hok hs =>
    hI.step hok hs
  exact hI.recordsAlive

end

/-! ## Runs -/

/-- A config with an authentication; all that is wrapped is the native authentication 7. -/
def tokenConfig : Heap := { Heap.empty with
  props := fun
    | 0 => [(cfgServiceUrl, .string "pulsar://localhost:6650"), (cfgAuth, .object .plain 1)]
    | 1 => [(cfgAuthProp, .object .plain 2)]
    | _ => []
  handle := fun _ => 7 }

/-- What the objects wrap. -/
def tokenBinding (v : JsValue) : Option Handle := tokenConfig.view (.unwrapAuthentication v)

theorem unwrapsAs_tokenBinding : UnwrapsAs tokenBinding tokenConfig.sides := by
  intro v j r j' hr auth hauth
  cases hr
  exact hauth

/-- The client that the constructor makes of it. -/
def builtWithToken : Built tokenBinding :=
  .ofConstruct tokenConfig.sides unwrapsAs_tokenBinding (.object .plain 0) ⟨none, []⟩ ⟨(), none, ()⟩

theorem idleMachine_start {wrapped : JsValue → Option Handle} : (idleMachine wrapped).start .init := rfl

/-- A client with a token supplier is dropped by JS while it creates a producer, and collected once
that is done. -/
def patientCollection : State :=
  (idleMachine tokenBinding).runFrom .init
    [.newAuthentication 7 true, .newClient builtWithToken, .create 0, .dropClient 0, .dropAuthentication 7,
      .callback 0, .collectClient 0, .collectAuthentication 7, .closeSupplier 7, .finalizeSupplier 7]

theorem recordsAlive_patientCollection :
    (patientCollection.clients 0).wrapper = .destroyed ∧ (patientCollection.auths 7).wrapper = .destroyed ∧
      RecordsAlive patientCollection :=
  ⟨by decide, by decide, recordsAlive_reachable (.runFrom (.start idleMachine_start) _)⟩

theorem machine_start {wrapped : JsValue → Option Handle} : (machine wrapped).start .init := rfl

/-- The same client is collected while it creates the producer. -/
def hastyCollection : State :=
  (machine tokenBinding).runFrom .init
    [.newAuthentication 7 true, .newClient builtWithToken, .create 0, .dropClient 0, .dropAuthentication 7,
      .collectClient 0, .collectAuthentication 7, .closeSupplier 7, .finalizeSupplier 7]

/-- The pending operation owns the native client, and both records are gone. -/
theorem hastyCollection_dangling :
    (machine tokenBinding).Reachable hastyCollection ∧ (hastyCollection.clients 0).pending = 1 ∧
      (hastyCollection.clients 0).wrapper = .destroyed ∧
      (hastyCollection.auths 7).tokenSupplier = some ⟨⟨0, true⟩, true⟩ ∧ ¬ RecordsAlive hastyCollection := by
  refine ⟨.runFrom (.start machine_start) _, by decide, by decide, by decide, ?_⟩
  intro h
  have howned : (hastyCollection.clients 0).owned := ⟨by decide, .inr (by decide)⟩
  have hdead : (hastyCollection.clients 0).wrapper = .destroyed := by decide
  have halive := (h 0 howned).1
  rw [Instance.logLevelAlive, hdead] at halive
  cases halive

end PulsarNode.Client
