/-
The log handler of the process: native threads in `Client::LogMessage`, and the JS thread that
replaces or removes the handler in `Client::SetLogHandler` and in the constructor of a client with a
`log` option. The record behind `Client::logCallback` is shared: each use of its callback reads it
anew. A step that uses a deleted record, or a function that was finalized, is a fault; nothing happens
after a fault.
-/
import PulsarNode.Machine.Run
import PulsarNode.Napi.Tsfn

namespace PulsarNode.Log

/-- A thread-safe function, by the order of creation. -/
abbrev FnId := Nat

/-- A `LogCallback` record, by the order of allocation. -/
abbrev RecordId := Nat

/-! ## States -/

/-- `LogCallback`; a new record has an empty function. -/
structure LogCallback where
  callback : Option FnId
  deleted : Bool
  deriving DecidableEq, Repr

/-- Where a native thread is in `LogMessage`, with the record it has read; `called` is between
`BlockingCall` and `Release`. -/
inductive Pc
  | idle
  | read (r : RecordId)
  | acquired (r : RecordId)
  | called (r : RecordId)
  deriving DecidableEq, Repr

/-- Where the JS thread is. `created f`: the function `f` is made; `installing f`: the record is
there, and its old callback is released; `removing`: the callback is released for good. -/
inductive Writer
  | idle
  | created (f : FnId)
  | installing (f : FnId)
  | removing
  deriving DecidableEq, Repr

inductive Fault
  | recordDeleted | emptyFunction | functionFreed
  deriving DecidableEq, Repr

/-- `freed`: the functions that were finalized. `underflow`: a function without references was released. -/
structure State (n : Nat) where
  threads : Fin n → Pc
  fns : FnId → Tsfn
  freed : FnId → Bool
  made : Nat
  records : RecordId → LogCallback
  allocated : Nat
  logCallback : Option RecordId
  writer : Writer
  underflow : Bool
  fault : Option Fault

inductive Action (n : Nat)
  | read (t : Fin n)
  | acquire (t : Fin n)
  | call (t : Fin n)
  | release (t : Fin n)
  | create
  | releaseOld
  | overwrite
  | releaseLast
  | delete
  | closeFunction (f : FnId)
  | finalize (f : FnId)
  deriving DecidableEq, Repr

namespace State

variable {n : Nat}

def init : State n where
  threads _ := .idle
  fns _ := ⟨0, false⟩
  freed _ := false
  made := 0
  records _ := ⟨none, false⟩
  allocated := 0
  logCallback := none
  writer := .idle
  underflow := false
  fault := none

def setPc (s : State n) (t : Fin n) (pc : Pc) : State n := { s with threads := Function.update s.threads t pc }

def setFn (s : State n) (f : FnId) (x : Tsfn) : State n := { s with fns := Function.update s.fns f x }

def fail (s : State n) (f : Fault) : State n := { s with fault := some f }

theorem fns_setFn_self (s : State n) (f : FnId) (x : Tsfn) : (s.setFn f x).fns f = x := Function.update_self ..

theorem fns_setFn_of_ne (s : State n) {f g : FnId} (h : g ≠ f) (x : Tsfn) : (s.setFn f x).fns g = s.fns g :=
  Function.update_of_ne h ..

/-- `callback.Release()`. -/
def releaseFn (s : State n) (f : FnId) : State n :=
  match (s.fns f).release with
  | some x => s.setFn f x
  | none => { s with underflow := true }

theorem releaseFn_eq {s : State n} {f : FnId} (h : 0 < (s.fns f).count) :
    s.releaseFn f = s.setFn f ⟨(s.fns f).count - 1, (s.fns f).closing⟩ := by
  unfold releaseFn
  rw [Tsfn.release_eq.2 ⟨h, rfl⟩]

/-- A use of the function in a record. -/
def withCallback (s : State n) (r : RecordId) (use : FnId → State n) : State n :=
  if (s.records r).deleted then s.fail .recordDeleted
  else
    match (s.records r).callback with
    | none => s.fail .emptyFunction
    | some f => if s.freed f then s.fail .functionFreed else use f

/-! ## `LogMessage` -/

/-- `Client::logCallback` is read; without a record the call is over. -/
def read (t : Fin n) (s : State n) : Option (State n) :=
  match s.threads t with
  | .idle =>
    match s.logCallback with
    | none => some s
    | some r => some (s.setPc t (.read r))
  | _ => none

def acquire (t : Fin n) (s : State n) : Option (State n) :=
  match s.threads t with
  | .read r =>
    some (s.withCallback r fun f =>
      match (s.fns f).acquire with
      | none => s.setPc t .idle
      | some x => (s.setFn f x).setPc t (.acquired r))
  | _ => none

/-- `BlockingCall` on a function that is closing gives a reference up. -/
def call (t : Fin n) (s : State n) : Option (State n) :=
  match s.threads t with
  | .acquired r =>
    some (s.withCallback r fun f =>
      (if (s.fns f).closing then s.setFn f (s.fns f).drop else s).setPc t (.called r))
  | _ => none

def release (t : Fin n) (s : State n) : Option (State n) :=
  match s.threads t with
  | .called r => some (s.withCallback r fun f => (s.releaseFn f).setPc t .idle)
  | _ => none

/-! ## The JS thread -/

/-- `SetLogHandler` with a function, or `new Client` with a `log` option: the function is made. -/
def create (s : State n) : Option (State n) :=
  if s.writer = .idle then
    some { s with fns := Function.update s.fns s.made .new, made := s.made + 1, writer := .created s.made }
  else none

/-- The callback of the record is released, or a record is allocated. -/
def releaseOld (s : State n) : Option (State n) :=
  match s.writer with
  | .created f =>
    match s.logCallback with
    | some r => some (s.withCallback r fun g => { s.releaseFn g with writer := .installing f })
    | none =>
      some { s with
        records := Function.update s.records s.allocated ⟨none, false⟩, allocated := s.allocated + 1
        logCallback := some s.allocated, writer := .installing f }
  | _ => none

def overwrite (s : State n) : Option (State n) :=
  match s.writer, s.logCallback with
  | .installing f, some r =>
    some { s with
      records := Function.update s.records r { s.records r with callback := some f }, writer := .idle }
  | _, _ => none

/-- `SetLogHandler` with null, where there is a record. -/
def releaseLast (s : State n) : Option (State n) :=
  match s.writer, s.logCallback with
  | .idle, some r => some (s.withCallback r fun g => { s.releaseFn g with writer := .removing })
  | _, _ => none

def delete (s : State n) : Option (State n) :=
  match s.writer, s.logCallback with
  | .removing, some r =>
    some { s with
      records := Function.update s.records r { s.records r with deleted := true }
      logCallback := none, writer := .idle }
  | _, _ => none

/-- Between its calls the JS thread closes a function that has no references. -/
def closeFunction (f : FnId) (s : State n) : Option (State n) :=
  if s.writer = .idle ∧ f < s.made ∧ (s.fns f).count = 0 then some (s.setFn f (s.fns f).close) else none

/-- Later it finalizes the function, and its memory is given back. -/
def finalize (f : FnId) (s : State n) : Option (State n) :=
  if s.writer = .idle ∧ (s.fns f).closing ∧ s.freed f = false then
    some { s with freed := Function.update s.freed f true }
  else none

def step (s : State n) (a : Action n) : Option (State n) :=
  if s.fault ≠ none then none
  else match a with
    | .read t => s.read t
    | .acquire t => s.acquire t
    | .call t => s.call t
    | .release t => s.release t
    | .create => s.create
    | .releaseOld => s.releaseOld
    | .overwrite => s.overwrite
    | .releaseLast => s.releaseLast
    | .delete => s.delete
    | .closeFunction f => s.closeFunction f
    | .finalize f => s.finalize f

end State

/-- The log handler with `n` native threads. -/
def machine (n : Nat) : Machine (State n) (Action n) where
  start s := s = .init
  step := State.step

theorem machine_start {n : Nat} : (machine n).start .init := rfl

/-! ## The branches of a step -/

/-- What each action can do, branch by branch. -/
inductive Step {n : Nat} (s : State n) : Action n → State n → Prop
  | noRecord {t : Fin n} : Step s (.read t) s
  | read {t : Fin n} {r : RecordId} (hpc : s.threads t = .idle) (hr : s.logCallback = some r) :
    Step s (.read t) (s.setPc t (.read r))
  | deleted {a : Action n} {t : Fin n} {r : RecordId}
      (hpc : s.threads t = .read r ∨ s.threads t = .acquired r ∨ s.threads t = .called r)
      (hd : (s.records r).deleted = true) : Step s a (s.fail .recordDeleted)
  | writerDeleted {a : Action n} {r : RecordId} (hr : s.logCallback = some r)
      (hd : (s.records r).deleted = true) : Step s a (s.fail .recordDeleted)
  | unusable {a : Action n} {e : Fault} (he : e ≠ .recordDeleted) : Step s a (s.fail e)
  | refused {t : Fin n} {r : RecordId} (hpc : s.threads t = .read r) : Step s (.acquire t) (s.setPc t .idle)
  | acquired {t : Fin n} {r : RecordId} {f : FnId} (hpc : s.threads t = .read r)
      (hf : (s.records r).callback = some f) (hc : (s.fns f).closing = false) :
    Step s (.acquire t) ((s.setFn f ⟨(s.fns f).count + 1, false⟩).setPc t (.acquired r))
  | callClosing {t : Fin n} {r : RecordId} {f : FnId} (hpc : s.threads t = .acquired r)
      (hf : (s.records r).callback = some f) (hc : (s.fns f).closing = true) :
    Step s (.call t) ((s.setFn f (s.fns f).drop).setPc t (.called r))
  | called {t : Fin n} {r : RecordId} (hpc : s.threads t = .acquired r) :
    Step s (.call t) (s.setPc t (.called r))
  | release {t : Fin n} {r : RecordId} {f : FnId} (hpc : s.threads t = .called r)
      (hf : (s.records r).callback = some f) : Step s (.release t) ((s.releaseFn f).setPc t .idle)
  | create (hw : s.writer = .idle) :
    Step s .create { s with
      fns := Function.update s.fns s.made .new, made := s.made + 1, writer := .created s.made }
  | releaseOld {f g : FnId} {r : RecordId} (hw : s.writer = .created f) (hr : s.logCallback = some r)
      (hg : (s.records r).callback = some g) :
    Step s .releaseOld { s.releaseFn g with writer := .installing f }
  | allocate {f : FnId} (hw : s.writer = .created f) (hr : s.logCallback = none) :
    Step s .releaseOld { s with
      records := Function.update s.records s.allocated ⟨none, false⟩, allocated := s.allocated + 1
      logCallback := some s.allocated, writer := .installing f }
  | overwrite {f : FnId} {r : RecordId} (hw : s.writer = .installing f) (hr : s.logCallback = some r) :
    Step s .overwrite { s with
      records := Function.update s.records r { s.records r with callback := some f }, writer := .idle }
  | releaseLast {g : FnId} {r : RecordId} (hw : s.writer = .idle) (hr : s.logCallback = some r)
      (hg : (s.records r).callback = some g) :
    Step s .releaseLast { s.releaseFn g with writer := .removing }
  | delete {r : RecordId} (hw : s.writer = .removing) (hr : s.logCallback = some r) :
    Step s .delete { s with
      records := Function.update s.records r { s.records r with deleted := true }
      logCallback := none, writer := .idle }
  | closeFunction {f : FnId} (hf : f < s.made) (hc : (s.fns f).count = 0) :
    Step s (.closeFunction f) (s.setFn f (s.fns f).close)
  | finalize {f : FnId} : Step s (.finalize f) { s with freed := Function.update s.freed f true }

namespace Step

variable {n : Nat} {s s' : State n}

/-- A use of a record's function fails, or goes through. -/
theorem of_withCallback {a : Action n} {r : RecordId} {use : FnId → State n}
    (hdel : (s.records r).deleted = true → Step s a (s.fail .recordDeleted))
    (huse : ∀ f, (s.records r).callback = some f → Step s a (use f)) : Step s a (s.withCallback r use) := by
  unfold State.withCallback
  split
  · rename_i hd
    exact hdel hd
  · split
    · exact .unusable (by rintro ⟨⟩)
    · rename_i f hf
      split
      · exact .unusable (by rintro ⟨⟩)
      · exact huse f hf

/-- A step takes one of the branches, from a state without a fault. -/
theorem of_step {a : Action n} (h : s.step a = some s') : s.fault = none ∧ Step s a s' := by
  unfold State.step at h
  split at h
  · cases h
  · rename_i hf
    refine ⟨not_not.1 hf, ?_⟩
    cases a with
    | read t =>
      dsimp only [State.read] at h
      split at h
      · rename_i hpc
        split at h <;> cases h
        · exact .noRecord
        · exact .read hpc ‹_›
      · cases h
    | acquire t =>
      dsimp only [State.acquire] at h
      split at h <;> cases h
      rename_i r hpc
      refine of_withCallback (fun hd => .deleted (.inl hpc) hd) fun f hf => ?_
      split
      · exact .refused hpc
      · rename_i x hx
        obtain ⟨hc, rfl⟩ := Tsfn.acquire_eq.1 hx
        exact .acquired hpc hf hc
    | call t =>
      dsimp only [State.call] at h
      split at h <;> cases h
      rename_i r hpc
      refine of_withCallback (fun hd => .deleted (.inr (.inl hpc)) hd) fun f hf => ?_
      split
      · exact .callClosing hpc hf ‹_›
      · exact .called hpc
    | release t =>
      dsimp only [State.release] at h
      split at h <;> cases h
      rename_i r hpc
      exact of_withCallback (fun hd => .deleted (.inr (.inr hpc)) hd) fun f hf => .release hpc hf
    | create =>
      dsimp only [State.create] at h
      split at h <;> cases h
      exact .create ‹_›
    | releaseOld =>
      dsimp only [State.releaseOld] at h
      split at h
      · rename_i f hw
        split at h <;> cases h
        · rename_i r hr
          exact of_withCallback (fun hd => .writerDeleted hr hd) fun g hg => .releaseOld hw hr hg
        · rename_i hr
          exact .allocate hw hr
      · cases h
    | overwrite =>
      dsimp only [State.overwrite] at h
      split at h <;> cases h
      rename_i f r hw hr
      exact .overwrite hw hr
    | releaseLast =>
      dsimp only [State.releaseLast] at h
      split at h <;> cases h
      rename_i r hw hr
      exact of_withCallback (fun hd => .writerDeleted hr hd) fun g hg => .releaseLast hw hr hg
    | delete =>
      dsimp only [State.delete] at h
      split at h <;> cases h
      rename_i r hw hr
      exact .delete hw hr
    | closeFunction f =>
      dsimp only [State.closeFunction] at h
      split at h <;> cases h
      rename_i hc
      exact .closeFunction hc.2.1 hc.2.2
    | finalize f =>
      dsimp only [State.finalize] at h
      split at h <;> cases h
      exact .finalize

end Step

end PulsarNode.Log
