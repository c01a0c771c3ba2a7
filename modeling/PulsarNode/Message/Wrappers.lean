/-
The wrappers `Message` and `MessageId` and every operation that is called on one or takes one. JS can
construct both classes, and a wrapper made so holds no native handle. The getters of `Message` check
for it, and so does `Reader::NewInstance`; the other operations pass on what the wrapper holds.
-/
import PulsarNode.Machine.Run
import PulsarNode.Prog.Basic
import PulsarNode.Native.Setters

namespace PulsarNode.Wrappers

/-! ## What the operations ask -/

/-- The native functions that are passed the handle of a wrapper. -/
inductive NativeFunction
  | messageGetTopicName | messageGetRedeliveryCount | messageGetProperties | messageGetData | messageGetLength
  | messageGetMessageId | messageGetEventTimestamp | messageGetPublishTimestamp | messageGetPartitionKey
  | messageGetOrderingKey | messageGetProducerName | messageGetReplicatedFrom | messageHasSchemaVersion
  | messageGetLongSchemaVersion | messageGetEncryptionContext
  | messageIdSerialize | messageIdStr
  | consumerAcknowledgeAsync | consumerAcknowledgeAsyncId | consumerNegativeAcknowledge | consumerNegativeAcknowledgeId
  | consumerAcknowledgeCumulativeAsync | consumerAcknowledgeCumulativeAsyncId | consumerSeekAsync
  | readerSeekAsync | clientCreateReaderAsync
  deriving DecidableEq, Repr

/-- What they return, as far as an operation goes on with it. -/
def NativeFunction.Resp : NativeFunction → Type
  | messageGetMessageId => Handle
  | messageHasSchemaVersion => Bool
  | _ => Unit

/-- What the native client returns in one operation. -/
structure Returns where
  messageId : Handle
  hasSchemaVersion : Bool
  deriving DecidableEq, Repr

def Returns.of (r : Returns) : (f : NativeFunction) → f.Resp
  | .messageGetMessageId => r.messageId
  | .messageHasSchemaVersion => r.hasSchemaVersion
  | .messageGetTopicName | .messageGetRedeliveryCount | .messageGetProperties | .messageGetData | .messageGetLength
  | .messageGetEventTimestamp | .messageGetPublishTimestamp | .messageGetPartitionKey | .messageGetOrderingKey
  | .messageGetProducerName | .messageGetReplicatedFrom | .messageGetLongSchemaVersion | .messageGetEncryptionContext
  | .messageIdSerialize | .messageIdStr | .consumerAcknowledgeAsync | .consumerAcknowledgeAsyncId
  | .consumerNegativeAcknowledge | .consumerNegativeAcknowledgeId | .consumerAcknowledgeCumulativeAsync
  | .consumerAcknowledgeCumulativeAsyncId | .consumerSeekAsync | .readerSeekAsync | .clientCreateReaderAsync => ()

inductive WrapperQuery
  | throwAsJavaScriptException (message : String)
  | reject (message : String)
  | call (f : NativeFunction) (arg : Option Handle)

def WrapperQuery.Resp : WrapperQuery → Type
  | throwAsJavaScriptException _ | reject _ => Unit
  | call f _ => f.Resp

/-- An operation on a wrapper: the object is the member `cMessage` or `cMessageId`, `none` for a null
pointer. It gives the handle of the `MessageId` that it makes, if it makes one. -/
abbrev Method := Prog WrapperQuery WrapperQuery.Resp (Option Handle) (Option Handle)

def throwAsJavaScriptException (message : String) : Prog WrapperQuery WrapperQuery.Resp (Option Handle) Unit :=
  Prog.ask (.throwAsJavaScriptException message) Prog.ret

/-- `deferred->Reject(message)`. -/
def reject (message : String) : Prog WrapperQuery WrapperQuery.Resp (Option Handle) Unit :=
  Prog.ask (.reject message) Prog.ret

/-- A native function called with the member. -/
def call (f : NativeFunction) : Prog WrapperQuery WrapperQuery.Resp (Option Handle) f.Resp := do
  let arg ← Prog.look
  Prog.ask (.call f arg) Prog.ret

/-- An operation that passes the member on and makes no wrapper. -/
def passing (f : NativeFunction) : Method := do
  let _ ← call f
  return none

/-! ## The operations -/

namespace Message

/-- `Message::ValidateCMessage`. -/
def validateCMessage : Prog WrapperQuery WrapperQuery.Resp (Option Handle) Bool := do
  if (← Prog.look).isSome then
    return true
  throwAsJavaScriptException "Message has not been built"
  return false

/-- `if (!ValidateCMessage(env)) return env.Null();`, then the rest. -/
def validated (rest : Method) : Method := do
  if !(← validateCMessage) then
    return none
  rest

def getTopicName : Method := validated (passing .messageGetTopicName)

def getRedeliveryCount : Method := validated (passing .messageGetRedeliveryCount)

def getProperties : Method := validated (passing .messageGetProperties)

def getData : Method := validated do
  let _ ← call .messageGetData
  passing .messageGetLength

/-- The id is that of the message, in a wrapper of its own. -/
def getMessageId : Method := validated do
  let cMessageId : Handle ← call .messageGetMessageId
  return some cMessageId

def getEventTimestamp : Method := validated (passing .messageGetEventTimestamp)

def getPublishTimestamp : Method := validated (passing .messageGetPublishTimestamp)

def getPartitionKey : Method := validated (passing .messageGetPartitionKey)

def getOrderingKey : Method := validated (passing .messageGetOrderingKey)

def getProducerName : Method := validated (passing .messageGetProducerName)

def isReplicated : Method := validated (passing .messageGetReplicatedFrom)

def getReplicatedFrom : Method := validated (passing .messageGetReplicatedFrom)

def getLongSchemaVersion : Method := validated do
  let has : Bool ← call .messageHasSchemaVersion
  if !has then
    return none
  passing .messageGetLongSchemaVersion

def getEncryptionContext : Method := validated (passing .messageGetEncryptionContext)

end Message

namespace MessageId

def serialize : Method := passing .messageIdSerialize

def toString : Method := passing .messageIdStr

end MessageId

namespace Consumer

def acknowledge : Method := passing .consumerAcknowledgeAsync

def acknowledgeId : Method := passing .consumerAcknowledgeAsyncId

def negativeAcknowledge : Method := passing .consumerNegativeAcknowledge

def negativeAcknowledgeId : Method := passing .consumerNegativeAcknowledgeId

def acknowledgeCumulative : Method := passing .consumerAcknowledgeCumulativeAsync

def acknowledgeCumulativeId : Method := passing .consumerAcknowledgeCumulativeAsyncId

def seek : Method := passing .consumerSeekAsync

end Consumer

namespace Reader

def seek : Method := passing .readerSeekAsync

/-- `Reader::NewInstance` with a topic and the wrapper as `startMessageId`. -/
def newInstance : Method := do
  if (← Prog.look).isNone then
    reject "StartMessageId is required and must be specified as a MessageId object when creating reader"
    return none
  passing .clientCreateReaderAsync

end Reader

/-- The exported classes. -/
inductive Class
  | message | messageId
  deriving DecidableEq, Repr

inductive Operation
  | getTopicName | getRedeliveryCount | getProperties | getData | getMessageId | getEventTimestamp
  | getPublishTimestamp | getPartitionKey | getOrderingKey | getProducerName | isReplicated | getReplicatedFrom
  | getLongSchemaVersion | getEncryptionContext
  | acknowledge | negativeAcknowledge | acknowledgeCumulative
  | serialize | toString
  | acknowledgeId | negativeAcknowledgeId | acknowledgeCumulativeId | consumerSeek | readerSeek | createReader
  deriving DecidableEq, Repr

namespace Operation

def code : Operation → Method
  | getTopicName => Message.getTopicName
  | getRedeliveryCount => Message.getRedeliveryCount
  | getProperties => Message.getProperties
  | getData => Message.getData
  | getMessageId => Message.getMessageId
  | getEventTimestamp => Message.getEventTimestamp
  | getPublishTimestamp => Message.getPublishTimestamp
  | getPartitionKey => Message.getPartitionKey
  | getOrderingKey => Message.getOrderingKey
  | getProducerName => Message.getProducerName
  | isReplicated => Message.isReplicated
  | getReplicatedFrom => Message.getReplicatedFrom
  | getLongSchemaVersion => Message.getLongSchemaVersion
  | getEncryptionContext => Message.getEncryptionContext
  | acknowledge => Consumer.acknowledge
  | negativeAcknowledge => Consumer.negativeAcknowledge
  | acknowledgeCumulative => Consumer.acknowledgeCumulative
  | serialize => MessageId.serialize
  | toString => MessageId.toString
  | acknowledgeId => Consumer.acknowledgeId
  | negativeAcknowledgeId => Consumer.negativeAcknowledgeId
  | acknowledgeCumulativeId => Consumer.acknowledgeCumulativeId
  | consumerSeek => Consumer.seek
  | readerSeek => Reader.seek
  | createReader => Reader.newInstance

/-- The class that an operation is called on, or takes. -/
def cls : Operation → Class
  | serialize | toString | acknowledgeId | negativeAcknowledgeId | acknowledgeCumulativeId | consumerSeek
  | readerSeek | createReader => .messageId
  | _ => .message

/-- The operations that check for a null handle: the getters of `Message`, and `createReader`. -/
def checks : Operation → Bool
  | acknowledge | negativeAcknowledge | acknowledgeCumulative | serialize | toString | acknowledgeId
  | negativeAcknowledgeId | acknowledgeCumulativeId | consumerSeek | readerSeek => false
  | _ => true

end Operation

/-! ## What happens in an operation -/

/-- An error that JS is told of, or a native function called with a handle or with null. -/
inductive Event
  | reported (message : String)
  | called (f : NativeFunction) (arg : Option Handle)
  deriving DecidableEq, Repr

/-- The answers of the native client, noted. -/
def answer (native : Returns) : Answerer WrapperQuery WrapperQuery.Resp Empty (List Event)
  | .throwAsJavaScriptException message, l => (.ok (), l ++ [.reported message])
  | .reject message, l => (.ok (), l ++ [.reported message])
  | .call f arg, l => (.ok (native.of f), l ++ [.called f arg])

section

variable (native : Returns) (handle : Option Handle)

/-- What an operation does on a wrapper with this member, and the `MessageId` that it makes. -/
def events (p : Method) : List Event := (p.run (answer native) handle []).2.2

def made (p : Method) : Option Handle :=
  match (p.run (answer native) handle []).1 with
  | .ok id => id

/-- An operation reports an error or uses a handle, and passes no null. -/
structure Sound (l : List Event) : Prop where
  reports : (∃ message, .reported message ∈ l) ∨ ∃ f h, .called f (some h) ∈ l
  nonNull : ∀ f, .called f none ∉ l

theorem events_passing (f : NativeFunction) : events native handle (passing f) = [.called f handle] := rfl

theorem not_sound_passing (f : NativeFunction) : ¬ Sound (events native none (passing f)) := by
  intro h
  exact h.nonNull f (by simp [events_passing])

theorem sound_passing (f : NativeFunction) (h : Handle) : Sound (events native (some h) (passing f)) := by
  rw [events_passing]
  exact ⟨.inr ⟨f, h, by simp⟩, by simp⟩

/-- A check that fails is all that happens. -/
theorem sound_validated_none (rest : Method) : Sound (events native none (Message.validated rest)) := by
  have hevents : events native none (Message.validated rest) = [.reported "Message has not been built"] := rfl
  rw [hevents]
  exact ⟨.inl ⟨_, List.mem_singleton_self _⟩, by simp⟩

theorem sound_newInstance : Sound (events native handle Reader.newInstance) := by
  cases handle with
  | none =>
    have hevents : events native none Reader.newInstance =
        [.reported "StartMessageId is required and must be specified as a MessageId object when creating reader"] := rfl
    rw [hevents]
    exact ⟨.inl ⟨_, List.mem_singleton_self _⟩, by simp⟩
  | some h => exact sound_passing native _ h

/-- Whether there is a schema version is asked first. -/
theorem sound_getLongSchemaVersion (h : Handle) : Sound (events native (some h) Message.getLongSchemaVersion) := by
  have hevents : events native (some h) Message.getLongSchemaVersion =
      (Prog.run (answer native) (if !native.hasSchemaVersion then pure none
        else passing .messageGetLongSchemaVersion : Method) (some h) [.called .messageHasSchemaVersion (some h)]).2.2 := rfl
  rw [hevents]
  cases native.hasSchemaVersion with
  | false => exact ⟨.inr ⟨_, h, List.mem_singleton_self _⟩, by simp [Prog.run, pure]⟩
  | true =>
    have hboth : (Prog.run (answer native) (passing .messageGetLongSchemaVersion) (some h)
        [.called .messageHasSchemaVersion (some h)]).2.2 =
        [.called .messageHasSchemaVersion (some h), .called .messageGetLongSchemaVersion (some h)] := rfl
    rw [if_neg (by simp), hboth]
    exact ⟨.inr ⟨_, h, List.mem_cons_self⟩, by simp⟩

/-- An operation is sound on a wrapper exactly when it checks, or the wrapper holds a handle. -/
theorem sound_iff (op : Operation) :
    Sound (events native handle op.code) ↔ op.checks = true ∨ handle.isSome = true := by
  cases handle with
  | none =>
    simp only [Option.isSome_none, Bool.false_eq_true, or_false]
    cases op with
    | acknowledge | negativeAcknowledge | acknowledgeCumulative | serialize | toString | acknowledgeId
    | negativeAcknowledgeId | acknowledgeCumulativeId | consumerSeek | readerSeek =>
      exact iff_of_false (not_sound_passing native _) (by decide)
    | createReader => exact iff_of_true (sound_newInstance native none) rfl
    | _ => exact iff_of_true (sound_validated_none native _) rfl
  | some h =>
    refine iff_of_true ?_ (.inr rfl)
    cases op with
    | getLongSchemaVersion => exact sound_getLongSchemaVersion native h
    | getData | getMessageId => exact ⟨.inr ⟨_, h, List.mem_cons_self⟩, by rintro f ⟨⟩; contradiction⟩
    | _ => exact sound_passing native _ h

end

/-! ## Runs -/

/-- A wrapper that JS has: the handle it holds is `none` for a null pointer, and stays as it is made. -/
structure Wrapper where
  cls : Class
  handle : Option Handle
  deriving DecidableEq, Repr

/-- The wrappers, and what happened in each operation. -/
structure State where
  wrappers : List Wrapper
  log : List (List Event)

inductive Action
  /-- `new Message()` or `new MessageId()`. -/
  | construct (c : Class)
  /-- The addon makes a wrapper over a handle of the native client. -/
  | wrap (c : Class) (h : Handle)
  | operate (op : Operation) (i : Nat) (native : Returns)

namespace State

def init : State := ⟨[], []⟩

def add (w : Wrapper) (s : State) : State := { s with wrappers := s.wrappers ++ [w] }

/-- An operation on a wrapper of its class; a `MessageId` that it makes is a new wrapper. -/
def operate (op : Operation) (i : Nat) (native : Returns) (s : State) : Option State :=
  match s.wrappers[i]? with
  | none => none
  | some w =>
    if w.cls = op.cls then
      some {
        wrappers := s.wrappers ++ (made native w.handle op.code).toList.map fun id => ⟨.messageId, some id⟩
        log := s.log ++ [events native w.handle op.code] }
    else none

def step (s : State) : Action → Option State
  | .construct c => some (s.add ⟨c, none⟩)
  | .wrap c h => some (s.add ⟨c, some h⟩)
  | .operate op i native => s.operate op i native

/-- Each operation of the run reported an error or used a handle, and null was never passed. -/
def AllSound (s : State) : Prop := ∀ l ∈ s.log, Sound l

end State

def machine : Machine State Action where
  start s := s = .init
  step := State.step

/-- An operation that does not check is on a wrapper with a handle. -/
def Careful (s : State) : Action → Prop
  | .operate op i _ => op.checks = true ∨ ∃ w, s.wrappers[i]? = some w ∧ w.handle.isSome = true
  | _ => True

/-- A step keeps the soundness of all operations exactly when it is careful. -/
theorem allSound_step {s s' : State} {a : Action} (h : machine.step s a = some s') :
    s'.AllSound ↔ s.AllSound ∧ Careful s a := by
  cases a with
  | construct c | wrap c h₀ =>
    cases h
    exact (and_iff_left trivial).symm
  | operate op i native =>
    change s.operate op i native = some s' at h
    unfold State.operate at h
    split at h
    · cases h
    · rename_i w hw
      split at h <;> cases h
      have hcareful : Careful s (.operate op i native) ↔ op.checks = true ∨ w.handle.isSome = true := by
        simp [Careful, hw]
      rw [hcareful, ← sound_iff native]
      simp [State.AllSound, or_imp, forall_and]

/-- In a run each operation reports an error or uses a handle, and none passes null, exactly when each
is on a wrapper with a handle or is one of those that check. -/
theorem allSound_iff {as : List Action} {s : State} (h : machine.run .init as = some s) :
    s.AllSound ↔ machine.Along Careful .init as := by
  have hinit : State.init.AllSound := by
    rintro l ⟨⟩
  rw [Machine.run_iff_along (fun _ _ _ => allSound_step) h]
  exact and_iff_right hinit

/-- A received message: its id is asked for, and both are acknowledged. -/
def received : List Action :=
  [.wrap .message 7, .operate .getMessageId 0 ⟨8, false⟩, .operate .acknowledge 0 ⟨0, false⟩,
    .operate .acknowledgeCumulativeId 1 ⟨0, false⟩]

theorem allSound_received : ∃ s, machine.run .init received = some s ∧ s.AllSound ∧
    s.log.getLast? = some [.called .consumerAcknowledgeCumulativeAsyncId (some 8)] := by
  obtain ⟨s, hrun, hlast⟩ : ∃ s, machine.run .init received = some s ∧
    s.log.getLast? = some [.called .consumerAcknowledgeCumulativeAsyncId (some 8)] := ⟨_, rfl, rfl⟩
  refine ⟨s, hrun, (allSound_iff hrun).2 ?_, hlast⟩
  refine ⟨trivial, ?_⟩
  rintro s₁ ⟨⟩
  refine ⟨.inl rfl, ?_⟩
  rintro s₂ ⟨⟩
  refine ⟨.inr ⟨⟨.message, some 7⟩, rfl, rfl⟩, ?_⟩
  rintro s₃ ⟨⟩
  exact ⟨.inr ⟨⟨.messageId, some 8⟩, rfl, rfl⟩, fun _ _ => trivial⟩

/-- `new Pulsar.MessageId().serialize()`. -/
theorem serialize_passesNull : ∃ s,
    machine.run .init [.construct .messageId, .operate .serialize 0 ⟨0, false⟩] = some s ∧
      s.log = [[.called .messageIdSerialize none]] ∧ ¬ s.AllSound := by
  refine ⟨_, rfl, rfl, fun h => ?_⟩
  have hsound : Sound [.called .messageIdSerialize none] := h _ (List.mem_singleton_self _)
  exact hsound.nonNull _ (List.mem_singleton_self _)

end PulsarNode.Wrappers
