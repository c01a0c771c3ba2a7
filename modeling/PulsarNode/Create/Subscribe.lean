/-
`Client.subscribe` where nothing is refused: no read, conversion or unwrap raises, and every setter
returns. Either the deferred is rejected with the message of the first check that the options violate,
and no native call is made; or `InitConfig` leaves the deferred fresh and one native call is made, to
what the options name.
-/
import PulsarNode.Config.Checks
import PulsarNode.Create.NewInstance
import PulsarNode.Create.Outcome
import PulsarNode.Napi.Object

namespace PulsarNode

open Prog

/-- The native call that subscribes to a target. -/
def Target.call (t : Target) (subscription : String) (conf : List ConsumerSetter) : AsyncCall :=
  match t with
  | .topicsPattern p => .subscribePattern p subscription conf
  | .topics l => .subscribeMultiTopics l subscription conf
  | .topic t => .subscribe t subscription conf

namespace Consumer

open Creation SubscribeOptions

theorem not_both {c : Creation ConsumerConfig} {call : AsyncCall} {callback : Callback} {msg : String}
    (h : Rejects msg c) (h' : Calls call callback c) : False := by
  have hstarted := h.started
  rw [h'.started] at hstarted
  cases hstarted

/-! ## From the configuration to the call -/

section

variable {v : View} {arg : JsValue} {cfg : ConsumerConfig}

/-- The native call goes to the target, and what it is given is what the options say. -/
theorem subscribeCall_eq {t : Target} (hshows : Shows v arg cfg) (hnul : NulFree v arg)
    (ht : target v arg = some t) : subscribeCall cfg = t.call (subscription v arg) cfg.cConsumerConfig := by
  have hstring (key : String) : cStr ((v.string arg key).getD "") = (v.string arg key).getD "" := by
    cases hs : v.string arg key with
    | none => rfl
    | some s => exact cStr_eq_self.2 (hnul.string key s hs)
  have hsub : cStr cfg.subscription = subscription v arg := by
    rw [hshows.subscription]
    exact hstring _
  unfold subscribeCall
  rw [hsub]
  unfold target at ht
  by_cases hp : topicsPattern v arg = ""
  · rw [if_neg (by simp [hp])] at ht
    rw [if_neg (by simp [hshows.topicsPattern, hp])]
    by_cases hl : topics v arg = []
    · rw [if_neg (by simp [hl])] at ht
      rw [if_neg (by simp [hshows.topics, hl])]
      split at ht <;> cases ht
      have htopic : cStr (topic v arg) = topic v arg := hstring _
      rw [hshows.topic, htopic]
      rfl
    · rw [if_pos hl] at ht
      cases ht
      rw [if_pos (by simpa [hshows.topics, List.length_pos_iff] using hl), hshows.topics]
      have hmap : (topics v arg).map cStr = topics v arg :=
        (List.map_congr_left fun s hs => cStr_eq_self.2 (hnul.topics s hs)).trans (List.map_id _)
      rw [hmap]
      rfl
  · rw [if_pos hp] at ht
    cases ht
    have hpattern : cStr (topicsPattern v arg) = topicsPattern v arg := hstring _
    rw [if_pos (by simp [hshows.topicsPattern, hp]), hshows.topicsPattern, hpattern]
    rfl

/-- Where no check is violated there are a target and a subscription. -/
theorem given_of_firstViolation {status : Int} (h : firstViolation v arg status = none) :
    (∃ t, target v arg = some t) ∧ subscription v arg ≠ "" := by
  have hnone : ∀ e ∈ errorsBefore v arg, e = none := by
    intro e he
    exact List.findSome?_eq_none_iff.1 h e (List.mem_append_left _ he)
  constructor
  · have htarget := hnone (targetError v arg) (by simp [errorsBefore])
    unfold targetError at htarget
    cases ht : target v arg with
    | none => simp [ht] at htarget
    | some t => exact ⟨t, rfl⟩
  · intro hs
    have hsub := hnone (subscriptionError v arg) (by simp [errorsBefore])
    simp [subscriptionError, hs] at hsub

end

/-! ## The run of the call -/

section

variable {J N : Type} (sides : Sides J N) {arg : JsValue} {w w₁ : World J N}

/-- What `NewInstance` does after `InitConfig`. -/
def dispatch : Napi (Creation ConsumerConfig) Unit := do
  let c ← Prog.look
  if c.isDone then pure () else launch (subscribeCall c.config) subscribeCallback

theorem run_newInstance_eq : (newInstance arg).run sides.answer (.new .new) w =
    (initConfig arg >>= fun _ => dispatch).run sides.answer (new .new).newDeferred w := rfl

theorem run_onConfig {r : Except Exn (Except String Unit)} {cfg : ConsumerConfig}
    (h : (ConsumerConfig.initConfig arg).run sides.answer .new w = (r, cfg, w₁)) :
    (onConfig (ConsumerConfig.initConfig arg)).run sides.answer (new .new).newDeferred w =
      (r, { (new ConsumerConfig.new).newDeferred with config := cfg }, w₁) := by
  refine (Prog.run_zoom sides.answer configPart _ _ w).trans ?_
  rw [show configPart.get (new ConsumerConfig.new).newDeferred = ConsumerConfig.new from rfl, h]
  rfl

/-- What `InitConfig` leaves of the deferred is up to what it comes to. -/
theorem run_initConfig {r : Except String Unit} {cfg : ConsumerConfig}
    (h : (ConsumerConfig.initConfig arg).run sides.answer .new w = (.ok r, cfg, w₁)) :
    ∃ c, (initConfig arg).run sides.answer (new .new).newDeferred w = (.ok (), c, w₁) ∧ c.config = cfg ∧
      (match r with
      | .error msg => Rejects msg c
      | .ok () => Fresh c) := by
  have hfresh := (fresh_newDeferred ConsumerConfig.new).setConfig cfg
  have hzoom := run_onConfig sides h
  cases r with
  | error msg => exact ⟨_, Prog.run_bind_ok sides.answer hzoom, config_settle, rejects_of_fresh hfresh msg⟩
  | ok u => exact ⟨_, Prog.run_bind_ok sides.answer hzoom, rfl, hfresh⟩

/-- What the call comes to is up to what `InitConfig` comes to. -/
theorem run_newInstance {r : Except String Unit} {cfg : ConsumerConfig}
    (h : (ConsumerConfig.initConfig arg).run sides.answer .new w = (.ok r, cfg, w₁)) :
    ∃ c w', (newInstance arg).run sides.answer (.new .new) w = (.ok (), c, w') ∧
      (match r with
      | .error msg => Rejects msg c
      | .ok () => Calls (subscribeCall cfg) subscribeCallback c) := by
  obtain ⟨c₁, hinit, rfl, hend⟩ := run_initConfig sides h
  cases r with
  | error msg =>
    obtain ⟨d, hd, hdone, -⟩ := hend.settled.released
    refine ⟨c₁, w₁, ?_, hend⟩
    rw [run_newInstance_eq, Prog.run_bind_ok sides.answer hinit]
    show Prog.run sides.answer (if c₁.isDone then _ else _) _ _ = _
    rw [if_pos (by rw [Creation.isDone, hd]; exact hdone)]
    rfl
  | ok u =>
    obtain ⟨reply, w', hlaunch⟩ := run_launch sides (subscribeCall c₁.config) subscribeCallback c₁ w₁
    refine ⟨_, w', ?_, calls_of_fresh hend _ _ reply⟩
    rw [run_newInstance_eq, Prog.run_bind_ok sides.answer hinit]
    show Prog.run sides.answer (if c₁.isDone then _ else _) _ _ = _
    rw [if_neg (by rw [hend.isDone]; rintro ⟨⟩)]
    exact hlaunch

/-- Where nothing is refused in `InitConfig`, it returns. -/
theorem initConfig_returns
    (hquiet : Quiet sides.answer (fun _ => True) (initConfig arg) (new ConsumerConfig.new).newDeferred w) :
    ∃ r cfg w', (ConsumerConfig.initConfig arg).run sides.answer .new w = (.ok r, cfg, w') := by
  rw [Prog.quiet_iff sides.answer fun _ _ _ _ _ => Iff.rfl] at hquiet
  rcases h : (ConsumerConfig.initConfig arg).run sides.answer .new w with ⟨e | r, cfg, w'⟩
  · have hinit : (initConfig arg).run sides.answer (new .new).newDeferred w =
        (.error e, { (new ConsumerConfig.new).newDeferred with config := cfg }, w') :=
      Prog.run_bind_error sides.answer (run_onConfig sides h)
    exact absurd trivial (hquiet e (by rw [hinit]))
  · exact ⟨r, cfg, w', rfl⟩

/-- Where nothing is refused in the call, nothing is in its `InitConfig`. -/
theorem quiet_initConfig (hquiet : Quiet sides.answer (fun _ => True) (newInstance arg) (.new .new) w) :
    Quiet sides.answer (fun _ => True) (initConfig arg) (new ConsumerConfig.new).newDeferred w := by
  rw [Prog.quiet_iff sides.answer fun _ _ _ _ _ => Iff.rfl] at hquiet ⊢
  intro e he
  rcases hinit : (initConfig arg).run sides.answer (new ConsumerConfig.new).newDeferred w with ⟨r, c, w'⟩
  rw [hinit] at he
  obtain rfl : r = .error e := he
  exact hquiet e (by rw [run_newInstance_eq, Prog.run_bind_error sides.answer hinit])

/-- What is answered while the configuration is read is answered in `InitConfig`, and in the call. -/
theorem answered_initConfig {q : Query} {r : q.Resp}
    (h : Answered sides.answer (ConsumerConfig.initConfig arg) .new w q r) :
    Answered sides.answer (initConfig arg) (new ConsumerConfig.new).newDeferred w q r :=
  Answered.bind (p := onConfig (ConsumerConfig.initConfig arg)) (Answered.zoom h)

theorem answered_newInstance {q : Query} {r : q.Resp}
    (h : Answered sides.answer (ConsumerConfig.initConfig arg) .new w q r) :
    Answered sides.answer (newInstance arg) (.new .new) w q r :=
  Answered.bind (p := initConfig arg) (answered_initConfig sides h)

end

/-- A consumer of two topics, with an ack timeout and a batch receive policy. -/
def twoTopics : Heap := { Heap.empty with
  props := fun
    | 0 => [("topics", .object .array 1), ("subscription", .string "sub"), ("ackTimeoutMs", .number (.finite 10000)),
      ("batchReceivePolicy", .object .plain 2)]
    | 2 => [("maxNumMessages", .number (.finite 10))]
    | _ => []
  elements := fun
    | 1 => [.string "first", .null, .string "second"]
    | _ => [] }

theorem twoTopics_nulFree : NulFree twoTopics.view (.object .plain 0) where
  string key s hs := by
    have hoption : twoTopics.view.option (.object .plain 0) key = .string s := by
      cases ho : twoTopics.view.option (.object .plain 0) key <;>
        simp [View.string, ho, JsValue.asString] at hs
      rw [hs]
    have hmem : (key, .string s) ∈ twoTopics.props 0 := twoTopics.mem_props hoption (by simp)
    simp only [twoTopics, List.mem_cons, Prod.mk.injEq, JsValue.string.injEq, List.not_mem_nil, reduceCtorEq, and_false,
      or_false, false_or] at hmem
    rw [hmem.2]
    decide
  topics := by decide

end Consumer

end PulsarNode
