/-
What `Message::BuildMessage` makes of the object given to `Producer.send`: the settings of the native
message that its options stand for, in order. `Send` reads the object before it makes its deferred, so
that a read that raises leaves nothing behind; when it goes through, one native call is made.
-/
import PulsarNode.Create.Escape
import PulsarNode.Create.Outcome
import PulsarNode.Napi.Acts

namespace PulsarNode

open Napi Prog

namespace Message

/-! ## The settings of an object -/

section

variable (v : View) (names : JsValue → List String) (conf : JsValue)

def contentSetters : List MessageSetter :=
  ((v.option conf cfgData).only JsValue.isBuffer).elim [] fun buf => [.content (v.bytes buf)]

def propertySetters : List MessageSetter :=
  (v.object conf cfgProps).elim [] fun propObj =>
    (v.entries names id propObj).flatMap fun e => [.property (cStr e.1) (cStr e.2)]

/-- The clusters that an array names: each element is converted, whatever it is. -/
def clustersOf (arr : JsValue) : List String :=
  ((v.elements arr).take (toInt (v.size arr)).toNat).map fun x => cStr (v.display x)

/-- An empty array disables replication. -/
def clusterSetters : List MessageSetter :=
  (v.array conf cfgReplClusters).elim [] fun arr =>
    if toInt (v.size arr) = 0 then [.disableReplication] else [.replicationClusters (clustersOf v arr)]

def deliverySetters : List MessageSetter :=
  (v.number conf cfgDeliverAfter).elim [] (fun x => [.deliverAfter x.int64Value]) ++
  ((v.number conf cfgDeliverAt).elim [] (fun x => [.deliverAt x.int64Value]) ++
  (v.boolean conf cfgDisableReplication).elim [] fun b => if b then [.disableReplication] else [])

/-- The message that an object stands for. -/
def shown : Builder :=
  contentSetters v conf ++ (propertySetters v names conf ++
  ((v.number conf cfgEventTime).elim [] (fun x => if 0 ≤ x.int64Value then [.eventTimestamp x.int64Value] else []) ++
  ((v.number conf cfgSequenceId).elim [] (fun x => [.sequenceId x.int64Value]) ++
  ((v.string conf cfgPartitionKey).elim [] (fun key => [.partitionKey (cStr key)]) ++
  (clusterSetters v conf ++ (deliverySetters v conf ++
  (v.string conf cfgOrderingKey).elim [] fun key => [.orderingKey (cStr key)]))))))

end

/-! ## The builder makes them -/

/-- The calls of the setters are all there is of a message under construction. -/
def log : Log Builder MessageSetter where
  add l b := b ++ l
  add_nil b := List.append_nil b
  add_add l l' b := List.append_assoc b l l'

section

variable {v : View} {names : JsValue → List String} {conf : JsValue} {ans : (q : Query) → q.Resp → Prop}

variable (R : Reading v ans (fun _ => True))
include R

theorem adds_buildData : Adds log ans (buildData conf) () (contentSetters v conf) := by
  refine R.adds_ifHasAs rfl fun x _ hx => .after (fun _ => R.get) ?_
  rw [hx]
  exact .after (R.gives (q := .bufferBytes x) trivial) adds_setter

/-- The loop over the clusters: after `i` passes, the first `i` elements have been converted. -/
theorem gives_clusters {arr : JsValue} {size : Int} (hle : size.toNat ≤ v.size arr) (b : Builder) :
    Gives ans (fun _ => True) (forLoop (γ := Empty) (fun i => pure (decide ((i : Int) < size)))
      (fun i acc => do
        let cluster ← toString (← getAt arr i)
        return .ok (acc ++ [cStr cluster])) size.toNat 0 [])
      (.ok (((v.elements arr).take size.toNat).map fun x => cStr (v.display x))) b := by
  refine ensures_mono (ensures_forInt
    (fun i acc b' => b' = b ∧ acc = ((v.elements arr).take i).map fun x => cStr (v.display x))
    (fun e => e.elim) (fun i acc b' hi hinv => ?_) ⟨rfl, rfl⟩) ?_
  · obtain ⟨rfl, rfl⟩ := hinv
    rw [v.elements_take_succ arr (by omega), List.map_append]
    refine R.getAt.seq (Gives.seq (R.gives (q := .toString _) trivial b') ?_)
    exact ⟨rfl, rfl⟩
  · rintro r b' hr
    cases r with
    | error e => exact e.elim
    | ok acc => exact ⟨by rw [hr.2], hr.1⟩

theorem adds_buildReplicationClusters :
    Adds log ans (buildReplicationClusters conf) () (clusterSetters v conf) := by
  refine R.adds_ifHasAs rfl fun arr _ hx => .after (fun _ => R.get) ?_
  rw [hx]
  refine .after (R.gives (q := .length arr) trivial) ?_
  have hsize : toInt (UInt32.toNat (v (.length arr))) = toInt (v.size arr) := rfl
  have hle : (toInt (v.size arr)).toNat ≤ v.size arr := Reading.toInt_toNat_le (UInt32.toNat_lt _)
  dsimp only
  unfold clustersOf
  rw [hsize]
  -- the size stays a number: nothing here evaluates it
  generalize toInt (v.size arr) = size at hle
  by_cases h0 : size = 0
  · rw [if_pos h0, if_pos h0]
    exact adds_setter
  · rw [if_neg h0, if_neg h0]
    exact .after (gives_clusters R hle) adds_setter

theorem adds_buildDelivery : Adds log ans (buildDelivery conf) () (deliverySetters v conf) := by
  refine .bind (R.adds_ifNumber fun _ => adds_setter) (.bind (R.adds_ifNumber fun _ => adds_setter) ?_)
  exact R.adds_ifBoolean fun _ => .ite fun _ => adds_setter

variable (T : v.Told names ans)
include T

theorem adds_buildProperties : Adds log ans (buildProperties conf) () (propertySetters v names conf) :=
  R.adds_ifObject fun _ => R.adds_forProperties T fun _ => adds_setter

theorem adds_buildMessage : Adds log ans (buildMessage conf) () (shown v names conf) := by
  refine .bind (adds_buildData R) (.bind (adds_buildProperties R T) ?_)
  refine .bind (R.adds_ifNumber fun _ => .ite fun _ => adds_setter) (.bind (R.adds_ifNumber fun _ => adds_setter) ?_)
  refine .bind (R.adds_ifString fun _ => adds_setter) (.bind (adds_buildReplicationClusters R) ?_)
  exact .bind (adds_buildDelivery R) (R.adds_ifString fun _ => adds_setter)

end

end Message

/-! ## Sending -/

namespace Producer

open Creation

variable {J N : Type} (sides : Sides J N) {v : View} {names : JsValue → List String} (arg : JsValue) (w : World J N)

/-- What is answered while the message is built is answered in the call. -/
theorem answered_send {q : Query} {r : q.Resp} (h : Answered sides.answer (Message.buildMessage arg) [] w q r) :
    Answered sides.answer (send arg) (.new []) w q r :=
  Answered.bind (p := onConfig (Message.buildMessage arg)) (Answered.zoom (l := configPart) (s := new []) h)

/-- A call that goes through has made one native call, with the message that the object stands for; a call that is
refused has made no deferred and no native call. -/
theorem send_translates (hv : v.Lawful) (hshown : v.Shown sides (send arg) (.new []) w)
    (htold : v.Told names (Answered sides.answer (send arg) (.new []) w)) :
    match (send arg).run sides.answer (.new []) w with
    | (.ok (), c, _) => c.config = Message.shown v names arg ∧ Calls (.send (Message.shown v names arg)) sendCallback c
    | (.error _, c, _) => c.deferred = none ∧ c.started = [] := by
  have R : Reading v (Answered sides.answer (send arg) (.new []) w) (fun _ => True) := hshown.reading hv
  rcases hbuild : (Message.buildMessage arg).run sides.answer [] w with ⟨r, b, w'⟩
  have hzoom : (onConfig (Message.buildMessage arg)).run sides.answer (new ([] : Message.Builder)) w =
      (r, { new ([] : Message.Builder) with config := b }, w') := by
    refine (run_zoom sides.answer configPart _ _ w).trans ?_
    rw [show configPart.get (new ([] : Message.Builder)) = [] from rfl, hbuild]
    rfl
  unfold send
  cases r with
  | error e =>
    rw [run_bind_error sides.answer hzoom]
    exact ⟨rfl, rfl⟩
  | ok u =>
    obtain ⟨-, hb⟩ := Acts.run_ok (Message.adds_buildMessage R htold) (fun _ _ h => answered_send sides arg w h) hbuild
    obtain rfl : b = Message.shown v names arg := hb.trans (List.nil_append _)
    have hfresh := (fresh_newDeferred ([] : Message.Builder)).setConfig (Message.shown v names arg)
    obtain ⟨reply, w'', hlaunch⟩ := run_launch sides (.send (Message.shown v names arg)) sendCallback
      { (new ([] : Message.Builder)).newDeferred with config := Message.shown v names arg } w'
    have hrest : (do
        Prog.change newDeferred
        let c ← Prog.look
        launch (.send c.config) sendCallback : Napi (Creation Message.Builder) Unit).run sides.answer
          { new ([] : Message.Builder) with config := Message.shown v names arg } w' = _ := hlaunch
    rw [run_bind_ok sides.answer hzoom, hrest]
    exact ⟨config_called _ _ _, calls_of_fresh hfresh _ _ reply⟩

/-- A message with data, a property and clusters, one of them not a string. -/
def clustered : Heap := { Heap.empty with
  props := fun
    | 0 => [("data", .object .buffer 1), ("properties", .object .plain 2), ("eventTimestamp", .number (.finite (-1))),
      ("replicationClusters", .object .array 4), ("partitionKey", .string "key")]
    | 2 => [("region", .string "eu")]
    | _ => []
  elements := fun
    | 3 => [.string "region"]
    | 4 => [.string "east", .null]
    | _ => []
  bytes := fun
    | 1 => [1, 2]
    | _ => []
  names := fun _ => 3 }

theorem send_translates_clustered :
    ∃ c w', (send (.object .plain 0)).run clustered.sides.answer (.new []) ⟨(), none, ()⟩ = (.ok (), c, w') ∧
      Calls (.send [.content [1, 2], .property "region" "eu", .partitionKey "key", .replicationClusters ["east", "null"]])
        sendCallback c := by
  obtain ⟨c, w', hrun⟩ : ∃ c w', (send (.object .plain 0)).run clustered.sides.answer (.new []) ⟨(), none, ()⟩ =
    (.ok (), c, w') := ⟨_, _, rfl⟩
  have hend := send_translates clustered.sides (.object .plain 0) ⟨(), none, ()⟩ clustered.lawful
    (clustered.steady.shown _ _ _) clustered.toldNames
  rw [hrun] at hend
  have hshown : Message.shown clustered.view clustered.propertyNames (.object .plain 0) =
      [.content [1, 2], .property "region" "eu", .partitionKey "key", .replicationClusters ["east", "null"]] := by rfl
  rw [hshown] at hend
  exact ⟨c, w', hrun, hend.2⟩

end Producer

end PulsarNode
