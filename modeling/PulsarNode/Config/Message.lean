/-
`Message::BuildMessage`: the native message built from the object given to `Producer.send`.
-/
import PulsarNode.Napi.Query

namespace PulsarNode.Message

open Napi

def cfgData : String := "data"
def cfgProps : String := "properties"
def cfgEventTime : String := "eventTimestamp"
def cfgSequenceId : String := "sequenceId"
def cfgPartitionKey : String := "partitionKey"
def cfgReplClusters : String := "replicationClusters"
def cfgDeliverAfter : String := "deliverAfter"
def cfgDeliverAt : String := "deliverAt"
def cfgDisableReplication : String := "disableReplication"
def cfgOrderingKey : String := "orderingKey"

/-- A native message under construction: the setter calls made on it. -/
abbrev Builder := List MessageSetter

def set (c : MessageSetter) : Napi Builder Unit := do
  let _ ← setter (.message c)
  Prog.change (· ++ [c])

def buildData (conf : JsValue) : Napi Builder Unit := do
  if ← hasAs conf cfgData JsValue.isBuffer then
    set (.content (← bufferBytes (← get conf cfgData)))

def buildProperties (conf : JsValue) : Napi Builder Unit :=
  ifObject conf cfgProps fun propObj =>
    forProperties propObj id (fun k v _ => set (.property (cStr k) (cStr v))) ()

def buildEventTime (conf : JsValue) : Napi Builder Unit :=
  ifNumber conf cfgEventTime fun x => do
    if 0 ≤ x.int64Value then set (.eventTimestamp x.int64Value)

def buildSequenceId (conf : JsValue) : Napi Builder Unit :=
  ifNumber conf cfgSequenceId fun x => set (.sequenceId x.int64Value)

def buildPartitionKey (conf : JsValue) : Napi Builder Unit :=
  ifString conf cfgPartitionKey fun key => set (.partitionKey (cStr key))

/-- An empty list disables replication. -/
def buildReplicationClusters (conf : JsValue) : Napi Builder Unit := do
  if ← hasAs conf cfgReplClusters JsValue.isArray then
    let clusters ← get conf cfgReplClusters
    -- `int length = clusters.Length()`
    let size := toInt (← length clusters).toNat
    if size = 0 then
      set .disableReplication
    else
      let r ← Prog.forLoop (γ := Empty) (fun i => pure (decide ((i : Int) < size)))
        (fun i arr => do
          let cluster ← toString (← getAt clusters i)
          return .ok (arr ++ [cStr cluster])) size.toNat 0 []
      match r with
      -- with a negative `length` the native setter is given a null pointer; nothing is said of that here
      | .ok arr => set (.replicationClusters arr)

def buildDelivery (conf : JsValue) : Napi Builder Unit := do
  ifNumber conf cfgDeliverAfter fun x => set (.deliverAfter x.int64Value)
  ifNumber conf cfgDeliverAt fun x => set (.deliverAt x.int64Value)
  ifBoolean conf cfgDisableReplication fun b => do
    if b then set .disableReplication

def buildOrderingKey (conf : JsValue) : Napi Builder Unit :=
  ifString conf cfgOrderingKey fun key => set (.orderingKey (cStr key))

/-- `Message::BuildMessage`. -/
def buildMessage (conf : JsValue) : Napi Builder Unit := do
  buildData conf
  buildProperties conf
  buildEventTime conf
  buildSequenceId conf
  buildPartitionKey conf
  buildReplicationClusters conf
  buildDelivery conf
  buildOrderingKey conf

end PulsarNode.Message
