/-
What the sections of `ProducerConfig::ProducerConfig` do to the members of the configuration. Most of
them append setter calls that concern neither the keys nor the limits, or set a member of their own.
-/
import PulsarNode.Config.Producer
import PulsarNode.Napi.Frame

namespace PulsarNode

open Napi Prog

namespace ProducerSetter

/-- The setters that give a key reader or name a key. -/
def onKeys : ProducerSetter → Bool
  | defaultCryptoKeyReader _ _ | cryptoKeyReader _ | encryptionKey _ | addEncryptionKey _ => true
  | _ => false

/-- The setters beside these and the limits. -/
def aside : ProducerSetter → Bool
  | sendTimeout _ | maxPendingMessages _ | maxPendingMessagesAcrossPartitions _ | batchingMaxMessages _ => false
  | c => !c.onKeys

end ProducerSetter

namespace ProducerConfig

variable {ρ : ProducerConfig → ProducerConfig → Prop}

theorem set_moves {c : ProducerSetter}
    (h : ∀ cfg : ProducerConfig, ρ cfg { cfg with cProducerConfig := cfg.cProducerConfig ++ [c] }) : Moves ρ (set c) :=
  .bind setter_moves fun _ => .change h

theorem setPositive_moves {config : JsValue} {key : String} {convert : JsNumber → Int} {c : Int → ProducerSetter}
    (h : ∀ n, Moves ρ (set (c n))) : Moves ρ (setPositive config key convert c) := by
  refine ifNumber_moves fun x => ?_
  split
  · exact h _
  · exact .pure _

/-- A relation that sees neither the setters aside nor the members of the sections. -/
structure Overlooks (ρ : ProducerConfig → ProducerConfig → Prop) : Prop where
  setter : ∀ c : ProducerSetter, c.aside = true → ∀ cfg : ProducerConfig,
    ρ cfg { cfg with cProducerConfig := cfg.cProducerConfig ++ [c] }
  topic : ∀ t (cfg : ProducerConfig), ρ cfg { cfg with topic := t }
  messageRouter : ∀ r (cfg : ProducerConfig), ρ cfg { cfg with messageRouter := r }

namespace Overlooks

variable (h : Overlooks ρ) (config : JsValue)
include h

theorem set {c : ProducerSetter} (hc : c.aside = true) : Moves ρ (ProducerConfig.set c) := set_moves (h.setter c hc)

theorem readTopic : Moves ρ (readTopic config) := ifString_moves fun t => .change (h.topic t)

theorem readRoutingMode : Moves ρ (readRoutingMode config) := by
  refine ifHasAs_moves (.bind getString_moves fun mode => ?_) (.pure _)
  dsimp only
  cases messageRoutingModes.lookup mode with
  | none => exact .pure _
  | some m => exact .bind (h.set rfl) fun _ => .pure _

theorem readSchema : Moves ρ (readSchema config) :=
  ifObject_moves fun o => .bind (SchemaInfo.schemaInfo_moves o) fun _ => h.set rfl

theorem readProperties : Moves ρ (readProperties config) :=
  ifObject_moves fun _ => forProperties_moves (fun _ _ _ => h.set rfl) _

theorem setNamedAny {α : Type} {key : String} {table : List (String × α)} {c : α → ProducerSetter}
    (hc : ∀ x, (c x).aside = true) : Moves ρ (setNamedAny config key table c) := by
  refine .bind getString_moves fun name => ?_
  cases table.lookup name with
  | none => exact .pure _
  | some x => exact h.set (hc x)

theorem readMessageRouter (custom : Bool) : Moves ρ (readMessageRouter config custom) := by
  refine when_moves (.bind js_moves fun b => when_moves (.bind js_moves fun value => when_moves ?_))
  exact .bind js_moves fun _ => .bind (.change (h.messageRouter _)) fun _ => h.set rfl

end Overlooks

end ProducerConfig

end PulsarNode
