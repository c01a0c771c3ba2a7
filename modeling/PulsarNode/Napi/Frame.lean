/-
What the reading patterns of the configuration parsers can change: nothing of their own. A pattern
moves the object along a relation when the code that it is given does.
-/
import PulsarNode.Config.Schema
import PulsarNode.Prog.Ensures

namespace PulsarNode

open Prog

namespace Napi

variable {S α β γ : Type} {ρ : S → S → Prop}

/-! ## Single operations -/

theorem js_moves {q : JsQuery} : Moves ρ (js q : Napi S q.Resp) := .ask _

theorem setter_moves {c : Setter} : Moves ρ (setter c : Napi S Int) := .ask _

theorem hasAs_moves {o : JsValue} {key : String} {is : JsValue → Bool} : Moves ρ (hasAs o key is : Napi S Bool) := by
  refine .bind js_moves fun b => ?_
  cases b with
  | false => exact .pure _
  | true => exact .bind js_moves fun _ => .pure _

/-- An option that is looked at, and what follows when it passes its check and when it does not. -/
theorem ifHasAs_moves {o : JsValue} {key : String} {is : JsValue → Bool} {f : Bool → Napi S α} (ht : Moves ρ (f true))
    (hf : Moves ρ (f false)) : Moves ρ (hasAs o key is >>= f) := by
  refine .bind hasAs_moves fun b => ?_
  cases b with
  | false => exact hf
  | true => exact ht

theorem getString_moves {o : JsValue} {key : String} : Moves ρ (getString o key : Napi S String) :=
  .bind js_moves fun _ => js_moves

theorem getNumber_moves {o : JsValue} {key : String} : Moves ρ (getNumber o key : Napi S JsNumber) :=
  .bind js_moves fun _ => js_moves

theorem getBoolean_moves {o : JsValue} {key : String} : Moves ρ (getBoolean o key : Napi S Bool) :=
  .bind js_moves fun _ => js_moves

theorem getObject_moves {o : JsValue} {key : String} : Moves ρ (getObject o key : Napi S JsValue) :=
  .bind js_moves fun _ => js_moves

/-- Code under a check that is not made otherwise. -/
theorem when_moves {c : Bool} {p : Napi S Unit} (hp : Moves ρ p) : Moves ρ (if c then p else pure () : Napi S Unit) := by
  cases c with
  | false => exact .pure _
  | true => exact hp

/-! ## Options -/

section

variable {o : JsValue} {key : String}

theorem ifString_moves {use : String → Napi S Unit} (h : ∀ t, Moves ρ (use t)) : Moves ρ (ifString o key use) :=
  .bind hasAs_moves fun _ => when_moves (.bind getString_moves h)

theorem ifNumber_moves {use : JsNumber → Napi S Unit} (h : ∀ x, Moves ρ (use x)) : Moves ρ (ifNumber o key use) :=
  .bind hasAs_moves fun _ => when_moves (.bind getNumber_moves h)

theorem ifBoolean_moves {use : Bool → Napi S Unit} (h : ∀ b, Moves ρ (use b)) : Moves ρ (ifBoolean o key use) :=
  .bind hasAs_moves fun _ => when_moves (.bind getBoolean_moves h)

theorem ifObject_moves {use : JsValue → Napi S Unit} (h : ∀ x, Moves ρ (use x)) : Moves ρ (ifObject o key use) :=
  .bind hasAs_moves fun _ => when_moves (.bind getObject_moves h)

theorem ifNamed_moves {table : List (String × α)} {use : α → Napi S Unit} (h : ∀ x, Moves ρ (use x)) :
    Moves ρ (ifNamed o key table use) := by
  refine ifString_moves fun t => ?_
  cases table.lookup t with
  | none => exact .pure _
  | some x => exact h x

end

/-! ## Loops -/

theorem forLength_moves {arr : JsValue} {body : Nat → β → Napi S (Except γ β)} (h : ∀ i acc, Moves ρ (body i acc))
    (acc : β) : Moves ρ (forLength arr body acc) := by
  unfold forLength
  generalize 2 ^ 32 = fuel
  exact .forLoop (fun _ => .bind js_moves fun _ => .pure _) h fuel 0 acc

theorem forSize_moves {arr : JsValue} {body : Nat → β → Napi S β} (h : ∀ i acc, Moves ρ (body i acc)) (acc : β) :
    Moves ρ (forSize arr body acc) := by
  unfold forSize
  refine .bind js_moves fun n => ?_
  dsimp only
  generalize toInt _ = size
  refine .bind (.forLoop (fun _ => .pure _) (fun i acc => ?_) size.toNat 0 acc) fun r => ?_
  · exact .bind (h i acc) fun _ => .pure _
  · cases r with
    | error e => exact e.elim
    | ok acc' => exact .pure _

theorem forProperties_moves {o : JsValue} {lookup : String → String} {body : String → String → β → Napi S β}
    (h : ∀ k x acc, Moves ρ (body k x acc)) (acc : β) : Moves ρ (forProperties o lookup body acc) := by
  unfold forProperties
  refine .bind js_moves fun arr => forSize_moves (fun i acc => ?_) acc
  exact .bind js_moves fun _ => .bind js_moves fun _ => .bind getString_moves fun _ => h _ _ _

end Napi

/-! ## Schemas -/

namespace SchemaInfo

variable {S : Type} {ρ : S → S → Prop}

open Napi

/-- Reading a schema changes nothing of the object under construction. -/
theorem schemaInfo_moves (o : JsValue) : Moves ρ (schemaInfo o : Napi S NativeSchemaInfo) := by
  refine .bind (ifHasAs_moves (.bind getString_moves fun typeStr => ?_) (.pure _)) fun info => ?_
  · cases schemaTypes.lookup typeStr with
    | none => exact .bind (Moves.ask _) fun _ => .pure _
    | some t => exact .pure _
  · cases info with
    | none => exact .pure _
    | some info =>
      refine .bind (ifHasAs_moves (.bind getString_moves fun _ => .pure _) (.pure _)) fun info =>
        .bind (ifHasAs_moves (.bind getString_moves fun _ => .pure _) ?_) fun info => ?_
      · exact ifHasAs_moves (.bind js_moves fun _ => .bind js_moves fun _ => .pure _) (.pure _)
      · refine ifHasAs_moves (.bind getObject_moves fun propObj => .bind ?_ fun _ => .pure _) (.pure _)
        exact forProperties_moves (fun _ _ _ => .pure _) _

end SchemaInfo

end PulsarNode
