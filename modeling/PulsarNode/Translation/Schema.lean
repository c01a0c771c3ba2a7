/-
The schema that a schema object stands for: what `SchemaInfo::SchemaInfo` makes of it in a run that is
shown a view. An unknown type leaves the members that the constructor starts with.
-/
import PulsarNode.Config.Schema
import PulsarNode.Napi.Acts

namespace PulsarNode.SchemaInfo

open Napi Prog

section

variable (v : View) (names : JsValue → List String) (o : JsValue)

/-- The schema data: the bytes of a string, or else of a buffer. -/
def shownSchema (dflt : List UInt8) : List UInt8 :=
  match v.string o cfgSchema with
  | some text => bytesOf text
  | none => ((v.option o cfgSchema).only JsValue.isBuffer).elim dflt v.bytes

/-- The properties, a later one in the place of an earlier one under the same key. -/
def shownProperties (dflt : List (String × String)) : List (String × String) :=
  (v.object o cfgProps).elim dflt fun propObj =>
    (v.entries names id propObj).foldl (fun props e => setProperty e.1 e.2 props) dflt

/-- The members beside the type, over those that the type leaves. -/
def shownMembers (info : NativeSchemaInfo) : NativeSchemaInfo where
  schemaType := info.schemaType
  name := (v.string o cfgName).getD info.name
  schema := shownSchema v o info.schema
  properties := shownProperties v names o info.properties

/-- The type, whose name is the name of the schema until another is given; `none` when it is unknown. -/
def shownType : Option NativeSchemaInfo :=
  (v.string o cfgSchemaType).elim (some initial) fun typeStr =>
    (schemaTypes.lookup typeStr).map fun t => { initial with name := typeStr, schemaType := t }

def shown : NativeSchemaInfo := (shownType v o).elim initial (shownMembers v names o)

end

section

variable {v : View} {names : JsValue → List String} {ans : (q : Query) → q.Resp → Prop} {S : Type} {o : JsValue} {s : S}
  {info : NativeSchemaInfo} (R : Reading v ans (fun _ => True))
include R

theorem gives_shownType : Gives ans (fun _ => True) (readType o) (shownType v o) s := by
  unfold shownType View.string
  refine (R.hasAs rfl).bind ?_
  cases hb : (v.option o cfgSchemaType).isString with
  | false =>
    rw [JsValue.asString_eq_none.2 hb]
    exact .pure _
  | true =>
    obtain ⟨t, ht⟩ := JsValue.isString_iff.1 hb
    refine (R.getString ht).bind ?_
    rw [ht]
    dsimp only [JsValue.asString, Option.elim]
    cases schemaTypes.lookup t with
    | none => exact ⟨trivial, fun _ _ => ⟨rfl, rfl⟩⟩
    | some n => exact .pure _

theorem gives_shownName : Gives ans (fun _ => True) (readName o info)
    { info with name := (v.string o cfgName).getD info.name } s := by
  unfold View.string
  refine (R.hasAs rfl).bind ?_
  cases hb : (v.option o cfgName).isString with
  | false =>
    rw [JsValue.asString_eq_none.2 hb]
    exact .pure _
  | true =>
    obtain ⟨t, ht⟩ := JsValue.isString_iff.1 hb
    refine (R.getString ht).bind ?_
    rw [ht]
    exact .pure _

theorem gives_shownSchema : Gives ans (fun _ => True) (readSchema o info)
    { info with schema := shownSchema v o info.schema } s := by
  unfold shownSchema View.string
  refine (R.hasAs rfl).bind ?_
  cases hb : (v.option o cfgSchema).isString with
  | true =>
    obtain ⟨t, ht⟩ := JsValue.isString_iff.1 hb
    refine (R.getString ht).bind ?_
    rw [ht]
    exact .pure _
  | false =>
    rw [JsValue.asString_eq_none.2 hb]
    refine (R.hasAs rfl).bind ?_
    unfold JsValue.only
    cases hbuffer : (v.option o cfgSchema).isBuffer with
    | false => exact .pure _
    | true =>
      refine R.get.bind ?_
      rw [View.get_eq_option JsValue.isBuffer rfl hbuffer]
      refine (R.gives (q := .bufferBytes _) trivial s).bind ?_
      exact .pure _

variable (T : v.Told names ans)
include T

theorem gives_shownProperties : Gives ans (fun _ => True) (readProperties o info)
    { info with properties := shownProperties v names o info.properties } s := by
  unfold shownProperties View.object JsValue.only
  refine (R.hasAs rfl).bind ?_
  cases hb : (v.option o cfgProps).isObject with
  | false => exact .pure _
  | true =>
    refine (R.getObject hb).bind ?_
    rw [if_pos rfl, Option.elim_some]
    exact (R.gives_forProperties T info.properties s).bind (.pure _)

/-- The constructor makes the schema that the object stands for, and leaves what it is called from as it is. -/
theorem gives_schemaInfo : Gives ans (fun _ => True) (schemaInfo o) (shown v names o) s := by
  unfold shown
  refine (gives_shownType R).bind ?_
  cases shownType v o with
  | none => exact .pure _
  | some info =>
    refine (gives_shownName R).bind ((gives_shownSchema R).bind ?_)
    exact gives_shownProperties R T

end

end PulsarNode.SchemaInfo
