/-
A schema goes to JS as an object of `SchemaInfo::NewObject` and comes back through the constructor
of `SchemaInfo`. The properties are defined on their object, not assigned, so that no key has a
meaning of its own; the data goes as a buffer.
-/
import PulsarNode.Config.Consumer
import PulsarNode.Config.Producer
import PulsarNode.Napi.Object
import Mathlib.Data.List.Basic

namespace PulsarNode

open Napi Prog

namespace SchemaInfo

/-- `SchemaInfo::NewObject`: the own properties of the object. -/
def newObject (schemaTypeName : String) (schemaInfo : NativeSchemaInfo) : List (String × OwnValue) :=
  let obj := define cfgSchemaType (.string schemaTypeName) []
  let obj := define cfgName (.string schemaInfo.name) obj
  let obj := define cfgSchema (.buffer schemaInfo.schema) obj
  let props := schemaInfo.properties.foldl (fun props prop => define (cStr prop.1) prop.2 props) []
  define cfgProps (.object props) obj

/-- The same schema; the properties are maps, and their order does not matter. -/
structure Same (info info' : NativeSchemaInfo) : Prop where
  schemaType : info.schemaType = info'.schemaType
  name : info.name = info'.name
  schema : info.schema = info'.schema
  properties : info.properties.Perm info'.properties

/-! ## Lemmas -/

/-- The name of a type is looked up to that type. -/
theorem lookup_schemaTypeName {t : SchemaType} {name : String} (h : getSchemaTypeName t = some name) :
    schemaTypes.lookup name = some t := by
  have htable : ∀ e ∈ schemaTypes, schemaTypes.lookup e.1 = some e.2 := by decide
  unfold getSchemaTypeName at h
  obtain ⟨e, he, rfl⟩ := Option.map_eq_some_iff.1 h
  rw [htable e (List.mem_of_find?_eq_some he)]
  simpa using List.find?_some he

/-- A new key is added. -/
theorem setProperty_fresh {key value : String} {props : List (String × String)} (h : key ∉ props.map Prod.fst) :
    setProperty key value props = (key, value) :: props := by
  unfold setProperty
  rw [List.filter_eq_self.2 fun e he => ?_]
  have hne : e.1 ≠ key := fun heq => h (heq ▸ List.mem_map_of_mem he)
  simpa using hne

/-- Properties with keys free of NULs are defined as they are. -/
theorem foldl_define_cStr {props : List (String × String)} (hnodup : (props.map Prod.fst).Nodup)
    (hnul : ∀ e ∈ props, Char.ofNat 0 ∉ e.1.toList) :
    props.foldl (fun acc e => define (cStr e.1) e.2 acc) [] = props := by
  have hself : props.foldl (fun acc e => define (cStr e.1) e.2 acc) [] =
      props.foldl (fun acc e => define e.1 e.2 acc) [] := by
    refine List.foldl_ext _ _ _ fun acc e he => ?_
    rw [cStr_eq_self.2 (hnul e he)]
  rw [hself, foldl_define (by simpa using hnodup), List.nil_append]

/-! ## Parsing the object -/

section

variable {v : View} {ans : (q : Query) → q.Resp → Prop} {may : Query → Prop} {S : Type} {s : S} {o : JsValue}
  {typeName : String} {info : NativeSchemaInfo}

theorem newObject_eq (typeName : String) (info : NativeSchemaInfo) :
    newObject typeName info = [(cfgSchemaType, .string typeName), (cfgName, .string info.name),
      (cfgSchema, .buffer info.schema),
      (cfgProps, .object (info.properties.foldl (fun acc e => define (cStr e.1) e.2 acc) []))] := rfl

/-- The four options of the object. -/
theorem shows_newObject (h : v.ShowsObject ans o (newObject typeName info)) :
    v.option o cfgSchemaType = .string typeName ∧ v.option o cfgName = .string info.name ∧
      v.ShowsValue ans (v.option o cfgSchema) (.buffer info.schema) ∧
      v.ShowsValue ans (v.option o cfgProps)
        (.object (info.properties.foldl (fun acc e => define (cStr e.1) e.2 acc) [])) := by
  have hvalues := h.values
  rw [newObject_eq] at hvalues
  simpa [View.ShowsValue] using hvalues

variable (R : Reading v ans may)
include R

theorem gives_readType (h : v.option o cfgSchemaType = .string typeName)
    (hname : getSchemaTypeName info.schemaType = some typeName) :
    Gives ans may (readType o) (some { initial with name := typeName, schemaType := info.schemaType }) s := by
  refine (R.hasAs rfl).bind ?_
  rw [if_pos (by simp [h])]
  refine (R.getString h).bind ?_
  rw [lookup_schemaTypeName hname]
  exact .pure _

theorem gives_readName {acc : NativeSchemaInfo} (h : v.option o cfgName = .string info.name) :
    Gives ans may (readName o acc) { acc with name := info.name } s := by
  refine (R.hasAs rfl).bind ?_
  rw [if_pos (by simp [h])]
  exact (R.getString h).bind (.pure _)

/-- The data is read from the buffer. -/
theorem gives_readSchema {acc : NativeSchemaInfo}
    (h : v.ShowsValue ans (v.option o cfgSchema) (.buffer info.schema)) :
    Gives ans may (readSchema o acc) { acc with schema := info.schema } s := by
  obtain ⟨hbuffer, hbytes⟩ := h
  have hstring : (v.option o cfgSchema).isString = false := by
    cases hx : v.option o cfgSchema <;> simp [hx, JsValue.isBuffer, JsValue.isKind, JsValue.isString] at hbuffer ⊢
  refine (R.hasAs rfl).bind ?_
  rw [if_neg (by simp [hstring])]
  refine (R.hasAs rfl).bind ?_
  rw [if_pos hbuffer]
  refine R.get.bind ?_
  rw [View.get_eq_option JsValue.isBuffer rfl hbuffer]
  have hread : Gives ans may (bufferBytes (v.option o cfgSchema)) _ s := R.read (q := .bufferBytes _) trivial hbuffer
  refine hread.bind ?_
  rw [hbytes]
  exact .pure _

theorem ensures_readProperties {acc : NativeSchemaInfo} {props : List (String × String)}
    (hnodup : (props.map Prod.fst).Nodup) (h : v.ShowsValue ans (v.option o cfgProps) (.object props))
    (hacc : acc.properties = []) :
    ensures ans may (readProperties o acc)
      (fun info s' => s' = s ∧ ∃ l : List (String × String), l.Perm props ∧ info = { acc with properties := l }) s := by
  obtain ⟨entries, hshows, hperm⟩ := h
  have hkeys : (entries.map Prod.fst).Nodup := (hperm.map Prod.fst).nodup_iff.2 hnodup
  refine (R.hasAs rfl).seq ?_
  rw [if_pos hshows.isObject]
  refine (R.getObject hshows.isObject).seq ?_
  -- after `i` passes, the map holds the first `i` entries
  refine ensures_seq (R.forProperties hshows.size hshows.names hshows.values
    (fun i l s' => s' = s ∧ l.Perm (entries.take i)) (fun i l s' hi hl => ?_) (by simp [hacc])) fun l s' hl => ?_
  · obtain ⟨rfl, hl⟩ := hl
    have htake : entries.take (i + 1) = entries.take i ++ [entries[i]] := List.take_succ_eq_append_getElem hi
    have hfresh : entries[i].1 ∉ l.map Prod.fst := by
      rw [(hl.map Prod.fst).mem_iff]
      have hsub := hkeys.sublist ((List.take_sublist (i + 1) entries).map Prod.fst)
      rw [htake] at hsub
      exact fresh_of_nodup hsub
    refine ⟨rfl, ?_⟩
    rw [setProperty_fresh hfresh, htake]
    exact (List.Perm.cons _ hl).trans (List.perm_append_singleton _ _).symm
  · rw [List.take_length] at hl
    exact ⟨hl.1, l, hl.2.trans hperm, rfl⟩

/-- The object of a schema is parsed to that schema, whatever the bytes and the keys. -/
theorem ensures_schemaInfo (hname : getSchemaTypeName info.schemaType = some typeName)
    (hnodup : (info.properties.map Prod.fst).Nodup) (hnul : ∀ e ∈ info.properties, Char.ofNat 0 ∉ e.1.toList)
    (h : v.ShowsObject ans o (newObject typeName info)) :
    ensures ans may (schemaInfo o) (fun info' s' => s' = s ∧ Same info' info) s := by
  obtain ⟨htype, hname', hschema, hprops⟩ := shows_newObject h
  rw [foldl_define_cStr hnodup hnul] at hprops
  refine (gives_readType R htype hname).seq ?_
  refine (gives_readName R hname').seq ?_
  refine (gives_readSchema R hschema).seq ?_
  refine ensures_mono (ensures_readProperties R hnodup hprops rfl) ?_
  rintro _ s' ⟨rfl, l, hl, rfl⟩
  exact ⟨rfl, rfl, rfl, rfl, hl⟩

/-- Where the object is the schema option of a configuration, the parsed schema goes on. -/
theorem ensures_schemaOption {config : JsValue} {key : String} {use : NativeSchemaInfo → Napi S Unit}
    {post : Unit → S → Prop} (hname : getSchemaTypeName info.schemaType = some typeName)
    (hnodup : (info.properties.map Prod.fst).Nodup) (hnul : ∀ e ∈ info.properties, Char.ofNat 0 ∉ e.1.toList)
    (h : v.ShowsObject ans o (newObject typeName info)) (ho : v.object config key = some o)
    (huse : ∀ info', Same info' info → ensures ans may (use info') post s) :
    ensures ans may (ifObject config key fun x => schemaInfo x >>= use) post s := by
  refine R.ifObject (fun x hx => ?_) fun hnone => by rw [ho] at hnone; cases hnone
  obtain rfl : o = x := by simpa [ho] using hx
  refine ensures_seq (ensures_schemaInfo R hname hnodup hnul h) ?_
  rintro info' _ ⟨rfl, hsame⟩
  exact huse info' hsame

end

/-! ## A schema goes and comes back -/

section

variable {J N S : Type} (sides : Sides J N) {v : View} {o : JsValue} {typeName : String} {info : NativeSchemaInfo}

/-- A schema of a supported type that goes to JS is accepted back unchanged: by the constructor of
`SchemaInfo`, and as the schema of a producer or consumer. -/
theorem newObject_accepted (hname : getSchemaTypeName info.schemaType = some typeName)
    (hnodup : (info.properties.map Prod.fst).Nodup) (hnul : ∀ e ∈ info.properties, Char.ofNat 0 ∉ e.1.toList) :
    (∀ (s : S) w, v.PlainRun sides (schemaInfo o) s w →
      v.ShowsObject (Answered sides.answer (schemaInfo o) s w) o (newObject typeName info) →
      ∃ info' w', (schemaInfo o).run sides.answer s w = (.ok info', s, w') ∧ Same info' info) ∧
    (∀ config cfg w, v.PlainRun sides (ProducerConfig.readSchema config) cfg w →
      v.object config ProducerConfig.cfgSchema = some o →
      v.ShowsObject (Answered sides.answer (ProducerConfig.readSchema config) cfg w) o (newObject typeName info) →
      ∃ info' w', (ProducerConfig.readSchema config).run sides.answer cfg w =
        (.ok (), { cfg with cProducerConfig := cfg.cProducerConfig ++ [.schema info'] }, w') ∧ Same info' info) ∧
    (∀ config cfg w, v.PlainRun sides (ConsumerConfig.initSchema config) cfg w →
      v.object config ConsumerConfig.cfgSchema = some o →
      v.ShowsObject (Answered sides.answer (ConsumerConfig.initSchema config) cfg w) o (newObject typeName info) →
      ∃ info' w', (ConsumerConfig.initSchema config).run sides.answer cfg w =
        (.ok (), { cfg with cConsumerConfig := cfg.cConsumerConfig ++ [.schema info'] }, w') ∧ Same info' info) := by
  refine ⟨fun s w hplain hshows => ?_, fun config cfg w hplain ho hshows => ?_,
    fun config cfg w hplain ho hshows => ?_⟩
  · obtain ⟨info', s', w', hrun, rfl, hsame⟩ :=
      hplain.ends (ensures_schemaInfo hplain.reading hname hnodup hnul hshows)
    exact ⟨info', w', hrun, hsame⟩
  · have hp : ensures (Answered sides.answer (ProducerConfig.readSchema config) cfg w) Query.plain
        (ProducerConfig.readSchema config) (fun _ cfg' => ∃ info',
          cfg' = { cfg with cProducerConfig := cfg.cProducerConfig ++ [.schema info'] } ∧ Same info' info) cfg :=
      ensures_schemaOption hplain.reading hname hnodup hnul hshows ho fun info' hsame =>
        ⟨trivial, fun _ _ => ⟨info', rfl, hsame⟩⟩
    obtain ⟨_, _, w', hrun, info', rfl, hsame⟩ := hplain.ends hp
    exact ⟨info', w', hrun, hsame⟩
  · have hp : ensures (Answered sides.answer (ConsumerConfig.initSchema config) cfg w) Query.plain
        (ConsumerConfig.initSchema config) (fun _ cfg' => ∃ info',
          cfg' = { cfg with cConsumerConfig := cfg.cConsumerConfig ++ [.schema info'] } ∧ Same info' info) cfg :=
      ensures_schemaOption hplain.reading hname hnodup hnul hshows ho fun info' hsame =>
        ⟨trivial, fun _ _ => ⟨info', rfl, hsame⟩⟩
    obtain ⟨_, _, w', hrun, info', rfl, hsame⟩ := hplain.ends hp
    exact ⟨info', w', hrun, hsame⟩

end

/-- A binary schema with a property under `__proto__`. -/
def binarySchema : NativeSchemaInfo := ⟨4, "name", [0, 255], [("__proto__", "x")]⟩

/-- A configuration with the object of that schema. -/
def binarySchemaHeap : Heap := { Heap.empty with
  props := fun
    | 0 => [("schema", .object .plain 1)]
    | 1 => [("schemaType", .string "Avro"), ("name", .string "name"), ("schema", .object .buffer 2),
        ("properties", .object .plain 3)]
    | 3 => [("__proto__", .string "x")]
    | _ => []
  elements := fun
    | 4 => [.string "__proto__"]
    | _ => []
  bytes := fun
    | 2 => [0, 255]
    | _ => []
  names := fun _ => 4 }

theorem binarySchemaHeap_shows {S α : Type} (p : Napi S α) (s : S) :
    binarySchemaHeap.view.ShowsObject (Answered binarySchemaHeap.sides.answer p s ⟨(), none, ()⟩) (.object .plain 1)
      (newObject "Avro" binarySchema) := by
  have hentries : binarySchemaHeap.view.ShowsEntries (Answered binarySchemaHeap.sides.answer p s ⟨(), none, ()⟩)
      (.object .plain 3) [("__proto__", "x")] :=
    binarySchemaHeap.showsEntries (by simp) rfl (by decide)
  refine ⟨rfl, fun e he => ?_⟩
  have hmem : e = ("schemaType", .string "Avro") ∨ e = ("name", .string "name") ∨ e = ("schema", .buffer [0, 255]) ∨
      e = ("properties", .object [("__proto__", "x")]) := by
    simpa using (show e ∈ [("schemaType", OwnValue.string "Avro"), ("name", .string "name"), ("schema", .buffer [0, 255]),
      ("properties", .object [("__proto__", "x")])] from he)
  rcases hmem with rfl | rfl | rfl | rfl
  · rfl
  · rfl
  · exact ⟨rfl, rfl⟩
  · exact ⟨_, hentries, List.Perm.refl _⟩

theorem binarySchema_accepted :
    (∃ info' w', (schemaInfo (.object .plain 1)).run binarySchemaHeap.sides.answer () ⟨(), none, ()⟩ =
        (.ok info', (), w') ∧ Same info' binarySchema) ∧
      (∃ info' w', (ProducerConfig.readSchema (.object .plain 0)).run binarySchemaHeap.sides.answer .new ⟨(), none, ()⟩ =
        (.ok (), { ProducerConfig.new with cProducerConfig := [.schema info'] }, w') ∧ Same info' binarySchema) ∧
      ∃ info' w', (ConsumerConfig.initSchema (.object .plain 0)).run binarySchemaHeap.sides.answer .new ⟨(), none, ()⟩ =
        (.ok (), { ConsumerConfig.new with cConsumerConfig := [.schema info'] }, w') ∧ Same info' binarySchema := by
  have hname : getSchemaTypeName binarySchema.schemaType = some "Avro" := rfl
  obtain ⟨hparsed, hproducer, hconsumer⟩ := newObject_accepted (v := binarySchemaHeap.view) (S := Unit)
    (o := .object .plain 1) binarySchemaHeap.sides hname (by decide) (by decide)
  refine ⟨hparsed () _ (binarySchemaHeap.plainRun rfl) (binarySchemaHeap_shows _ _),
    hproducer _ .new _ (binarySchemaHeap.plainRun rfl) rfl (binarySchemaHeap_shows _ _),
    hconsumer _ .new _ (binarySchemaHeap.plainRun rfl) rfl (binarySchemaHeap_shows _ _)⟩

end SchemaInfo

end PulsarNode
