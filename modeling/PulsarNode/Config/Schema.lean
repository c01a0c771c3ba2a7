/-
`SchemaInfo::SchemaInfo`: a schema object of a producer or consumer configuration. An unknown
`schemaType` leaves a JS exception pending and the constructor returns; the caller goes on.
-/
import PulsarNode.Napi.Query

namespace PulsarNode.SchemaInfo

open Napi

def cfgSchemaType : String := "schemaType"
def cfgName : String := "name"
def cfgSchema : String := "schema"
def cfgProps : String := "properties"

/-- `SCHEMA_TYPE`, in the order of the map's keys. -/
def schemaTypes : List (String × SchemaType) :=
  [("AutoConsume", -3), ("AutoPublish", -4), ("Avro", 4), ("Boolean", 5), ("Bytes", -1),
    ("Float32", 10), ("Float64", 11), ("Int16", 7), ("Int32", 8), ("Int64", 9), ("Int8", 6),
    ("Json", 2), ("KeyValue", 15), ("None", 0), ("Protobuf", 3), ("ProtobufNative", 20),
    ("String", 1)]

/-- The C++ bytes of a string. -/
def bytesOf (s : String) : List UInt8 := s.toUTF8.toList

/-- `properties[key] = value`. -/
def setProperty (key value : String) (props : List (String × String)) : List (String × String) :=
  (key, value) :: props.filter (·.1 ≠ key)

/-- The members that the constructor starts with. -/
def initial : NativeSchemaInfo := ⟨-1, "BYTES", [], []⟩

variable {S : Type}

/-- The schema type and the name; `none` when the type is unknown and the constructor returns. -/
def readType (schemaInfo : JsValue) : Napi S (Option NativeSchemaInfo) := do
  if ← hasAs schemaInfo cfgSchemaType JsValue.isString then
    let typeStr ← getString schemaInfo cfgSchemaType
    match schemaTypes.lookup typeStr with
    | none =>
      throwAsJavaScriptException (.typeError ("Unknown schemaType: " ++ typeStr))
      return none
    | some t => return some { initial with name := typeStr, schemaType := t }
  return some initial

def readName (schemaInfo : JsValue) (info : NativeSchemaInfo) : Napi S NativeSchemaInfo := do
  if ← hasAs schemaInfo cfgName JsValue.isString then
    return { info with name := ← getString schemaInfo cfgName }
  return info

/-- The schema data: the bytes of a string, or of a buffer. -/
def readSchema (schemaInfo : JsValue) (info : NativeSchemaInfo) : Napi S NativeSchemaInfo := do
  if ← hasAs schemaInfo cfgSchema JsValue.isString then
    return { info with schema := bytesOf (← getString schemaInfo cfgSchema) }
  else if ← hasAs schemaInfo cfgSchema JsValue.isBuffer then
    return { info with schema := ← bufferBytes (← get schemaInfo cfgSchema) }
  return info

def readProperties (schemaInfo : JsValue) (info : NativeSchemaInfo) : Napi S NativeSchemaInfo := do
  if ← hasAs schemaInfo cfgProps JsValue.isObject then
    let propObj ← getObject schemaInfo cfgProps
    let props ← forProperties propObj id (fun k v props => pure (setProperty k v props)) info.properties
    return { info with properties := props }
  return info

/-- `SchemaInfo::SchemaInfo`; after an unknown type the members stay the initial ones. -/
def schemaInfo (schemaInfo : JsValue) : Napi S NativeSchemaInfo := do
  match ← readType schemaInfo with
  | none => return initial
  | some info => readProperties schemaInfo (← readSchema schemaInfo (← readName schemaInfo info))

/-- `SchemaInfo::GetSchemaTypeName`: the first entry of the map with that type. -/
def getSchemaTypeName (t : SchemaType) : Option String :=
  (schemaTypes.find? (·.2 == t)).map (·.1)

end PulsarNode.SchemaInfo
