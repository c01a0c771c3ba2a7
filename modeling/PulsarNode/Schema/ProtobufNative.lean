/-
`ProtobufNativeSchema.js`: a schema from a root of protobufjs and the name of one of its messages. The
message is looked up in the root; the package is looked up by the text of the name without its last
segment, and gets the file name. The descriptor set names the file of each package, so the schema is of a
piece only where the package looked up is the one that declares the message.
-/
import PulsarNode.Tree.Search

namespace PulsarNode.ProtobufNative

/-! ## Type names -/

/-- `s.split('.')`. -/
def split (s : String) : List String := (s.toList.splitOn '.').map String.ofList

/-- `names.join('.')`. -/
def join (names : List String) : String := String.ofList (['.'].intercalate (names.map String.toList))

/-- `typeName.replace(/^\./, '')`. -/
def normalizeTypeName (typeName : String) : String :=
  match typeName.toList with
  | c :: rest => if c = '.' then String.ofList rest else typeName
  | [] => typeName

/-- `typeName.split('.').slice(0, -1).join('.')`. -/
def packageName (typeName : String) : String := join (split typeName).dropLast

/-- A name as protobuf allows it, as far as names are split. -/
structure Identifier (name : String) : Prop where
  noDot : '.' ∉ name.toList
  nonempty : name ≠ ""

theorem split_join {names : List String} (hne : names ≠ []) (h : ∀ n ∈ names, '.' ∉ n.toList) :
    split (join names) = names := by
  unfold join split
  rw [String.toList_ofList, List.splitOn_intercalate '.' (by simpa using h) (by simpa using hne)]
  simp [Function.comp_def]

/-- A full name is that of one list of names. -/
theorem join_inj {names names' : List String} (hne : names ≠ []) (hne' : names' ≠ [])
    (h : ∀ n ∈ names, '.' ∉ n.toList) (h' : ∀ n ∈ names', '.' ∉ n.toList) (heq : join names = join names') :
    names = names' := by
  rw [← split_join hne h, heq, split_join hne' h']

/-! ## protobufjs -/

/-- The classes of `ReflectionObject`; a type and a service are namespaces too. -/
inductive Kind
  | plainNamespace | type | service | enum | field | oneof | method
  deriving DecidableEq, Repr

structure ReflectionObject where
  kind : Kind
  filename : Option String
  deriving DecidableEq, Repr

namespace ReflectionObject

/-- A namespace that is nothing more: a package. -/
def isPackage (o : ReflectionObject) : Bool := o.kind == .plainNamespace

def isType (o : ReflectionObject) : Bool := o.kind == .type

/-- `instanceof Namespace`. -/
def isNamespace (o : ReflectionObject) : Bool := o.kind == .plainNamespace || o.kind == .type || o.kind == .service

def setFilename (filename : String) (o : ReflectionObject) : ReflectionObject := { o with filename := some filename }

end ReflectionObject

open ReflectionObject

/-- The tree of a `Root`; an object is known by its place. -/
abbrev Root := NamedTree ReflectionObject

/-- `fullName`, which starts with a dot. -/
def fullName (place : List String) : String := String.ofList ('.' :: (join place).toList)

/-- `FileDescriptorProto`, as far as names go: the package by its names, and the place of each message in
the file, nested ones included. -/
structure FileDescriptorProto where
  name : String
  package : List String
  messages : List (List String)
  deriving DecidableEq, Repr

def FileDescriptorProto.Declares (file : FileDescriptorProto) (fullName : String) : Prop :=
  ∃ message ∈ file.messages, join (file.package ++ message) = fullName

/-- The functions of protobufjs that are called. What they find is given by its place. -/
structure Protobufjs where
  lookup : Root → String → Option (List String)
  lookupType : Root → String → Except String (List String)
  resolveAll : Root → Except String Unit
  toDescriptor : Root → String → List FileDescriptorProto
  /-- The name of the file of a package without a `filename`. -/
  defaultFilename : List String → String

/-- The names that are looked up: a name that starts with a dot is looked up from the root. -/
def path (name : String) : List String := (split name).dropWhile (· = "")

namespace Protobufjs

variable (P : Protobufjs)

/-- The name of the file of a package. -/
def filename (package : List String) (o : ReflectionObject) : String := o.filename.getD (P.defaultFilename package)

/-- The file of a package: its name, and the messages declared in it with those nested in them. -/
structure FileOf (package : List String) (ns : Root) (file : FileDescriptorProto) : Prop where
  name : file.name = P.filename package ns.label
  package : file.package = package
  messages : ∀ message, message ∈ file.messages ↔ message ≠ [] ∧ (ns.walk isType message).isSome = true

/-- What is documented of these functions, for trees whose names are identifiers. -/
structure Documented : Prop where
  lookup_found : ∀ root name place, root.WellNamed Identifier → P.lookup root name = some place →
    root.Found isNamespace (path name) place
  lookup_complete : ∀ root name place, root.WellNamed Identifier → root.Found isNamespace (path name) place →
    (P.lookup root name).isSome = true
  lookupType_found : ∀ root name place, root.WellNamed Identifier → P.lookupType root name = .ok place →
    root.Found isNamespace (path name) place
  toDescriptor_files : ∀ root edition file, root.WellNamed Identifier → file ∈ P.toDescriptor root edition →
    ∃ package ns, root.walk isPackage package = some ns ∧ P.FileOf package ns file
  toDescriptor_complete : ∀ root edition package ns name, root.WellNamed Identifier →
    root.walk isPackage package = some ns → (ns.walk isType [name]).isSome = true →
    ∃ file ∈ P.toDescriptor root edition, P.FileOf package ns file
  /-- The types of fields are resolved, whatever the files are called. -/
  resolveAll_relabel : ∀ root filename place,
    P.resolveAll (root.relabel (setFilename filename) place) = P.resolveAll root

end Protobufjs

/-! ## The schema -/

/-- The argument of `createSchemaInfoFromRoot`; a name that is not given is empty. -/
structure SchemaOptions where
  root : Option Root
  rootMessageTypeName : String
  rootFileDescriptorName : String
  schemaType : Option String
  edition : Option String
  name : Option String
  properties : Option (List (String × String))

/-- What the JSON text of a schema holds; the descriptor set is in it encoded. -/
structure EncodedSchema where
  fileDescriptorSet : List FileDescriptorProto
  rootMessageTypeName : String
  rootFileDescriptorName : String
  deriving DecidableEq, Repr

structure SchemaInfo where
  schemaType : String
  name : String
  schema : EncodedSchema
  properties : List (String × String)
  deriving DecidableEq, Repr

/-- The object that gets the file name: the root for a name of one segment. -/
def targetNamespace (P : Protobufjs) (root : Root) (normalizedTypeName : String) : Option (List String) :=
  if packageName normalizedTypeName = "" then some [] else P.lookup root (packageName normalizedTypeName)

/-- `createSchemaInfoFromRoot`: the schema, and the root as it is left. -/
def createSchemaInfoFromRoot (P : Protobufjs) (options : SchemaOptions) : Except String (Root × SchemaInfo) := do
  let some root := options.root | throw "root is required"
  if options.rootMessageTypeName = "" then
    throw "rootMessageTypeName is required"
  if options.rootFileDescriptorName = "" then
    throw "rootFileDescriptorName is required"
  let normalizedTypeName := normalizeTypeName options.rootMessageTypeName
  let rootMessageType ← P.lookupType root normalizedTypeName
  let some place := targetNamespace P root normalizedTypeName | throw "Cannot set properties of null (setting 'filename')"
  let root := root.relabel (setFilename options.rootFileDescriptorName) place
  P.resolveAll root
  let schema := ⟨P.toDescriptor root (options.edition.getD "proto3"), normalizeTypeName (fullName rootMessageType),
    options.rootFileDescriptorName⟩
  return (root, ⟨options.schemaType.getD "ProtobufNative", options.name.getD options.rootMessageTypeName, schema,
    options.properties.getD []⟩)

/-! ## What is looked up -/

/-- No part of a split has the separator in it. -/
theorem notMem_of_mem_splitOn {α : Type} [BEq α] [LawfulBEq α] {a : α} {l w : List α} (h : w ∈ l.splitOn a) : a ∉ w := by
  induction l generalizing w with
  | nil =>
    rw [List.splitOn_nil, List.mem_singleton] at h
    simp [h]
  | cons x l ih =>
    rw [List.splitOn_cons_eq_if_modifyHead] at h
    by_cases hx : (x == a) = true
    · rw [if_pos hx, List.mem_cons] at h
      rcases h with rfl | h
      · simp
      · exact ih h
    · rw [if_neg hx] at h
      cases hsplit : l.splitOn a with
      | nil => simp [hsplit] at h
      | cons first rest =>
        rw [hsplit] at h ih
        rcases List.mem_cons.1 h with rfl | h
        · have hne : a ≠ x := fun heq => hx (by simp [heq])
          simpa [hne] using ih List.mem_cons_self
        · exact ih (List.mem_cons_of_mem _ h)

theorem noDot_of_mem_split {s n : String} (h : n ∈ split s) : '.' ∉ n.toList := by
  obtain ⟨w, hw, rfl⟩ := List.mem_map.1 h
  rw [String.toList_ofList]
  exact notMem_of_mem_splitOn hw

theorem dropLast_dropWhile {α : Type} (p : α → Bool) (l : List α) : (l.dropWhile p).dropLast = l.dropLast.dropWhile p := by
  induction l with
  | nil => rfl
  | cons a l ih =>
    cases l with
    | nil => by_cases h : p a = true <;> simp [List.dropWhile, h]
    | cons b l =>
      rw [List.dropLast_cons_cons]
      by_cases h : p a = true
      · simpa [List.dropWhile_cons, h] using ih
      · simp [h]

/-- The package name is looked up by the names before the last one, and is empty where there are none. -/
theorem path_packageName (s : String) :
    (packageName s = "" → (path s).dropLast = []) ∧ (packageName s ≠ "" → path (packageName s) = (path s).dropLast) := by
  have hdots : ∀ n ∈ (split s).dropLast, '.' ∉ n.toList := fun n hn => noDot_of_mem_split (List.dropLast_subset _ hn)
  unfold path
  rw [dropLast_dropWhile]
  unfold packageName
  generalize (split s).dropLast = names at hdots ⊢
  by_cases hne : names = []
  · subst hne
    exact ⟨fun _ => rfl, fun hempty => absurd rfl hempty⟩
  · have hsplit := split_join hne hdots
    constructor
    · intro hempty
      rw [hempty] at hsplit
      have hone : names = [""] := hsplit.symm
      rw [hone]
      rfl
    · intro _
      rw [hsplit]

/-- A full name is looked up by its names. -/
theorem path_join {names : List String} (hne : names ≠ []) (h : ∀ n ∈ names, Identifier n) : path (join names) = names := by
  unfold path
  rw [split_join hne fun n hn => (h n hn).noDot]
  cases names with
  | nil => rfl
  | cons n names =>
    have hn : n ≠ "" := (h n List.mem_cons_self).nonempty
    simp [hn]

variable {P : Protobufjs} {root : Root}

/-- A package and a message in it are namespaces all along. -/
theorem walk_isNamespace {package message : List String} {ns d : Root} (hns : root.walk isPackage package = some ns)
    (hmessage : ns.walk isType message = some d) : root.walk isNamespace (package ++ message) = some d := by
  have hpackage : root.walk isNamespace package = some ns :=
    NamedTree.walk_mono (fun o h => by simp_all [isPackage, isNamespace]) hns
  rw [NamedTree.walk_append, hpackage]
  exact NamedTree.walk_mono (fun o h => by simp_all [isType, isNamespace]) hmessage

/-- Where the message is found, so is an object for the file name. -/
theorem targetNamespace_found (hP : P.Documented) (hroot : root.WellNamed Identifier) {name : String} {place : List String}
    (h : root.Found isNamespace (path name) place) :
    ∃ place', targetNamespace P root name = some place' ∧ root.Found isNamespace (path name).dropLast place' := by
  obtain ⟨place₁, hfound⟩ := h.dropLast
  unfold targetNamespace
  by_cases hempty : packageName name = ""
  · rw [if_pos hempty, (path_packageName name).1 hempty]
    exact ⟨[], rfl, .done root⟩
  · rw [if_neg hempty]
    rw [← (path_packageName name).2 hempty] at hfound ⊢
    obtain ⟨place', hlookup⟩ := Option.isSome_iff_exists.1 (hP.lookup_complete root _ _ hroot hfound)
    exact ⟨place', hlookup, hP.lookup_found root _ _ hroot hlookup⟩

/-! ## Functions as documented -/

/-- The messages in the file of a package. -/
def messagesOf (ns : Root) : List (List String) := ((ns.reach isType).map Prod.fst).filter (· ≠ [])

theorem mem_messagesOf {ns : Root} (hns : ns.WellNamed Identifier) {message : List String} :
    message ∈ messagesOf ns ↔ message ≠ [] ∧ (ns.walk isType message).isSome = true := by
  unfold messagesOf
  rw [List.mem_filter, List.mem_map, Option.isSome_iff_exists, decide_eq_true_iff, and_comm]
  refine and_congr_right fun _ => ?_
  constructor
  · rintro ⟨⟨p, d⟩, hmem, rfl⟩
    exact ⟨d, (NamedTree.mem_reach hns).1 hmem⟩
  · rintro ⟨d, hwalk⟩
    exact ⟨(message, d), (NamedTree.mem_reach hns).2 hwalk, rfl⟩

def packageFilename (package : List String) : String :=
  if package = [] then "root.proto" else String.ofList (['_'].intercalate (package.map String.toList)) ++ ".proto"

/-- The first object found, and a file for each package with a message. -/
def documented : Protobufjs where
  lookup root name := root.search isNamespace (path name)
  lookupType root name :=
    match root.search isNamespace (path name) with
    | some place =>
      if ((root.walk (fun _ => true) place).any fun t => t.label.isType) = true then .ok place
      else .error ("no such type: " ++ name)
    | none => .error ("no such type: " ++ name)
  resolveAll _ := .ok ()
  toDescriptor root _ := (root.reach isPackage).filterMap fun e =>
    if messagesOf e.2 = [] then none
    else some ⟨e.2.label.filename.getD (packageFilename e.1), e.1, messagesOf e.2⟩
  defaultFilename := packageFilename

theorem documented_documented : documented.Documented := by
  refine ⟨?_, ?_, ?_, ?_, ?_, fun _ _ _ => rfl⟩
  · exact fun root name place hroot h => NamedTree.found_of_search hroot h
  · exact fun root name place hroot h => h.search_isSome
  · intro root name place hroot h
    unfold documented at h
    dsimp only at h
    cases hsearch : root.search isNamespace (path name) with
    | none =>
      rw [hsearch] at h
      cases h
    | some found =>
      rw [hsearch] at h
      dsimp only at h
      split at h
      · cases h
        exact NamedTree.found_of_search hroot hsearch
      · cases h
  · intro root edition file hroot h
    obtain ⟨⟨package, ns⟩, hmem, hfile⟩ := List.mem_filterMap.1 h
    have hns := (NamedTree.mem_reach hroot).1 hmem
    dsimp only at hfile
    split at hfile
    · cases hfile
    · cases hfile
      exact ⟨package, ns, hns, rfl, rfl, fun message => mem_messagesOf (hroot.walk hns).2⟩
  · intro root edition package ns name hroot hns hname
    have hgood := (hroot.walk hns).2
    have hne : messagesOf ns ≠ [] := List.ne_nil_of_mem ((mem_messagesOf hgood).2 ⟨by simp, hname⟩)
    refine ⟨⟨ns.label.filename.getD (packageFilename package), package, messagesOf ns⟩, ?_, rfl, rfl,
      fun message => mem_messagesOf hgood⟩
    exact List.mem_filterMap.2 ⟨(package, ns), (NamedTree.mem_reach hroot).2 hns, if_neg hne⟩

/-- A message is found under its full name. -/
theorem lookupType_fullName {root ns d : Root} {package message : List String} {m : String}
    (hroot : root.WellNamed Identifier) (hns : root.walk isPackage package = some ns)
    (hmessage : ns.walk isType (m :: message) = some d) (htype : d.label.isType = true) :
    documented.lookupType root (join (package ++ m :: message)) = .ok (package ++ m :: message) := by
  have hwalk := walk_isNamespace hns hmessage
  have hpath := path_join (by simp) fun n hn => (hroot.walk hwalk).1 n hn
  obtain ⟨found, hsearch⟩ := Option.isSome_iff_exists.1 (NamedTree.Found.of_walk hwalk).search_isSome
  have hfound : found = package ++ m :: message := (NamedTree.found_of_search hroot hsearch).eq_of_walk hwalk
  have hall : root.walk (fun _ => true) (package ++ m :: message) = some d := NamedTree.walk_mono (fun _ _ => rfl) hwalk
  unfold documented
  simp only [hpath, hsearch, hfound, hall, Option.any_some, htype]
  rfl

/-- A package with a message, in which others may be. -/
def exampleRoot (nested : NamedForest ReflectionObject) : Root :=
  .node ⟨.plainNamespace, none⟩ (.cons "pulsar" (.node ⟨.plainNamespace, none⟩ (.cons "example"
    (.node ⟨.plainNamespace, none⟩ (.cons "UserEvent" (.node ⟨.type, none⟩ nested) .nil)) .nil)) .nil)

def exampleOptions (root : Root) (name : String) : SchemaOptions :=
  ⟨some root, name, "user_event.proto", none, none, none, none⟩

theorem exampleRoot_wellNamed {nested : NamedForest ReflectionObject} (hnodup : nested.names.Nodup)
    (h : nested.WellNamed Identifier) : (exampleRoot nested).WellNamed Identifier :=
  ⟨by simp [NamedForest.names], ⟨by simp, by simp⟩, ⟨by simp [NamedForest.names], ⟨by simp, by simp⟩,
    ⟨by simp [NamedForest.names], ⟨by simp, by simp⟩, ⟨hnodup, h⟩, trivial⟩, trivial⟩, trivial⟩

/-! ## Whether a schema is of a piece -/

/-- The descriptor set contains a file of the root file name, and that declares the root message. -/
def SelfConsistent (r : Except String (Root × SchemaInfo)) : Prop :=
  ∃ root info, r = .ok (root, info) ∧ ∃ file ∈ info.schema.fileDescriptorSet,
    file.name = info.schema.rootFileDescriptorName ∧ file.Declares info.schema.rootMessageTypeName

theorem isType_of_isPackage (o : ReflectionObject) (h : o.isPackage = true) : o.isType = false := by
  obtain ⟨kind, filename⟩ := o
  cases kind with
  | plainNamespace => rfl
  | _ => cases h

/-- The full name without its dot. -/
theorem normalizeTypeName_fullName (place : List String) : normalizeTypeName (fullName place) = join place := by
  unfold normalizeTypeName fullName
  simp

/-- The place of a message is made of identifiers. -/
theorem identifier_of_mem {package message : List String} {ns d : Root} (hroot : root.WellNamed Identifier)
    (hns : root.walk isPackage package = some ns) (hmessage : ns.walk isType message = some d) :
    ∀ n ∈ package ++ message, Identifier n := by
  obtain ⟨hpackage, hgood⟩ := hroot.walk hns
  obtain ⟨hmessage, -⟩ := hgood.walk hmessage
  intro n hn
  rcases List.mem_append.1 hn with hn | hn
  · exact hpackage n hn
  · exact hmessage n hn

section

variable {package message : List String} {m : String} {ns d : Root} (hP : P.Documented)
include hP

/-- The files of a root are those of its packages: only the one of its own package declares a message. -/
theorem name_of_declares (hroot : root.WellNamed Identifier) {edition : String} (hns : root.walk isPackage package = some ns)
    (hmessage : ns.walk isType (m :: message) = some d) {file : FileDescriptorProto}
    (hfile : file ∈ P.toDescriptor root edition) (hdeclares : file.Declares (join (package ++ m :: message))) :
    file.name = P.filename package ns.label := by
  obtain ⟨package', ns', hns', hof⟩ := hP.toDescriptor_files root edition file hroot hfile
  obtain ⟨message', hmem, hname⟩ := hdeclares
  obtain ⟨hne', hwalk'⟩ := (hof.messages message').1 hmem
  obtain ⟨d', hd'⟩ := Option.isSome_iff_exists.1 hwalk'
  obtain ⟨m', message', rfl⟩ := List.exists_cons_of_ne_nil hne'
  rw [hof.package] at hname
  have heq := join_inj (by simp) (by simp) (fun n hn => (identifier_of_mem hroot hns' hd' n hn).noDot)
    (fun n hn => (identifier_of_mem hroot hns hmessage n hn).noDot) hname
  obtain rfl := NamedTree.walk_split_unique isType_of_isPackage hns' hd' hns hmessage heq
  rw [hns] at hns'
  cases hns'
  exact hof.name

/-- That one does declare it. -/
theorem declares_of_package (hroot : root.WellNamed Identifier) (edition : String)
    (hns : root.walk isPackage package = some ns) (hmessage : ns.walk isType (m :: message) = some d) :
    ∃ file ∈ P.toDescriptor root edition, file.name = P.filename package ns.label ∧
      file.Declares (join (package ++ m :: message)) := by
  have hfirst : (ns.walk isType [m]).isSome = true := by
    have hwalk : ns.walk isType ([m] ++ message) = some d := hmessage
    rw [NamedTree.walk_append] at hwalk
    exact Option.isSome_of_isSome_bind (by rw [hwalk]; rfl)
  obtain ⟨file, hfile, hof⟩ := hP.toDescriptor_complete root edition package ns m hroot hns hfirst
  refine ⟨file, hfile, hof.name, m :: message, (hof.messages _).2 ⟨by simp, by rw [hmessage]; rfl⟩, ?_⟩
  rw [hof.package]

/-- The root is no message, and it is all that an empty name finds. -/
theorem name_ne_empty (hroot : root.WellNamed Identifier) {name : String} {place : List String} (hne : place ≠ [])
    (hlookup : P.lookupType root (normalizeTypeName name) = .ok place) : name ≠ "" := by
  intro hempty
  have hpath : path (normalizeTypeName name) = [] := by
    rw [hempty]
    rfl
  have hfound := hP.lookupType_found root _ _ hroot hlookup
  rw [hpath] at hfound
  cases hfound
  exact hne rfl

/-- Where the object that gets the file name is at `place`. -/
theorem selfConsistent_of_target (hroot : root.WellNamed Identifier) {options : SchemaOptions} {place : List String}
    (hoptions : options.root = some root) (hname : options.rootMessageTypeName ≠ "")
    (hfile : options.rootFileDescriptorName ≠ "") (hns : root.walk isPackage package = some ns)
    (hmessage : ns.walk isType (m :: message) = some d)
    (hlookup : P.lookupType root (normalizeTypeName options.rootMessageTypeName) = .ok (package ++ m :: message))
    (hresolve : P.resolveAll root = .ok ())
    (htarget : targetNamespace P root (normalizeTypeName options.rootMessageTypeName) = some place) :
    SelfConsistent (createSchemaInfoFromRoot P options) ↔
      place = package ∨ P.filename package ns.label = options.rootFileDescriptorName := by
  have hrun : createSchemaInfoFromRoot P options = .ok (root.relabel (setFilename options.rootFileDescriptorName) place,
      ⟨options.schemaType.getD "ProtobufNative", options.name.getD options.rootMessageTypeName,
        ⟨P.toDescriptor (root.relabel (setFilename options.rootFileDescriptorName) place) (options.edition.getD "proto3"),
          join (package ++ m :: message), options.rootFileDescriptorName⟩, options.properties.getD []⟩) := by
    unfold createSchemaInfoFromRoot
    simp only [hoptions, hname, hfile, hlookup, htarget, hP.resolveAll_relabel, hresolve, normalizeTypeName_fullName]
    rfl
  have hroot' : (root.relabel (setFilename options.rootFileDescriptorName) place).WellNamed Identifier := hroot.relabel _ _
  obtain ⟨ns', hns', hlabel, hsame⟩ := NamedTree.walk_relabel_label
    (f := setFilename options.rootFileDescriptorName) (fun _ => rfl) (q := place) hns
  obtain ⟨d', hmessage'⟩ : ∃ d', ns'.walk isType (m :: message) = some d' := by
    rw [← Option.isSome_iff_exists, hsame isType fun _ => rfl, hmessage]
    rfl
  -- the file that declares the message is the one of its package, whose object may have been given the name
  have hiff : SelfConsistent (createSchemaInfoFromRoot P options) ↔
      P.filename package ns'.label = options.rootFileDescriptorName := by
    rw [hrun]
    constructor
    · rintro ⟨_, _, ⟨⟩, file, hmem, hfilename, hdeclares⟩
      exact (name_of_declares hP hroot' hns' hmessage' hmem hdeclares).symm.trans hfilename
    · intro hfilename
      obtain ⟨file, hmem, hfile', hdeclares⟩ := declares_of_package hP hroot' (options.edition.getD "proto3") hns' hmessage'
      exact ⟨_, _, rfl, file, hmem, hfile'.trans hfilename, hdeclares⟩
  rw [hiff, hlabel]
  by_cases heq : package = place
  · rw [if_pos heq]
    exact iff_of_true rfl (.inl heq.symm)
  · rw [if_neg heq]
    exact (or_iff_right fun hplace => heq hplace.symm).symm

/-! ### Full names -/

/-- Under a full name, the object is the one that the message is declared in: a package, or another message. -/
theorem targetNamespace_fullName (hroot : root.WellNamed Identifier) (hns : root.walk isPackage package = some ns)
    (hmessage : ns.walk isType (m :: message) = some d) :
    targetNamespace P root (join (package ++ m :: message)) = some (package ++ (m :: message).dropLast) := by
  have hnames := identifier_of_mem hroot hns hmessage
  have hpath := path_join (by simp) hnames
  have hwalk := walk_isNamespace hns hmessage
  have hlast : (package ++ m :: message).dropLast = package ++ (m :: message).dropLast :=
    List.dropLast_append_of_ne_nil (by simp)
  obtain ⟨c, hwalk'⟩ : ∃ c, root.walk isNamespace (package ++ (m :: message).dropLast) = some c := by
    rw [← List.dropLast_append_getLast (l := package ++ m :: message) (by simp), hlast, NamedTree.walk_append] at hwalk
    exact Option.isSome_iff_exists.1 (Option.isSome_of_isSome_bind (by rw [hwalk]; rfl))
  have hfound : root.Found isNamespace (path (join (package ++ m :: message))) (package ++ m :: message) := by
    rw [hpath]
    exact .of_walk hwalk
  obtain ⟨place, htarget, hplace⟩ := targetNamespace_found hP hroot hfound
  rw [hpath, hlast] at hplace
  rw [htarget, hplace.eq_of_walk hwalk']

/-- Under its full name, a message is in a schema of a piece exactly when it is not nested in another one, or
the file of its package has the name already. -/
theorem selfConsistent_fullName_iff (hroot : root.WellNamed Identifier) {options : SchemaOptions}
    (hoptions : options.root = some root) (hfile : options.rootFileDescriptorName ≠ "")
    (hns : root.walk isPackage package = some ns) (hmessage : ns.walk isType (m :: message) = some d)
    (hname : normalizeTypeName options.rootMessageTypeName = join (package ++ m :: message))
    (hlookup : P.lookupType root (join (package ++ m :: message)) = .ok (package ++ m :: message))
    (hresolve : P.resolveAll root = .ok ()) :
    SelfConsistent (createSchemaInfoFromRoot P options) ↔
      message = [] ∨ P.filename package ns.label = options.rootFileDescriptorName := by
  have htarget := targetNamespace_fullName hP hroot hns hmessage
  rw [← hname] at hlookup htarget
  have hgiven := name_ne_empty hP hroot (by simp) hlookup
  rw [selfConsistent_of_target hP hroot hoptions hgiven hfile hns hmessage hlookup hresolve htarget]
  cases message with
  | nil => simp
  | cons m' message => simp

/-! ### Every name -/

/-- A message that is found is in a schema of a piece exactly when its package is what is found for the name
without its last segment, or has that file name already. -/
theorem selfConsistent_iff (hroot : root.WellNamed Identifier) {options : SchemaOptions}
    (hoptions : options.root = some root) (hfile : options.rootFileDescriptorName ≠ "")
    (hns : root.walk isPackage package = some ns) (hmessage : ns.walk isType (m :: message) = some d)
    (hlookup : P.lookupType root (normalizeTypeName options.rootMessageTypeName) = .ok (package ++ m :: message))
    (hresolve : P.resolveAll root = .ok ()) :
    SelfConsistent (createSchemaInfoFromRoot P options) ↔
      targetNamespace P root (normalizeTypeName options.rootMessageTypeName) = some package ∨
        P.filename package ns.label = options.rootFileDescriptorName := by
  have hname := name_ne_empty hP hroot (by simp) hlookup
  have hfound := hP.lookupType_found root _ _ hroot hlookup
  obtain ⟨place, htarget, -⟩ := targetNamespace_found hP hroot hfound
  rw [selfConsistent_of_target hP hroot hoptions hname hfile hns hmessage hlookup hresolve htarget, htarget,
    Option.some_inj]

end

theorem selfConsistent_userEvent : SelfConsistent (createSchemaInfoFromRoot documented
    (exampleOptions (exampleRoot .nil) "pulsar.example.UserEvent")) := by
  have hroot : (exampleRoot .nil).WellNamed Identifier := exampleRoot_wellNamed (by simp [NamedForest.names]) trivial
  have hns : (exampleRoot .nil).walk isPackage ["pulsar", "example"] =
      some (.node ⟨.plainNamespace, none⟩ (.cons "UserEvent" (.node ⟨.type, none⟩ .nil) .nil)) := rfl
  have hmessage : NamedTree.walk isType (.node ⟨.plainNamespace, none⟩ (.cons "UserEvent" (.node ⟨.type, none⟩ .nil) .nil))
      ["UserEvent"] = some (.node ⟨.type, none⟩ .nil) := rfl
  have hname : normalizeTypeName (exampleOptions (exampleRoot .nil) "pulsar.example.UserEvent").rootMessageTypeName =
      join (["pulsar", "example"] ++ ["UserEvent"]) := by
    simp [exampleOptions, join, normalizeTypeName]
  have htarget := targetNamespace_fullName documented_documented hroot hns hmessage
  have hlookup := lookupType_fullName hroot hns hmessage rfl
  rw [← hname] at htarget hlookup
  exact (selfConsistent_iff documented_documented hroot rfl (by simp [exampleOptions]) hns hmessage hlookup rfl).2
    (.inl htarget)

/-- The file of the package keeps its default name, and it is the nested message that gets the other one. -/
theorem nested_not_selfConsistent :
    let root := exampleRoot (.cons "Id" (.node ⟨.type, none⟩ .nil) .nil)
    documented.lookupType root (normalizeTypeName "pulsar.example.UserEvent.Id") =
        .ok ["pulsar", "example", "UserEvent", "Id"] ∧
      ¬ SelfConsistent (createSchemaInfoFromRoot documented (exampleOptions root "pulsar.example.UserEvent.Id")) := by
  intro root
  have hroot : root.WellNamed Identifier := exampleRoot_wellNamed (by simp [NamedForest.names])
    ⟨⟨by simp, by simp⟩, ⟨by simp [NamedForest.names], trivial⟩, trivial⟩
  have hns : root.walk isPackage ["pulsar", "example"] = some (.node ⟨.plainNamespace, none⟩ (.cons "UserEvent"
      (.node ⟨.type, none⟩ (.cons "Id" (.node ⟨.type, none⟩ .nil) .nil)) .nil)) := rfl
  have hmessage : NamedTree.walk isType (.node ⟨.plainNamespace, none⟩ (.cons "UserEvent"
      (.node ⟨.type, none⟩ (.cons "Id" (.node ⟨.type, none⟩ .nil) .nil)) .nil)) ["UserEvent", "Id"] =
      some (.node ⟨.type, none⟩ .nil) := rfl
  have hname : normalizeTypeName "pulsar.example.UserEvent.Id" = join (["pulsar", "example"] ++ ["UserEvent", "Id"]) := by
    simp [join, normalizeTypeName]
  have hlookup := lookupType_fullName hroot hns hmessage rfl
  refine ⟨?_, ?_⟩
  · rw [hname]
    exact hlookup
  · have hgiven : (exampleOptions root "pulsar.example.UserEvent.Id").rootMessageTypeName = "pulsar.example.UserEvent.Id" := rfl
    rw [← hgiven] at hname
    rw [selfConsistent_fullName_iff documented_documented hroot rfl (by simp [exampleOptions]) hns hmessage hname
      hlookup rfl]
    rintro (hnil | hfilename)
    · cases hnil
    · unfold Protobufjs.filename documented packageFilename exampleOptions at hfilename
      simp [NamedTree.label] at hfilename

end PulsarNode.ProtobufNative
