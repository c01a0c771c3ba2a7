/-
`ProtobufNativeSchema.js`, called more than once on one root: each call leaves its file name in the tree of
the caller, and exports the whole tree. What a call gives is what it gives on a fresh root exactly when no
other package of the tree has been given another file name in the meantime.

The names that calls leave are counted by package: `lastName` is the last one written there.
-/
import PulsarNode.Schema.ProtobufNative
import Mathlib.Data.List.Forall2
import Mathlib.Data.List.Induction

namespace PulsarNode.ProtobufNative

open ReflectionObject

/-! ## Trees that differ in file names only -/

/-- All that is not a file name is the same. -/
def SameButFilenames (root root' : Root) : Prop := root.map ReflectionObject.kind = root'.map ReflectionObject.kind

/-- The children of an object are kept by their names. -/
abbrev DistinctNames (root : Root) : Prop := root.WellNamed fun _ => True

theorem sameButFilenames_relabel (root : Root) (filename : String) (place : List String) :
    SameButFilenames root (root.relabel (setFilename filename) place) :=
  (NamedTree.map_relabel (f := setFilename filename) (fun _ => rfl) place root).symm

theorem SameButFilenames.relabel {root root' : Root} (h : SameButFilenames root root') (filename : String) (place : List String) :
    SameButFilenames (root.relabel (setFilename filename) place) (root'.relabel (setFilename filename) place) :=
  (sameButFilenames_relabel root filename place).symm.trans (h.trans (sameButFilenames_relabel root' filename place))

namespace Protobufjs

variable (P : Protobufjs)

/-- The packages that have a file. -/
def packages (root : Root) (edition : String) : List (List String) := (P.toDescriptor root edition).map (·.package)

/-- The name that the file of a package has by the tree. -/
def nameIn (root : Root) (package : List String) : Option String :=
  (root.walk isPackage package).map fun ns => P.filename package ns.label

/-- Only the names of files depend on file names, each on that of its own package. -/
structure NamesFiles : Prop where
  lookup_same : ∀ {root root'} name, SameButFilenames root root' → P.lookup root' name = P.lookup root name
  lookupType_same : ∀ {root root'} name, SameButFilenames root root' → P.lookupType root' name = P.lookupType root name
  resolveAll_same : ∀ {root root'}, SameButFilenames root root' → P.resolveAll root' = P.resolveAll root
  toDescriptor_same : ∀ {root root'} edition, SameButFilenames root root' →
    List.Forall₂ (fun file file' => file.package = file'.package ∧ file.messages = file'.messages)
      (P.toDescriptor root edition) (P.toDescriptor root' edition)
  toDescriptor_named : ∀ {root edition file}, DistinctNames root → file ∈ P.toDescriptor root edition →
    P.nameIn root file.package = some file.name

end Protobufjs

/-! ## Calls in a row -/

/-- The object whose file name a call writes. -/
def written (P : Protobufjs) (root : Root) (options : SchemaOptions) : Option (List String) :=
  if options.rootMessageTypeName = "" ∨ options.rootFileDescriptorName = "" then none
  else match P.lookupType root (normalizeTypeName options.rootMessageTypeName) with
    | .ok _ => targetNamespace P root (normalizeTypeName options.rootMessageTypeName)
    | .error _ => none

/-- The root as a call leaves it: the file name has been written also where a type does not resolve. -/
def rootAfter (P : Protobufjs) (root : Root) (options : SchemaOptions) : Root :=
  match written P root options with
  | some place => root.relabel (setFilename options.rootFileDescriptorName) place
  | none => root

def afterCalls (P : Protobufjs) (root : Root) (calls : List SchemaOptions) : Root := calls.foldl (rootAfter P) root

/-- What a call on this root returns or throws. -/
def schemaOf (P : Protobufjs) (root : Root) (options : SchemaOptions) : Except String SchemaInfo :=
  (createSchemaInfoFromRoot P { options with root := some root }).map Prod.snd

/-- The file name that the calls leave at a package. -/
def lastName (P : Protobufjs) (root : Root) (calls : List SchemaOptions) (package : List String) : Option String :=
  calls.foldl (fun last options =>
    if written P root options = some package then some options.rootFileDescriptorName else last) none

variable {P : Protobufjs} {root root' : Root}

/-! ### One call -/

/-- The schema once the root message type and the object that gets the file name are found. -/
def schemaWith (P : Protobufjs) (root : Root) (options : SchemaOptions) (rootMessageType place : List String) : SchemaInfo :=
  ⟨options.schemaType.getD "ProtobufNative", options.name.getD options.rootMessageTypeName,
    ⟨P.toDescriptor (root.relabel (setFilename options.rootFileDescriptorName) place) (options.edition.getD "proto3"),
      normalizeTypeName (fullName rootMessageType), options.rootFileDescriptorName⟩, options.properties.getD []⟩

/-- The ways a call can end. -/
theorem createSchemaInfoFromRoot_eq (P : Protobufjs) (root : Root) (options : SchemaOptions) :
    createSchemaInfoFromRoot P { options with root := some root } =
      if options.rootMessageTypeName = "" then .error "rootMessageTypeName is required"
      else if options.rootFileDescriptorName = "" then .error "rootFileDescriptorName is required"
      else match P.lookupType root (normalizeTypeName options.rootMessageTypeName) with
      | .error message => .error message
      | .ok rootMessageType =>
        match targetNamespace P root (normalizeTypeName options.rootMessageTypeName) with
        | none => .error "Cannot set properties of null (setting 'filename')"
        | some place =>
          match P.resolveAll (root.relabel (setFilename options.rootFileDescriptorName) place) with
          | .error message => .error message
          | .ok _ => .ok (root.relabel (setFilename options.rootFileDescriptorName) place,
              schemaWith P root options rootMessageType place) := by
  unfold createSchemaInfoFromRoot
  dsimp only
  by_cases hname : options.rootMessageTypeName = ""
  · rw [if_pos hname, if_pos hname]
    rfl
  rw [if_neg hname, if_neg hname]
  by_cases hfile : options.rootFileDescriptorName = ""
  · rw [if_pos hfile, if_pos hfile]
    rfl
  rw [if_neg hfile, if_neg hfile]
  cases P.lookupType root (normalizeTypeName options.rootMessageTypeName) with
  | error message => rfl
  | ok rootMessageType =>
    simp only [Except.bind, bind]
    cases targetNamespace P root (normalizeTypeName options.rootMessageTypeName) with
    | none => rfl
    | some place =>
      dsimp only
      cases P.resolveAll (root.relabel (setFilename options.rootFileDescriptorName) place) with
      | error message => rfl
      | ok u => rfl

theorem SameButFilenames.targetNamespace (hP : P.NamesFiles) (h : SameButFilenames root root') (name : String) :
    targetNamespace P root' name = targetNamespace P root name := by
  unfold ProtobufNative.targetNamespace
  rw [hP.lookup_same _ h]

theorem SameButFilenames.written (hP : P.NamesFiles) (h : SameButFilenames root root') (options : SchemaOptions) :
    written P root' options = written P root options := by
  unfold ProtobufNative.written
  rw [hP.lookupType_same _ h, h.targetNamespace hP]

/-- On two such roots a call does the same, up to the descriptor set that it exports. -/
theorem SameButFilenames.schemaOf_eq_iff (hP : P.NamesFiles) (h : SameButFilenames root root') (options : SchemaOptions) :
    schemaOf P root' options = schemaOf P root options ↔
      ∀ place, ProtobufNative.written P root options = some place → P.resolveAll root = .ok () →
        P.toDescriptor (root'.relabel (setFilename options.rootFileDescriptorName) place) (options.edition.getD "proto3") =
          P.toDescriptor (root.relabel (setFilename options.rootFileDescriptorName) place) (options.edition.getD "proto3") := by
  have hresolve (place : List String) : P.resolveAll (root'.relabel (setFilename options.rootFileDescriptorName) place) =
      P.resolveAll root := hP.resolveAll_same (h.trans (sameButFilenames_relabel root' _ place))
  have hresolve' (place : List String) : P.resolveAll (root.relabel (setFilename options.rootFileDescriptorName) place) =
      P.resolveAll root := hP.resolveAll_same (sameButFilenames_relabel root _ place)
  unfold schemaOf ProtobufNative.written
  rw [createSchemaInfoFromRoot_eq, createSchemaInfoFromRoot_eq]
  simp only [hP.lookupType_same _ h, h.targetNamespace hP, hresolve, hresolve']
  by_cases hname : options.rootMessageTypeName = ""
  · simp [hname]
  by_cases hfile : options.rootFileDescriptorName = ""
  · simp [hname, hfile]
  rw [if_neg hname, if_neg hname, if_neg hfile, if_neg hfile, if_neg (not_or.2 ⟨hname, hfile⟩)]
  cases P.lookupType root (normalizeTypeName options.rootMessageTypeName) with
  | error message => simp
  | ok rootMessageType =>
    cases ProtobufNative.targetNamespace P root (normalizeTypeName options.rootMessageTypeName) with
    | none => simp
    | some place =>
      cases P.resolveAll root with
      | error message => simp
      | ok u => simp [Except.map, schemaWith]

/-! ### Many calls -/

theorem afterCalls_snoc (P : Protobufjs) (root : Root) (calls : List SchemaOptions) (call : SchemaOptions) :
    afterCalls P root (calls ++ [call]) = rootAfter P (afterCalls P root calls) call := by
  unfold afterCalls
  rw [List.foldl_append]
  rfl

theorem lastName_snoc (P : Protobufjs) (root : Root) (calls : List SchemaOptions) (call : SchemaOptions)
    (package : List String) : lastName P root (calls ++ [call]) package =
      if written P root call = some package then some call.rootFileDescriptorName else lastName P root calls package := by
  unfold lastName
  rw [List.foldl_append]
  rfl

theorem sameButFilenames_rootAfter (P : Protobufjs) (root : Root) (options : SchemaOptions) :
    SameButFilenames root (rootAfter P root options) := by
  unfold rootAfter
  cases written P root options with
  | none => exact rfl
  | some place => exact sameButFilenames_relabel root _ place

theorem sameButFilenames_afterCalls (P : Protobufjs) (root : Root) (calls : List SchemaOptions) :
    SameButFilenames root (afterCalls P root calls) := by
  induction calls using List.reverseRecOn with
  | nil => exact rfl
  | append_singleton calls call ih =>
    rw [afterCalls_snoc]
    exact ih.trans (sameButFilenames_rootAfter P _ call)

theorem distinctNames_afterCalls (hroot : DistinctNames root) (calls : List SchemaOptions) :
    DistinctNames (afterCalls P root calls) := by
  induction calls using List.reverseRecOn with
  | nil => exact hroot
  | append_singleton calls call ih =>
    rw [afterCalls_snoc]
    unfold rootAfter
    cases written P (afterCalls P root calls) call with
    | none => exact ih
    | some place => exact ih.relabel _ place

/-! ### The name of a package -/

/-- A file name written at a place is the name of the package there, and no other package has another name. -/
theorem nameIn_relabel (P : Protobufjs) (root : Root) (filename : String) (place package : List String) :
    P.nameIn (root.relabel (setFilename filename) place) package =
      (P.nameIn root package).map fun own => if package = place then filename else own := by
  unfold Protobufjs.nameIn
  cases hns : root.walk isPackage package with
  | none =>
    have hnone : ((root.relabel (setFilename filename) place).walk isPackage package).isSome = false := by
      rw [NamedTree.walk_relabel_isSome (f := setFilename filename) fun _ => rfl, hns]
      rfl
    rw [Option.isSome_eq_false_iff, Option.isNone_iff_eq_none] at hnone
    rw [hnone]
    rfl
  | some ns =>
    obtain ⟨ns', hns', hlabel, -⟩ := NamedTree.walk_relabel_label (f := setFilename filename) (fun _ => rfl) (q := place) hns
    rw [hns', Option.map_some, Option.map_some, Option.map_some, hlabel]
    split
    · rfl
    · rfl

/-- After calls, a package has the last name written there, or else its own. -/
theorem nameIn_afterCalls (hP : P.NamesFiles) (root : Root) (calls : List SchemaOptions) (package : List String) :
    P.nameIn (afterCalls P root calls) package = (P.nameIn root package).map (lastName P root calls package).getD := by
  induction calls using List.reverseRecOn with
  | nil =>
    have hcalls : afterCalls P root [] = root := rfl
    rw [hcalls]
    cases P.nameIn root package with
    | none => rfl
    | some own => rfl
  | append_singleton calls call ih =>
    have hwritten := (sameButFilenames_afterCalls P root calls).written hP call
    rw [afterCalls_snoc, lastName_snoc]
    unfold rootAfter
    rw [hwritten]
    cases hplace : written P root call with
    | none => simpa using ih
    | some place =>
      dsimp only
      rw [nameIn_relabel, ih, Option.map_map]
      by_cases h : place = package
      · subst h
        simp only [if_true, Function.comp_def]
        rfl
      · have hne : package ≠ place := fun heq => h heq.symm
        simp [h, hne, Function.comp_def]

/-! ### What is exported -/

theorem SameButFilenames.packages (hP : P.NamesFiles) (h : SameButFilenames root root') (edition : String) :
    P.packages root' edition = P.packages root edition := by
  have hfiles := hP.toDescriptor_same edition h
  unfold Protobufjs.packages
  generalize P.toDescriptor root edition = files, P.toDescriptor root' edition = files' at hfiles
  induction hfiles with
  | nil => rfl
  | cons hfile hrest ih => rw [List.map_cons, List.map_cons, ih, hfile.1]

/-- Two descriptor sets are the same when their packages have the same names. -/
theorem SameButFilenames.toDescriptor_eq_iff (hP : P.NamesFiles) (h : SameButFilenames root root')
    (hroot : DistinctNames root) (hroot' : DistinctNames root') (edition : String) :
    P.toDescriptor root' edition = P.toDescriptor root edition ↔
      ∀ package ∈ P.packages root edition, P.nameIn root' package = P.nameIn root package := by
  have hfiles := hP.toDescriptor_same edition h
  have hnames : ∀ file ∈ P.toDescriptor root edition, P.nameIn root file.package = some file.name :=
    fun file => hP.toDescriptor_named hroot
  have hnames' : ∀ file ∈ P.toDescriptor root' edition, P.nameIn root' file.package = some file.name :=
    fun file => hP.toDescriptor_named hroot'
  unfold Protobufjs.packages
  generalize P.toDescriptor root edition = files, P.toDescriptor root' edition = files' at hfiles hnames hnames'
  induction hfiles with
  | nil => simp
  | @cons file file' files files' hfile hrest ih =>
    obtain ⟨hname, hnames⟩ := List.forall_mem_cons.1 hnames
    obtain ⟨hname', hnames'⟩ := List.forall_mem_cons.1 hnames'
    obtain ⟨hpackage, hmessages⟩ := hfile
    have hhead : file' = file ↔ file'.name = file.name := by
      obtain ⟨name, package, messages⟩ := file
      obtain ⟨name', package', messages'⟩ := file'
      dsimp only at hpackage hmessages
      simp [hpackage, hmessages]
    rw [← hpackage] at hname'
    rw [List.map_cons, List.forall_mem_cons, List.cons_eq_cons, hname, hname', Option.some_inj, hhead]
    exact and_congr_right fun _ => ih hnames hnames'

/-- A call after others exports what it exports on the fresh root when no other package has another name by them. -/
theorem toDescriptor_afterCalls_iff (hP : P.NamesFiles) (hroot : DistinctNames root) (earlier : List SchemaOptions)
    (filename : String) (place : List String) (edition : String) :
    P.toDescriptor ((afterCalls P root earlier).relabel (setFilename filename) place) edition =
        P.toDescriptor (root.relabel (setFilename filename) place) edition ↔
      ∀ package ∈ P.packages root edition, package ≠ place →
        ∀ name, lastName P root earlier package = some name → P.nameIn root package = some name := by
  have hexported := (sameButFilenames_afterCalls P root earlier).relabel filename place
  have hfresh := sameButFilenames_relabel root filename place
  rw [hexported.toDescriptor_eq_iff hP (hroot.relabel _ _) ((distinctNames_afterCalls hroot earlier).relabel _ _),
    hfresh.packages hP]
  refine forall_congr' fun package => forall_congr' fun hpackage => ?_
  obtain ⟨file, hfile, rfl⟩ := List.mem_map.1 hpackage
  rw [nameIn_relabel, nameIn_relabel, nameIn_afterCalls hP, hP.toDescriptor_named hroot hfile]
  simp only [Option.map_some, Option.some_inj]
  by_cases hplace : file.package = place
  · simp [hplace]
  · rw [if_neg hplace, if_neg hplace, forall_prop_of_true hplace]
    cases lastName P root earlier file.package with
    | none => simp
    | some name => simp [eq_comm]

/-! ### Functions as documented -/

theorem messagesOf_same {ns ns' : Root} (h : SameButFilenames ns ns') : messagesOf ns = messagesOf ns' := by
  have hreach (ns : Root) : (ns.reach isType).map Prod.fst =
      ((ns.map ReflectionObject.kind).reach (· == .type)).map Prod.fst := by
    rw [NamedTree.reach_map, List.map_map]
    rfl
  unfold messagesOf
  rw [hreach, hreach, h]

/-- What is found is found by the kinds of the objects. -/
theorem search_same (h : SameButFilenames root root') (names : List String) :
    root'.search isNamespace names = root.search isNamespace names := by
  have hkind (root : Root) : (root.map ReflectionObject.kind).search (fun k => isNamespace ⟨k, none⟩) names =
      root.search isNamespace names := NamedTree.search_map names root
  rw [← hkind, ← hkind, h]

theorem isType_same (h : SameButFilenames root root') (place : List String) :
    (root'.walk (fun _ => true) place).any (·.label.isType) = (root.walk (fun _ => true) place).any (·.label.isType) := by
  have hkind (root : Root) : (root.walk (fun _ => true) place).any (·.label.isType) =
      ((root.map ReflectionObject.kind).walk (fun _ => true) place).any (·.label == .type) := by
    rw [NamedTree.walk_map, Option.any_map]
    refine congrArg (Option.any · _) (funext fun t => ?_)
    rw [NamedTree.label_map]
    rfl
  rw [hkind, hkind, h]

theorem documented_namesFiles : documented.NamesFiles := by
  refine ⟨?_, ?_, fun _ => rfl, ?_, ?_⟩
  · exact fun name h => search_same h _
  · intro root root' name h
    unfold documented
    dsimp only
    rw [search_same h]
    cases root.search isNamespace (path name) with
    | none => rfl
    | some place =>
      dsimp only
      rw [isType_same h]
  · intro root root' edition h
    have hpackages : List.Forall₂ (fun e e' => e.1 = e'.1 ∧ SameButFilenames e.2 e'.2)
        (root.reach isPackage) (root'.reach isPackage) := by
      have hkind (root : Root) : (root.map ReflectionObject.kind).reach (· == .plainNamespace) =
          (root.reach isPackage).map fun e => (e.1, e.2.map ReflectionObject.kind) := NamedTree.reach_map root
      have heq : (root.reach isPackage).map (fun e => (e.1, e.2.map ReflectionObject.kind)) =
          (root'.reach isPackage).map fun e => (e.1, e.2.map ReflectionObject.kind) := by
        rw [← hkind, ← hkind, h]
      rw [← List.forall₂_eq_eq_eq, List.forall₂_map_left_iff, List.forall₂_map_right_iff] at heq
      exact heq.imp fun e e' he => ⟨(Prod.mk.inj he).1, (Prod.mk.inj he).2⟩
    refine List.rel_filterMap (fun e e' he => ?_) hpackages
    obtain ⟨package, ns⟩ := e
    obtain ⟨package', ns'⟩ := e'
    obtain ⟨rfl, hns⟩ := he
    rw [messagesOf_same hns]
    by_cases hmessages : messagesOf ns' = []
    · rw [if_pos hmessages, if_pos hmessages]
      exact .none
    · rw [if_neg hmessages, if_neg hmessages]
      exact .some ⟨rfl, rfl⟩
  · intro root edition file hroot hfile
    obtain ⟨⟨package, ns⟩, hmem, hfile⟩ := List.mem_filterMap.1 hfile
    have hns := (NamedTree.mem_reach hroot).1 hmem
    dsimp only at hfile
    split at hfile
    · cases hfile
    · cases hfile
      unfold Protobufjs.nameIn
      rw [hns]
      rfl

/-! ## Whether the calls before matter -/

/-- Where the call gets as far as to export, every other package that has a file must have its own name still. -/
theorem schemaOf_afterCalls_iff (hP : P.NamesFiles) (hroot : DistinctNames root) (earlier : List SchemaOptions)
    (options : SchemaOptions) : schemaOf P (afterCalls P root earlier) options = schemaOf P root options ↔
      ∀ place, written P root options = some place → P.resolveAll root = .ok () →
        ∀ package ∈ P.packages root (options.edition.getD "proto3"), package ≠ place →
          ∀ name, lastName P root earlier package = some name → P.nameIn root package = some name := by
  rw [(sameButFilenames_afterCalls P root earlier).schemaOf_eq_iff hP]
  refine forall_congr' fun place => forall_congr' fun _ => forall_congr' fun _ => ?_
  exact toDescriptor_afterCalls_iff hP hroot earlier _ place _

/-! ### Two packages -/

/-- Two packages, each with a message. -/
def twoPackages : Root :=
  .node ⟨.plainNamespace, none⟩
    (.cons "events" (.node ⟨.plainNamespace, none⟩ (.cons "Event" (.node ⟨.type, none⟩ .nil) .nil))
    (.cons "orders" (.node ⟨.plainNamespace, none⟩ (.cons "Order" (.node ⟨.type, none⟩ .nil) .nil)) .nil))

theorem twoPackages_wellNamed : twoPackages.WellNamed Identifier :=
  ⟨by simp [NamedForest.names], ⟨by simp, by simp⟩, ⟨by simp [NamedForest.names], ⟨by simp, by simp⟩,
    ⟨by simp [NamedForest.names], trivial⟩, trivial⟩, ⟨by simp, by simp⟩, ⟨by simp [NamedForest.names],
    ⟨by simp, by simp⟩, ⟨by simp [NamedForest.names], trivial⟩, trivial⟩, trivial⟩

theorem twoPackages_distinctNames : DistinctNames twoPackages :=
  ⟨by simp [NamedForest.names], trivial, ⟨by simp [NamedForest.names], trivial, ⟨by simp [NamedForest.names], trivial⟩,
    trivial⟩, trivial, ⟨by simp [NamedForest.names], trivial, ⟨by simp [NamedForest.names], trivial⟩, trivial⟩, trivial⟩

def optionsFor (name filename : String) : SchemaOptions := ⟨none, name, filename, none, none, none, none⟩

/-- The call for the message of one of the packages. -/
theorem written_twoPackages {name filename package message : String} {ns d : Root} (hname : name ≠ "")
    (hfile : filename ≠ "") (hns : twoPackages.walk isPackage [package] = some ns)
    (hmessage : ns.walk isType [message] = some d) (htype : d.label.isType = true)
    (hnormal : normalizeTypeName name = join ([package] ++ [message])) :
    written documented twoPackages (optionsFor name filename) = some [package] := by
  have hlookup := lookupType_fullName twoPackages_wellNamed hns hmessage htype
  have htarget := targetNamespace_fullName documented_documented twoPackages_wellNamed hns hmessage
  rw [← hnormal] at hlookup htarget
  unfold written optionsFor
  dsimp only
  rw [if_neg (not_or.2 ⟨hname, hfile⟩), hlookup]
  exact htarget

theorem written_event (filename : String) (hfile : filename ≠ "") :
    written documented twoPackages (optionsFor "events.Event" filename) = some ["events"] := by
  have hns : twoPackages.walk isPackage ["events"] =
      some (.node ⟨.plainNamespace, none⟩ (.cons "Event" (.node ⟨.type, none⟩ .nil) .nil)) := rfl
  have hmessage : NamedTree.walk isType (.node ⟨.plainNamespace, none⟩ (.cons "Event" (.node ⟨.type, none⟩ .nil) .nil))
      ["Event"] = some (.node ⟨.type, none⟩ .nil) := rfl
  exact written_twoPackages (by simp) hfile hns hmessage rfl (by simp [join, normalizeTypeName])

theorem written_order (filename : String) (hfile : filename ≠ "") :
    written documented twoPackages (optionsFor "orders.Order" filename) = some ["orders"] := by
  have hns : twoPackages.walk isPackage ["orders"] =
      some (.node ⟨.plainNamespace, none⟩ (.cons "Order" (.node ⟨.type, none⟩ .nil) .nil)) := rfl
  have hmessage : NamedTree.walk isType (.node ⟨.plainNamespace, none⟩ (.cons "Order" (.node ⟨.type, none⟩ .nil) .nil))
      ["Order"] = some (.node ⟨.type, none⟩ .nil) := rfl
  exact written_twoPackages (by simp) hfile hns hmessage rfl (by simp [join, normalizeTypeName])

/-- A call for one message of a package does not matter to a call for the same package. -/
theorem schemaOf_event_again :
    schemaOf documented (afterCalls documented twoPackages [optionsFor "events.Event" "event.proto"])
        (optionsFor "events.Event" "events_v2.proto") =
      schemaOf documented twoPackages (optionsFor "events.Event" "events_v2.proto") := by
  refine (schemaOf_afterCalls_iff documented_namesFiles twoPackages_distinctNames _ _).2 ?_
  intro place hplace _ package _ hne name hname
  rw [written_event _ (by simp)] at hplace
  cases hplace
  rw [← List.nil_append [optionsFor "events.Event" "event.proto"], lastName_snoc, written_event _ (by simp),
    if_neg fun h => hne (Option.some.inj h).symm] at hname
  cases hname

/-- The file name of the events is exported with the orders, where it is not on a fresh root. -/
theorem schemaOf_order_after_event :
    schemaOf documented (afterCalls documented twoPackages [optionsFor "events.Event" "event.proto"])
        (optionsFor "orders.Order" "order.proto") ≠
      schemaOf documented twoPackages (optionsFor "orders.Order" "order.proto") := by
  intro heq
  have hexported := ((sameButFilenames_afterCalls documented twoPackages
    [optionsFor "events.Event" "event.proto"]).schemaOf_eq_iff documented_namesFiles _).1 heq ["orders"]
    (written_order _ (by simp)) rfl
  have hpackage : ["events"] ∈ documented.packages twoPackages "proto3" := by
    have hpackages : documented.packages twoPackages "proto3" = [["events"], ["orders"]] := rfl
    simp [hpackages]
  have hlast : lastName documented twoPackages [optionsFor "events.Event" "event.proto"] ["events"] = some "event.proto" := by
    rw [← List.nil_append [optionsFor "events.Event" "event.proto"], lastName_snoc, written_event _ (by simp), if_pos rfl]
    rfl
  have hname := (toDescriptor_afterCalls_iff documented_namesFiles twoPackages_distinctNames _ _ _ _).1 hexported
    ["events"] hpackage (by simp) _ hlast
  have hown : documented.nameIn twoPackages ["events"] = some (packageFilename ["events"]) := rfl
  rw [hown] at hname
  simp [packageFilename] at hname

end PulsarNode.ProtobufNative
