/-
Ordinary JS objects as the addon makes and reads them. An own property can be defined, which names
it as it is, or assigned, which asks the prototypes first: `__proto__` is an accessor there, and
`length` is a property of every array. Both are lists of entries, in the order of their creation.
-/
import PulsarNode.Napi.View

namespace PulsarNode

variable {α : Type}

/-! ## Own properties -/

/-- `DefineProperty` of an enumerable data property: its value is replaced, or it is added. -/
def define (key : String) (x : α) : List (String × α) → List (String × α)
  | [] => [(key, x)]
  | (k, y) :: rest => if k = key then (k, x) :: rest else (k, y) :: define key x rest

/-- What is among the properties after a definition is the new one or was there before. -/
theorem mem_define {key : String} {x : α} {props : List (String × α)} {e : String × α} (h : e ∈ define key x props) :
    e = (key, x) ∨ e ∈ props := by
  induction props with
  | nil => simpa [define] using h
  | cons e' rest ih =>
    obtain ⟨k', y⟩ := e'
    unfold define at h
    by_cases hk : k' = key
    · subst hk
      rw [if_pos rfl, List.mem_cons] at h
      rcases h with h | h
      · exact .inl h
      · exact .inr (List.mem_cons_of_mem _ h)
    · rw [if_neg hk, List.mem_cons] at h
      rcases h with h | h
      · exact .inr (h ▸ List.mem_cons_self)
      · exact (ih h).imp_right (List.mem_cons_of_mem _)

/-- A key that is not there is added at the end. -/
theorem define_fresh {key : String} {x : α} {props : List (String × α)} (h : key ∉ props.map Prod.fst) :
    define key x props = props ++ [(key, x)] := by
  induction props with
  | nil => rfl
  | cons e rest ih =>
    obtain ⟨k', y⟩ := e
    rw [List.map_cons, List.mem_cons, not_or] at h
    unfold define
    rw [if_neg fun hk => h.1 hk.symm, ih h.2]
    rfl

/-- With different keys, the next entry is under none that is there. -/
theorem fresh_of_nodup {entries props : List (String × α)} {e : String × α}
    (h : ((props ++ e :: entries).map Prod.fst).Nodup) : e.1 ∉ props.map Prod.fst := by
  rw [List.map_append, List.nodup_append] at h
  intro hmem
  exact h.2.2 _ hmem _ (by simp) rfl

/-- Entries with different keys, defined one after another. -/
theorem foldl_define {entries props : List (String × α)} (h : ((props ++ entries).map Prod.fst).Nodup) :
    entries.foldl (fun acc e => define e.1 e.2 acc) props = props ++ entries := by
  induction entries generalizing props with
  | nil => simp
  | cons e rest ih =>
    rw [List.foldl_cons, define_fresh (fresh_of_nodup h), ih (by simpa using h)]
    simp

/-! ## Assigned properties -/

/-- `obj.Set(key, value)` with a string value on a plain object: the accessor `__proto__` of `Object.prototype`
ignores a value that is not an object, and any other key is defined. -/
def assign (key value : String) (props : List (String × String)) : List (String × String) :=
  if key = "__proto__" then props else define key value props

theorem assign_of_eq {key : String} (h : key = "__proto__") (value : String) (props : List (String × String)) :
    assign key value props = props := if_pos h

theorem assign_of_ne {key : String} (h : key ≠ "__proto__") (value : String) (props : List (String × String)) :
    assign key value props = define key value props := if_neg h

/-- Entries with different keys, assigned one after another: all but one under `__proto__` are there. -/
theorem foldl_assign {entries props : List (String × String)} (h : ((props ++ entries).map Prod.fst).Nodup) :
    entries.foldl (fun acc e => assign e.1 e.2 acc) props = props ++ entries.filter (·.1 ≠ "__proto__") := by
  induction entries generalizing props with
  | nil => simp
  | cons e rest ih =>
    rw [List.foldl_cons]
    by_cases hkey : e.1 = "__proto__"
    · have hrest : ((props ++ rest).map Prod.fst).Nodup :=
        h.sublist (((List.sublist_cons_self e rest).append_left props).map Prod.fst)
      rw [assign_of_eq hkey, ih hrest, List.filter_cons_of_neg (by simp [hkey])]
    · have hrest : (((props ++ [e]) ++ rest).map Prod.fst).Nodup := by simpa using h
      rw [assign_of_ne hkey, define_fresh (fresh_of_nodup h), ih hrest, List.filter_cons_of_pos (by simp [hkey]),
        List.append_assoc]
      rfl

/-! ## Arrays -/

/-- A JS array used as an object: its length and its own enumerable properties, elements included. -/
structure JsArray where
  length : Nat
  props : List (String × String)
  deriving DecidableEq, Repr

namespace JsArray

def new : JsArray := ⟨0, []⟩

/-- The index that a property key stands for, if it is an array index. -/
def arrayIndex (key : String) : Option Nat :=
  key.toNat?.filter fun n => toString n == key && decide (n < 2 ^ 32 - 1)

/-- `arr.Set(key, value)` with a string value: an assignment. `toLength` is what a string comes to as
an array length, `none` where it is not one. -/
def set (toLength : String → Option Nat) (key value : String) (arr : JsArray) : Except JsError JsArray :=
  if key = "length" then
    match toLength value with
    | none => .error (.error "Invalid array length")
    | some n =>
      .ok ⟨n, arr.props.filter fun e => (arrayIndex e.1).all (· < n)⟩
  else if key = "__proto__" then
    -- the accessor of `Object.prototype` ignores a value that is not an object
    .ok arr
  else
    .ok ⟨match arrayIndex key with
      | some i => max arr.length (i + 1)
      | none => arr.length, define key value arr.props⟩

variable {toLength : String → Option Nat} {arr arr' : JsArray} {key value : String}

/-- An assignment to any other key defines the property. -/
theorem set_eq (toLength : String → Option Nat) (arr : JsArray) (value : String) (h1 : key ≠ "length") (h2 : key ≠ "__proto__") :
    ∃ n, arr.set toLength key value = .ok ⟨n, define key value arr.props⟩ := by
  unfold set
  rw [if_neg h1, if_neg h2]
  exact ⟨_, rfl⟩

/-- An assignment makes a property under an ordinary key, or none. -/
theorem mem_set {e : String × String} (h : arr.set toLength key value = .ok arr') (he : e ∈ arr'.props) :
    e = (key, value) ∧ key ≠ "length" ∧ key ≠ "__proto__" ∨ e ∈ arr.props := by
  unfold set at h
  split at h
  · split at h <;> cases h
    exact .inr (List.mem_filter.1 he).1
  · split at h <;> cases h
    · exact .inr he
    · exact (mem_define he).imp_left fun heq => ⟨heq, by assumption, by assumption⟩

/-- The entries assigned in order. -/
def assignAll (toLength : String → Option Nat) (entries : List (String × String)) (arr : JsArray) :
    Except JsError JsArray :=
  entries.foldlM (fun arr e => arr.set toLength e.1 e.2) arr

/-- Entries under ordinary keys become the properties of the array. -/
theorem assignAll_eq {entries : List (String × String)} (hkeys : ∀ e ∈ entries, e.1 ≠ "length" ∧ e.1 ≠ "__proto__")
    (hnodup : ((arr.props ++ entries).map Prod.fst).Nodup) :
    ∃ n, assignAll toLength entries arr = .ok ⟨n, arr.props ++ entries⟩ := by
  suffices h : ∀ (entries : List (String × String)) (arr : JsArray),
      (∀ e ∈ entries, e.1 ≠ "length" ∧ e.1 ≠ "__proto__") →
      ∃ n, assignAll toLength entries arr = .ok ⟨n, entries.foldl (fun acc e => define e.1 e.2 acc) arr.props⟩ by
    obtain ⟨n, hn⟩ := h entries arr hkeys
    exact ⟨n, by rw [hn, foldl_define hnodup]⟩
  intro entries
  induction entries with
  | nil => exact fun arr _ => ⟨arr.length, rfl⟩
  | cons e rest ih =>
    intro arr hkeys
    obtain ⟨n, hn⟩ := set_eq toLength arr e.2 (hkeys e List.mem_cons_self).1 (hkeys e List.mem_cons_self).2
    obtain ⟨m, hm⟩ := ih ⟨n, define e.1 e.2 arr.props⟩ fun e' he' => hkeys e' (List.mem_cons_of_mem _ he')
    refine ⟨m, ?_⟩
    unfold assignAll at hm ⊢
    rw [List.foldlM_cons, hn]
    exact hm

/-- Whatever is assigned, the properties that come of it were among the entries, under ordinary keys. -/
theorem mem_assignAll {entries : List (String × String)} {e : String × String}
    (h : assignAll toLength entries arr = .ok arr') (he : e ∈ arr'.props) :
    e ∈ entries ∧ e.1 ≠ "length" ∧ e.1 ≠ "__proto__" ∨ e ∈ arr.props := by
  induction entries generalizing arr with
  | nil =>
    cases h
    exact .inr he
  | cons e' rest ih =>
    unfold assignAll at h
    rw [List.foldlM_cons] at h
    cases hs : arr.set toLength e'.1 e'.2 with
    | error ex =>
      rw [hs] at h
      cases h
    | ok arr₁ =>
      rw [hs] at h
      rcases ih h with ⟨hmem, hne⟩ | hmem
      · exact .inl ⟨List.mem_cons_of_mem _ hmem, hne⟩
      · rcases mem_set hs hmem with ⟨rfl, hne⟩ | hmem
        · exact .inl ⟨List.mem_cons_self, hne⟩
        · exact .inr hmem

end JsArray

/-! ## Elements -/

/-- `arr.Set(i, x)`: the element is replaced, or put behind the others; what is skipped is a hole. -/
def setElement (i : Nat) (x : α) (arr : List (Option α)) : List (Option α) :=
  arr.take i ++ List.replicate (i - arr.length) none ++ some x :: arr.drop (i + 1)

theorem setElement_length (x : α) (arr : List (Option α)) : setElement arr.length x arr = arr ++ [some x] := by
  simp [setElement]

/-- Elements set one after another, counted from the first, are a list without holes. -/
theorem foldl_setElement {β : Type} (f : β → α) (xs : List β) (arr : List (Option α)) :
    xs.foldl (fun acc x => (acc.1 + 1, setElement acc.1 (f x) acc.2)) (arr.length, arr) =
      (arr.length + xs.length, arr ++ xs.map fun x => some (f x)) := by
  induction xs generalizing arr with
  | nil => simp
  | cons x rest ih =>
    have hnext := ih (arr ++ [some (f x)])
    rw [List.length_append, List.length_singleton] at hnext
    rw [List.foldl_cons, setElement_length, hnext]
    simp [Nat.add_assoc, Nat.add_comm 1]

/-! ## Objects in a view -/

/-- The view shows under `o` an object whose own enumerable properties, in the order in which JS
enumerates them, are `entries`; the engine keeps their number below `2^31`. -/
structure View.ShowsEntries (v : View) (ans : (q : Query) → q.Resp → Prop) (o : JsValue)
    (entries : List (String × String)) : Prop where
  isObject : o.isObject = true
  size : entries.length < 2 ^ 31
  names : ∀ arr : JsValue, ans (.js (.getPropertyNames o)) arr → v.elements arr = entries.map fun e => .string e.1
  values : ∀ e ∈ entries, v.get o e.1 = .string e.2

/-- The value of an own property of an object that the addon makes. -/
inductive OwnValue
  | string (s : String)
  | buffer (bytes : List UInt8)
  | object (props : List (String × String))
  deriving DecidableEq, Repr

/-- The view shows `x` as such a value; JS enumerates the properties of an object in an order of its own. -/
def View.ShowsValue (v : View) (ans : (q : Query) → q.Resp → Prop) (x : JsValue) : OwnValue → Prop
  | .string s => x = .string s
  | .buffer bytes => x.isBuffer = true ∧ v (.bufferBytes x) = bytes
  | .object props => ∃ entries, v.ShowsEntries ans x entries ∧ entries.Perm props

/-- The view shows under `o` an object with these own properties. -/
structure View.ShowsObject (v : View) (ans : (q : Query) → q.Resp → Prop) (o : JsValue)
    (props : List (String × OwnValue)) : Prop where
  isObject : o.isObject = true
  values : ∀ e ∈ props, v.ShowsValue ans (v.option o e.1) e.2

/-- Objects on which nothing raises, each known by its identity: its properties, its elements, its
bytes, the handle that it wraps and the array of its property names. -/
structure Heap where
  props : Nat → List (String × JsValue)
  elements : Nat → List JsValue
  bytes : Nat → List UInt8
  handle : Nat → Handle
  names : Nat → Nat

namespace Heap

/-- The text of the primitive values without a number in them. Of the other conversions, too, those
of values of the type asked for are the ones of JS. -/
def display : JsValue → String
  | .undefined => "undefined"
  | .null => "null"
  | .bool b => if b then "true" else "false"
  | .string s => s
  | _ => ""

def view (h : Heap) : View
  | .has (.object _ i) key => (h.props i).any (·.1 == key)
  | .has _ _ => false
  | .get (.object _ i) key => ((h.props i).lookup key).getD .undefined
  | .get _ _ => JsValue.undefined
  | .getAt (.object _ i) n => (h.elements i).getD n .undefined
  | .getAt _ _ => JsValue.undefined
  | .length (.object _ i) => UInt32.ofNat (h.elements i).length
  | .length _ => (0 : UInt32)
  | .getPropertyNames (.object _ i) => JsValue.object .array (h.names i)
  | .getPropertyNames _ => JsValue.undefined
  | .toString v => display v
  | .toNumber (.number x) => x
  | .toNumber _ => JsNumber.nan
  | .toBoolean v => v == .bool true
  | .toObject v => v
  | .bufferBytes (.object _ i) => h.bytes i
  | .bufferBytes _ => ([] : List UInt8)
  | .unwrapMessageId (.object _ i) => some (h.handle i)
  | .unwrapMessageId _ => (none : Option Handle)
  | .unwrapCryptoKeyReader (.object _ i) => h.handle i
  | .unwrapCryptoKeyReader _ => (0 : Nat)
  | .unwrapAuthentication (.object _ i) => some (h.handle i)
  | .unwrapAuthentication _ => (none : Option Handle)
  | .newThreadSafeFunction _ => (0 : Nat)
  | .newReference _ => ()

theorem lawful (h : Heap) : h.view.Lawful := ⟨fun _ => rfl, fun _ => rfl, fun b => by cases b <;> rfl, fun _ _ => rfl⟩

/-- The JS side with these objects, beside a native side whose setters succeed and whose calls wait. -/
def sides (h : Heap) : Sides Unit Unit where
  js q j := (.ok (h.view q), j)
  setter _ n := (.ok 0, n)
  start _ n := (none, n)
  createClient _ n := (.ok (), n)

theorem steady (h : Heap) : h.view.Steady h.sides := by
  rintro q r j j' - hr
  cases hr
  rfl

/-- What the two sides answer: a read as the heap's view says, the making of an array of names included,
and a setter with 0. -/
def Told (h : Heap) : (q : Query) → q.Resp → Prop
  | .js q, r => r = h.view q
  | .setter _, (status : Int) => status = 0
  | .newListener .., _ | .throwAsJavaScriptException _, _ | .start _, _ | .createClient _, _ => True

theorem told (h : Heap) {q : Query} {w w' : World Unit Unit} {r : q.Resp} (hr : h.sides.answer q w = (.ok r, w')) :
    h.Told q r := by
  cases q with
  | js q =>
    simp only [Sides.answer, Sides.answerJs, Heap.sides] at hr
    split at hr <;> cases hr
    rfl
  | setter c =>
    cases hr
    rfl
  | _ => trivial

section

variable {S α : Type} {p : Napi S α} {s : S} {w : World Unit Unit}

theorem answered_told (h : Heap) {q : Query} {r : q.Resp} (hr : Prog.Answered h.sides.answer p s w q r) :
    h.Told q r := by
  have htold : ∀ q w r w', h.sides.answer q w = (.ok r, w') → h.Told q r := fun _ _ _ _ => h.told
  exact Prog.Answered.of_steady htold hr

theorem answered (h : Heap) {q : JsQuery} {r : q.Resp} (hr : Prog.Answered h.sides.answer p s w (.js q) r) :
    r = h.view q := h.answered_told hr

theorem setter_answered (h : Heap) {c : Setter} {status : Int}
    (hr : Prog.Answered h.sides.answer p s w (.setter c) status) : status = 0 := h.answered_told hr

end

/-- An option that is there is one of the properties. -/
theorem mem_props (h : Heap) {k : ObjKind} {i : Nat} {key : String} {x : JsValue}
    (hx : h.view.option (.object k i) key = x) (hne : x ≠ .undefined) : (key, x) ∈ h.props i := by
  unfold View.option at hx
  split at hx
  · have hget : ((h.props i).lookup key).getD .undefined = x := hx
    cases hl : (h.props i).lookup key with
    | none =>
      rw [hl] at hget
      exact absurd hget.symm hne
    | some y =>
      obtain rfl : y = x := by simpa [hl] using hget
      obtain ⟨before, after, heq, -⟩ := List.lookup_eq_some_iff.1 hl
      rw [heq]
      simp
  · exact absurd hx.symm hne

/-- A run that returns is one on plain data. -/
theorem plainRun (h : Heap) {S α : Type} {p : Napi S α} {s s' : S} {w w' : World Unit Unit} {a : α}
    (hrun : p.run h.sides.answer s w = (.ok a, s', w')) : h.view.PlainRun h.sides p s w :=
  ⟨h.lawful, h.steady.shown p s w, fun _ _ _ => Prog.not_refused hrun⟩

theorem showsEntries (h : Heap) {S α : Type} {p : Napi S α} {s : S} {w : World Unit Unit} {k : ObjKind} {i : Nat}
    {entries : List (String × String)} (hsize : entries.length < 2 ^ 31)
    (hnames : h.view.elements (.object .array (h.names i)) = entries.map fun e => .string e.1)
    (hvalues : ∀ e ∈ entries, h.view.get (.object k i) e.1 = .string e.2) :
    h.view.ShowsEntries (Prog.Answered h.sides.answer p s w) (.object k i) entries := by
  refine ⟨rfl, hsize, fun arr harr => ?_, hvalues⟩
  rw [h.answered harr]
  exact hnames

/-- An object without properties, as most identities are. -/
def empty : Heap := ⟨fun _ => [], fun _ => [], fun _ => [], fun _ => 0, fun _ => 0⟩

end Heap

end PulsarNode
