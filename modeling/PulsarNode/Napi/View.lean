/-
JS values that answer in one way: a view says what each read and conversion gives. A view is shown
in a run when every read of the run that is answered is answered as the view says; nothing is said
of reads that the run does not come to, nor of what they do when they raise. The rules below read
the patterns of the configuration parsers off a view.
-/
import PulsarNode.Napi.Query
import PulsarNode.Prog.Ensures

namespace PulsarNode

/-! ## Views -/

/-- The reads that give the same answer each time. Node-API makes a new array or a new function for
the others. -/
def JsQuery.steady : JsQuery → Prop
  | getPropertyNames _ | newThreadSafeFunction _ => False
  | _ => True

/-- The reads that JS does not refuse on plain data: property reads, and conversions of values that
are of the type asked for. -/
def JsQuery.plain : JsQuery → Prop
  | has _ _ | get _ _ | getAt _ _ | length _ | getPropertyNames _ => True
  | toString v => v.isString = true
  | toNumber v => v.isNumber = true
  | toBoolean v => v.isBoolean = true
  | toObject v => v.isObject = true
  | bufferBytes v => v.isBuffer = true
  | _ => False

/-- Plain reads, and calls of setters. -/
def Query.plain : Query → Prop
  | .js q => q.plain
  | .setter _ => True
  | .newListener .. | .throwAsJavaScriptException _ | .start _ | .createClient _ => False

/-- What each read gives. -/
abbrev View := (q : JsQuery) → q.Resp

namespace JsValue

def asString : JsValue → Option String
  | string s => some s
  | _ => none

def asNumber : JsValue → Option JsNumber
  | number x => some x
  | _ => none

def asBoolean : JsValue → Option Bool
  | bool b => some b
  | _ => none

/-- The value, if it is of a kind. -/
def only (is : JsValue → Bool) (v : JsValue) : Option JsValue := if is v then some v else none

@[simp] theorem isString_iff {v : JsValue} : v.isString = true ↔ ∃ s, v = .string s := by
  cases v <;> simp [isString]

@[simp] theorem isNumber_iff {v : JsValue} : v.isNumber = true ↔ ∃ x, v = .number x := by
  cases v <;> simp [isNumber]

@[simp] theorem isBoolean_iff {v : JsValue} : v.isBoolean = true ↔ ∃ b, v = .bool b := by
  cases v <;> simp [isBoolean]

@[simp] theorem isObject_iff {v : JsValue} : v.isObject = true ↔ ∃ k i, v = .object k i := by
  cases v <;> simp [isObject]

theorem asString_eq_some {v : JsValue} {s : String} : v.asString = some s ↔ v = .string s := by
  cases v <;> simp [asString]

theorem asString_eq_none {v : JsValue} : v.asString = none ↔ v.isString = false := by
  cases v <;> simp [asString, isString]

theorem asNumber_eq_none {v : JsValue} : v.asNumber = none ↔ v.isNumber = false := by
  cases v <;> simp [asNumber, isNumber]

theorem asBoolean_eq_none {v : JsValue} : v.asBoolean = none ↔ v.isBoolean = false := by
  cases v <;> simp [asBoolean, isBoolean]

end JsValue

namespace View

/-- The conversions leave a value of their own type as it is. -/
structure Lawful (v : View) : Prop where
  toString : ∀ s, v (.toString (.string s)) = s
  toNumber : ∀ x, v (.toNumber (.number x)) = x
  toBoolean : ∀ b, v (.toBoolean (.bool b)) = b
  toObject : ∀ k i, v (.toObject (.object k i)) = .object k i

abbrev has (v : View) (o : JsValue) (key : String) : Bool := v (.has o key)

abbrev get (v : View) (o : JsValue) (key : String) : JsValue := v (.get o key)

abbrev getAt (v : View) (arr : JsValue) (i : Nat) : JsValue := v (.getAt arr i)

/-- `arr.Length()`. -/
def size (v : View) (arr : JsValue) : Nat := UInt32.toNat (v (.length arr))

/-- `config.Has(key)` and `config.Get(key)` together: an option that is absent is `undefined`. -/
def option (v : View) (o : JsValue) (key : String) : JsValue :=
  if v.has o key then v.get o key else .undefined

/-- An option that passed its check is the value that a second read gives. -/
theorem get_eq_option {v : View} {o : JsValue} {key : String} (is : JsValue → Bool) (his : is .undefined = false)
    (h : is (v.option o key) = true) : v.get o key = v.option o key := by
  unfold option at h ⊢
  by_cases hb : v.has o key = true
  · rw [if_pos hb]
  · rw [if_neg hb, his] at h
    cases h

def string (v : View) (o : JsValue) (key : String) : Option String := (v.option o key).asString

def number (v : View) (o : JsValue) (key : String) : Option JsNumber := (v.option o key).asNumber

def boolean (v : View) (o : JsValue) (key : String) : Option Bool := (v.option o key).asBoolean

def object (v : View) (o : JsValue) (key : String) : Option JsValue := (v.option o key).only JsValue.isObject

def array (v : View) (o : JsValue) (key : String) : Option JsValue := (v.option o key).only JsValue.isArray

/-- A string option that names an entry of a table. -/
def named {α : Type} (v : View) (o : JsValue) (key : String) (table : List (String × α)) : Option α :=
  (v.string o key).bind fun name => table.lookup name

/-- The elements of an array, in order. -/
def elements (v : View) (arr : JsValue) : List JsValue := (List.range (v.size arr)).map (v.getAt arr)

@[simp] theorem length_elements (v : View) (arr : JsValue) : (v.elements arr).length = v.size arr := by
  simp [elements]

theorem elements_take_succ (v : View) (arr : JsValue) {i : Nat} (hi : i < v.size arr) :
    (v.elements arr).take (i + 1) = (v.elements arr).take i ++ [v.getAt arr i] := by
  rw [List.take_succ_eq_append_getElem (by simpa using hi)]
  simp [elements]

theorem elements_take_size (v : View) (arr : JsValue) : (v.elements arr).take (v.size arr) = v.elements arr := by
  rw [← v.length_elements arr, List.take_length]

/-- Every read of the run that is answered is answered as the view says. -/
def Shown {J N S α : Type} (v : View) (sides : Sides J N) (p : Napi S α) (s : S) (w : World J N) : Prop :=
  ∀ (q : JsQuery) (r : q.Resp), q.steady → Prog.Answered sides.answer p s w (.js q) r → r = v q

/-- A JS side that gives the answers of the view whenever it answers. -/
def Steady {J N : Type} (v : View) (sides : Sides J N) : Prop :=
  ∀ (q : JsQuery) (r : q.Resp) (j j' : J), q.steady → sides.js q j = (.ok r, j') → r = v q

theorem Steady.answerJs {J N : Type} {v : View} {sides : Sides J N} (h : v.Steady sides) {q : JsQuery}
    {w w' : World J N} {r : q.Resp} (hq : q.steady) (hr : sides.answerJs q w = (.ok r, w')) : r = v q := by
  unfold Sides.answerJs at hr
  split at hr
  · cases hr
  · split at hr <;> cases hr
    exact h q r _ _ hq (by assumption)

/-- Such a side shows the view in every run. -/
theorem Steady.shown {J N S α : Type} {v : View} {sides : Sides J N} (h : v.Steady sides) (p : Napi S α) (s : S)
    (w : World J N) : v.Shown sides p s w := by
  rintro q r hq hr
  let told : (q : Query) → q.Resp → Prop := fun
    | .js q, r => q.steady → r = v q
    | .newListener .., _ | .throwAsJavaScriptException _, _ | .setter _, _ | .start _, _ | .createClient _, _ => True
  have htold : ∀ q w r w', sides.answer q w = (.ok r, w') → told q r := by
    intro q w r w' hans
    cases q with
    | js q => exact fun hq => h.answerJs hq hans
    | _ => trivial
  exact Prog.Answered.of_steady htold hr hq

end View

/-! ## Reading a view -/

/-- The answers are those of the view, and the program may ask for plain data. -/
structure Reading (v : View) (ans : (q : Query) → q.Resp → Prop) (may : Query → Prop) : Prop where
  lawful : v.Lawful
  told : ∀ q r, q.steady → ans (.js q) r → r = v q
  plain : ∀ q, q.plain → may (.js q)

/-- A run in which a lawful view is shown. -/
theorem View.Shown.reading {J N S α : Type} {v : View} {sides : Sides J N} {p : Napi S α} {s : S} {w : World J N}
    (h : v.Shown sides p s w) (hv : v.Lawful) :
    Reading v (Prog.Answered sides.answer p s w) (fun _ => True) := ⟨hv, h, fun _ _ => trivial⟩

/-- A run on plain data: a lawful view is shown, and no plain read and no setter is refused. -/
structure View.PlainRun {J N S α : Type} (v : View) (sides : Sides J N) (p : Napi S α) (s : S) (w : World J N) : Prop where
  lawful : v.Lawful
  shown : v.Shown sides p s w
  plain : ∀ (q : Query) e, q.plain → ¬ Prog.Refused sides.answer p s w q e

theorem View.PlainRun.reading {J N S α : Type} {v : View} {sides : Sides J N} {p : Napi S α} {s : S} {w : World J N}
    (h : v.PlainRun sides p s w) : Reading v (Prog.Answered sides.answer p s w) Query.plain :=
  ⟨h.lawful, h.shown, fun _ hq => hq⟩

/-- Such a run returns. -/
theorem View.PlainRun.ends {J N S α : Type} {v : View} {sides : Sides J N} {p : Napi S α} {s : S} {w : World J N}
    (h : v.PlainRun sides p s w) {post : α → S → Prop}
    (hp : Prog.ensures (Prog.Answered sides.answer p s w) Query.plain p post s) :
    ∃ a s' w', p.run sides.answer s w = (.ok a, s', w') ∧ post a s' :=
  Prog.ensures_run_total hp (fun _ _ h => h) h.plain

namespace Reading

open Napi Prog

variable {v : View} {ans : (q : Query) → q.Resp → Prop} {may : Query → Prop} {S β γ : Type}
  {o : JsValue} {key : String} {s : S}

theorem js (R : Reading v ans may) {q : JsQuery} (hs : q.steady) (hm : may (.js q)) :
    Gives ans may (Napi.js q : Napi S q.Resp) (v q) s := ⟨hm, fun r hr => ⟨R.told q r hs hr, rfl⟩⟩

/-- One read of plain data. -/
theorem read (R : Reading v ans may) {q : JsQuery} (hs : q.steady) (hp : q.plain) :
    Gives ans may (Napi.js q : Napi S q.Resp) (v q) s := R.js hs (R.plain q hp)

theorem has (R : Reading v ans may) : Gives ans may (Napi.has o key) (v.has o key) s := R.read trivial trivial

theorem get (R : Reading v ans may) : Gives ans may (Napi.get o key) (v.get o key) s := R.read trivial trivial

theorem getAt (R : Reading v ans may) {i : Nat} : Gives ans may (Napi.getAt o i) (v.getAt o i) s :=
  R.read trivial trivial

theorem toString (R : Reading v ans may) {t : String} : Gives ans may (Napi.toString (.string t)) t s := by
  have h : Gives ans may (Napi.toString (.string t)) _ s := R.read (q := .toString (.string t)) trivial rfl
  rwa [R.lawful.toString] at h

theorem toNumber (R : Reading v ans may) {x : JsNumber} : Gives ans may (Napi.toNumber (.number x)) x s := by
  have h : Gives ans may (Napi.toNumber (.number x)) _ s := R.read (q := .toNumber (.number x)) trivial rfl
  rwa [R.lawful.toNumber] at h

theorem toBoolean (R : Reading v ans may) {b : Bool} : Gives ans may (Napi.toBoolean (.bool b)) b s := by
  have h : Gives ans may (Napi.toBoolean (.bool b)) _ s := R.read (q := .toBoolean (.bool b)) trivial rfl
  rwa [R.lawful.toBoolean] at h

theorem toObject (R : Reading v ans may) {x : JsValue} (hx : x.isObject = true) :
    Gives ans may (Napi.toObject x) x s := by
  obtain ⟨k, i, rfl⟩ := JsValue.isObject_iff.1 hx
  have h : Gives ans may (Napi.toObject (.object k i)) _ s := R.read (q := .toObject (.object k i)) trivial rfl
  rwa [R.lawful.toObject] at h

theorem hasAs (R : Reading v ans may) {is : JsValue → Bool} (his : is .undefined = false) :
    Gives ans may (Napi.hasAs o key is) (is (v.option o key)) s := by
  refine R.has.bind ?_
  unfold View.option
  by_cases hb : v.has o key = true
  · rw [if_pos hb, if_pos hb]
    exact R.get.bind (.pure _)
  · rw [if_neg hb, if_neg hb, his]
    exact .pure false

theorem getString (R : Reading v ans may) {t : String} (ht : v.option o key = .string t) :
    Gives ans may (Napi.getString o key) t s := by
  have hg : v.get o key = .string t := by
    rw [View.get_eq_option JsValue.isString rfl (by simp [ht]), ht]
  refine R.get.bind ?_
  rw [hg]
  exact R.toString

theorem getNumber (R : Reading v ans may) {x : JsNumber} (hx : v.option o key = .number x) :
    Gives ans may (Napi.getNumber o key) x s := by
  have hg : v.get o key = .number x := by
    rw [View.get_eq_option JsValue.isNumber rfl (by simp [hx]), hx]
  refine R.get.bind ?_
  rw [hg]
  exact R.toNumber

theorem getBoolean (R : Reading v ans may) {b : Bool} (hb : v.option o key = .bool b) :
    Gives ans may (Napi.getBoolean o key) b s := by
  have hg : v.get o key = .bool b := by
    rw [View.get_eq_option JsValue.isBoolean rfl (by simp [hb]), hb]
  refine R.get.bind ?_
  rw [hg]
  exact R.toBoolean

theorem getObject (R : Reading v ans may) (ho : (v.option o key).isObject = true) :
    Gives ans may (Napi.getObject o key) (v.option o key) s := by
  have hg : v.get o key = v.option o key := View.get_eq_option JsValue.isObject rfl ho
  refine R.get.bind ?_
  rw [hg]
  exact R.toObject ho

/-! ### Options -/

theorem ifString (R : Reading v ans may) {use : String → Napi S Unit} {post : Unit → S → Prop}
    (hsome : ∀ t, v.string o key = some t → ensures ans may (use t) post s)
    (hnone : v.string o key = none → post () s) : ensures ans may (Napi.ifString o key use) post s := by
  unfold View.string at hsome hnone
  refine (R.hasAs rfl).seq ?_
  cases hb : (v.option o key).isString with
  | false => exact hnone (JsValue.asString_eq_none.2 hb)
  | true =>
    obtain ⟨t, ht⟩ := JsValue.isString_iff.1 hb
    exact (R.getString ht).seq (hsome t (by rw [ht]; rfl))

theorem ifNumber (R : Reading v ans may) {use : JsNumber → Napi S Unit} {post : Unit → S → Prop}
    (hsome : ∀ x, v.number o key = some x → ensures ans may (use x) post s)
    (hnone : v.number o key = none → post () s) : ensures ans may (Napi.ifNumber o key use) post s := by
  unfold View.number at hsome hnone
  refine (R.hasAs rfl).seq ?_
  cases hb : (v.option o key).isNumber with
  | false => exact hnone (JsValue.asNumber_eq_none.2 hb)
  | true =>
    obtain ⟨x, hx⟩ := JsValue.isNumber_iff.1 hb
    exact (R.getNumber hx).seq (hsome x (by rw [hx]; rfl))

theorem ifBoolean (R : Reading v ans may) {use : Bool → Napi S Unit} {post : Unit → S → Prop}
    (hsome : ∀ b, v.boolean o key = some b → ensures ans may (use b) post s)
    (hnone : v.boolean o key = none → post () s) : ensures ans may (Napi.ifBoolean o key use) post s := by
  unfold View.boolean at hsome hnone
  refine (R.hasAs rfl).seq ?_
  cases hb : (v.option o key).isBoolean with
  | false => exact hnone (JsValue.asBoolean_eq_none.2 hb)
  | true =>
    obtain ⟨b, hb'⟩ := JsValue.isBoolean_iff.1 hb
    exact (R.getBoolean hb').seq (hsome b (by rw [hb']; rfl))

theorem ifObject (R : Reading v ans may) {use : JsValue → Napi S Unit} {post : Unit → S → Prop}
    (hsome : ∀ x, v.object o key = some x → ensures ans may (use x) post s)
    (hnone : v.object o key = none → post () s) : ensures ans may (Napi.ifObject o key use) post s := by
  unfold View.object JsValue.only at hsome hnone
  refine (R.hasAs rfl).seq ?_
  cases hb : (v.option o key).isObject with
  | false => exact hnone (by simp [hb])
  | true => exact (R.getObject hb).seq (hsome _ (by simp [hb]))

theorem ifNamed (R : Reading v ans may) {α : Type} {table : List (String × α)} {use : α → Napi S Unit}
    {post : Unit → S → Prop} (hsome : ∀ x, v.named o key table = some x → ensures ans may (use x) post s)
    (hnone : v.named o key table = none → post () s) : ensures ans may (Napi.ifNamed o key table use) post s := by
  unfold View.named at hsome hnone
  refine R.ifString (fun t ht => ?_) fun ht => hnone (by rw [ht]; rfl)
  rw [ht] at hsome hnone
  dsimp only [Option.bind_some] at hsome hnone
  cases hl : table.lookup t with
  | none => exact hnone hl
  | some x => exact hsome x hl

/-! ### Loops -/

/-- The loop over the elements of an array, whose length is asked anew before each pass. -/
theorem forLength (R : Reading v ans may) {arr : JsValue} {body : Nat → β → Napi S (Except γ β)}
    (inv : Nat → β → S → Prop) (left : γ → S → Prop)
    (hbody : ∀ i acc s, i < v.size arr → inv i acc s →
      ensures ans may (body i acc) (fun r => r.casesOn left (inv (i + 1))) s) {acc : β} (h : inv 0 acc s) :
    ensures ans may (Napi.forLength arr body acc) (fun r => r.casesOn left (inv (v.size arr))) s := by
  have hlt : v.size arr < 2 ^ 32 := UInt32.toNat_lt _
  unfold Napi.forLength
  -- the bound stays a number: nothing here evaluates the passes
  generalize 2 ^ 32 = fuel at hlt ⊢
  refine ensures_forLoop inv left (fun i acc s _ hi => ?_) hbody fuel 0 acc s (Nat.zero_le _) (by omega) h
  have hlen : Gives ans may (Napi.length arr) (v (.length arr)) s := R.read trivial trivial
  exact hlen.seq ⟨rfl, hi⟩

/-- An option that is an array: each string among its elements is used, in order. -/
theorem forStrings (R : Reading v ans may) {use : String → Napi S Unit} (inv : List String → S → Prop) (hnil : inv [] s)
    (huse : ∀ ts t s, inv ts s → ensures ans may (use t) (fun _ s' => inv (ts ++ [t]) s') s) :
    ensures ans may (do
      if ← Napi.hasAs o key JsValue.isArray then
        let arr ← Napi.get o key
        let _ ← Napi.forLength (γ := Empty) arr (fun i _ => do
          if (← Napi.getAt arr i).isString then
            let t ← Napi.toString (← Napi.getAt arr i)
            use t
          return .ok ()) () : Napi S Unit)
      (fun _ s' => inv (match v.array o key with
        | none => []
        | some arr => (v.elements arr).filterMap JsValue.asString) s') s := by
  refine (R.hasAs rfl).seq ?_
  unfold View.array JsValue.only
  cases harr : (v.option o key).isArray with
  | false => simpa using hnil
  | true =>
    refine R.get.seq ?_
    rw [View.get_eq_option JsValue.isArray rfl harr]
    generalize v.option o key = arr
    -- after `i` passes, the strings among the first `i` elements have been used
    refine ensures_seq (R.forLength (fun i _ s' => inv (((v.elements arr).take i).filterMap JsValue.asString) s')
      (fun e => e.elim) (fun i _ s' hi hinv => ?_) (by simpa using hnil)) ?_
    · rw [v.elements_take_succ arr hi, List.filterMap_append]
      refine R.getAt.seq ?_
      cases hstr : (v.getAt arr i).isString with
      | false =>
        have hnone := JsValue.asString_eq_none.2 hstr
        simpa [hnone] using hinv
      | true =>
        obtain ⟨t, ht⟩ := JsValue.isString_iff.1 hstr
        refine R.getAt.seq ?_
        rw [ht]
        refine R.toString.seq (ensures_seq (huse _ t s' hinv) fun _ s'' hs'' => ?_)
        simpa [JsValue.asString] using hs''
    · rintro r s' hr
      cases r with
      | error e => exact e.elim
      | ok u =>
        rw [ensures_pure]
        simpa [v.elements_take_size] using hr

/-- The loop whose bound is a length stored in an `int`. -/
theorem forSize (R : Reading v ans may) {arr : JsValue} {body : Nat → β → Napi S β} (inv : Nat → β → S → Prop)
    (hbody : ∀ i acc s, i < (toInt (v.size arr)).toNat → inv i acc s →
      ensures ans may (body i acc) (inv (i + 1)) s) {acc : β} (h : inv 0 acc s) :
    ensures ans may (Napi.forSize arr body acc) (inv (toInt (v.size arr)).toNat) s := by
  have hlen : Gives ans may (Napi.length arr) (v (.length arr)) s := R.read trivial trivial
  refine hlen.seq ?_
  have hsize : toInt (UInt32.toNat (v (.length arr))) = toInt (v.size arr) := rfl
  dsimp only
  rw [hsize]
  -- the size stays a number: nothing here evaluates it
  generalize toInt (v.size arr) = size at hbody ⊢
  refine ensures_seq (ensures_forInt inv (fun e => e.elim) (fun i acc s hi hinv => ?_) h) ?_
  · exact ensures_seq (hbody i acc s hi hinv) fun acc' s' h' => h'
  · rintro r s' hr
    cases r with
    | error e => exact e.elim
    | ok acc' => exact hr

/-- A length below `2^31` is kept by an `int`. -/
theorem toInt_length {n : Nat} (h : n < 2 ^ 31) : (toInt n).toNat = n := by
  unfold toInt
  rw [Int.bmod_eq_of_le] <;> omega

/-- The loop over the properties of an object whose names and values are those of `entries`. -/
theorem forProperties (R : Reading v ans may) {lookup : String → String} {body : String → String → β → Napi S β}
    {entries : List (String × String)} (hsize : entries.length < 2 ^ 31)
    (hnames : ∀ arr : JsValue, ans (.js (.getPropertyNames o)) arr →
      v.elements arr = entries.map fun e => .string e.1)
    (hvalues : ∀ e ∈ entries, v.get o (lookup e.1) = .string e.2) (inv : Nat → β → S → Prop)
    (hbody : ∀ i acc s, (hi : i < entries.length) → inv i acc s →
      ensures ans may (body entries[i].1 entries[i].2 acc) (inv (i + 1)) s) {acc : β} (h : inv 0 acc s) :
    ensures ans may (Napi.forProperties o lookup body acc) (inv entries.length) s := by
  refine ⟨R.plain (.getPropertyNames o) trivial, fun (arr : JsValue) harr => ?_⟩
  have hel := hnames arr harr
  have hlen : v.size arr = entries.length := by rw [← v.length_elements arr, hel, List.length_map]
  have hget : ∀ i, (hi : i < entries.length) → v.getAt arr i = .string entries[i].1 := by
    intro i hi
    have hi' : i < (v.elements arr).length := by rw [v.length_elements, hlen]; exact hi
    have hv : (v.elements arr)[i] = v.getAt arr i := by simp [View.elements]
    rw [← hv]
    simp [hel]
  have hbound : (toInt (v.size arr)).toNat = entries.length := by rw [hlen, toInt_length hsize]
  rw [← hbound]
  refine R.forSize inv (fun i acc s' hi hinv => ?_) h
  rw [hbound] at hi
  refine R.getAt.seq ?_
  rw [hget i hi]
  refine R.toString.seq ?_
  have hval : Gives ans may (Napi.getString o (lookup entries[i].1)) entries[i].2 s' := by
    refine R.get.bind ?_
    rw [hvalues _ (List.getElem_mem hi)]
    exact R.toString
  exact hval.seq (hbody i acc s' hi hinv)

end Reading

end PulsarNode
