/-
The reading patterns of the configuration parsers as programs that act: where a view is shown, each does
what the code under it does with what the view says of the option, or nothing. The properties of an
object are known by the names that the run is told; their values are converted to strings, whatever
they are.
-/
import PulsarNode.Napi.Object
import PulsarNode.Prog.Acts

namespace PulsarNode

open Napi Prog

namespace View

/-- `x.ToString()`. -/
def display (v : View) (x : JsValue) : String := v (.toString x)

/-- `o.Get(key).ToString()`. -/
def text (v : View) (o : JsValue) (key : String) : String := v.display (v.get o key)

/-- The bytes of a buffer, the handles that wrapped objects hold, and the function made of a JS function. -/
def bytes (v : View) (x : JsValue) : List UInt8 := v (.bufferBytes x)

def messageId (v : View) (x : JsValue) : Option Handle := v (.unwrapMessageId x)

def keyReader (v : View) (x : JsValue) : Handle := v (.unwrapCryptoKeyReader x)

def function (v : View) (f : JsValue) : Handle := v (.newThreadSafeFunction f)

/-- What a loop over the properties of an object comes to: the first `int` many names, each with the text
that is read under `lookup` of it. -/
def entries (v : View) (names : JsValue → List String) (lookup : String → String) (o : JsValue) : List (String × String) :=
  ((names o).take (toInt (names o).length).toNat).map fun k => (k, v.text o (lookup k))

theorem entries_take_succ {v : View} {names : JsValue → List String} {lookup : String → String} {o : JsValue} {i : Nat}
    (hlt : i < (v.entries names lookup o).length) (hi : i < (names o).length) :
    (v.entries names lookup o).take (i + 1) =
      (v.entries names lookup o).take i ++ [((names o)[i], v.text o (lookup (names o)[i]))] := by
  rw [List.take_succ_eq_append_getElem hlt]
  simp [entries]

/-- What a run is told beside the steady answers: an array of names holds those of its object, and a
function that is made is the one of the view. -/
structure Told (v : View) (names : JsValue → List String) (ans : (q : Query) → q.Resp → Prop) : Prop where
  names : ∀ (o arr : JsValue), ans (.js (.getPropertyNames o)) arr →
    (v.elements arr).map v.display = names o
  function : ∀ (f : JsValue) (h : Handle), ans (.js (.newThreadSafeFunction f)) h → h = v.function f
  listener : ∀ (config : JsValue) (key : String) (h : Handle), ans (.newListener config key) h → h = v.function (v.get config key)

end View

/-- A native setter that returns, and a note of its call. -/
theorem adds_setter {S C : Type} {L : Log S C} {ans : (q : Query) → q.Resp → Prop} {call : Setter} {c : C} :
    Adds L ans (Napi.setter call >>= fun _ => Prog.change (L.add [c]) : Napi S Unit) () [c] :=
  fun _ => ⟨trivial, fun _ _ => ⟨rfl, rfl⟩⟩

namespace Reading

variable {v : View} {names : JsValue → List String} {ans : (q : Query) → q.Resp → Prop} {S β C : Type} {L : Log S C}
  {o : JsValue} {key : String}

/-! ## Options -/

section

variable (R : Reading v ans (fun _ => True))
include R

/-- One operation whose answer is steady. -/
theorem gives {q : JsQuery} (hq : q.steady) (s : S) : Gives ans (fun _ => True) (Napi.js q : Napi S q.Resp) (v q) s :=
  R.js hq trivial

theorem text (key : String) (s : S) : Gives ans (fun _ => True) (Napi.getString o key : Napi S String) (v.text o key) s :=
  R.get.bind (R.gives (q := .toString _) trivial s)

/-- A string that is kept where it is there. -/
theorem acts_storeString (get : S → String) {store : String → S → S} (hget : ∀ s, store (get s) s = s) :
    Acts ans (Napi.ifString o key fun t => Prog.change (store t)) ()
      fun s => store ((v.string o key).getD (get s)) s := by
  intro s
  refine R.ifString (fun t ht => ?_) fun hnone => ?_
  · rw [ht]
    exact ⟨rfl, rfl⟩
  · rw [hnone]
    exact ⟨rfl, (hget s).symm⟩

theorem adds_ifString {use : String → Napi S Unit} {calls : String → List C} (h : ∀ t, Adds L ans (use t) () (calls t)) :
    Adds L ans (Napi.ifString o key use) () ((v.string o key).elim [] calls) := by
  intro s
  refine R.ifString (fun t ht => ?_) fun hnone => ?_
  · rw [ht]
    exact h t s
  · rw [hnone]
    exact ⟨rfl, (L.add_nil s).symm⟩

theorem adds_ifNumber {use : JsNumber → Napi S Unit} {calls : JsNumber → List C}
    (h : ∀ x, Adds L ans (use x) () (calls x)) :
    Adds L ans (Napi.ifNumber o key use) () ((v.number o key).elim [] calls) := by
  intro s
  refine R.ifNumber (fun x hx => ?_) fun hnone => ?_
  · rw [hx]
    exact h x s
  · rw [hnone]
    exact ⟨rfl, (L.add_nil s).symm⟩

theorem adds_ifBoolean {use : Bool → Napi S Unit} {calls : Bool → List C} (h : ∀ b, Adds L ans (use b) () (calls b)) :
    Adds L ans (Napi.ifBoolean o key use) () ((v.boolean o key).elim [] calls) := by
  intro s
  refine R.ifBoolean (fun b hb => ?_) fun hnone => ?_
  · rw [hb]
    exact h b s
  · rw [hnone]
    exact ⟨rfl, (L.add_nil s).symm⟩

theorem adds_ifObject {use : JsValue → Napi S Unit} {calls : JsValue → List C} (h : ∀ x, Adds L ans (use x) () (calls x)) :
    Adds L ans (Napi.ifObject o key use) () ((v.object o key).elim [] calls) := by
  intro s
  refine R.ifObject (fun x hx => ?_) fun hnone => ?_
  · rw [hx]
    exact h x s
  · rw [hnone]
    exact ⟨rfl, (L.add_nil s).symm⟩

theorem adds_ifNamed {α : Type} {table : List (String × α)} {use : α → Napi S Unit} {calls : α → List C}
    (h : ∀ x, Adds L ans (use x) () (calls x)) :
    Adds L ans (Napi.ifNamed o key table use) () ((v.named o key table).elim [] calls) := by
  intro s
  refine R.ifNamed (fun x hx => ?_) fun hnone => ?_
  · rw [hx]
    exact h x s
  · rw [hnone]
    exact ⟨rfl, (L.add_nil s).symm⟩

/-- An option of any kind that is used when it passes its check. -/
theorem adds_ifHasAs {is : JsValue → Bool} (his : is .undefined = false) {p : Napi S Unit} {calls : JsValue → List C}
    (h : ∀ x, is x = true → v.get o key = x → Adds L ans p () (calls x)) :
    Adds L ans (do if ← Napi.hasAs o key is then p) () (((v.option o key).only is).elim [] calls) := by
  refine Adds.after (fun _ => R.hasAs his) ?_
  unfold JsValue.only
  cases hb : is (v.option o key) with
  | false =>
    rw [if_neg Bool.false_ne_true, if_neg Bool.false_ne_true]
    exact .pure ()
  | true =>
    rw [if_pos rfl, if_pos rfl]
    exact h _ hb (View.get_eq_option is his hb)

/-- Each string among the elements of an array. -/
theorem adds_forStrings {use : String → Napi S Unit} {calls : String → List C} (h : ∀ t, Adds L ans (use t) () (calls t)) :
    Adds L ans (do
      if ← Napi.hasAs o key JsValue.isArray then
        let arr ← Napi.get o key
        let _ ← Napi.forLength (γ := Empty) arr (fun i _ => do
          if (← Napi.getAt arr i).isString then
            let t ← Napi.toString (← Napi.getAt arr i)
            use t
          return .ok ()) () : Napi S Unit) ()
      ((v.array o key).elim [] fun arr => ((v.elements arr).filterMap JsValue.asString).flatMap calls) := by
  intro s
  refine ensures_mono (R.forStrings (fun ts s' => s' = L.add (ts.flatMap calls) s) (L.add_nil s).symm ?_) ?_
  · rintro ts t s' rfl
    refine ensures_mono (h t _) ?_
    rintro _ s'' ⟨-, rfl⟩
    rw [L.add_add, List.flatMap_append, List.flatMap_singleton]
  · rintro _ s' hs'
    refine ⟨rfl, ?_⟩
    rw [hs']
    cases v.array o key <;> rfl

end

/-! ## The properties of an object -/

/-- A length is not less than the `int` that keeps it. -/
theorem toInt_toNat_le {n : Nat} (h : n < 2 ^ 32) : (toInt n).toNat ≤ n := by
  unfold toInt
  rw [Int.bmod_def]
  split <;> omega

section

variable (R : Reading v ans (fun _ => True)) (T : v.Told names ans)
include R T

/-- The loop over the properties of an object; `inv` speaks of the entries that it is through with. -/
theorem forEntries {lookup : String → String} {body : String → String → β → Napi S β}
    (inv : List (String × String) → β → S → Prop)
    (hbody : ∀ es e acc s, inv es acc s → ensures ans (fun _ => True) (body e.1 e.2 acc) (inv (es ++ [e])) s) {acc : β}
    {s : S} (h : inv [] acc s) :
    ensures ans (fun _ => True) (Napi.forProperties o lookup body acc) (inv (v.entries names lookup o)) s := by
  refine ⟨trivial, fun (arr : JsValue) harr => ?_⟩
  have hnames := T.names o arr harr
  have hlen : v.size arr = (names o).length := by rw [← v.length_elements arr, ← hnames, List.length_map]
  have hle : (toInt (names o).length).toNat ≤ (names o).length := by
    rw [← hlen]
    exact toInt_toNat_le (UInt32.toNat_lt _)
  have hlength : (v.entries names lookup o).length = (toInt (v.size arr)).toNat := by
    simp only [View.entries, List.length_map, List.length_take, hlen]
    omega
  have hbody' : ∀ i acc s', (hi : i < (v.entries names lookup o).length) →
      inv ((v.entries names lookup o).take i) acc s' →
      ensures ans (fun _ => True) (do
        let k ← Napi.toString (← Napi.getAt arr i)
        let x ← Napi.getString o (lookup k)
        body k x acc) (inv ((v.entries names lookup o).take (i + 1))) s' := by
    intro i acc s' hi hinv
    have hi' : i < (names o).length := by
      rw [hlength, hlen] at hi
      omega
    have hkey : v.display (v.getAt arr i) = (names o)[i] := by simp [← hnames, View.elements]
    have hstring : Gives ans (fun _ => True) (Napi.toString (v.getAt arr i)) (v.display (v.getAt arr i)) s' :=
      R.gives (q := .toString _) trivial s'
    rw [View.entries_take_succ hi hi', ← hkey]
    have hat : Gives ans (fun _ => True) (Napi.getAt arr i) (v.getAt arr i) s' := R.getAt
    refine hat.seq ?_
    refine hstring.seq ?_
    refine (R.text _ s').seq ?_
    exact hbody _ (_, _) acc s' hinv
  have hall : v.entries names lookup o = (v.entries names lookup o).take (toInt (v.size arr)).toNat := by
    rw [← hlength, List.take_length]
  rw [hall]
  refine R.forSize (fun i acc s' => inv ((v.entries names lookup o).take i) acc s') (fun i acc s' hi hinv => ?_) ?_
  · rw [← hlength] at hi
    exact hbody' i acc s' hi hinv
  · rw [List.take_zero]
    exact h

theorem adds_forProperties {lookup : String → String} {use : String → String → Napi S Unit}
    {calls : String × String → List C} (h : ∀ e : String × String, Adds L ans (use e.1 e.2) () (calls e)) :
    Adds L ans (Napi.forProperties o lookup (fun k x _ => use k x) ()) () ((v.entries names lookup o).flatMap calls) := by
  intro s
  refine R.forEntries T (fun es u s' => u = () ∧ s' = L.add (es.flatMap calls) s) ?_ ⟨rfl, (L.add_nil s).symm⟩
  rintro es e _ s' ⟨-, rfl⟩
  refine ensures_mono (h e _) ?_
  rintro _ s'' ⟨-, rfl⟩
  refine ⟨rfl, ?_⟩
  rw [L.add_add, List.flatMap_append, List.flatMap_singleton]

/-- A loop that gathers the properties. -/
theorem gives_forProperties {lookup : String → String} {gather : String → String → β → β} (acc : β) (s : S) :
    Gives ans (fun _ => True) (Napi.forProperties o lookup (fun k x acc => pure (gather k x acc)) acc)
      ((v.entries names lookup o).foldl (fun acc e => gather e.1 e.2 acc) acc) s := by
  refine R.forEntries T (fun es acc' s' => acc' = es.foldl (fun acc e => gather e.1 e.2 acc) acc ∧ s' = s) ?_ ⟨rfl, rfl⟩
  rintro es e _ s' ⟨rfl, rfl⟩
  rw [ensures_pure, List.foldl_append]
  exact ⟨rfl, rfl⟩

end

end Reading

/-! ## Heaps -/

namespace Heap

/-- The names that the array of an object holds. -/
def propertyNames (h : Heap) (o : JsValue) : List String :=
  (h.view.elements (h.view (.getPropertyNames o))).map h.view.display

/-- A heap tells these names in every run. -/
theorem toldNames (h : Heap) {S α : Type} {p : Napi S α} {s : S} {w : World Unit Unit} :
    h.view.Told h.propertyNames (Answered h.sides.answer p s w) where
  names o arr harr := by
    rw [h.answered harr]
    rfl
  function f x hx := h.answered hx
  listener config key x hx := by
    let told : (q : Query) → q.Resp → Prop := fun
      | .newListener .., (x : Handle) => x = 0
      | .js _, _ | .throwAsJavaScriptException _, _ | .setter _, _ | .start _, _ | .createClient _, _ => True
    have htold : ∀ q w r w', h.sides.answer q w = (.ok r, w') → told q r := by
      intro q w r w' hans
      cases q with
      | newListener config key =>
        unfold Sides.answer at hans
        dsimp only at hans
        split at hans
        · cases hans
        · next f w₁ _ =>
          split at hans
          · cases hans
          · next x' w₂ hmade =>
            cases hans
            exact h.told (q := .js (.newThreadSafeFunction f)) hmade
      | _ => trivial
    exact Answered.of_steady htold hx

end Heap

end PulsarNode
