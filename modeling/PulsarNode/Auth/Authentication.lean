/-
`new AuthenticationTls(params)` and its siblings: the JS classes of the authentication methods, and the
constructor of the binding that they call with a method and its parameters. Each call ends in one native
authentication, made of what the parameters show, or in an error with the message of the check that failed.
-/
import PulsarNode.Create.NewClient

namespace PulsarNode.Authentication

open Napi Prog

/-! ## The binding -/

def paramTlsCert : String := "certificatePath"
def paramTlsKey : String := "privateKeyPath"
def paramToken : String := "token"
def paramUsername : String := "username"
def paramPassword : String := "password"

/-- The calls that create a `pulsar_authentication_t`. A token comes as a text or from a supplier, which calls
the JS function behind a thread-safe one. -/
inductive NativeAuthentication
  | tls (certificatePath privateKeyPath : String)
  | token (token : String)
  | tokenWithSupplier (callback : Handle)
  | basic (username password : String)
  | athenz (authParamsString : String)
  | oauth2 (authParamsString : String)
  deriving DecidableEq, Repr

/-- The members of `Authentication`; a `TokenSupplierCallback` is known by its thread-safe function, once it has
one. -/
structure Members where
  cAuthentication : Option NativeAuthentication
  tokenSupplier : Option (Option Handle)
  deriving DecidableEq, Repr

def Members.new : Members := ⟨none, none⟩

/-- `info[i]`. -/
def argument (info : List JsValue) (i : Nat) : JsValue := info.getD i .undefined

/-- The authentication to be created, or the message that is thrown before the constructor returns. -/
abbrev Checked := Napi Members (Except String NativeAuthentication)

/-- `info[0]`, where it is a string that is not empty. -/
def readMethod (info : List JsValue) : Napi Members (Option String) := do
  if (argument info 0).isString then
    if (← toString (argument info 0)).isEmpty then
      return none
    return some (← toString (argument info 0))
  return none

/-- The parameters of `tls` and `basic`: two strings. -/
def readPair (obj : JsValue) (key key' : String) (create : String → String → NativeAuthentication) : Checked := do
  if ← hasAs obj key JsValue.isString then
    if ← hasAs obj key' JsValue.isString then
      -- the arguments of one C++ call, whose order is left open; under a view that is steady it does not show
      let x ← getString obj key
      let y ← getString obj key'
      return .ok (create (cStr x) (cStr y))
  return .error "Missing required parameter"

def readToken (obj : JsValue) : Checked := do
  if ← has obj paramToken then
    if (← get obj paramToken).isString then
      return .ok (.token (cStr (← getString obj paramToken)))
    if (← get obj paramToken).isFunction then
      -- the record is there before its function is made
      Prog.change ({ · with tokenSupplier := some none })
      let callback ← newThreadSafeFunction (← get obj paramToken)
      Prog.change ({ · with tokenSupplier := some (some callback) })
      return .ok (.tokenWithSupplier callback)
  return .error "Missing required parameter"

/-- The parameters of `athenz` and `oauth2`: a text. -/
def readText (v : JsValue) (message : String) (create : String → NativeAuthentication) : Checked := do
  if v.isString then
    return .ok (create (cStr (← toString v)))
  return .error message

def readParameters (authMethod : String) (v : JsValue) : Checked := do
  if authMethod = "tls" ∨ authMethod = "token" ∨ authMethod = "basic" then
    if v.isObject then
      let obj ← toObject v
      if authMethod = "tls" then readPair obj paramTlsCert paramTlsKey .tls
      else if authMethod = "token" then readToken obj
      else readPair obj paramUsername paramPassword .basic
    else return .error "Authentication parameter must be a object"
  else if authMethod = "athenz" then
    readText v "Authentication parameter must be a JSON string" .athenz
  else if authMethod = "oauth2" then
    readText v "Authentication parameter must be a JSON string for oauth2" .oauth2
  else return .error "Unsupported authentication method"

def check (info : List JsValue) : Checked := do
  match ← readMethod info with
  | none => return .error "Authentication method is not specified"
  | some authMethod => readParameters authMethod (argument info 1)

/-- `Authentication::Authentication`. -/
def construct (info : List JsValue) : Napi Members Unit := do
  match ← check info with
  | .error message => throwAsJavaScriptException (.error message)
  | .ok created => Prog.change ({ · with cAuthentication := some created })

/-! ## The JS classes -/

inductive Class
  | athenz | basic | oauth2 | tls | token
  deriving DecidableEq, Repr

def Class.method : Class → String
  | athenz => "athenz"
  | basic => "basic"
  | oauth2 => "oauth2"
  | tls => "tls"
  | token => "token"

/-- `typeof params === 'object'`, which holds of `null` and not of functions. -/
def typeofObject : JsValue → Bool
  | .null => true
  | .object k _ => k != .function
  | _ => false

/-- What a class hands on for its parameters; `JSON.stringify` is a parameter, which may throw. -/
def paramsOf (stringify : JsValue → Except JsError JsValue) (cls : Class) (params : JsValue) : Except JsError JsValue :=
  match cls with
  | .athenz | .oauth2 => if typeofObject params then stringify params else .ok params
  | .basic | .tls | .token => .ok params

/-- What the constructor of a class calls the binding with. -/
def bindingArguments (stringify : JsValue → Except JsError JsValue) (cls : Class) (params : JsValue) :
    Except JsError (List JsValue) := do
  return [.string cls.method, ← paramsOf stringify cls params]

/-! ## What the parameters show -/

section

variable (v : View)

def shownPair (obj : JsValue) (key key' : String) (create : String → String → NativeAuthentication) :
    Except String NativeAuthentication :=
  match v.string obj key, v.string obj key' with
  | some x, some y => .ok (create (cStr x) (cStr y))
  | _, _ => .error "Missing required parameter"

def shownToken (obj : JsValue) : Except String NativeAuthentication :=
  match v.option obj paramToken with
  | .string t => .ok (.token (cStr t))
  | x => if x.isFunction then .ok (.tokenWithSupplier (v.function x)) else .error "Missing required parameter"

def shownText (x : JsValue) (message : String) (create : String → NativeAuthentication) : Except String NativeAuthentication :=
  match x with
  | .string t => .ok (create (cStr t))
  | _ => .error message

/-- What the parameters `x` of a method come to. -/
def shownParameters (authMethod : String) (x : JsValue) : Except String NativeAuthentication :=
  if authMethod = "tls" ∨ authMethod = "token" ∨ authMethod = "basic" then
    if x.isObject then
      if authMethod = "tls" then shownPair v x paramTlsCert paramTlsKey .tls
      else if authMethod = "token" then shownToken v x
      else shownPair v x paramUsername paramPassword .basic
    else .error "Authentication parameter must be a object"
  else if authMethod = "athenz" then shownText x "Authentication parameter must be a JSON string" .athenz
  else if authMethod = "oauth2" then shownText x "Authentication parameter must be a JSON string for oauth2" .oauth2
  else .error "Unsupported authentication method"

def shown (info : List JsValue) : Except String NativeAuthentication :=
  match argument info 0 with
  | .string authMethod =>
    if authMethod.isEmpty then .error "Authentication method is not specified"
    else shownParameters v authMethod (argument info 1)
  | _ => .error "Authentication method is not specified"

end

theorem filter_string (m : String) :
    (JsValue.string m).asString.filter (fun m => !m.isEmpty) = if m.isEmpty then none else some m := by
  cases h : m.isEmpty with
  | true => simpa [JsValue.asString] using h
  | false => simp [JsValue.asString, h]

theorem shownToken_of_not_isString {v : View} {obj : JsValue} (hb : (v.option obj paramToken).isString = false) :
    shownToken v obj = if (v.option obj paramToken).isFunction then .ok (.tokenWithSupplier (v.function (v.option obj paramToken)))
      else .error "Missing required parameter" := by
  unfold shownToken
  cases hx : v.option obj paramToken with
  | string t =>
    rw [hx] at hb
    cases hb
  | _ => rfl

/-! ## The constructor makes it -/

/-- The record of the supplier that an authentication has. -/
def supplierOf : Except String NativeAuthentication → Option (Option Handle)
  | .ok (.tokenWithSupplier callback) => some (some callback)
  | _ => none

section

variable {v : View} {names : JsValue → List String} {ans : (q : Query) → q.Resp → Prop} {info : List JsValue}
  {obj x : JsValue} (R : Reading v ans (fun _ => True))
include R

theorem gives_readMethod (s : Members) : Gives ans (fun _ => True) (readMethod info)
    ((argument info 0).asString.filter fun m => !m.isEmpty) s := by
  unfold readMethod
  cases hb : (argument info 0).isString with
  | false =>
    rw [JsValue.asString_eq_none.2 hb]
    exact .pure _
  | true =>
    obtain ⟨m, hm⟩ := JsValue.isString_iff.1 hb
    rw [hm]
    refine R.toString.bind ?_
    rw [filter_string]
    cases m.isEmpty with
    | true => exact .pure _
    | false => exact R.toString.bind (.pure _)

theorem gives_readPair {key key' : String} {create : String → String → NativeAuthentication} (s : Members) :
    Gives ans (fun _ => True) (readPair obj key key' create) (shownPair v obj key key' create) s := by
  unfold readPair shownPair View.string
  refine (R.hasAs rfl).bind ?_
  cases hb : (v.option obj key).isString with
  | false =>
    rw [JsValue.asString_eq_none.2 hb]
    exact .pure _
  | true =>
    obtain ⟨x, hx⟩ := JsValue.isString_iff.1 hb
    refine (R.hasAs rfl).bind ?_
    cases hb' : (v.option obj key').isString with
    | false =>
      rw [hx, JsValue.asString_eq_none.2 hb']
      exact .pure _
    | true =>
      obtain ⟨y, hy⟩ := JsValue.isString_iff.1 hb'
      refine (R.getString hx).bind ((R.getString hy).bind ?_)
      rw [hx, hy]
      exact .pure _

theorem gives_readText {message : String} {create : String → NativeAuthentication} (s : Members) :
    Gives ans (fun _ => True) (readText x message create) (shownText x message create) s := by
  unfold readText shownText
  cases x with
  | string t => exact R.toString.bind (.pure _)
  | _ => exact .pure _

/-- What a check leaves: nothing is created yet, and there is a record exactly for a supplier. -/
def Leaves (expected : Except String NativeAuthentication) (r : Except String NativeAuthentication) (s : Members) : Prop :=
  r = expected ∧ s = ⟨none, supplierOf expected⟩

omit R in
theorem leaves_of_gives {p : Checked} {expected : Except String NativeAuthentication}
    (h : Gives ans (fun _ => True) p expected .new) (hnone : supplierOf expected = none) :
    ensures ans (fun _ => True) p (Leaves expected) .new := by
  refine ensures_mono h ?_
  rintro r s ⟨rfl, rfl⟩
  exact ⟨rfl, by rw [hnone]; rfl⟩

theorem ensures_readToken (T : v.Told names ans) :
    ensures ans (fun _ => True) (readToken obj) (Leaves (shownToken v obj)) .new := by
  unfold readToken
  refine R.has.seq ?_
  cases hhas : v.has obj paramToken with
  | false =>
    have hnone : v.option obj paramToken = .undefined := by rw [View.option, hhas, if_neg Bool.false_ne_true]
    rw [shownToken, hnone]
    exact ⟨rfl, rfl⟩
  | true =>
    have hoption : v.option obj paramToken = v.get obj paramToken := by rw [View.option, hhas, if_pos rfl]
    refine R.get.seq ?_
    rw [← hoption]
    cases hb : (v.option obj paramToken).isString with
    | true =>
      obtain ⟨t, ht⟩ := JsValue.isString_iff.1 hb
      have htext : Gives ans (fun _ => True) (Napi.getString obj paramToken) t Members.new := R.getString ht
      rw [shownToken, ht]
      exact htext.seq ⟨rfl, rfl⟩
    | false =>
      rw [shownToken_of_not_isString hb, hoption]
      refine R.get.seq ?_
      cases (v.get obj paramToken).isFunction with
      | false => exact ⟨rfl, rfl⟩
      | true =>
        -- the function that is made is the one of the view
        have hmake : Gives ans (fun _ => True) (newThreadSafeFunction (v.get obj paramToken))
            (v.function (v.get obj paramToken)) (⟨none, some none⟩ : Members) :=
          ⟨trivial, fun h hh => ⟨T.function _ h hh, rfl⟩⟩
        have hget : Gives ans (fun _ => True) (Napi.get obj paramToken) (v.get obj paramToken) (⟨none, some none⟩ : Members) :=
          R.get
        show ensures ans (fun _ => True) (do
          let callback ← newThreadSafeFunction (← get obj paramToken)
          Prog.change ({ · with tokenSupplier := some (some callback) })
          return .ok (.tokenWithSupplier callback) : Checked) _ (⟨none, some none⟩ : Members)
        exact hget.seq (hmake.seq ⟨rfl, rfl⟩)

theorem ensures_readParameters (T : v.Told names ans) (authMethod : String) :
    ensures ans (fun _ => True) (readParameters authMethod x) (Leaves (shownParameters v authMethod x)) .new := by
  have hpair (key key' : String) (create : String → String → NativeAuthentication)
      (hnone : ∀ y z, supplierOf (.ok (create y z)) = none) :
      ensures ans (fun _ => True) (readPair x key key' create) (Leaves (shownPair v x key key' create)) .new := by
    refine leaves_of_gives (gives_readPair R .new) ?_
    unfold shownPair
    split
    · exact hnone _ _
    · rfl
  have htext (message : String) (create : String → NativeAuthentication) (hnone : ∀ y, supplierOf (.ok (create y)) = none) :
      ensures ans (fun _ => True) (readText x message create) (Leaves (shownText x message create)) .new := by
    refine leaves_of_gives (gives_readText R .new) ?_
    unfold shownText
    split
    · exact hnone _
    · rfl
  unfold readParameters shownParameters
  by_cases hobject : authMethod = "tls" ∨ authMethod = "token" ∨ authMethod = "basic"
  · rw [if_pos hobject, if_pos hobject]
    cases hx : x.isObject with
    | false => exact ⟨rfl, rfl⟩
    | true =>
      rw [if_pos rfl, if_pos rfl]
      refine (R.toObject hx).seq ?_
      by_cases htls : authMethod = "tls"
      · rw [if_pos htls, if_pos htls]
        exact hpair _ _ _ fun _ _ => rfl
      · rw [if_neg htls, if_neg htls]
        by_cases htoken : authMethod = "token"
        · rw [if_pos htoken, if_pos htoken]
          exact ensures_readToken R T
        · rw [if_neg htoken, if_neg htoken]
          exact hpair _ _ _ fun _ _ => rfl
  · rw [if_neg hobject, if_neg hobject]
    by_cases hathenz : authMethod = "athenz"
    · rw [if_pos hathenz, if_pos hathenz]
      exact htext _ _ fun _ => rfl
    · rw [if_neg hathenz, if_neg hathenz]
      by_cases hoauth2 : authMethod = "oauth2"
      · rw [if_pos hoauth2, if_pos hoauth2]
        exact htext _ _ fun _ => rfl
      · rw [if_neg hoauth2, if_neg hoauth2]
        exact ⟨rfl, rfl⟩

theorem ensures_check (T : v.Told names ans) :
    ensures ans (fun _ => True) (check info) (Leaves (shown v info)) .new := by
  unfold check shown
  refine (gives_readMethod R .new).seq ?_
  cases hmethod : argument info 0 with
  | string authMethod =>
    rw [filter_string]
    dsimp only
    cases authMethod.isEmpty with
    | true => exact ⟨rfl, rfl⟩
    | false => exact ensures_readParameters R T authMethod
  | _ => exact ⟨rfl, rfl⟩

end

/-! ## However it ends -/

section

variable {J N : Type} {sides : Sides J N} {info : List JsValue} {obj x : JsValue}

/-- The checks themselves leave no exception pending, and are not aborted. -/
theorem readPair_silent {key key' : String} {create : String → String → NativeAuthentication} :
    Silent sides (readPair obj key key' create) := by
  refine bind_silent hasAs_silent fun b => ?_
  cases b with
  | false => exact pure_silent
  | true =>
    refine bind_silent hasAs_silent fun b' => ?_
    cases b' with
    | false => exact pure_silent
    | true => exact bind_silent getString_silent fun _ => bind_silent getString_silent fun _ => pure_silent

theorem readToken_silent : Silent sides (readToken obj) := by
  refine bind_silent js_silent fun (b : Bool) => ?_
  cases b with
  | false => exact pure_silent
  | true =>
    refine bind_silent js_silent fun (y : JsValue) => ?_
    cases y.isString with
    | true => exact bind_silent getString_silent fun _ => pure_silent
    | false =>
      refine bind_silent js_silent fun (z : JsValue) => ?_
      cases z.isFunction with
      | false => exact pure_silent
      | true =>
        refine bind_silent change_silent fun _ => bind_silent js_silent fun _ => ?_
        exact bind_silent js_silent fun _ => bind_silent change_silent fun _ => pure_silent

theorem readText_silent {message : String} {create : String → NativeAuthentication} :
    Silent sides (readText x message create) := by
  unfold readText
  split
  · exact bind_silent js_silent fun _ => pure_silent
  · exact pure_silent

theorem readParameters_silent (authMethod : String) : Silent sides (readParameters authMethod x) := by
  unfold readParameters
  split
  · split
    · refine bind_silent js_silent fun obj => ?_
      split
      · exact readPair_silent
      · split
        · exact readToken_silent
        · exact readPair_silent
    · exact pure_silent
  · split
    · exact readText_silent
    · split
      · exact readText_silent
      · exact pure_silent

theorem check_silent : Silent sides (check info) := by
  have hmethod : Silent sides (readMethod info) := by
    unfold readMethod
    split
    · refine bind_silent js_silent fun m => ?_
      split
      · exact pure_silent
      · exact bind_silent js_silent fun _ => pure_silent
    · exact pure_silent
  refine bind_silent hmethod fun m => ?_
  cases m with
  | none => exact pure_silent
  | some authMethod => exact readParameters_silent authMethod

/-- The checks create nothing. -/
theorem check_creates_nothing : Moves (fun s s' : Members => s'.cAuthentication = s.cAuthentication) (check info) := by
  have hmethod : Moves (fun s s' : Members => s'.cAuthentication = s.cAuthentication) (readMethod info) := by
    unfold readMethod
    split
    · refine .bind js_moves fun m => ?_
      split
      · exact .pure _
      · exact .bind js_moves fun _ => .pure _
    · exact .pure _
  have hpair (obj : JsValue) (key key' : String) (create : String → String → NativeAuthentication) :
      Moves (fun s s' : Members => s'.cAuthentication = s.cAuthentication) (readPair obj key key' create) :=
    ifHasAs_moves (ifHasAs_moves (.bind getString_moves fun _ => .bind getString_moves fun _ => .pure _) (.pure _)) (.pure _)
  have htext (x : JsValue) (message : String) (create : String → NativeAuthentication) :
      Moves (fun s s' : Members => s'.cAuthentication = s.cAuthentication) (readText x message create) := by
    unfold readText
    split
    · exact .bind js_moves fun _ => .pure _
    · exact .pure _
  have htoken (obj : JsValue) : Moves (fun s s' : Members => s'.cAuthentication = s.cAuthentication) (readToken obj) := by
    refine .bind js_moves fun (b : Bool) => ?_
    cases b with
    | false => exact .pure _
    | true =>
      refine .bind js_moves fun (y : JsValue) => ?_
      cases y.isString with
      | true => exact .bind getString_moves fun _ => .pure _
      | false =>
        refine .bind js_moves fun (z : JsValue) => ?_
        cases z.isFunction with
        | false => exact .pure _
        | true =>
          refine .bind (.change fun _ => rfl) fun _ => .bind js_moves fun _ => .bind js_moves fun _ => ?_
          exact .bind (.change fun _ => rfl) fun _ => .pure _
  refine .bind hmethod fun m => ?_
  cases m with
  | none => exact .pure _
  | some authMethod =>
    dsimp only
    unfold readParameters
    split
    · split
      · refine .bind js_moves fun obj => ?_
        split
        · exact hpair ..
        · split
          · exact htoken _
          · exact hpair ..
      · exact .pure _
    · split
      · exact htext ..
      · split
        · exact htext ..
        · exact .pure _

/-- How a constructor ends: with the authentication that is expected, or with its message thrown and nothing
created; a read that is refused creates nothing either. -/
def Ends (expected : Except String NativeAuthentication) (r : Except Exn Unit × Members × World J N) : Prop :=
  match r with
  | (.ok (), s, w) => s.tokenSupplier = supplierOf expected ∧ match expected with
    | .ok created => s.cAuthentication = some created ∧ w.pending = none
    | .error message => s.cAuthentication = none ∧ w.pending = some (.error message)
  | (.error e, s, _) => s.cAuthentication = none ∧ e ≠ .abort

theorem ends_construct {v : View} {names : JsValue → List String} {w : World J N} (hquiet : w.pending = none) (hv : v.Lawful)
    (hshown : v.Shown sides (construct info) .new w)
    (htold : v.Told names (Answered sides.answer (construct info) .new w)) :
    Ends (shown v info) ((construct info).run sides.answer .new w) := by
  have R : Reading v (Answered sides.answer (construct info) .new w) (fun _ => True) := hshown.reading hv
  have hcheck : ensures (Answered sides.answer (construct info) .new w) (fun _ => True) (check info) (Leaves (shown v info))
      .new := ensures_check R htold
  have hsilent : Silent sides (check info) := check_silent
  have hmoves : Moves (fun s s' : Members => s'.cAuthentication = s.cAuthentication) (check info) := check_creates_nothing
  rcases hrun : (check info).run sides.answer .new w with ⟨e | r, s, w'⟩
  · have hstate := hmoves.run_keeps (H := sides.answer) .new w
    rw [hrun] at hstate
    have hexc := hsilent.run_error hquiet hrun
    unfold construct
    rw [run_bind_error _ hrun]
    exact ⟨hstate, hexc⟩
  · obtain ⟨rfl, rfl⟩ := ensures_run_ok hcheck (fun _ _ h => h.bind) hrun
    have hpending : w'.pending = none := hsilent.run_ok hquiet hrun
    unfold construct
    rw [run_bind_ok _ hrun]
    cases hexpected : shown v info with
    | error message => exact ⟨rfl, rfl, rfl⟩
    | ok created => exact ⟨rfl, rfl, hpending⟩

/-! ## The classes -/

theorem method_isEmpty (cls : Class) : cls.method.isEmpty = false := by cases cls <;> decide

/-- A class always names its method, so that only its parameters are at issue. -/
theorem shown_bindingArguments {stringify : JsValue → Except JsError JsValue} {cls : Class} {params : JsValue} {v : View}
    (hargs : bindingArguments stringify cls params = .ok info) :
    ∃ x, paramsOf stringify cls params = .ok x ∧ shown v info = shownParameters v cls.method x := by
  unfold bindingArguments at hargs
  cases hx : paramsOf stringify cls params with
  | error e =>
    rw [hx] at hargs
    cases hargs
  | ok x =>
    rw [hx] at hargs
    cases hargs
    refine ⟨x, rfl, ?_⟩
    show (if cls.method.isEmpty then _ else _) = _
    rw [if_neg (by rw [method_isEmpty]; exact Bool.false_ne_true)]
    rfl

end

/-- A token from a function. -/
def supplied : Heap := { Heap.empty with
  props := fun
    | 0 => [(paramToken, .object .function 1)]
    | _ => [] }

/-- The parameters `null` are an object to JS: they go to the native client as the text `null`. -/
example : paramsOf (fun _ => .ok (.string "null")) .athenz .null = .ok (.string "null") := rfl

end PulsarNode.Authentication
