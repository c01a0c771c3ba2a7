/-
The client created from a service URL provider: what a configuration shows of it, and that the
constructor comes to that. Every service names its own authentication and trust path, or has those of
the client; one that is not valid leaves no client at all.
-/
import PulsarNode.Config.ClientSections
import PulsarNode.Napi.Object

namespace PulsarNode

open Napi Prog

namespace Client

/-! ## What a configuration shows -/

/-- The value of a property that is present, which has to be an own one, and the default of one that is not. -/
def ownOr {α : Type} (own : JsValue → Option α) (default : Option α) (x : JsValue) : Option (Option α) :=
  if isPresent x then (own x).map some else some default

section

variable (v : View)

/-- The native authentication that an object holds, if it holds one. -/
def held (binding : JsValue) : Option Handle := v (.unwrapAuthentication binding)

/-- The native authentication of an authentication object. -/
def authentication (x : JsValue) : Option Handle := do
  let o ← x.only JsValue.isObject
  let binding ← v.object o cfgAuthProp
  held v binding

def serviceObject (auth : Option Handle) (tls : Option String) (o : JsValue) : Option ServiceInfo := do
  let url ← (v.string o cfgServiceUrl).filter (· ≠ "")
  let auth ← ownOr (authentication v) auth (v.option o cfgAuth)
  let tls ← ownOr JsValue.asString tls (v.option o cfgTlsTrustCert)
  return ⟨url, auth, tls⟩

/-- A service is a URL, or an object with one. -/
def service (auth : Option Handle) (tls : Option String) : JsValue → Option ServiceInfo
  | .string url => if url = "" then none else some ⟨url, auth, tls⟩
  | .object k i => serviceObject v auth tls (.object k i)
  | _ => none

/-- A number whose integer part is positive and below `2^32`. -/
def positiveUint32 : JsValue → Option Int
  | .number (.finite q) => if 0 < JsNumber.trunc q ∧ JsNumber.trunc q < 2 ^ 32 then some (JsNumber.trunc q) else none
  | _ => none

/-- The authentication of the client, which is also the default of the services. -/
def defaultAuthentication (config : JsValue) : Option Handle := (v.object config cfgAuth).bind (authentication v)

def defaultTls (config : JsValue) : Option String := v.string config cfgTlsTrustCert

/-- The secondary services: a list that is not empty. -/
def secondary (auth : Option Handle) (tls : Option String) (provider : JsValue) : Option (List ServiceInfo) := do
  let services ← v.array provider cfgSecondary
  ((v.elements services).mapM (service v auth tls)).filter (· ≠ [])

/-- A provider with these services, and the numbers given with them. -/
def withNumbers (provider : JsValue) (primary : ServiceInfo) (secondary : List ServiceInfo) :
    Option AutoClusterFailoverConfig := do
  let checkInterval ← ownOr positiveUint32 none (v.option provider cfgCheckIntervalMs)
  let failoverThreshold ← ownOr positiveUint32 none (v.option provider cfgFailoverThreshold)
  let switchBackThreshold ← ownOr positiveUint32 none (v.option provider cfgSwitchBackThreshold)
  return ⟨primary, secondary, checkInterval, failoverThreshold, switchBackThreshold⟩

def serviceUrlProvider (auth : Option Handle) (tls : Option String) (config : JsValue) : Option AutoClusterFailoverConfig := do
  let provider ← v.object config cfgServiceUrlProvider
  let primary ← service v auth tls (v.option provider cfgPrimary)
  let secondary ← secondary v auth tls provider
  withNumbers v provider primary secondary

end

/-- The code reads the number as an `int64_t` first. -/
theorem positiveUint32_number (x : JsNumber) : positiveUint32 (.number x) =
    if x.int64Value ≤ 0 ∨ x.int64Value > 2 ^ 32 - 1 then none else some x.int64Value := by
  cases x with
  | finite q =>
    unfold positiveUint32 JsNumber.int64Value
    dsimp only
    by_cases h : 0 < JsNumber.trunc q ∧ JsNumber.trunc q < 2 ^ 32
    · rw [if_pos h, if_neg (by omega)]
      congr 1
      omega
    · rw [if_neg h, if_pos (by omega)]
  | _ => rfl

theorem positiveUint32_eq_none {x : JsValue} (h : x.isNumber = false) : positiveUint32 x = none := by
  cases x with
  | number n => cases h
  | _ => rfl

theorem service_of_absent {v : View} {auth : Option Handle} {tls : Option String} {x : JsValue} (h : isPresent x = false) :
    service v auth tls x = none := by
  cases x with
  | undefined | null => rfl
  | _ => cases h

/-! ### Lists of services -/

section

variable {α β : Type} {f : α → Option β} {l : List α} {i : Nat}

/-- A list that is translated is so as far as any of its elements. -/
theorem mapM_take_isSome (i : Nat) (h : (l.mapM f).isSome = true) : ((l.take i).mapM f).isSome = true := by
  rw [← List.take_append_drop i l, List.mapM_append] at h
  exact Option.isSome_of_isSome_bind h

theorem mapM_filter_ne_nil (h : l ≠ []) : (l.mapM f).filter (· ≠ []) = l.mapM f := by
  cases hm : l.mapM f with
  | none => rfl
  | some ys =>
    cases l with
    | nil => exact absurd rfl h
    | cons x l =>
      simp only [List.mapM_cons, Option.bind_eq_bind, Option.bind_eq_some_iff] at hm
      obtain ⟨y, -, ys', -, hys⟩ := hm
      cases hys
      rfl

/-- One more element. -/
theorem mapM_snoc {x : α} {before : List β} (htake : l.take (i + 1) = l.take i ++ [x])
    (h : (l.take i).mapM f = some before) : (l.take (i + 1)).mapM f = (f x).map (before ++ [·]) := by
  rw [htake, List.mapM_append, h]
  cases hx : f x with
  | none => simp [hx]
  | some y => simp [hx]

end

/-! ## Parsing -/

/-- What is asked where nothing is refused but the unwrapping of values that hold no authentication, and
that only if there is no valid configuration to come. -/
def May (v : View) (valid : Prop) : Query → Prop
  | .js (.unwrapAuthentication x) => valid → (held v x).isSome = true
  | .js _ | .setter _ | .throwAsJavaScriptException _ => True
  | .newListener .. | .start _ | .createClient _ => False

/-- From every client, the program comes to this result. -/
def Parses {α : Type} (ans : (q : Query) → q.Resp → Prop) (may : Query → Prop) (p : Napi ClientState (Option α))
    (y : Option α) : Prop := ∀ st, ensures ans may p (fun r _ => r = y) st

section

variable {v : View} {valid : Prop} {ans : (q : Query) → q.Resp → Prop} {α β γ : Type}

theorem reading_may (hv : v.Lawful) (htold : ∀ q r, q.steady → ans (.js q) r → r = v q) : Reading v ans (May v valid) := by
  refine ⟨hv, htold, fun q hq => ?_⟩
  cases q with
  | unwrapAuthentication x => exact hq.elim
  | _ => trivial

namespace Parses

variable {may : Query → Prop}

theorem pure (y : Option α) : Parses ans may (Pure.pure y) y := fun _ => rfl

theorem after {p : Napi ClientState β} {x : β} {f : β → Napi ClientState (Option α)} {y : Option α}
    (hp : ∀ st, Gives ans may p x st) (hf : Parses ans may (f x) y) : Parses ans may (p >>= f) y :=
  fun st => (hp st).seq (hf st)

theorem bind {p : Napi ClientState (Option β)} {y : Option β} {f : Option β → Napi ClientState (Option α)}
    {z : β → Option α} (hp : Parses ans may p y) (hsome : ∀ a, y = some a → Parses ans may (f (some a)) (z a))
    (hnone : Parses ans may (f none) none) : Parses ans may (p >>= f) (y.bind z) := by
  intro st
  refine ensures_seq (hp st) fun r st' hr => ?_
  subst hr
  cases r with
  | none => exact hnone st'
  | some a => exact hsome a rfl st'

end Parses

theorem parses_fail {message : String} : Parses ans (May v valid) (fail message : Napi ClientState (Option α)) none :=
  fun _ => ⟨trivial, fun _ _ => rfl⟩

variable (R : Reading v ans (May v valid))
include R

theorem parses_buildAuthenticationPtr {x : JsValue} (hx : x.isObject = true)
    (h : valid → (authentication v x).isSome = true) :
    Parses ans (May v valid) (buildAuthenticationPtr x) (authentication v x) := by
  have hauth : authentication v x = (v.object x cfgAuthProp).bind (held v) := by
    unfold authentication JsValue.only
    rw [if_pos hx]
    rfl
  rw [hauth] at h ⊢
  unfold View.object JsValue.only at h ⊢
  refine .after (fun _ => R.hasAs rfl) ?_
  cases hb : (v.option x cfgAuthProp).isObject with
  | false => exact parses_fail
  | true =>
    simp only [hb, if_true, Option.bind_some] at h ⊢
    refine .after (fun _ => R.get) ?_
    rw [View.get_eq_option JsValue.isObject rfl hb]
    generalize v.option x cfgAuthProp = binding at h ⊢
    intro st
    have href : Gives ans (May v valid) (newReference binding) () st := R.js (q := .newReference _) trivial trivial
    have hunwrap (st : ClientState) : Gives ans (May v valid) (unwrapAuthentication binding) (held v binding) st :=
      R.js (q := .unwrapAuthentication _) trivial h
    refine href.seq ((hunwrap _).seq ?_)
    generalize held v binding = auth
    cases auth with
    | none => exact parses_fail _
    | some auth => rfl

/-- A property of a service that is present is taken from it, else the default. -/
theorem parses_ownOr {α : Type} {o : JsValue} {key : String} {f : Bool → Napi ClientState (Option (Option α))}
    {own : JsValue → Option α} {default : Option α}
    (hgiven : isPresent (v.option o key) = true → Parses ans (May v valid) (f true) ((own (v.option o key)).map some))
    (habsent : Parses ans (May v valid) (f false) (some default)) :
    Parses ans (May v valid) (hasPresent o key >>= f) (ownOr own default (v.option o key)) := by
  refine .after (fun _ => R.hasAs rfl) ?_
  unfold ownOr
  cases hp : isPresent (v.option o key) with
  | false => exact habsent
  | true => exact hgiven hp

theorem parses_serviceAuthentication {o : JsValue} {fieldName : String} {auth : Option Handle}
    (h : valid → (ownOr (authentication v) auth (v.option o cfgAuth)).isSome = true) :
    Parses ans (May v valid) (serviceAuthentication o fieldName auth)
      (ownOr (authentication v) auth (v.option o cfgAuth)) := by
  refine parses_ownOr R (fun hp => ?_) (.pure _)
  unfold ownOr at h
  simp only [hp, if_true, Option.isSome_map] at h
  have hget : v.get o cfgAuth = v.option o cfgAuth := View.get_eq_option isPresent rfl hp
  refine .after (fun _ => R.get) ?_
  rw [hget]
  cases hx : (v.option o cfgAuth).isObject with
  | false =>
    have hnone : authentication v (v.option o cfgAuth) = none := by simp [authentication, JsValue.only, hx]
    rw [hnone]
    exact parses_fail
  | true =>
    refine .after (fun _ => R.get) ?_
    rw [hget, Option.map_eq_bind]
    exact .bind (parses_buildAuthenticationPtr R hx h) (fun _ _ => .pure _) (.pure _)

theorem parses_serviceTls {o : JsValue} {fieldName : String} {tls : Option String} :
    Parses ans (May v valid) (serviceTls o fieldName tls) (ownOr JsValue.asString tls (v.option o cfgTlsTrustCert)) := by
  refine parses_ownOr R (fun hp => ?_) (.pure _)
  refine .after (fun _ => R.get) ?_
  rw [View.get_eq_option isPresent rfl hp]
  cases hx : (v.option o cfgTlsTrustCert).isString with
  | false =>
    rw [JsValue.asString_eq_none.2 hx]
    exact parses_fail
  | true =>
    obtain ⟨path, hpath⟩ := JsValue.isString_iff.1 hx
    rw [hpath]
    exact .after (fun _ => R.getString hpath) (.pure _)

/-- Whether an object gives a URL. -/
theorem gives_givenUrl {o : JsValue} {st : ClientState} :
    Gives ans (May v valid) (do
        if ← hasAs o cfgServiceUrl JsValue.isString then
          return !(← getString o cfgServiceUrl).isEmpty
        return false : Napi ClientState Bool) ((v.string o cfgServiceUrl).filter (· ≠ "")).isSome st := by
  refine (R.hasAs rfl).bind ?_
  unfold View.string
  cases hx : (v.option o cfgServiceUrl).isString with
  | false =>
    rw [JsValue.asString_eq_none.2 hx]
    exact .pure _
  | true =>
    obtain ⟨url, hurl⟩ := JsValue.isString_iff.1 hx
    refine (R.getString hurl).bind ?_
    rw [hurl]
    have hempty : (!url.isEmpty) = ((JsValue.asString (.string url)).filter (· ≠ "")).isSome := by
      by_cases h : url = ""
      · subst h
        rfl
      · simp [JsValue.asString, Option.filter, h]
    rw [hempty]
    exact .pure _

theorem parses_buildServiceInfo {x : JsValue} {fieldName : String} {auth : Option Handle} {tls : Option String}
    (h : valid → (service v auth tls x).isSome = true) :
    Parses ans (May v valid) (buildServiceInfo x fieldName auth tls) (service v auth tls x) := by
  unfold buildServiceInfo
  cases x with
  | string url =>
    refine .after (fun _ => R.toString) ?_
    show Parses _ _ _ (if url = "" then none else _)
    by_cases hurl : url = ""
    · rw [if_pos hurl, if_pos (by simp [hurl])]
      exact parses_fail
    · rw [if_neg hurl, if_neg (by simpa using hurl)]
      exact .pure _
  | object k i =>
    have hobject : service v auth tls (.object k i) = serviceObject v auth tls (.object k i) := rfl
    rw [hobject] at h ⊢
    refine .after (fun _ => gives_givenUrl R) ?_
    generalize JsValue.object k i = o at h ⊢
    unfold serviceObject at h ⊢
    cases hurl : (v.string o cfgServiceUrl).filter (· ≠ "") with
    | none => exact parses_fail
    | some url =>
      rw [hurl] at h
      have hstring : v.option o cfgServiceUrl = .string url := JsValue.asString_eq_some.1 (Option.eq_some_of_filter_eq_some hurl)
      refine .after (fun _ => R.getString hstring) ?_
      refine .bind (parses_serviceAuthentication R fun hv => ?_) (fun auth hauth => ?_) (.pure _)
      · exact Option.isSome_of_isSome_bind (h hv)
      · refine .bind (parses_serviceTls R) (fun _ _ => .pure _) (.pure _)
  | _ => exact parses_fail

/-- The numbers keep their native default where none is given. -/
theorem parses_setPositiveUint32 {o : JsValue} {fieldName : String} :
    Parses ans (May v valid) (setPositiveUint32 o fieldName) (ownOr positiveUint32 none (v.option o fieldName)) := by
  refine parses_ownOr R (fun hp => ?_) (.pure _)
  refine .after (fun _ => R.get) ?_
  rw [View.get_eq_option isPresent rfl hp]
  cases hx : (v.option o fieldName).isNumber with
  | false =>
    rw [positiveUint32_eq_none hx]
    exact parses_fail
  | true =>
    obtain ⟨x, hnumber⟩ := JsValue.isNumber_iff.1 hx
    refine .after (fun _ => R.getNumber hnumber) ?_
    rw [hnumber, positiveUint32_number]
    by_cases hvalue : x.int64Value ≤ 0 ∨ x.int64Value > 2 ^ 32 - 1
    · rw [if_pos hvalue]
      intro st
      rw [if_pos hvalue]
      exact parses_fail st
    · rw [if_neg hvalue]
      intro st
      rw [if_neg hvalue]
      rfl

/-- After `i` passes, the first `i` services have been translated; the loop is left at one that is not valid. -/
theorem parses_secondaryServices {arr : JsValue} {auth : Option Handle} {tls : Option String}
    (h : valid → ((v.elements arr).mapM (service v auth tls)).isSome = true) :
    Parses ans (May v valid) (secondaryServices arr auth tls) ((v.elements arr).mapM (service v auth tls)) := by
  intro st
  refine ensures_seq (R.forLength (fun i secondary _ => ((v.elements arr).take i).mapM (service v auth tls) = some secondary)
    (fun _ _ => (v.elements arr).mapM (service v auth tls) = none) (fun i secondary st hi hinv => ?_) rfl) fun r st' hr => ?_
  · have hnext := mapM_snoc (v.elements_take_succ arr hi) hinv
    refine R.getAt.seq ?_
    refine ensures_seq (parses_buildServiceInfo R (fun hv => ?_) st) fun r st' hr => ?_
    · have htake := mapM_take_isSome (i + 1) (h hv)
      rw [hnext, Option.isSome_map] at htake
      exact htake
    · subst hr
      cases hx : service v auth tls (v.getAt arr i) with
      | none =>
        rw [hx] at hnext
        show (v.elements arr).mapM (service v auth tls) = none
        rw [← Option.not_isSome_iff_eq_none]
        intro hall
        have htake := mapM_take_isSome (i + 1) hall
        rw [hnext] at htake
        cases htake
      | some info =>
        rw [hx] at hnext
        exact hnext
  · cases r with
    | error u => exact hr.symm
    | ok secondary =>
      rw [v.elements_take_size] at hr
      exact hr.symm

theorem parses_providerNumbers {o : JsValue} {primary : ServiceInfo} {secondary : List ServiceInfo} :
    Parses ans (May v valid) (providerNumbers o primary secondary) (withNumbers v o primary secondary) := by
  refine .bind (parses_setPositiveUint32 R) (fun _ _ => ?_) (.pure _)
  refine .bind (parses_setPositiveUint32 R) (fun _ _ => ?_) (.pure _)
  exact .bind (parses_setPositiveUint32 R) (fun _ _ => .pure _) (.pure _)

/-- What follows the primary service. -/
theorem parses_secondary {o : JsValue} {primary : ServiceInfo} {auth : Option Handle} {tls : Option String}
    (h : valid → ((secondary v auth tls o).bind (withNumbers v o primary)).isSome = true) :
    Parses ans (May v valid) (do
      if !(← hasAs o cfgSecondary JsValue.isArray) then
        return ← fail "serviceUrlProvider.secondary is required and must be an array"
      let secondaryConfig ← get o cfgSecondary
      if (← length secondaryConfig) == 0 then
        return ← fail "serviceUrlProvider.secondary must contain at least one service"
      let _ ← length secondaryConfig
      match ← secondaryServices secondaryConfig auth tls with
      | none => return none
      | some secondary => providerNumbers o primary secondary) ((secondary v auth tls o).bind (withNumbers v o primary)) := by
  unfold secondary View.array JsValue.only at h ⊢
  refine .after (fun _ => R.hasAs rfl) ?_
  cases harray : (v.option o cfgSecondary).isArray with
  | false => exact parses_fail
  | true =>
    simp only [harray, if_true] at h ⊢
    refine .after (fun _ => R.get) ?_
    rw [View.get_eq_option JsValue.isArray rfl harray]
    generalize v.option o cfgSecondary = services at h ⊢
    obtain ⟨n, hn⟩ : ∃ n : UInt32, v (.length services) = n := ⟨_, rfl⟩
    have hlength (st : ClientState) : Gives ans (May v valid) (length services) n st := hn ▸ R.read trivial trivial
    have hsize : v.size services = n.toNat := congrArg UInt32.toNat hn
    have hsome : (do
        let services ← some services
        ((v.elements services).mapM (service v auth tls)).filter (· ≠ []) : Option (List ServiceInfo)) =
        ((v.elements services).mapM (service v auth tls)).filter (· ≠ []) := rfl
    rw [hsome] at h ⊢
    refine .after hlength ?_
    by_cases hzero : n = 0
    · have hnil : v.elements services = [] := by
        rw [← List.length_eq_zero_iff, v.length_elements, hsize, hzero]
        rfl
      rw [hnil, if_pos (by simp [hzero])]
      exact parses_fail
    · have hne : v.elements services ≠ [] := by
        rw [← List.length_pos_iff, v.length_elements, hsize]
        exact Nat.pos_of_ne_zero fun h => hzero (UInt32.toNat_inj.1 h)
      rw [if_neg (by simpa using hzero)]
      rw [mapM_filter_ne_nil hne] at h ⊢
      refine .after hlength ?_
      refine .bind (parses_secondaryServices R fun hv => ?_) (fun _ _ => parses_providerNumbers R) (.pure _)
      exact Option.isSome_of_isSome_bind (h hv)

theorem parses_buildServiceInfoProvider {config : JsValue} {auth : Option Handle} {tls : Option String}
    (hgiven : isPresent (v.option config cfgServiceUrlProvider) = true)
    (h : valid → (serviceUrlProvider v auth tls config).isSome = true) :
    Parses ans (May v valid) (buildServiceInfoProvider config auth tls) (serviceUrlProvider v auth tls config) := by
  refine .after (fun _ => R.get) ?_
  rw [View.get_eq_option isPresent rfl hgiven]
  unfold serviceUrlProvider View.object JsValue.only at h ⊢
  cases hobject : (v.option config cfgServiceUrlProvider).isObject with
  | false => exact parses_fail
  | true =>
    simp only [hobject, if_true] at h ⊢
    generalize v.option config cfgServiceUrlProvider = o at h ⊢
    refine .after (fun _ => R.hasAs rfl) ?_
    cases hp : isPresent (v.option o cfgPrimary) with
    | false =>
      show Parses _ _ _ ((service v auth tls (v.option o cfgPrimary)).bind _)
      rw [service_of_absent hp]
      exact parses_fail
    | true =>
      refine .after (fun _ => R.get) ?_
      rw [View.get_eq_option isPresent rfl hp]
      refine .bind (parses_buildServiceInfo R fun hv => ?_) (fun primary hprimary => ?_) (.pure _)
      · exact Option.isSome_of_isSome_bind (h hv)
      · refine parses_secondary R fun hv => ?_
        simpa [hprimary] using h hv

/-! ## The constructor before its `try` block -/

section

variable {config : JsValue}

theorem parses_checkServiceUrl (hprovider : isPresent (v.option config cfgServiceUrlProvider) = true)
    (hurl : isPresent (v.option config cfgServiceUrl) = false) :
    Parses ans (May v valid) (checkServiceUrl config) (some true) := by
  refine .after (fun _ => R.hasAs rfl) (.after (fun _ => R.hasAs rfl) ?_)
  rw [hprovider, hurl]
  exact .pure _

omit R in
/-- What is set, and what is logged, has no say in what is returned. -/
theorem ensures_set {c : ClientSetter} {st : ClientState} : ensures ans (May v valid) (set c) (fun _ _ => True) st :=
  ⟨trivial, fun _ _ => trivial⟩

theorem ensures_initLog (st : ClientState) : ensures ans (May v valid) (initLog config) (fun _ _ => True) st := by
  have hlevel : ensures ans (May v valid) (ifNumber config cfgLogLevel fun x => Prog.change ({ · with logLevel := x.int32Value }))
      (fun _ _ => True) st := R.ifNumber (fun _ _ => (ensures_change _ _).2 trivial) fun _ => trivial
  refine ensures_seq hlevel fun _ st₁ _ => ?_
  refine ensures_seq ensures_set fun _ st₂ _ => ?_
  refine (R.hasAs rfl).seq ?_
  cases (v.option config cfgLog).isFunction with
  | false => trivial
  | true => exact R.get.seq ⟨trivial, fun _ _ => trivial⟩

theorem parses_initAuthentication (hauth : ∀ x, v.object config cfgAuth = some x → (authentication v x).isSome = true) :
    Parses ans (May v valid) (initAuthentication config) (some (defaultAuthentication v config)) := by
  unfold defaultAuthentication
  unfold View.object JsValue.only at hauth ⊢
  refine .after (fun _ => R.hasAs rfl) ?_
  cases ho : (v.option config cfgAuth).isObject with
  | false => exact .pure _
  | true =>
    simp only [ho, if_true, Option.some_inj, forall_eq'] at hauth ⊢
    refine .after (fun _ => R.getObject ho) ?_
    generalize v.option config cfgAuth = x at ho hauth ⊢
    refine .after (fun _ => R.hasAs rfl) ?_
    obtain ⟨auth, hsome⟩ := Option.isSome_iff_exists.1 hauth
    cases hb : (v.option x cfgAuthProp).isObject with
    | false => simp [authentication, View.object, JsValue.only, ho, hb] at hsome
    | true =>
      intro st
      refine ensures_seq (parses_buildAuthenticationPtr R ho (fun _ => hauth) st) ?_
      rintro _ st₁ rfl
      rw [hsome]
      refine ensures_seq ensures_set fun _ _ _ => ?_
      show some (some auth) = some (authentication v x)
      rw [hsome]

theorem ensures_setPositive {key : String} {c : Int → ClientSetter} (st : ClientState) :
    ensures ans (May v valid) (setPositive config key c) (fun _ _ => True) st := by
  refine R.ifNumber (fun x _ => ?_) fun _ => trivial
  split
  · exact ensures_set
  · trivial

theorem ensures_initOptions (st : ClientState) : ensures ans (May v valid) (initOptions config) (fun _ _ => True) st :=
  ensures_seq (ensures_setPositive R st) fun _ st _ => ensures_seq (ensures_setPositive R st) fun _ st _ =>
    ensures_seq (ensures_setPositive R st) fun _ st _ => ensures_seq (ensures_setPositive R st) fun _ st _ =>
    ensures_setPositive R st

theorem parses_initTlsTrustCert : Parses ans (May v valid) (initTlsTrustCert config) (defaultTls v config) := by
  unfold defaultTls View.string
  refine .after (fun _ => R.hasAs rfl) ?_
  cases hx : (v.option config cfgTlsTrustCert).isString with
  | false =>
    rw [JsValue.asString_eq_none.2 hx]
    exact .pure _
  | true =>
    obtain ⟨path, hpath⟩ := JsValue.isString_iff.1 hx
    refine .after (fun _ => R.getString hpath) fun st => ?_
    rw [hpath]
    exact ensures_seq ensures_set fun _ _ _ => rfl

theorem ensures_initTlsOptions (st : ClientState) :
    ensures ans (May v valid) (initTlsOptions config) (fun _ _ => True) st := by
  have hstring {key : String} {c : String → ClientSetter} (st : ClientState) :
      ensures ans (May v valid) (ifString config key fun s => set (c s)) (fun _ _ => True) st :=
    R.ifString (fun _ _ => ensures_set) fun _ => trivial
  have hboolean {key : String} {c : Bool → ClientSetter} (st : ClientState) :
      ensures ans (May v valid) (ifBoolean config key fun b => set (c b)) (fun _ _ => True) st :=
    R.ifBoolean (fun _ _ => ensures_set) fun _ => trivial
  refine ensures_seq (hstring st) fun _ st _ => ensures_seq (hstring st) fun _ st _ => ensures_seq (hboolean st)
    fun _ st _ => ensures_seq (hboolean st) fun _ st _ => ?_
  refine ensures_seq (R.ifNumber (fun _ _ => ensures_set) fun _ => trivial) fun _ st _ => ?_
  exact hstring st

/-- The provider is the way to name the service, and the defaults of the services are those of the client. -/
theorem parses_beforeTry (hprovider : isPresent (v.option config cfgServiceUrlProvider) = true)
    (hurl : isPresent (v.option config cfgServiceUrl) = false)
    (hauth : ∀ x, v.object config cfgAuth = some x → (authentication v x).isSome = true) :
    Parses ans (May v valid) (beforeTry config) (some ⟨true, defaultAuthentication v config, defaultTls v config⟩) := by
  intro st
  refine ensures_seq (parses_checkServiceUrl R hprovider hurl st) ?_
  rintro _ st₁ rfl
  refine ensures_seq (ensures_initLog R st₁) fun _ st₂ _ => ?_
  refine ensures_seq (parses_initAuthentication R hauth st₂) ?_
  rintro _ st₃ rfl
  refine ensures_seq (ensures_initOptions R st₃) fun _ st₄ _ => ?_
  refine ensures_seq (parses_initTlsTrustCert R st₄) ?_
  rintro _ st₅ rfl
  exact ensures_seq (ensures_initTlsOptions R st₅) fun _ _ _ => rfl

end

end

/-! ## The whole constructor -/

/-- `Client::Client` without its `catch`, which sees no member of the client. -/
def body (config : JsValue) : Napi ClientState Unit := do
  match ← beforeTry config with
  | none => return ()
  | some setup => tryBlock config setup

/-- The creation from a provider. -/
def create (provider : AutoClusterFailoverConfig) : Napi ClientState Unit := do
  let conf := (← Prog.look).cClientConfig
  createClient (.fromProvider provider conf)
  Prog.change ({ · with cClient := some (.fromProvider provider conf) })

theorem tryBlock_provider (config : JsValue) (auth : Option Handle) (tls : Option String) :
    tryBlock config ⟨true, auth, tls⟩ = buildServiceInfoProvider config auth tls >>= fun provider =>
      match provider with
      | none => pure ()
      | some provider => create provider := rfl

variable {J N : Type} {sides : Sides J N} {st : ClientState} {w : World J N}

theorem construct_state (config : JsValue) :
    (construct sides config st w).2.1 = ((body config).run sides.answer st w).2.1 := by
  unfold construct body
  rw [run_bind]
  rcases (beforeTry config).run sides.answer st w with ⟨e | _ | setup, st₁, w₁⟩
  · rfl
  · rfl
  · rfl

/-- The client is created, or the creation is refused and the client is as before. -/
theorem run_create (sides : Sides J N) (st : ClientState) (w : World J N) (provider : AutoClusterFailoverConfig) :
    (∃ w', (create provider).run sides.answer st w =
      (.ok (), { st with cClient := some (.fromProvider provider st.cClientConfig) }, w')) ∨
    (∃ e w', (create provider).run sides.answer st w = (.error e, st, w')) ∧
      ∃ q e, q.isNative ∧ Refused sides.answer (create provider) st w q e := by
  have hlook : (Prog.look : Napi ClientState ClientState).run sides.answer st w = (.ok st, st, w) := rfl
  unfold create
  rw [run_bind_ok _ hlook]
  rcases hc : sides.answer (.createClient (.fromProvider provider st.cClientConfig)) w with ⟨e | u, w'⟩
  · have hrun : (createClient (.fromProvider provider st.cClientConfig)).run sides.answer st w = (.error e, st, w') :=
      run_ask_error _ hc st
    refine .inr ⟨⟨e, w', run_bind_error _ hrun⟩, .createClient (.fromProvider provider st.cClientConfig), e, trivial, ?_⟩
    refine .after hlook (.bind ?_)
    show Refused sides.answer (Prog.ask _ Prog.ret) st w _ e
    unfold Refused
    rw [hc]
    exact ⟨rfl, rfl⟩
  · have hrun : (createClient (.fromProvider provider st.cClientConfig)).run sides.answer st w = (.ok u, st, w') :=
      run_ask_ok _ hc st
    exact .inl ⟨w', run_bind_ok _ hrun⟩

def SameClient (st st' : ClientState) : Prop := st'.cClient = st.cClient

theorem beforeTry_sameClient (config : JsValue) : Moves SameClient (beforeTry config) :=
  beforeTry_moves config (fun _ _ => rfl) (fun _ _ => rfl) (fun _ _ => rfl) fun _ => set_moves fun _ => rfl

theorem buildServiceInfoProvider_sameClient (config : JsValue) (auth : Option Handle) (tls : Option String) :
    Moves SameClient (buildServiceInfoProvider config auth tls) :=
  buildServiceInfoProvider_moves (fun _ _ => rfl) config auth tls

/-- However a part of the constructor ends, there is no client yet. -/
theorem run_noClient {α : Type} {p : Napi ClientState α} (hp : Moves SameClient p) (hnew : st.cClient = none)
    {r : Except Exn α} {st' : ClientState} {w' : World J N} (hrun : p.run sides.answer st w = (r, st', w')) :
    st'.cClient = none := by
  have hsame := Moves.run_keeps (H := sides.answer) (f := ClientState.cClient) hp st w
  rw [hrun] at hsame
  exact Eq.trans hsame hnew

section

variable {v : View} {config : JsValue}

/-- Where the configuration is valid, it is the native client that refuses. -/
theorem isNative_of_may {S α : Type} {p : Napi S α} {s : S} {valid : Prop}
    (hread : ∀ q e, Refused sides.answer p s w (.js q) e → ∃ x, q = .unwrapAuthentication x ∧ held v x = none)
    (hvalid : valid) {q : Query} {e : Exn} (hmay : May v valid q) (href : Refused sides.answer p s w q e) : q.isNative := by
  cases q with
  | js q =>
    obtain ⟨x, rfl, hnone⟩ := hread q e href
    have hsome := hmay hvalid
    rw [hnone] at hsome
    cases hsome
  | throwAsJavaScriptException err =>
    obtain ⟨w₁, w₂, hans⟩ := href.refuses
    cases hans
  | setter c => trivial
  | _ => exact hmay.elim

/-- A configuration names a service URL provider and no service URL, and its authentication, if it has one,
holds a native one. -/
structure NamesProvider (v : View) (config : JsValue) : Prop where
  provider : isPresent (v.option config cfgServiceUrlProvider) = true
  noUrl : isPresent (v.option config cfgServiceUrl) = false
  authentication : ∀ x, v.object config cfgAuth = some x → (authentication v x).isSome = true

/-- A read may raise where an object is unwrapped that holds no authentication, and nowhere else. -/
def ReadsUnraised (v : View) (sides : Sides J N) (config : JsValue) (st : ClientState) (w : World J N) : Prop :=
  ∀ q e, Refused sides.answer (body config) st w (.js q) e → ∃ x, q = .unwrapAuthentication x ∧ held v x = none

/-- The two ways of the constructor: there is no client, and the native side has refused it if the
configuration shows a provider; or the client is the one shown. -/
theorem run_body (hv : v.Lawful) (hshown : v.Shown sides (body config) st w) (hnames : NamesProvider v config)
    (hread : ReadsUnraised v sides config st w) (hnew : st.cClient = none) {spec : Option AutoClusterFailoverConfig}
    (hspec : serviceUrlProvider v (defaultAuthentication v config) (defaultTls v config) config = spec) :
    ((body config).run sides.answer st w).2.1.cClient = none ∧
        (spec.isSome = true → ∃ q e, q.isNative ∧ Refused sides.answer (body config) st w q e) ∨
      ∃ provider conf st' w', spec = some provider ∧ (body config).run sides.answer st w = (.ok (), st', w') ∧
        st'.cClient = some (.fromProvider provider conf) := by
  have R : Reading v (Prog.Answered sides.answer (body config) st w) (May v (spec.isSome = true)) := reading_may hv hshown
  have hnative {q : Query} {e : Exn} (hmay : May v (spec.isSome = true) q)
      (href : Refused sides.answer (body config) st w q e) (hvalid : spec.isSome = true) :
      ∃ q e, q.isNative ∧ Refused sides.answer (body config) st w q e :=
    ⟨q, e, isNative_of_may hread hvalid hmay href, href⟩
  have hbefore := parses_beforeTry R hnames.provider hnames.noUrl hnames.authentication st
  rcases hrun₁ : (beforeTry config).run sides.answer st w with ⟨e | setup, st₁, w₁⟩
  · obtain ⟨q, e', hmay, href⟩ := ensures_run_error hbefore (fun _ _ h => h.bind) hrun₁
    have hrun : (body config).run sides.answer st w = (.error e, st₁, w₁) := run_bind_error _ hrun₁
    rw [hrun]
    exact .inl ⟨run_noClient (beforeTry_sameClient config) hnew hrun₁, hnative hmay href.bind⟩
  · obtain rfl := ensures_run_ok hbefore (fun _ _ h => h.bind) hrun₁
    have hnew₁ := run_noClient (beforeTry_sameClient config) hnew hrun₁
    have hrun : (body config).run sides.answer st w = (tryBlock config
        ⟨true, defaultAuthentication v config, defaultTls v config⟩).run sides.answer st₁ w₁ := run_bind_ok _ hrun₁
    rw [hrun, tryBlock_provider]
    have hparses := parses_buildServiceInfoProvider R hnames.provider (fun h => hspec ▸ h) st₁
    rcases hrun₂ : (buildServiceInfoProvider config (defaultAuthentication v config) (defaultTls v config)).run
        sides.answer st₁ w₁ with ⟨e | r, st₂, w₂⟩
    · obtain ⟨q, e', hmay, href⟩ := ensures_run_error hparses (fun _ _ h => .after hrun₁ h.bind) hrun₂
      rw [run_bind_error _ hrun₂]
      exact .inl ⟨run_noClient (buildServiceInfoProvider_sameClient _ _ _) hnew₁ hrun₂, hnative hmay (.after hrun₁ href.bind)⟩
    · have hnew₂ := run_noClient (buildServiceInfoProvider_sameClient _ _ _) hnew₁ hrun₂
      obtain rfl : r = spec := (ensures_run_ok hparses (fun _ _ h => .after hrun₁ h.bind) hrun₂).trans hspec
      rw [run_bind_ok _ hrun₂]
      cases r with
      | none => exact .inl ⟨hnew₂, by simp⟩
      | some provider =>
        rcases run_create sides st₂ w₂ provider with ⟨w₃, hcreate⟩ | ⟨⟨e, w₃, hcreate⟩, q, e', hq, href⟩
        · exact .inr ⟨provider, st₂.cClientConfig, _, w₃, rfl, hcreate, rfl⟩
        · refine .inl ⟨?_, fun _ => ⟨q, e', hq, .after hrun₁ (.after hrun₂ href)⟩⟩
          rw [hcreate]
          exact hnew₂

/-- From a configuration that names a provider, and whose reads do not raise, a native client is created from
a provider exactly when the configuration shows that provider and the native client refuses nothing. -/
theorem created_iff (hv : v.Lawful) (hshown : v.Shown sides (body config) st w) (hnames : NamesProvider v config)
    (hread : ReadsUnraised v sides config st w) (hnew : st.cClient = none) (provider : AutoClusterFailoverConfig) :
    (∃ conf, (construct sides config st w).2.1.cClient = some (.fromProvider provider conf)) ↔
      serviceUrlProvider v (defaultAuthentication v config) (defaultTls v config) config = some provider ∧
        ∀ q e, q.isNative → ¬ Refused sides.answer (body config) st w q e := by
  rw [construct_state]
  rcases run_body hv hshown hnames hread hnew rfl with ⟨hnone, hrefused⟩ | ⟨shown, conf, st', w', hspec, hrun, hclient⟩
  · refine iff_of_false ?_ ?_
    · rintro ⟨conf, hsome⟩
      rw [hnone] at hsome
      cases hsome
    · rintro ⟨hspec, hquiet⟩
      obtain ⟨q, e, hq, href⟩ := hrefused (by rw [hspec]; rfl)
      exact hquiet q e hq href
  · rw [hspec, hrun]
    constructor
    · rintro ⟨conf', hsome⟩
      have heq := hclient.symm.trans hsome
      cases heq
      exact ⟨rfl, fun q e _ => not_refused hrun⟩
    · rintro ⟨⟨⟩, -⟩
      exact ⟨conf, hclient⟩

end

/-- A client with an authentication, and a provider with two secondary services: the second has an
authentication of its own and no trust path. -/
def failoverPair : Heap := { Heap.empty with
  props := fun
    | 0 => [(cfgServiceUrlProvider, .object .plain 1), (cfgAuth, .object .plain 2), (cfgTlsTrustCert, .string "ca.pem")]
    | 1 => [(cfgPrimary, .string "pulsar://a"), (cfgSecondary, .object .array 3), (cfgCheckIntervalMs, .number (.finite 1000))]
    | 2 => [(cfgAuthProp, .object .plain 4)]
    | 5 => [(cfgServiceUrl, .string "pulsar://c"), (cfgAuth, .object .plain 6), (cfgTlsTrustCert, .null)]
    | 6 => [(cfgAuthProp, .object .plain 7)]
    | _ => []
  elements := fun
    | 3 => [.string "pulsar://b", .object .plain 5]
    | _ => []
  handle := fun i => i }

def noClient : ClientState := ⟨none, [], 0, [], ⟨none, []⟩⟩

theorem created_failoverPair : ∃ conf,
    (construct failoverPair.sides (.object .plain 0) noClient ⟨(), none, ()⟩).2.1.cClient = some (.fromProvider
      ⟨⟨"pulsar://a", some 4, some "ca.pem"⟩, [⟨"pulsar://b", some 4, some "ca.pem"⟩, ⟨"pulsar://c", some 7, some "ca.pem"⟩],
        some 1000, none, none⟩ conf) := by
  obtain ⟨st', w', hrun⟩ : ∃ st' w', (body (.object .plain 0)).run failoverPair.sides.answer noClient ⟨(), none, ()⟩ =
      (.ok (), st', w') := ⟨_, _, rfl⟩
  have hnames : NamesProvider failoverPair.view (.object .plain 0) := by
    refine ⟨rfl, rfl, fun x hx => ?_⟩
    cases hx
    rfl
  refine (created_iff failoverPair.lawful (failoverPair.steady.shown _ _ _) hnames (fun _ _ h => absurd h (not_refused hrun))
    rfl _).2 ⟨?_, fun _ _ _ => not_refused hrun⟩
  rfl

end Client

end PulsarNode
