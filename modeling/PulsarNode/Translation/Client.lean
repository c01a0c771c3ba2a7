/-
What `Client::Client` makes of an object: the native client that is created, if one is, and with what
settings. The service is a URL or a provider, not both; the authentication is the native one that a
Pulsar authentication object holds, and goes into the settings as well as to the services of a provider.
-/
import PulsarNode.Config.Provider
import PulsarNode.Napi.Acts

namespace PulsarNode

open Napi Prog

namespace Client

/-! ## The settings of an object -/

section

variable (v : View) (config : JsValue)

def positiveSetter (key : String) (c : Int → ClientSetter) : List ClientSetter :=
  (v.number config key).elim [] fun x => if 0 < x.int32Value then [c x.int32Value] else []

def optionSetters : List ClientSetter :=
  positiveSetter v config cfgOpTimeout .operationTimeoutSeconds ++
  (positiveSetter v config cfgIoThreads .ioThreads ++
  (positiveSetter v config cfgConnectionTimeout .connectionTimeout ++
  (positiveSetter v config cfgListenerThreads .messageListenerThreads ++
  positiveSetter v config cfgConcurrentLookup .concurrentLookupRequest)))

def tlsSetters : List ClientSetter :=
  (v.string config cfgTlsCertFile).elim [] (fun path => [.tlsCertificateFilePath (cStr path)]) ++
  ((v.string config cfgTlsPrivateKeyFile).elim [] (fun path => [.tlsPrivateKeyFilePath (cStr path)]) ++
  ((v.boolean config cfgTlsValidateHostname).elim [] (fun b => [.validateHostname b]) ++
  ((v.boolean config cfgTlsAllowInsecure).elim [] (fun b => [.tlsAllowInsecureConnection b]) ++
  ((v.number config cfgStatsInterval).elim [] (fun x => [.statsIntervalInSeconds x.uint32Value]) ++
  (v.string config cfgListenerName).elim [] fun name => [.listenerName (cStr name)]))))

/-- The settings of a client whose checks are passed. -/
def shownSetters : List ClientSetter :=
  [.logger] ++ ((defaultAuthentication v config).elim [] (fun auth => [.authentication auth]) ++
  (optionSetters v config ++ ((defaultTls v config).elim [] (fun path => [.tlsTrustCertsFilePath (cStr path)]) ++
  tlsSetters v config)))

/-- The ways to name the service. -/
inductive Named : ClientCreation → Prop
  | serviceUrl {url : String} (hurl : v.string config cfgServiceUrl = some url) (hne : url ≠ "")
      (hnone : isPresent (v.option config cfgServiceUrlProvider) = false) :
      Named (.fromServiceUrl (cStr url) (shownSetters v config))
  | provider {provider : AutoClusterFailoverConfig} (hnone : isPresent (v.option config cfgServiceUrl) = false)
      (hprovider : serviceUrlProvider v (defaultAuthentication v config) (defaultTls v config) config = some provider) :
      Named (.fromProvider provider (shownSetters v config))

end

/-! ## The constructor without its last assignment -/

/-- The creation in the `try` block; `none` when a check failed. -/
def creation (clientConfig : JsValue) (setup : Setup) : Napi ClientState (Option ClientCreation) := do
  if setup.hasServiceUrlProvider then
    match ← buildServiceInfoProvider clientConfig setup.defaultAuthentication setup.defaultTlsTrustCertsFilePath with
    | none => return none
    | some provider =>
      let conf := (← Prog.look).cClientConfig
      createClient (.fromProvider provider conf)
      return some (.fromProvider provider conf)
  else
    let serviceUrl ← getString clientConfig cfgServiceUrl
    let conf := (← Prog.look).cClientConfig
    createClient (.fromServiceUrl (cStr serviceUrl) conf)
    return some (.fromServiceUrl (cStr serviceUrl) conf)

def attempt (clientConfig : JsValue) : Napi ClientState (Option ClientCreation) := do
  match ← beforeTry clientConfig with
  | none => return none
  | some setup => creation clientConfig setup

/-- The client becomes a member last. -/
def keep : Option ClientCreation → Napi ClientState Unit
  | none => return ()
  | some c => Prog.change ({ · with cClient := some c })

theorem tryBlock_eq (config : JsValue) (setup : Setup) : tryBlock config setup = creation config setup >>= keep := by
  unfold tryBlock creation
  cases setup.hasServiceUrlProvider with
  | true =>
    rw [if_pos rfl, if_pos rfl, bind_assoc]
    congr 1
    funext provider
    cases provider <;> rfl
  | false =>
    rw [if_neg Bool.false_ne_true, if_neg Bool.false_ne_true, bind_assoc]
    rfl

theorem body_eq (config : JsValue) : body config = attempt config >>= keep := by
  unfold body attempt
  rw [bind_assoc]
  congr 1
  funext setup
  cases setup with
  | none => rfl
  | some setup => exact tryBlock_eq config setup

theorem creation_sameClient (config : JsValue) (setup : Setup) : Moves SameClient (creation config setup) := by
  unfold creation
  split
  · refine .bind (buildServiceInfoProvider_sameClient _ _ _) fun provider => ?_
    cases provider with
    | none => exact .pure _
    | some provider => exact .bind .look fun _ => .bind (.ask _) fun _ => .pure _
  · exact .bind getString_moves fun _ => .bind .look fun _ => .bind (.ask _) fun _ => .pure _

theorem attempt_sameClient (config : JsValue) : Moves SameClient (attempt config) := by
  refine .bind (beforeTry_sameClient config) fun setup => ?_
  cases setup with
  | none => exact .pure _
  | some setup => exact creation_sameClient config setup

/-! ## The constructor makes them -/

/-- The calls of the setters, as a list that the client keeps. -/
def calls : Log ClientState ClientSetter :=
  .ofPart ⟨(·.cClientConfig), fun l st => { st with cClientConfig := l }, fun _ _ => rfl, fun _ => rfl, fun _ _ _ => rfl⟩

/-- The service is named in exactly one way. -/
structure NamesService (v : View) (config : JsValue) (hasServiceUrlProvider : Bool) : Prop where
  provider : isPresent (v.option config cfgServiceUrlProvider) = hasServiceUrlProvider
  noUrl : hasServiceUrlProvider = true → isPresent (v.option config cfgServiceUrl) = false
  url : hasServiceUrlProvider = false → ∃ url, v.string config cfgServiceUrl = some url ∧ url ≠ ""

section

variable {v : View} {config : JsValue} {ans : (q : Query) → q.Resp → Prop} {st : ClientState}

/-- A failed check gives nothing. -/
theorem ensures_fail {α : Type} {message : String} {post : Option α → ClientState → Prop} (h : post none st) :
    ensures ans (fun _ => True) (fail message) post st := ⟨trivial, fun _ _ => h⟩

variable (R : Reading v ans (fun _ => True))
include R

theorem ensures_checkServiceUrl : ensures ans (fun _ => True) (checkServiceUrl config)
    (fun r st' => st' = st ∧ ∀ b, r = some b → NamesService v config b) st := by
  refine (R.hasAs rfl).seq ((R.hasAs rfl).seq ?_)
  cases hprovider : isPresent (v.option config cfgServiceUrlProvider) with
  | true =>
    cases hurl : isPresent (v.option config cfgServiceUrl) with
    | true => exact ensures_fail ⟨rfl, by rintro _ ⟨⟩⟩
    | false =>
      refine ⟨rfl, ?_⟩
      rintro _ ⟨⟩
      exact ⟨hprovider, fun _ => hurl, by rintro ⟨⟩⟩
  | false =>
    cases hurl : isPresent (v.option config cfgServiceUrl) with
    | false => exact ensures_fail ⟨rfl, by rintro _ ⟨⟩⟩
    | true =>
      have hget : v.get config cfgServiceUrl = v.option config cfgServiceUrl := View.get_eq_option isPresent rfl hurl
      refine Gives.seq (x := !(v.option config cfgServiceUrl).isString || v.string config cfgServiceUrl == some "") ?_ ?_
      · refine R.get.bind ?_
        rw [hget]
        cases hs : (v.option config cfgServiceUrl).isString with
        | false => exact .pure _
        | true =>
          obtain ⟨url, hurl'⟩ := JsValue.isString_iff.1 hs
          refine (R.getString hurl').bind ?_
          have hempty : url.isEmpty = (!true || v.string config cfgServiceUrl == some "") := by
            rw [View.string, hurl', JsValue.asString, Bool.eq_iff_iff]
            simp
          rw [← hempty]
          exact .pure _
      · cases hs : (v.option config cfgServiceUrl).isString with
        | false => exact ensures_fail ⟨rfl, by rintro _ ⟨⟩⟩
        | true =>
          obtain ⟨url, hurl'⟩ := JsValue.isString_iff.1 hs
          have hstring : v.string config cfgServiceUrl = some url := by rw [View.string, hurl']; rfl
          by_cases hempty : url = ""
          · rw [hstring, hempty]
            exact ensures_fail ⟨rfl, by rintro _ ⟨⟩⟩
          · have hne : (some url == some "") = false := by simpa using hempty
            rw [hstring, hne]
            refine ⟨rfl, ?_⟩
            rintro _ ⟨⟩
            exact ⟨hprovider, by rintro ⟨⟩, fun _ => ⟨url, hstring, hempty⟩⟩

/-- The log level and the log function are members; the native configuration is told of the logger. -/
theorem ensures_logger : ensures ans (fun _ => True) (initLog config)
    (fun _ st' => st'.cClientConfig = st.cClientConfig ++ [.logger]) st := by
  have hlevel : ensures ans (fun _ => True)
      (ifNumber config cfgLogLevel fun x => Prog.change ({ · with logLevel := x.int32Value }))
      (fun _ st' => st'.cClientConfig = st.cClientConfig) st := R.ifNumber (fun _ _ => rfl) fun _ => rfl
  refine ensures_seq hlevel fun _ st₁ h₁ => ?_
  have hset : Adds calls ans (set .logger) () [.logger] := adds_setter
  refine ensures_seq (hset st₁) ?_
  rintro _ _ ⟨-, rfl⟩
  refine (R.hasAs rfl).seq ?_
  rw [← h₁]
  cases (v.option config cfgLog).isFunction with
  | false => rfl
  | true => exact R.get.seq ⟨trivial, fun _ _ => rfl⟩

/-- Where the authentication option is in order, it is the default one. -/
theorem ensures_buildAuthenticationPtr {x : JsValue} (hx : x.isObject = true) :
    ensures ans (fun _ => True) (buildAuthenticationPtr x)
      (fun r st' => st'.cClientConfig = st.cClientConfig ∧ ∀ auth, r = some auth → authentication v x = some auth) st := by
  have hauth : authentication v x = (v.object x cfgAuthProp).bind (held v) := by
    unfold authentication JsValue.only
    rw [if_pos hx]
    rfl
  rw [hauth]
  unfold View.object JsValue.only
  refine (R.hasAs rfl).seq ?_
  cases hb : (v.option x cfgAuthProp).isObject with
  | false => exact ensures_fail ⟨rfl, nofun⟩
  | true =>
    refine R.get.seq ?_
    rw [View.get_eq_option JsValue.isObject rfl hb, if_pos rfl, Option.bind_some]
    generalize v.option x cfgAuthProp = binding
    refine (R.gives (q := .newReference binding) trivial st).seq ?_
    have hunwrap (st : ClientState) : Gives ans (fun _ => True) (unwrapAuthentication binding) (held v binding) st :=
      R.gives (q := .unwrapAuthentication binding) trivial st
    refine (hunwrap _).seq ?_
    cases hheld : held v binding with
    | none => exact ensures_fail ⟨rfl, nofun⟩
    | some auth =>
      refine ⟨rfl, ?_⟩
      rintro _ ⟨⟩
      rfl

theorem ensures_initAuthentication : ensures ans (fun _ => True) (initAuthentication config)
    (fun r st' => ∀ auth, r = some auth → auth = defaultAuthentication v config ∧
      st'.cClientConfig = st.cClientConfig ++ (defaultAuthentication v config).elim [] fun auth => [.authentication auth]) st := by
  unfold defaultAuthentication
  refine (R.hasAs rfl).seq ?_
  unfold View.object JsValue.only
  cases ho : (v.option config cfgAuth).isObject with
  | false =>
    rintro _ ⟨⟩
    exact ⟨rfl, (List.append_nil _).symm⟩
  | true =>
    refine (R.getObject ho).seq ?_
    rw [if_pos rfl, Option.bind_some]
    generalize v.option config cfgAuth = x at ho
    refine (R.hasAs rfl).seq ?_
    cases hb : (v.option x cfgAuthProp).isObject with
    | false =>
      have hnone : authentication v x = none := by simp [authentication, View.object, JsValue.only, ho, hb]
      rintro _ ⟨⟩
      rw [hnone]
      exact ⟨rfl, (List.append_nil _).symm⟩
    | true =>
      refine ensures_seq (ensures_buildAuthenticationPtr R ho) ?_
      rintro r st₁ ⟨hsame, hauth⟩
      cases r with
      | none => rintro _ ⟨⟩
      | some auth =>
        rw [hauth auth rfl]
        have hset : Adds calls ans (set (.authentication auth)) () [.authentication auth] := adds_setter
        refine ensures_seq (hset st₁) ?_
        rintro _ _ ⟨-, rfl⟩ _ ⟨⟩
        refine ⟨rfl, ?_⟩
        show st₁.cClientConfig ++ _ = _
        rw [hsame]
        rfl

theorem adds_setPositive {key : String} {c : Int → ClientSetter} :
    Adds calls ans (setPositive config key c) () (positiveSetter v config key c) :=
  R.adds_ifNumber fun _ => .ite fun _ => adds_setter

theorem adds_initOptions : Adds calls ans (initOptions config) () (optionSetters v config) :=
  .bind (adds_setPositive R) (.bind (adds_setPositive R) (.bind (adds_setPositive R)
    (.bind (adds_setPositive R) (adds_setPositive R))))

theorem adds_initTlsTrustCert : Adds calls ans (initTlsTrustCert config) (defaultTls v config)
    ((defaultTls v config).elim [] fun path => [.tlsTrustCertsFilePath (cStr path)]) := by
  unfold defaultTls View.string
  refine .after (fun _ => R.hasAs rfl) ?_
  cases hx : (v.option config cfgTlsTrustCert).isString with
  | false =>
    rw [JsValue.asString_eq_none.2 hx]
    exact .pure _
  | true =>
    obtain ⟨path, hpath⟩ := JsValue.isString_iff.1 hx
    rw [hpath]
    exact .after (fun _ => R.getString hpath) (.before adds_setter fun _ => .pure _)

theorem adds_initTlsOptions : Adds calls ans (initTlsOptions config) () (tlsSetters v config) := by
  refine .bind (R.adds_ifString fun _ => adds_setter) (.bind (R.adds_ifString fun _ => adds_setter) ?_)
  refine .bind (R.adds_ifBoolean fun _ => adds_setter) (.bind (R.adds_ifBoolean fun _ => adds_setter) ?_)
  exact .bind (R.adds_ifNumber fun _ => adds_setter) (R.adds_ifString fun _ => adds_setter)

/-- Where the checks before the `try` block are passed, the settings are made. -/
theorem ensures_beforeTry_shown : ensures ans (fun _ => True) (beforeTry config)
    (fun r st' => ∀ setup, r = some setup → NamesService v config setup.hasServiceUrlProvider ∧
      setup = ⟨setup.hasServiceUrlProvider, defaultAuthentication v config, defaultTls v config⟩ ∧
      st'.cClientConfig = st.cClientConfig ++ shownSetters v config) st := by
  refine ensures_seq (ensures_checkServiceUrl R) ?_
  rintro r _ ⟨rfl, hservice⟩
  cases r with
  | none => nofun
  | some b =>
    refine ensures_seq (ensures_logger R) fun _ st₁ h₁ => ?_
    refine ensures_seq (ensures_initAuthentication R) fun r st₂ hauth => ?_
    cases r with
    | none => nofun
    | some auth =>
      obtain ⟨rfl, h₂⟩ := hauth auth rfl
      refine ensures_seq (adds_initOptions R st₂) ?_
      rintro _ st₃ ⟨-, h₃⟩
      refine ensures_seq (adds_initTlsTrustCert R st₃) ?_
      rintro _ st₄ ⟨rfl, h₄⟩
      refine ensures_seq (adds_initTlsOptions R st₄) ?_
      rintro _ st₅ ⟨-, h₅⟩ _ ⟨⟩
      refine ⟨hservice b rfl, rfl, ?_⟩
      have hcalls (l : List ClientSetter) (st : ClientState) :
          (calls.add l st).cClientConfig = st.cClientConfig ++ l := rfl
      rw [h₅, h₄, h₃, hcalls, hcalls, hcalls, h₂, h₁, shownSetters]
      simp only [List.append_assoc]

theorem ensures_creation {setup : Setup} (hservice : NamesService v config setup.hasServiceUrlProvider)
    (hsetup : setup = ⟨setup.hasServiceUrlProvider, defaultAuthentication v config, defaultTls v config⟩)
    (hconf : st.cClientConfig = shownSetters v config) :
    ensures ans (fun _ => True) (creation config setup) (fun r _ => ∀ c, r = some c → Named v config c) st := by
  rw [hsetup]
  unfold creation
  cases hb : setup.hasServiceUrlProvider with
  | true =>
    rw [hb] at hservice
    have hparses : ensures ans (fun _ => True)
        (buildServiceInfoProvider config (defaultAuthentication v config) (defaultTls v config))
        (fun r st' => r = serviceUrlProvider v (defaultAuthentication v config) (defaultTls v config) config ∧
          st'.cClientConfig = st.cClientConfig) st := by
      have R' : Reading v ans (May v False) := reading_may R.lawful R.told
      have hmoves : Moves (fun st st' : ClientState => st'.cClientConfig = st.cClientConfig)
          (buildServiceInfoProvider config (defaultAuthentication v config) (defaultTls v config)) :=
        buildServiceInfoProvider_moves (fun _ _ => rfl) _ _ _
      exact ensures_and (ensures_any (parses_buildServiceInfoProvider R' hservice.provider nofun st))
        (hmoves.keeps (f := ClientState.cClientConfig) st)
    refine ensures_seq hparses ?_
    rintro _ st₁ ⟨rfl, hsame⟩
    cases hp : serviceUrlProvider v (defaultAuthentication v config) (defaultTls v config) config with
    | none => nofun
    | some provider =>
      refine ⟨trivial, fun _ _ => ?_⟩
      rintro _ ⟨⟩
      rw [hsame, hconf]
      exact .provider (hservice.noUrl rfl) hp
  | false =>
    rw [hb] at hservice
    obtain ⟨url, hurl, hne⟩ := hservice.url rfl
    have hread : v.option config cfgServiceUrl = .string url := JsValue.asString_eq_some.1 hurl
    refine (R.getString hread).seq ⟨trivial, fun _ _ => ?_⟩
    rintro _ ⟨⟩
    rw [hconf]
    exact .serviceUrl hurl hne hservice.provider

theorem ensures_attempt (hnew : st.cClientConfig = []) :
    ensures ans (fun _ => True) (attempt config) (fun r _ => ∀ c, r = some c → Named v config c) st := by
  refine ensures_seq (ensures_beforeTry_shown R) fun r st' hbefore => ?_
  cases r with
  | none => nofun
  | some setup =>
    obtain ⟨hservice, hsetup, hconf⟩ := hbefore setup rfl
    exact ensures_creation R hservice hsetup (by rw [hconf, hnew, List.nil_append])

end

/-! ## The client -/

section

variable {J N : Type} (sides : Sides J N) {v : View} (config : JsValue) {st : ClientState} (w : World J N)

/-- However `new Client` ends: a native client that it leaves is the one that the object names, with the settings
that its options stand for. -/
theorem construct_translates (hv : v.Lawful) (hshown : v.Shown sides (body config) st w) (hnew : st.cClient = none)
    (hconf : st.cClientConfig = []) {c : ClientCreation} (hc : (construct sides config st w).2.1.cClient = some c) :
    Named v config c := by
  have R : Reading v (Answered sides.answer (body config) st w) (fun _ => True) := hshown.reading hv
  rw [construct_state, body_eq] at hc
  rcases hrun : (attempt config).run sides.answer st w with ⟨e | r, st', w'⟩
  · rw [run_bind_error _ hrun] at hc
    rw [run_noClient (attempt_sameClient config) hnew hrun] at hc
    cases hc
  · rw [run_bind_ok _ hrun] at hc
    have hans : ∀ q r, Answered sides.answer (attempt config) st w q r → Answered sides.answer (body config) st w q r := by
      intro q r h
      rw [body_eq]
      exact h.bind
    have hnamed := ensures_run_ok (ensures_attempt R hconf) hans hrun
    cases r with
    | none =>
      have hnone : st'.cClient = none := run_noClient (attempt_sameClient config) hnew hrun
      rw [show ((keep none).run sides.answer st' w').2.1.cClient = st'.cClient from rfl, hnone] at hc
      cases hc
    | some c' =>
      have hkept : ((keep (some c')).run sides.answer st' w').2.1.cClient = some c' := rfl
      rw [hkept] at hc
      cases hc
      exact hnamed c rfl

end

/-- A client with a service URL and an authentication; a number that is not positive is left to the native default. -/
def tuned : Heap := { Heap.empty with
  props := fun
    | 0 => [(cfgServiceUrl, .string "pulsar://a"), (cfgAuth, .object .plain 1), (cfgOpTimeout, .number (.finite 30)),
      (cfgIoThreads, .number (.finite 0)), (cfgTlsTrustCert, .string "ca.pem"), (cfgTlsAllowInsecure, .bool true)]
    | 1 => [(cfgAuthProp, .object .plain 2)]
    | _ => []
  handle := fun i => i }

theorem construct_translates_tuned :
    (construct tuned.sides (.object .plain 0) noClient ⟨(), none, ()⟩).2.1.cClient = some (.fromServiceUrl "pulsar://a"
      [.logger, .authentication 2, .operationTimeoutSeconds 30, .tlsTrustCertsFilePath "ca.pem",
        .tlsAllowInsecureConnection true]) := by
  obtain ⟨c, hc⟩ : ∃ c, (construct tuned.sides (.object .plain 0) noClient ⟨(), none, ()⟩).2.1.cClient = some c :=
    ⟨_, rfl⟩
  have hnamed := construct_translates tuned.sides (.object .plain 0) ⟨(), none, ()⟩ tuned.lawful
    (tuned.steady.shown _ _ _) rfl rfl hc
  have hsetters : shownSetters tuned.view (.object .plain 0) = [.logger, .authentication 2, .operationTimeoutSeconds 30,
      .tlsTrustCertsFilePath "ca.pem", .tlsAllowInsecureConnection true] := by rfl
  rw [hc]
  cases hnamed with
  | serviceUrl hurl hne hnone =>
    cases hurl
    rw [hsetters]
    rfl
  | provider hnone hprovider => cases hnone

end Client

end PulsarNode
