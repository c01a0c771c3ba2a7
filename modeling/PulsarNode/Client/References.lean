/-
The references of a client: whatever the config holds, and wherever the constructor stops, every
native authentication that it has put into the configuration or into a service info belongs to a
binding that it has put into `authRefs_`.
-/
import PulsarNode.Config.Client
import PulsarNode.Prog.Wp

namespace PulsarNode

/-! ## Authentications in use -/

def ClientSetter.auths : ClientSetter → List Handle
  | authentication auth => [auth]
  | _ => []

def ServiceInfo.auths (info : ServiceInfo) : List Handle := info.authentication.toList

def AutoClusterFailoverConfig.auths (c : AutoClusterFailoverConfig) : List Handle :=
  c.primary.auths ++ c.secondary.flatMap ServiceInfo.auths

/-- The native authentications that the native client is created with. -/
def ClientCreation.auths : ClientCreation → List Handle
  | fromProvider provider conf => provider.auths ++ conf.flatMap ClientSetter.auths
  | fromServiceUrl _ conf => conf.flatMap ClientSetter.auths

namespace Client

open Prog Napi

section

variable (wrapped : JsValue → Option Handle)

/-- The authentication is that of a referenced binding; `wrapped` says which authentication a JS
object wraps. -/
def Referenced (st : ClientState) (auth : Handle) : Prop := ∃ b ∈ st.authRefs, wrapped b = some auth

/-- The authentications in `held`, those in the configuration and those of the client are
referenced. -/
structure Covered (held : List Handle) (st : ClientState) : Prop where
  held : ∀ a ∈ held, Referenced wrapped st a
  conf : ∀ a ∈ st.cClientConfig.flatMap ClientSetter.auths, Referenced wrapped st a
  client : ∀ c, st.cClient = some c → ∀ a ∈ c.auths, Referenced wrapped st a

/-- An object unwraps to the authentication it wraps. -/
def Unwraps : (q : Query) → q.Resp → Prop
  | .js (.unwrapAuthentication v), r => ∀ auth : Handle, (r : Option Handle) = some auth → wrapped v = some auth
  | _, _ => True

/-- The program keeps an assertion, whatever it is told. -/
abbrev Preserves {α : Type} (I : ClientState → Prop) (p : Napi ClientState α) : Prop :=
  Prog.Keeps (Unwraps wrapped) (Covered wrapped []) I p

/-- The weakest precondition for the answers that unwrap authentications as they are. -/
abbrev wpc {α : Type} (p : Napi ClientState α) (post : α → ClientState → Prop) (st : ClientState) : Prop :=
  Prog.wp (Unwraps wrapped) (Covered wrapped []) p post st

end

variable {wrapped : JsValue → Option Handle} {held held' : List Handle} {st : ClientState}
variable {I : ClientState → Prop} {α : Type}

theorem Covered.mono (h : Covered wrapped held st) (hsub : held' ⊆ held) : Covered wrapped held' st :=
  { h with held := fun a ha => h.held a (hsub ha) }

theorem Covered.nil (h : Covered wrapped held st) : Covered wrapped [] st := h.mono (List.nil_subset _)

/-- One more reference covers what was covered. -/
theorem Covered.reference (h : Covered wrapped held st) (b : JsValue) :
    Covered wrapped held { st with authRefs := st.authRefs ++ [b] } where
  held a ha := (h.held a ha).imp fun _ hb => ⟨List.mem_append_left _ hb.1, hb.2⟩
  conf a ha := (h.conf a ha).imp fun _ hb => ⟨List.mem_append_left _ hb.1, hb.2⟩
  client c hc a ha := (h.client c hc a ha).imp fun _ hb => ⟨List.mem_append_left _ hb.1, hb.2⟩

/-! ## Reading -/

section Reading

variable (hI : ∀ st, I st → Covered wrapped [] st)

include hI

theorem js_preserves (q : JsQuery) : Preserves wrapped I (js q) := Keeps.ask hI (Query.js q)

theorem hasAs_preserves (o : JsValue) (key : String) (is : JsValue → Bool) :
    Preserves wrapped I (hasAs o key is) := by
  refine .bind (js_preserves hI _) fun b => ?_
  split
  · exact .bind (js_preserves hI _) fun _ => .pure _
  · exact .pure _

theorem getString_preserves (o : JsValue) (key : String) : Preserves wrapped I (getString o key) :=
  .bind (js_preserves hI _) fun _ => js_preserves hI _

theorem getNumber_preserves (o : JsValue) (key : String) : Preserves wrapped I (getNumber o key) :=
  .bind (js_preserves hI _) fun _ => js_preserves hI _

theorem getObject_preserves (o : JsValue) (key : String) : Preserves wrapped I (getObject o key) :=
  .bind (js_preserves hI _) fun _ => js_preserves hI _

theorem ifString_preserves (o : JsValue) (key : String) {use : String → Napi ClientState Unit}
    (huse : ∀ s, Preserves wrapped I (use s)) : Preserves wrapped I (ifString o key use) := by
  refine .bind (hasAs_preserves hI _ _ _) fun b => ?_
  split
  · exact .bind (getString_preserves hI _ _) huse
  · exact .pure _

theorem ifNumber_preserves (o : JsValue) (key : String) {use : JsNumber → Napi ClientState Unit}
    (huse : ∀ x, Preserves wrapped I (use x)) : Preserves wrapped I (ifNumber o key use) := by
  refine .bind (hasAs_preserves hI _ _ _) fun b => ?_
  split
  · exact .bind (getNumber_preserves hI _ _) huse
  · exact .pure _

theorem ifBoolean_preserves (o : JsValue) (key : String) {use : Bool → Napi ClientState Unit}
    (huse : ∀ b, Preserves wrapped I (use b)) : Preserves wrapped I (ifBoolean o key use) := by
  refine .bind (hasAs_preserves hI _ _ _) fun b => ?_
  split
  · exact .bind (.bind (js_preserves hI _) fun _ => js_preserves hI _) huse
  · exact .pure _

theorem fail_preserves (message : String) : Preserves wrapped I (fail message : Napi ClientState (Option α)) :=
  .bind (Keeps.ask hI _) fun _ => .pure _

/-- A failed check has no result. -/
theorem fail_spec (message : String) (hst : I st) {post : Option α → ClientState → Prop}
    (hpost : ∀ st, I st → post none st) : wpc wrapped (fail message) post st :=
  ⟨hI st hst, fun _ _ => hpost st hst⟩

theorem serviceTls_preserves (o : JsValue) (fieldName : String) (defaultTls : Option String) :
    Preserves wrapped I (serviceTls o fieldName defaultTls) := by
  refine .bind (hasAs_preserves hI _ _ _) fun b => ?_
  split
  · refine .bind (js_preserves hI _) fun v => ?_
    split
    · exact fail_preserves hI _
    · exact .bind (getString_preserves hI _ _) fun _ => .pure _
  · exact .pure _

theorem setPositiveUint32_preserves (o : JsValue) (fieldName : String) :
    Preserves wrapped I (setPositiveUint32 o fieldName) := by
  refine .bind (hasAs_preserves hI _ _ _) fun b => ?_
  dsimp only
  split
  · exact .pure _
  · refine .bind (js_preserves hI _) fun v => ?_
    split
    · exact fail_preserves hI _
    · refine .bind (getNumber_preserves hI _ _) fun x => ?_
      split
      · exact fail_preserves hI _
      · exact .pure _

end Reading

/-! ## Authentications -/

/-- An unwrapped authentication is that of the object. -/
theorem unwrapAuthentication_spec (b : JsValue) (h : Covered wrapped held st) (hb : b ∈ st.authRefs) :
    wpc wrapped (unwrapAuthentication b)
      (fun r st => Covered wrapped held st ∧ ∀ auth, r = some auth → Referenced wrapped st auth) st :=
  ⟨h.nil, fun _ hr => ⟨h, fun auth ha => ⟨b, hb, hr auth ha⟩⟩⟩

theorem buildAuthenticationPtr_spec (o : JsValue) (h : Covered wrapped held st) :
    wpc wrapped (buildAuthenticationPtr o) (fun r => Covered wrapped (held ++ r.toList)) st := by
  have hnil : ∀ st, Covered wrapped held st → Covered wrapped [] st := fun _ => Covered.nil
  refine wp_seq (hasAs_preserves hnil _ _ _ st h) fun b st h => ?_
  split
  · exact fail_spec hnil _ h fun st h => by simpa using h
  · refine wp_seq (js_preserves hnil _ st h) fun (binding : JsValue) st h => ?_
    refine wp_seq (js_preserves hnil _ st h) fun _ st h => ?_
    -- the reference is stored first, so what is unwrapped is referenced
    rw [wp_bind, wp_change]
    refine wp_seq (unwrapAuthentication_spec binding (h.reference binding) (by simp)) fun r st hr => ?_
    obtain ⟨h, hauth⟩ := hr
    cases r with
    | none => exact fail_spec hnil _ h fun st h => by simpa using h
    | some auth =>
      refine { h with held := fun a ha => ?_ }
      rcases List.mem_append.1 ha with ha | ha
      · exact h.held a ha
      · rw [List.mem_singleton.1 ha]
        exact hauth auth rfl

/-- The default authentication is one of those held. -/
theorem serviceAuthentication_spec (o : JsValue) (fieldName : String) (defaultAuth : Option Handle)
    (hdef : defaultAuth.toList ⊆ held) (h : Covered wrapped held st) :
    wpc wrapped (serviceAuthentication o fieldName defaultAuth)
      (fun r => Covered wrapped (held ++ r.toList.flatMap Option.toList)) st := by
  have hnil : ∀ st, Covered wrapped held st → Covered wrapped [] st := fun _ => Covered.nil
  have hnone : ∀ st, Covered wrapped held st → Covered wrapped (held ++ (none : Option (Option Handle)).toList.flatMap
      Option.toList) st := fun st h => by simpa using h
  refine wp_seq (hasAs_preserves hnil _ _ _ st h) fun b st h => ?_
  split
  · refine wp_seq (js_preserves hnil _ st h) fun (v : JsValue) st h => ?_
    split
    · exact fail_spec hnil _ h hnone
    · refine wp_seq (js_preserves hnil _ st h) fun (v : JsValue) st h => ?_
      refine wp_seq (buildAuthenticationPtr_spec v h) fun r st h => ?_
      cases r with
      | none => exact hnone st (by simpa using h)
      | some auth => simpa using h
  · refine h.mono fun a ha => ?_
    simp only [Option.toList_some, List.flatMap_cons, List.flatMap_nil, List.append_nil, List.mem_append] at ha
    exact ha.elim id fun ha => hdef ha

theorem buildServiceInfo_spec (v : JsValue) (fieldName : String) (defaultAuth : Option Handle)
    (defaultTls : Option String) (hdef : defaultAuth.toList ⊆ held) (h : Covered wrapped held st) :
    wpc wrapped (buildServiceInfo v fieldName defaultAuth defaultTls)
      (fun r => Covered wrapped (held ++ r.toList.flatMap ServiceInfo.auths)) st := by
  have hnil : ∀ st, Covered wrapped held st → Covered wrapped [] st := fun _ => Covered.nil
  have hnone : ∀ st, Covered wrapped held st → Covered wrapped (held ++ (none : Option ServiceInfo).toList.flatMap
      ServiceInfo.auths) st := fun st h => by simpa using h
  unfold buildServiceInfo
  split
  · refine wp_seq (js_preserves hnil _ st h) fun (serviceUrl : String) st h => ?_
    split
    · exact fail_spec hnil _ h hnone
    · refine h.mono fun a ha => ?_
      simp only [Option.toList_some, List.flatMap_cons, List.flatMap_nil, List.append_nil, List.mem_append,
        ServiceInfo.auths] at ha
      exact ha.elim id fun ha => hdef ha
  · split
    · exact fail_spec hnil _ h hnone
    · have hgiven : Preserves wrapped (Covered wrapped held) (do
          if ← hasAs v cfgServiceUrl JsValue.isString then
            return !(← getString v cfgServiceUrl).isEmpty
          return false : Napi ClientState Bool) := by
        refine .bind (hasAs_preserves hnil _ _ _) fun b => ?_
        split
        · exact .bind (getString_preserves hnil _ _) fun _ => .pure _
        · exact .pure _
      refine wp_seq (hgiven st h) fun given st h => ?_
      split
      · exact fail_spec hnil _ h hnone
      · refine wp_seq (getString_preserves hnil _ _ st h) fun serviceUrl st h => ?_
        refine wp_seq (serviceAuthentication_spec v fieldName defaultAuth hdef h) fun r st h => ?_
        cases r with
        | none => exact hnone st (by simpa using h)
        | some authentication =>
          refine wp_seq (serviceTls_preserves (fun _ => Covered.nil) _ _ _ st h) fun r st h => ?_
          cases r with
          | none => exact hnone st (h.mono (List.subset_append_left _ _))
          | some tls => simpa [ServiceInfo.auths] using h

/-! ## The provider -/

/-- The services gathered so far are covered along with what was held. -/
theorem secondaryServices_spec (arr : JsValue) (defaultAuth : Option Handle) (defaultTls : Option String)
    (hdef : defaultAuth.toList ⊆ held) (h : Covered wrapped held st) :
    wpc wrapped (secondaryServices arr defaultAuth defaultTls)
      (fun r => Covered wrapped (held ++ r.toList.flatten.flatMap ServiceInfo.auths)) st := by
  have hnil : ∀ held st, Covered wrapped held st → Covered wrapped [] st := fun _ _ => Covered.nil
  unfold secondaryServices forLength
  refine wp_seq (wp_forLoop (fun acc => Covered wrapped (held ++ acc.flatMap ServiceInfo.auths))
    (fun _ => Covered wrapped held) ?_ ?_ _ _ _ st (by simpa using h)) fun r st h => ?_
  · intro i acc st h
    exact Keeps.bind (js_preserves (hnil _) _) (fun _ => .pure _) st h
  · intro i acc st h
    refine wp_seq (js_preserves (hnil _) _ st h) fun (v : JsValue) st h => ?_
    have hdef' : defaultAuth.toList ⊆ held ++ acc.flatMap ServiceInfo.auths :=
      fun x hx => List.mem_append_left _ (hdef hx)
    refine wp_seq (buildServiceInfo_spec v _ defaultAuth defaultTls hdef' h) fun r st h => ?_
    cases r with
    | none => exact h.mono (by simp)
    | some info => simpa using h
  · cases r with
    | error c => simpa using h
    | ok secondary => simpa using h

theorem providerNumbers_spec (o : JsValue) (primary : ServiceInfo) (secondary : List ServiceInfo)
    (h : Covered wrapped (primary.auths ++ secondary.flatMap ServiceInfo.auths) st) :
    wpc wrapped (providerNumbers o primary secondary)
      (fun r => Covered wrapped (r.toList.flatMap AutoClusterFailoverConfig.auths)) st := by
  have hnil : ∀ held st, Covered wrapped held st → Covered wrapped [] st := fun _ _ => Covered.nil
  refine wp_seq (setPositiveUint32_preserves (hnil _) _ _ st h) fun r st h => ?_
  cases r with
  | none => exact h.nil
  | some checkInterval =>
    refine wp_seq (setPositiveUint32_preserves (hnil _) _ _ st h) fun r st h => ?_
    cases r with
    | none => exact h.nil
    | some failoverThreshold =>
      refine wp_seq (setPositiveUint32_preserves (hnil _) _ _ st h) fun r st h => ?_
      cases r with
      | none => exact h.nil
      | some switchBackThreshold => simpa [AutoClusterFailoverConfig.auths] using h

theorem buildServiceInfoProvider_spec (config : JsValue) (defaultAuth : Option Handle) (defaultTls : Option String)
    (h : Covered wrapped defaultAuth.toList st) :
    wpc wrapped (buildServiceInfoProvider config defaultAuth defaultTls)
      (fun r => Covered wrapped (r.toList.flatMap AutoClusterFailoverConfig.auths)) st := by
  have hnil : ∀ held st, Covered wrapped held st → Covered wrapped [] st := fun _ _ => Covered.nil
  refine wp_seq (js_preserves (hnil _) _ st h) fun (providerConfig : JsValue) st h => ?_
  split
  · exact fail_spec (hnil _) _ h fun st h => h.nil
  · refine wp_seq (hasAs_preserves (hnil _) _ _ _ st h) fun b st h => ?_
    split
    · exact fail_spec (hnil _) _ h fun st h => h.nil
    · refine wp_seq (js_preserves (hnil _) _ st h) fun (v : JsValue) st h => ?_
      refine wp_seq (buildServiceInfo_spec v _ defaultAuth defaultTls (List.Subset.refl _) h) fun r st h => ?_
      cases r with
      | none => exact h.nil
      | some primary =>
        refine wp_seq (hasAs_preserves (hnil _) _ _ _ st h) fun b st h => ?_
        split
        · exact fail_spec (hnil _) _ h fun st h => h.nil
        · refine wp_seq (js_preserves (hnil _) _ st h) fun (arr : JsValue) st h => ?_
          refine wp_seq (js_preserves (hnil _) _ st h) fun _ st h => ?_
          split
          · exact fail_spec (hnil _) _ h fun st h => h.nil
          · refine wp_seq (js_preserves (hnil _) _ st h) fun _ st h => ?_
            refine wp_seq (secondaryServices_spec arr defaultAuth defaultTls (List.subset_append_left _ _) h)
              fun r st h => ?_
            cases r with
            | none => exact h.nil
            | some secondary =>
              refine providerNumbers_spec _ _ _ (h.mono fun a ha => ?_)
              simp only [Option.toList_some, List.flatMap_cons, List.flatMap_nil, List.append_nil,
                List.flatten_cons, List.flatten_nil, List.mem_append] at ha ⊢
              exact ha.elim (fun ha => .inl (.inr ha)) .inr

/-! ## The constructor -/

/-- A setter that takes no authentication leaves the configuration covered. -/
theorem set_preserves (c : ClientSetter) (hc : c.auths = []) :
    Preserves wrapped (Covered wrapped held) (set c) := by
  refine .bind (Keeps.ask (fun _ => Covered.nil) _) fun _ => .change fun st h => ?_
  exact { h with conf := fun a ha => h.conf a (by simpa [hc] using ha) }

theorem checkServiceUrl_preserves (config : JsValue) :
    Preserves wrapped (Covered wrapped held) (checkServiceUrl config) := by
  have hnil : ∀ st, Covered wrapped held st → Covered wrapped [] st := fun _ => Covered.nil
  have hbad : Preserves wrapped (Covered wrapped held) (do
      if (← get config cfgServiceUrl).isString then
        return (← getString config cfgServiceUrl).isEmpty
      return true : Napi ClientState Bool) := by
    refine .bind (js_preserves hnil _) fun v => ?_
    split
    · exact .bind (getString_preserves hnil _ _) fun _ => .pure _
    · exact .pure _
  refine .bind (hasAs_preserves hnil _ _ _) fun hasServiceUrlProvider => ?_
  refine .bind (hasAs_preserves hnil _ _ _) fun hasServiceUrl => ?_
  split
  · exact fail_preserves hnil _
  · split
    · exact fail_preserves hnil _
    · split
      · refine .bind hbad fun bad => ?_
        split
        · exact fail_preserves hnil _
        · exact .pure _
      · exact .pure _

theorem initLog_preserves (config : JsValue) : Preserves wrapped (Covered wrapped held) (initLog config) := by
  have hnil : ∀ st, Covered wrapped held st → Covered wrapped [] st := fun _ => Covered.nil
  refine .bind (ifNumber_preserves hnil _ _ fun x => .change fun st h => { h with }) fun _ => ?_
  refine .bind (set_preserves _ rfl) fun _ => ?_
  refine .bind (hasAs_preserves hnil _ _ _) fun b => ?_
  split
  · refine .bind (js_preserves hnil _) fun v => ?_
    exact .bind (js_preserves hnil _) fun f => .change fun st h => { h with }
  · exact .pure _

theorem initAuthentication_spec (config : JsValue) (h : Covered wrapped [] st) :
    wpc wrapped (initAuthentication config)
      (fun r => Covered wrapped (r.toList.flatMap Option.toList)) st := by
  have hnil : ∀ held st, Covered wrapped held st → Covered wrapped [] st := fun _ _ => Covered.nil
  refine wp_seq (hasAs_preserves (hnil _) _ _ _ st h) fun b st h => ?_
  split
  · refine wp_seq (getObject_preserves (hnil _) _ _ st h) fun obj st h => ?_
    refine wp_seq (hasAs_preserves (hnil _) _ _ _ st h) fun b st h => ?_
    split
    · refine wp_seq (buildAuthenticationPtr_spec obj h) fun r st h => ?_
      cases r with
      | none => exact h.nil
      | some auth =>
        refine wp_seq ⟨h.nil, fun _ _ => ?_⟩ fun _ _ => id
        refine { h with
          held := fun a ha => h.held a (by simpa using ha)
          conf := fun a ha => ?_ }
        rcases List.mem_append.1 (List.flatMap_append ▸ ha : a ∈ _ ++ _) with ha | ha
        · exact h.conf a ha
        · exact h.held a (by simpa [ClientSetter.auths] using ha)
    · exact h
  · exact h

theorem initOptions_preserves (config : JsValue) : Preserves wrapped (Covered wrapped held) (initOptions config) := by
  have hpos : ∀ key (c : Int → ClientSetter), (∀ n, (c n).auths = []) →
      Preserves wrapped (Covered wrapped held) (setPositive config key c) := by
    intro key c hc
    refine ifNumber_preserves (fun _ => Covered.nil) _ _ fun x => ?_
    split
    · exact set_preserves _ (hc _)
    · exact .pure _
  refine .bind (hpos _ _ fun _ => rfl) fun _ => ?_
  refine .bind (hpos _ _ fun _ => rfl) fun _ => ?_
  refine .bind (hpos _ _ fun _ => rfl) fun _ => ?_
  exact .bind (hpos _ _ fun _ => rfl) fun _ => hpos _ _ fun _ => rfl

theorem initTlsTrustCert_preserves (config : JsValue) :
    Preserves wrapped (Covered wrapped held) (initTlsTrustCert config) := by
  have hnil : ∀ st, Covered wrapped held st → Covered wrapped [] st := fun _ => Covered.nil
  refine .bind (hasAs_preserves hnil _ _ _) fun b => ?_
  split
  · exact .bind (getString_preserves hnil _ _) fun path => .bind (set_preserves _ rfl) fun _ => .pure _
  · exact .pure _

theorem initTlsOptions_preserves (config : JsValue) :
    Preserves wrapped (Covered wrapped held) (initTlsOptions config) := by
  have hnil : ∀ st, Covered wrapped held st → Covered wrapped [] st := fun _ => Covered.nil
  refine .bind (ifString_preserves hnil _ _ fun _ => set_preserves _ rfl) fun _ => ?_
  refine .bind (ifString_preserves hnil _ _ fun _ => set_preserves _ rfl) fun _ => ?_
  refine .bind (ifBoolean_preserves hnil _ _ fun _ => set_preserves _ rfl) fun _ => ?_
  refine .bind (ifBoolean_preserves hnil _ _ fun _ => set_preserves _ rfl) fun _ => ?_
  refine .bind (ifNumber_preserves hnil _ _ fun _ => set_preserves _ rfl) fun _ => ?_
  exact ifString_preserves hnil _ _ fun _ => set_preserves _ rfl

theorem beforeTry_spec (config : JsValue) (h : Covered wrapped [] st) :
    wpc wrapped (beforeTry config)
      (fun r => Covered wrapped (r.toList.flatMap fun setup => setup.defaultAuthentication.toList)) st := by
  refine wp_seq (checkServiceUrl_preserves config st h) fun r st h => ?_
  cases r with
  | none => exact h
  | some hasServiceUrlProvider =>
    refine wp_seq (initLog_preserves config st h) fun _ st h => ?_
    refine wp_seq (initAuthentication_spec config h) fun r st h => ?_
    cases r with
    | none => exact h
    | some defaultAuthentication =>
      refine wp_seq (initOptions_preserves config st h) fun _ st h => ?_
      refine wp_seq (initTlsTrustCert_preserves config st h) fun tls st h => ?_
      refine wp_seq (initTlsOptions_preserves config st h) fun _ st h => ?_
      exact h

/-- The native client is created with the configuration and the provider, which are covered. -/
theorem tryBlock_spec (config : JsValue) (setup : Setup)
    (h : Covered wrapped setup.defaultAuthentication.toList st) :
    wpc wrapped (tryBlock config setup) (fun _ => Covered wrapped []) st := by
  have hnil : ∀ held st, Covered wrapped held st → Covered wrapped [] st := fun _ _ => Covered.nil
  unfold tryBlock
  split
  · refine wp_seq (buildServiceInfoProvider_spec config _ _ h) fun r st h => ?_
    cases r with
    | none => exact h
    | some provider =>
      have hlook : wpc wrapped Prog.look (fun st' st'' => st' = st ∧ st'' = st) st := ⟨rfl, rfl⟩
      -- the native client is given the configuration as it stands
      refine wp_seq hlook ?_
      rintro _ _ ⟨rfl, rfl⟩
      refine ⟨h.nil, fun _ _ => ?_⟩
      refine { h.nil with client := fun c hc a ha => ?_ }
      cases hc
      rcases List.mem_append.1 ha with ha | ha
      · exact h.held a (by simpa using ha)
      · exact h.conf a ha
  · refine wp_seq (getString_preserves (hnil _) _ _ st h) fun serviceUrl st h => ?_
    have hlook : wpc wrapped Prog.look (fun st' st'' => st' = st ∧ st'' = st) st := ⟨rfl, rfl⟩
    refine wp_seq hlook ?_
    rintro _ _ ⟨rfl, rfl⟩
    refine ⟨h.nil, fun _ _ => ?_⟩
    refine { h.nil with client := fun c hc a ha => ?_ }
    cases hc
    exact h.conf a ha

/-- The JS side unwraps each object to the authentication it wraps. -/
def UnwrapsAs {J N : Type} (wrapped : JsValue → Option Handle) (sides : Sides J N) : Prop :=
  ∀ v j r j', sides.js (.unwrapAuthentication v) j = (.ok r, j') →
    ∀ auth : Handle, (r : Option Handle) = some auth → wrapped v = some auth

theorem unwraps_answer {J N : Type} {sides : Sides J N} (hs : UnwrapsAs wrapped sides) (q : Query)
    (w : World J N) (r : q.Resp) (w' : World J N) (h : sides.answer q w = (.ok r, w')) : Unwraps wrapped q r := by
  cases q with
  | js q =>
    cases q with
    | unwrapAuthentication v =>
      dsimp only [Sides.answer, Sides.answerJs] at h
      cases hp : w.pending with
      | some e =>
        rw [hp] at h
        cases h
      | none =>
        rw [hp] at h
        rcases hj : sides.js (.unwrapAuthentication v) w.js with ⟨e | r', j⟩
        · rw [hj] at h
          cases h
        · rw [hj] at h
          cases h
          exact hs v _ _ j hj
    | _ => trivial
  | _ => trivial

/-- However the constructor ends, the authentications that it has put into the configuration and
into the native client are those of referenced bindings. -/
theorem construct_covered {J N : Type} (sides : Sides J N) (hs : UnwrapsAs wrapped sides) (config : JsValue)
    {st : ClientState} (hst : Covered wrapped [] st) (w : World J N) :
    Covered wrapped [] (construct sides config st w).2.1 := by
  have hbefore := wp_run (unwraps_answer hs) (beforeTry_spec config hst) w
  unfold construct
  rcases hb : (beforeTry config).run sides.answer st w with ⟨e | r, st', w'⟩
  · rw [hb] at hbefore
    exact hbefore
  · rw [hb] at hbefore
    cases r with
    | none => exact hbefore
    | some setup =>
      have htry := wp_run (unwraps_answer hs) (tryBlock_spec config setup (by simpa using hbefore)) w'
      dsimp only
      rcases ht : (tryBlock config setup).run sides.answer st' w' with ⟨e | r, st'', w''⟩
      · rw [ht] at htry
        exact htry
      · rw [ht] at htry
        exact htry

end Client

end PulsarNode
