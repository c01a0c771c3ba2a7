/-
What the sections of `Client::Client` do to the members of the client. A section that makes no setter
call can keep references to authentication objects, and set the native client; nothing else of the
members is its own.
-/
import PulsarNode.Config.Client
import PulsarNode.Napi.Frame

namespace PulsarNode

open Napi Prog

namespace Client

variable {ρ : ClientState → ClientState → Prop}

/-! ## What the sections change -/

theorem fail_moves {α : Type} {message : String} : Moves ρ (fail message : Napi ClientState (Option α)) :=
  .bind (.ask _) fun _ => .pure _

theorem set_moves {c : ClientSetter} (h : ∀ st : ClientState, ρ st { st with cClientConfig := st.cClientConfig ++ [c] }) :
    Moves ρ (set c) :=
  .bind setter_moves fun _ => .change h

section

variable (config : JsValue)

theorem checkServiceUrl_moves : Moves ρ (checkServiceUrl config) := by
  refine .bind hasAs_moves fun hasProvider => .bind hasAs_moves fun hasUrl => ?_
  cases hasProvider <;> cases hasUrl
  · exact fail_moves
  · refine .bind (.bind js_moves fun x => ?_) fun bad => ?_
    · cases x.isString with
      | false => exact .pure _
      | true => exact .bind getString_moves fun _ => .pure _
    · cases bad with
      | false => exact .pure _
      | true => exact fail_moves
  · exact .pure _
  · exact fail_moves

theorem initLog_moves (hlevel : ∀ st n, ρ st { st with logLevel := n }) (hlogger : Moves ρ (set .logger))
    (hlog : ∀ st log, ρ st { st with log := log }) : Moves ρ (initLog config) := by
  refine .bind (ifNumber_moves fun _ => .change fun st => hlevel st _) fun _ => .bind hlogger fun _ => ?_
  exact ifHasAs_moves (.bind js_moves fun _ => .bind js_moves fun _ => .change fun st => hlog st _) (.pure _)

/-- The binding is kept in a reference. -/
theorem buildAuthenticationPtr_moves (hrefs : ∀ st refs, ρ st { st with authRefs := refs }) (authObject : JsValue) :
    Moves ρ (buildAuthenticationPtr authObject) := by
  refine .bind hasAs_moves fun b => ?_
  cases b with
  | false => exact fail_moves
  | true =>
    refine .bind js_moves fun binding => .bind js_moves fun _ => .bind (.change fun st => hrefs st _) fun _ =>
      .bind js_moves fun auth => ?_
    cases auth with
    | none => exact fail_moves
    | some auth => exact .pure _

theorem initAuthentication_moves (hrefs : ∀ st refs, ρ st { st with authRefs := refs })
    (hset : ∀ auth, Moves ρ (set (.authentication auth))) : Moves ρ (initAuthentication config) := by
  refine ifHasAs_moves (.bind getObject_moves fun obj => ifHasAs_moves ?_ (.pure _)) (.pure _)
  refine .bind (buildAuthenticationPtr_moves hrefs obj) fun r => ?_
  cases r with
  | none => exact .pure _
  | some auth => exact .bind (hset auth) fun _ => .pure _

theorem setPositive_moves {key : String} {c : Int → ClientSetter} (h : ∀ n, Moves ρ (set (c n))) :
    Moves ρ (setPositive config key c) := by
  refine ifNumber_moves fun x => ?_
  split
  · exact h _
  · exact .pure _

theorem initTlsTrustCert_moves (hset : ∀ path, Moves ρ (set (.tlsTrustCertsFilePath path))) :
    Moves ρ (initTlsTrustCert config) :=
  ifHasAs_moves (.bind getString_moves fun _ => .bind (hset _) fun _ => .pure _) (.pure _)

theorem initOptions_moves (hset : ∀ c, Moves ρ (set c)) : Moves ρ (initOptions config) := by
  have hpositive {key : String} {c : Int → ClientSetter} : Moves ρ (setPositive config key c) :=
    setPositive_moves config fun _ => hset _
  exact .bind hpositive fun _ => .bind hpositive fun _ => .bind hpositive fun _ => .bind hpositive fun _ => hpositive

theorem initTlsOptions_moves (hset : ∀ c, Moves ρ (set c)) : Moves ρ (initTlsOptions config) :=
  .bind (ifString_moves fun _ => hset _) fun _ => .bind (ifString_moves fun _ => hset _) fun _ =>
    .bind (ifBoolean_moves fun _ => hset _) fun _ => .bind (ifBoolean_moves fun _ => hset _) fun _ =>
    .bind (ifNumber_moves fun _ => hset _) fun _ => ifString_moves fun _ => hset _

theorem beforeTry_moves (hlevel : ∀ st n, ρ st { st with logLevel := n }) (hlog : ∀ st log, ρ st { st with log := log })
    (hrefs : ∀ st refs, ρ st { st with authRefs := refs }) (hset : ∀ c, Moves ρ (set c)) : Moves ρ (beforeTry config) := by
  refine .bind (checkServiceUrl_moves config) fun r => ?_
  cases r with
  | none => exact .pure _
  | some hasServiceUrlProvider =>
    refine .bind (initLog_moves config hlevel (hset _) hlog) fun _ =>
      .bind (initAuthentication_moves config hrefs fun _ => hset _) fun r => ?_
    cases r with
    | none => exact .pure _
    | some auth =>
      exact .bind (initOptions_moves config hset) fun _ => .bind (initTlsTrustCert_moves config fun _ => hset _) fun _ =>
        .bind (initTlsOptions_moves config hset) fun _ => .pure _

end

/-! ## The body of the `try` block -/

theorem serviceAuthentication_moves (hrefs : ∀ st refs, ρ st { st with authRefs := refs }) (serviceInfo : JsValue)
    (fieldName : String) (defaultAuth : Option Handle) :
    Moves ρ (serviceAuthentication serviceInfo fieldName defaultAuth) := by
  refine ifHasAs_moves (.bind js_moves fun x => ?_) (.pure _)
  cases x.isObject with
  | false => exact fail_moves
  | true =>
    refine .bind js_moves fun obj => .bind (buildAuthenticationPtr_moves hrefs obj) fun r => ?_
    cases r with
    | none => exact .pure _
    | some auth => exact .pure _

theorem serviceTls_moves (serviceInfo : JsValue) (fieldName : String) (defaultTls : Option String) :
    Moves ρ (serviceTls serviceInfo fieldName defaultTls) := by
  refine ifHasAs_moves (.bind js_moves fun x => ?_) (.pure _)
  cases x.isString with
  | false => exact fail_moves
  | true => exact .bind getString_moves fun _ => .pure _

theorem buildServiceInfo_moves (hrefs : ∀ st refs, ρ st { st with authRefs := refs }) (value : JsValue)
    (fieldName : String) (defaultAuth : Option Handle) (defaultTls : Option String) :
    Moves ρ (buildServiceInfo value fieldName defaultAuth defaultTls) := by
  unfold buildServiceInfo
  cases value.isString with
  | true =>
    refine .bind js_moves fun serviceUrl => ?_
    split
    · exact fail_moves
    · exact .pure _
  | false =>
    cases value.isObject with
    | false => exact fail_moves
    | true =>
      refine .bind (ifHasAs_moves (.bind getString_moves fun _ => .pure _) (.pure _)) fun given => ?_
      cases given with
      | false => exact fail_moves
      | true =>
        refine .bind getString_moves fun _ => .bind (serviceAuthentication_moves hrefs _ _ _) fun r => ?_
        cases r with
        | none => exact .pure _
        | some authentication =>
          refine .bind (serviceTls_moves _ _ _) fun r => ?_
          cases r with
          | none => exact .pure _
          | some tls => exact .pure _

theorem setPositiveUint32_moves (config : JsValue) (fieldName : String) : Moves ρ (setPositiveUint32 config fieldName) := by
  refine .bind hasAs_moves fun b => ?_
  cases b with
  | false => exact .pure _
  | true =>
    refine .bind js_moves fun x => ?_
    cases x.isNumber with
    | false => exact fail_moves
    | true =>
      refine .bind getNumber_moves fun n => ?_
      dsimp only
      split
      · exact fail_moves
      · exact .pure _

theorem secondaryServices_moves (hrefs : ∀ st refs, ρ st { st with authRefs := refs }) (secondaryConfig : JsValue)
    (defaultAuth : Option Handle) (defaultTls : Option String) :
    Moves ρ (secondaryServices secondaryConfig defaultAuth defaultTls) := by
  refine .bind (forLength_moves (fun i secondary => .bind js_moves fun _ =>
    .bind (buildServiceInfo_moves hrefs _ _ _ _) fun r => ?_) _) fun r => ?_
  · cases r with
    | none => exact .pure _
    | some info => exact .pure _
  · cases r with
    | error u => exact .pure _
    | ok secondary => exact .pure _

theorem providerNumbers_moves (providerConfig : JsValue) (primary : ServiceInfo) (secondary : List ServiceInfo) :
    Moves ρ (providerNumbers providerConfig primary secondary) := by
  refine .bind (setPositiveUint32_moves _ _) fun r => ?_
  cases r with
  | none => exact .pure _
  | some checkInterval =>
    refine .bind (setPositiveUint32_moves _ _) fun r => ?_
    cases r with
    | none => exact .pure _
    | some failoverThreshold =>
      refine .bind (setPositiveUint32_moves _ _) fun r => ?_
      cases r with
      | none => exact .pure _
      | some switchBackThreshold => exact .pure _

theorem buildServiceInfoProvider_moves (hrefs : ∀ st refs, ρ st { st with authRefs := refs }) (clientConfig : JsValue)
    (defaultAuth : Option Handle) (defaultTls : Option String) :
    Moves ρ (buildServiceInfoProvider clientConfig defaultAuth defaultTls) := by
  refine .bind js_moves fun providerConfig => ?_
  cases JsValue.isObject providerConfig with
  | false => exact fail_moves
  | true =>
    refine .bind hasAs_moves fun b => ?_
    cases b with
    | false => exact fail_moves
    | true =>
      refine .bind js_moves fun primary => .bind (buildServiceInfo_moves hrefs primary _ _ _) fun r => ?_
      cases r with
      | none => exact .pure _
      | some primary =>
        refine .bind hasAs_moves fun b => ?_
        cases b with
        | false => exact fail_moves
        | true =>
          refine .bind js_moves fun secondaryConfig => .bind js_moves fun n => ?_
          split
          · exact fail_moves
          · refine .bind js_moves fun _ => .bind (secondaryServices_moves hrefs _ _ _) fun r => ?_
            cases r with
            | none => exact .pure _
            | some secondary => exact providerNumbers_moves _ _ _

theorem tryBlock_moves (hrefs : ∀ st refs, ρ st { st with authRefs := refs })
    (hclient : ∀ st c, ρ st { st with cClient := some c }) (clientConfig : JsValue) (setup : Setup) :
    Moves ρ (tryBlock clientConfig setup) := by
  unfold tryBlock
  cases setup.hasServiceUrlProvider with
  | true =>
    refine .bind (buildServiceInfoProvider_moves hrefs _ _ _) fun r => ?_
    cases r with
    | none => exact .pure _
    | some provider => exact .bind .look fun st => .bind (.ask _) fun _ => .change fun st => hclient st _
  | false => exact .bind getString_moves fun _ => .bind .look fun st => .bind (.ask _) fun _ => .change fun st => hclient st _

end Client

end PulsarNode
