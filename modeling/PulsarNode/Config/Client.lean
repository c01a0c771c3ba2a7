/-
`Client::Client`: validation, logging, authentication and the options, then the creation of the
native client in a `try` block. A check that fails leaves a JS exception pending and the
constructor returns. Only what runs inside the `try` block has its exceptions caught.
-/
import PulsarNode.Napi.Query

namespace PulsarNode

/-- The process-wide logging: the function of the record that `Client::logCallback` points to
(`none` when the pointer is null), and the functions released so far. -/
structure LogState where
  handler : Option Handle
  released : List Handle
  deriving DecidableEq

/-- A new log function takes the place of the record's one, which is released. -/
def LogState.install (f : Handle) (log : LogState) : LogState :=
  ⟨some f, log.released ++ log.handler.toList⟩

/-- The members of a `Client` wrapper, and the logging state it shares with all others. -/
structure ClientState where
  cClient : Option ClientCreation
  cClientConfig : List ClientSetter
  logLevel : Int
  authRefs : List JsValue
  log : LogState
  deriving DecidableEq

namespace Client

open Napi

def cfgServiceUrl : String := "serviceUrl"
def cfgServiceUrlProvider : String := "serviceUrlProvider"
def cfgPrimary : String := "primary"
def cfgSecondary : String := "secondary"
def cfgCheckIntervalMs : String := "checkIntervalMs"
def cfgFailoverThreshold : String := "failoverThreshold"
def cfgSwitchBackThreshold : String := "switchBackThreshold"
def cfgAuth : String := "authentication"
def cfgAuthProp : String := "binding"
def cfgOpTimeout : String := "operationTimeoutSeconds"
def cfgIoThreads : String := "ioThreads"
def cfgListenerThreads : String := "messageListenerThreads"
def cfgConcurrentLookup : String := "concurrentLookupRequest"
def cfgTlsTrustCert : String := "tlsTrustCertsFilePath"
def cfgTlsValidateHostname : String := "tlsValidateHostname"
def cfgTlsAllowInsecure : String := "tlsAllowInsecureConnection"
def cfgTlsCertFile : String := "tlsCertificateFilePath"
def cfgTlsPrivateKeyFile : String := "tlsPrivateKeyFilePath"
def cfgStatsInterval : String := "statsIntervalInSeconds"
def cfgLog : String := "log"
def cfgLogLevel : String := "logLevel"
def cfgListenerName : String := "listenerName"
def cfgConnectionTimeout : String := "connectionTimeoutMs"

def isPresent (v : JsValue) : Bool := !v.isUndefined && !v.isNull

/-- `o.Has(key) && IsPresent(o.Get(key))`. -/
def hasPresent (o : JsValue) (key : String) : Napi ClientState Bool := hasAs o key isPresent

/-- A failed check: the error becomes the pending JS exception. -/
def fail {α : Type} (message : String) : Napi ClientState (Option α) := do
  throwAsJavaScriptException (.error message)
  return none

def set (c : ClientSetter) : Napi ClientState Unit := do
  let _ ← setter (.client c)
  Prog.change fun st => { st with cClientConfig := st.cClientConfig ++ [c] }

/-! ## Authentications, services and the provider -/

/-- `BuildAuthenticationPtr`: the binding is referenced before it is unwrapped. -/
def buildAuthenticationPtr (authObject : JsValue) : Napi ClientState (Option Handle) := do
  if !(← hasAs authObject cfgAuthProp JsValue.isObject) then
    return ← fail "Authentication must be a Pulsar authentication object"
  let binding ← get authObject cfgAuthProp
  newReference binding
  Prog.change fun st => { st with authRefs := st.authRefs ++ [binding] }
  match ← unwrapAuthentication binding with
  | some auth => return some auth
  | none => fail "Authentication must be a Pulsar authentication object"

/-- The authentication of a service object, or the default one. -/
def serviceAuthentication (serviceInfo : JsValue) (fieldName : String) (defaultAuth : Option Handle) :
    Napi ClientState (Option (Option Handle)) := do
  if ← hasPresent serviceInfo cfgAuth then
    if !(← get serviceInfo cfgAuth).isObject then
      return ← fail (fieldName ++ ".authentication must be a Pulsar authentication object")
    match ← buildAuthenticationPtr (← get serviceInfo cfgAuth) with
    | some auth => return some (some auth)
    | none => return none
  return some defaultAuth

/-- The trust path of a service object, or the default one. -/
def serviceTls (serviceInfo : JsValue) (fieldName : String) (defaultTls : Option String) :
    Napi ClientState (Option (Option String)) := do
  if ← hasPresent serviceInfo cfgTlsTrustCert then
    if !(← get serviceInfo cfgTlsTrustCert).isString then
      return ← fail (fieldName ++ ".tlsTrustCertsFilePath must be a string")
    return some (some (← getString serviceInfo cfgTlsTrustCert))
  return some defaultTls

/-- `BuildServiceInfo`: a URL string, or a service object. -/
def buildServiceInfo (value : JsValue) (fieldName : String) (defaultAuth : Option Handle)
    (defaultTls : Option String) : Napi ClientState (Option ServiceInfo) := do
  if value.isString then
    let serviceUrl ← toString value
    if serviceUrl.isEmpty then
      return ← fail (fieldName ++ " service URL must be a non-empty string")
    return some ⟨serviceUrl, defaultAuth, defaultTls⟩
  if !value.isObject then
    return ← fail (fieldName ++ " must be a service URL string or service info object")
  let given ←
    (do
      if ← hasAs value cfgServiceUrl JsValue.isString then
        return !(← getString value cfgServiceUrl).isEmpty
      return false : Napi ClientState Bool)
  if !given then
    return ← fail (fieldName ++ ".serviceUrl is required and must be a non-empty string")
  let serviceUrl ← getString value cfgServiceUrl
  match ← serviceAuthentication value fieldName defaultAuth with
  | none => return none
  | some authentication =>
    match ← serviceTls value fieldName defaultTls with
    | none => return none
    | some tls => return some ⟨serviceUrl, authentication, tls⟩

/-- `SetPositiveUint32`: `some none` leaves the native default. -/
def setPositiveUint32 (config : JsValue) (fieldName : String) : Napi ClientState (Option (Option Int)) := do
  if !(← hasPresent config fieldName) then
    return some none
  if !(← get config fieldName).isNumber then
    return ← fail ("serviceUrlProvider." ++ fieldName ++ " must be a positive number")
  let value := (← getNumber config fieldName).int64Value
  if value ≤ 0 ∨ value > 2 ^ 32 - 1 then
    return ← fail ("serviceUrlProvider." ++ fieldName ++ " must be a positive number")
  return some (some value)

/-- The loop over the secondary services; `none` at the first that is not valid. -/
def secondaryServices (secondaryConfig : JsValue) (defaultAuth : Option Handle) (defaultTls : Option String) :
    Napi ClientState (Option (List ServiceInfo)) := do
  let r ← forLength secondaryConfig (fun i secondary => do
    match ← buildServiceInfo (← getAt secondaryConfig i) s!"serviceUrlProvider.secondary[{i}]" defaultAuth
        defaultTls with
    | some info => return .ok (secondary ++ [info])
    | none => return .error ()) []
  match r with
  | .ok secondary => return some secondary
  | .error () => return none

/-- The three numbers of the provider. -/
def providerNumbers (providerConfig : JsValue) (primary : ServiceInfo) (secondary : List ServiceInfo) :
    Napi ClientState (Option AutoClusterFailoverConfig) := do
  match ← setPositiveUint32 providerConfig cfgCheckIntervalMs with
  | none => return none
  | some checkInterval =>
    match ← setPositiveUint32 providerConfig cfgFailoverThreshold with
    | none => return none
    | some failoverThreshold =>
      match ← setPositiveUint32 providerConfig cfgSwitchBackThreshold with
      | none => return none
      | some switchBackThreshold =>
        return some ⟨primary, secondary, checkInterval, failoverThreshold, switchBackThreshold⟩

/-- `BuildServiceInfoProvider`. -/
def buildServiceInfoProvider (clientConfig : JsValue) (defaultAuth : Option Handle)
    (defaultTls : Option String) : Napi ClientState (Option AutoClusterFailoverConfig) := do
  let providerConfig ← get clientConfig cfgServiceUrlProvider
  if !providerConfig.isObject then
    return ← fail "serviceUrlProvider must be an object"
  if !(← hasPresent providerConfig cfgPrimary) then
    return ← fail "serviceUrlProvider.primary is required"
  match ← buildServiceInfo (← get providerConfig cfgPrimary) "serviceUrlProvider.primary" defaultAuth
      defaultTls with
  | none => return none
  | some primary =>
    if !(← hasAs providerConfig cfgSecondary JsValue.isArray) then
      return ← fail "serviceUrlProvider.secondary is required and must be an array"
    let secondaryConfig ← get providerConfig cfgSecondary
    if (← length secondaryConfig) == 0 then
      return ← fail "serviceUrlProvider.secondary must contain at least one service"
    -- `secondary.reserve(secondaryConfig.Length())`
    let _ ← length secondaryConfig
    match ← secondaryServices secondaryConfig defaultAuth defaultTls with
    | none => return none
    | some secondary => providerNumbers providerConfig primary secondary

/-! ## The constructor before its `try` block -/

/-- What the checks leave for the creation. -/
structure Setup where
  hasServiceUrlProvider : Bool
  defaultAuthentication : Option Handle
  defaultTlsTrustCertsFilePath : Option String
  deriving DecidableEq

/-- Exactly one of the two ways to name the service; whether it is the provider. -/
def checkServiceUrl (clientConfig : JsValue) : Napi ClientState (Option Bool) := do
  let hasServiceUrlProvider ← hasPresent clientConfig cfgServiceUrlProvider
  let hasServiceUrl ← hasPresent clientConfig cfgServiceUrl
  if hasServiceUrlProvider && hasServiceUrl then
    return ← fail "Only one of serviceUrl or serviceUrlProvider can be configured"
  if !hasServiceUrlProvider && !hasServiceUrl then
    return ← fail ("Service URL is required and must be specified as a string unless serviceUrlProvider " ++
      "is configured")
  if hasServiceUrl then
    let bad ←
      (do
        if (← get clientConfig cfgServiceUrl).isString then
          return (← getString clientConfig cfgServiceUrl).isEmpty
        return true : Napi ClientState Bool)
    if bad then
      return ← fail "Service URL is required and must be specified as a string"
  return some hasServiceUrlProvider

/-- The log level and the `log` option. -/
def initLog (clientConfig : JsValue) : Napi ClientState Unit := do
  ifNumber clientConfig cfgLogLevel fun x => Prog.change ({ · with logLevel := x.int32Value })
  set .logger
  if ← hasAs clientConfig cfgLog JsValue.isFunction then
    let logFunction ← newThreadSafeFunction (← get clientConfig cfgLog)
    Prog.change fun st => { st with log := st.log.install logFunction }

/-- The default authentication, `some none` when none is given. -/
def initAuthentication (clientConfig : JsValue) : Napi ClientState (Option (Option Handle)) := do
  if ← hasAs clientConfig cfgAuth JsValue.isObject then
    let obj ← getObject clientConfig cfgAuth
    if ← hasAs obj cfgAuthProp JsValue.isObject then
      match ← buildAuthenticationPtr obj with
      | none => return none
      | some auth =>
        set (.authentication auth)
        return some (some auth)
  return some none

/-- A number option read with `Int32Value`, forwarded when it is positive. -/
def setPositive (config : JsValue) (key : String) (c : Int → ClientSetter) : Napi ClientState Unit :=
  ifNumber config key fun x => do
    if 0 < x.int32Value then set (c x.int32Value)

def initOptions (clientConfig : JsValue) : Napi ClientState Unit := do
  setPositive clientConfig cfgOpTimeout .operationTimeoutSeconds
  setPositive clientConfig cfgIoThreads .ioThreads
  setPositive clientConfig cfgConnectionTimeout .connectionTimeout
  setPositive clientConfig cfgListenerThreads .messageListenerThreads
  setPositive clientConfig cfgConcurrentLookup .concurrentLookupRequest

/-- The trust path, which is also the default of the services. -/
def initTlsTrustCert (clientConfig : JsValue) : Napi ClientState (Option String) := do
  if ← hasAs clientConfig cfgTlsTrustCert JsValue.isString then
    let path ← getString clientConfig cfgTlsTrustCert
    set (.tlsTrustCertsFilePath (cStr path))
    return some path
  return none

def initTlsOptions (clientConfig : JsValue) : Napi ClientState Unit := do
  ifString clientConfig cfgTlsCertFile fun path => set (.tlsCertificateFilePath (cStr path))
  ifString clientConfig cfgTlsPrivateKeyFile fun path => set (.tlsPrivateKeyFilePath (cStr path))
  ifBoolean clientConfig cfgTlsValidateHostname fun b => set (.validateHostname b)
  ifBoolean clientConfig cfgTlsAllowInsecure fun b => set (.tlsAllowInsecureConnection b)
  ifNumber clientConfig cfgStatsInterval fun x => set (.statsIntervalInSeconds x.uint32Value)
  ifString clientConfig cfgListenerName fun name => set (.listenerName (cStr name))

/-- `Client::Client` up to its `try` block; `none` when it returned early. -/
def beforeTry (clientConfig : JsValue) : Napi ClientState (Option Setup) := do
  match ← checkServiceUrl clientConfig with
  | none => return none
  | some hasServiceUrlProvider =>
    initLog clientConfig
    match ← initAuthentication clientConfig with
    | none => return none
    | some defaultAuthentication =>
      initOptions clientConfig
      let tls ← initTlsTrustCert clientConfig
      initTlsOptions clientConfig
      return some ⟨hasServiceUrlProvider, defaultAuthentication, tls⟩

/-- The body of the `try` block. -/
def tryBlock (clientConfig : JsValue) (setup : Setup) : Napi ClientState Unit := do
  if setup.hasServiceUrlProvider then
    match ← buildServiceInfoProvider clientConfig setup.defaultAuthentication
        setup.defaultTlsTrustCertsFilePath with
    | none => return ()
    | some provider =>
      let conf := (← Prog.look).cClientConfig
      createClient (.fromProvider provider conf)
      Prog.change ({ · with cClient := some (.fromProvider provider conf) })
  else
    let serviceUrl ← getString clientConfig cfgServiceUrl
    let conf := (← Prog.look).cClientConfig
    createClient (.fromServiceUrl (cStr serviceUrl) conf)
    Prog.change ({ · with cClient := some (.fromServiceUrl (cStr serviceUrl) conf) })

/-! ## The whole constructor -/

/-- `what()` of a caught exception. -/
def what : Exn → String
  | .napi (.error message) => message
  | .napi (.typeError message) => message
  | .napi (.thrown _ message) => message
  | .std message => message
  | .abort => ""

variable {J N : Type}

/-- `catch (const std::exception &e)`: a caught exception is left pending as a JS error. A
`Napi::Error` is a `std::exception` too; an abort is not an exception. -/
def catchStd (r : Except Exn Unit) (w : World J N) : Except Exn Unit × World J N :=
  match r with
  | .ok () => (.ok (), w)
  | .error .abort => (.error .abort, w)
  | .error e => (.ok (), { w with pending := some (.error (what e)) })

/-- `Client::Client`: how `new Client(config)` ends, and the states after it. -/
def construct (sides : Sides J N) (config : JsValue) (st : ClientState) (w : World J N) :
    CallOutcome × ClientState × World J N :=
  match (beforeTry config).run sides.answer st w with
  | (.error e, st', w') => (callbackWrapper (α := Unit) (.error e) w', st', w')
  -- a check failed, and the exception it left pending becomes the throw
  | (.ok none, st', w') => (callbackWrapper (.ok ()) w', st', w')
  | (.ok (some setup), st', w') =>
    match (tryBlock config setup).run sides.answer st' w' with
    | (r, st'', w'') =>
      let (r', w₃) := catchStd r w''
      (callbackWrapper r' w₃, st'', w₃)

end Client

end PulsarNode
