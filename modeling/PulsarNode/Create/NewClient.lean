/-
What `new Client(config)` leaves: a native client where it returns, and none where it throws. A check that
fails leaves a JS exception pending, and nothing else does; a read or a call that is refused inside the
`try` block leaves one too, and outside it ends the constructor with its exception.
-/
import PulsarNode.Config.Provider
import PulsarNode.Prog.Leads
import PulsarNode.Translation.Client

namespace PulsarNode

open Prog

/-! ## Pending exceptions -/

namespace Napi

variable {J N S α β : Type}

/-- No JS exception is pending. -/
def Quiet (w : World J N) : Prop := w.pending = none

/-- The program leaves no JS exception pending, and no refusal aborts. -/
def Silent (sides : Sides J N) (p : Napi S α) : Prop := Leads sides.answer (· ≠ .abort) Quiet p fun _ => Quiet

/-- What a check leaves: an exception exactly when it failed. -/
def Reported : Option α → World J N → Prop
  | some _, w => Quiet w
  | none, w => ∃ e, w.pending = some e

def Reports (sides : Sides J N) (p : Napi S (Option α)) : Prop := Leads sides.answer (· ≠ .abort) Quiet p Reported

section

variable {sides : Sides J N}

theorem js_silent {q : JsQuery} : Silent sides (js q : Napi S q.Resp) := by
  refine .ask (fun w r w' hw hq => ?_) fun w e w' _ hq => ?_
  · have hjs : sides.answerJs q w = (.ok r, w') := hq
    unfold Sides.answerJs at hjs
    rw [show w.pending = none from hw] at hjs
    dsimp only at hjs
    split at hjs
    · cases hjs
      rfl
    · cases hjs
  · obtain ⟨je, rfl⟩ := Sides.answerJs_error hq
    nofun

theorem setter_silent {c : Setter} : Silent sides (setter c : Napi S Int) := by
  refine .ask (fun w r w' hw hq => ?_) fun w e w' _ hq => ?_
  · unfold Sides.answer at hq
    dsimp only at hq
    split at hq
    · cases hq
      exact hw
    · cases hq
  · have hstd := (Sides.isNative_iff sides _ _ _ _ hq).1 trivial
    rintro rfl
    exact hstd

theorem createClient_silent {c : ClientCreation} : Silent sides (createClient c : Napi S Unit) := by
  refine .ask (fun w r w' hw hq => ?_) fun w e w' _ hq => ?_
  · unfold Sides.answer at hq
    dsimp only at hq
    split at hq
    · cases hq
      exact hw
    · cases hq
  · have hstd := (Sides.isNative_iff sides _ _ _ _ hq).1 trivial
    rintro rfl
    exact hstd

theorem pure_silent {a : α} : Silent sides (pure a : Napi S α) := .pure fun _ h => h

theorem change_silent {f : S → S} : Silent sides (Prog.change f : Napi S Unit) := .change fun _ h => h

theorem bind_silent {p : Napi S α} {f : α → Napi S β} (hp : Silent sides p) (hf : ∀ a, Silent sides (f a)) :
    Silent sides (p >>= f) := .bind hp hf

theorem some_reports {a : α} : Reports sides (pure (some a) : Napi S (Option α)) := .pure fun _ h => h

/-- A check that is made first. -/
theorem bind_reports {p : Napi S α} {f : α → Napi S (Option β)} (hp : Silent sides p) (hf : ∀ a, Reports sides (f a)) :
    Reports sides (p >>= f) := .bind hp hf

/-- The code after a check hands a failure on and goes on otherwise. -/
theorem check_reports {p : Napi S (Option α)} {f : Option α → Napi S (Option β)} (hp : Reports sides p)
    (hnone : f none = pure none) (hsome : ∀ a, Reports sides (f (some a))) : Reports sides (p >>= f) := by
  refine .bind hp fun r => ?_
  cases r with
  | none =>
    rw [hnone]
    exact .pure fun _ h => h
  | some a => exact hsome a

theorem ite_reports {c : Prop} [Decidable c] {p p' : Napi S (Option α)} (hp : c → Reports sides p)
    (hp' : ¬ c → Reports sides p') : Reports sides (if c then p else p') := by
  split
  · exact hp ‹_›
  · exact hp' ‹_›

/-! ### Reading patterns -/

section

variable {o : JsValue} {key : String}

theorem hasAs_silent {is : JsValue → Bool} : Silent sides (hasAs o key is : Napi S Bool) := by
  refine bind_silent js_silent fun b => ?_
  cases b with
  | false => exact pure_silent
  | true => exact bind_silent js_silent fun _ => pure_silent

theorem getString_silent : Silent sides (getString o key : Napi S String) := bind_silent js_silent fun _ => js_silent

theorem getNumber_silent : Silent sides (getNumber o key : Napi S JsNumber) := bind_silent js_silent fun _ => js_silent

theorem getBoolean_silent : Silent sides (getBoolean o key : Napi S Bool) := bind_silent js_silent fun _ => js_silent

theorem getObject_silent : Silent sides (getObject o key : Napi S JsValue) := bind_silent js_silent fun _ => js_silent

theorem when_silent {c : Bool} {p : Napi S Unit} (hp : Silent sides p) :
    Silent sides (if c then p else pure () : Napi S Unit) := by
  cases c with
  | false => exact pure_silent
  | true => exact hp

theorem ifString_silent {use : String → Napi S Unit} (h : ∀ t, Silent sides (use t)) : Silent sides (ifString o key use) :=
  bind_silent hasAs_silent fun _ => when_silent (bind_silent getString_silent h)

theorem ifNumber_silent {use : JsNumber → Napi S Unit} (h : ∀ x, Silent sides (use x)) : Silent sides (ifNumber o key use) :=
  bind_silent hasAs_silent fun _ => when_silent (bind_silent getNumber_silent h)

theorem ifBoolean_silent {use : Bool → Napi S Unit} (h : ∀ b, Silent sides (use b)) : Silent sides (ifBoolean o key use) :=
  bind_silent hasAs_silent fun _ => when_silent (bind_silent getBoolean_silent h)

/-- An option that is looked at, and what follows when it passes its check and when it does not. -/
theorem ifHasAs_reports {is : JsValue → Bool} {f : Bool → Napi S (Option α)} (ht : Reports sides (f true))
    (hf : Reports sides (f false)) : Reports sides (hasAs o key is >>= f) := by
  refine bind_reports hasAs_silent fun b => ?_
  cases b with
  | false => exact hf
  | true => exact ht

end

end

end Napi

/-! ## The sections of the constructor -/

namespace Client

open Napi

variable {J N : Type} {sides : Sides J N} {config : JsValue}

theorem fail_reports {α : Type} {message : String} : Reports sides (fail message : Napi ClientState (Option α)) := by
  have hthrow : Leads sides.answer (· ≠ .abort) Quiet
      (throwAsJavaScriptException (.error message) : Napi ClientState Unit) fun _ w => ∃ e, w.pending = some e := by
    refine .ask (fun w r w' _ hq => ?_) fun w e w' _ hq => ?_
    · cases hq
      exact ⟨_, rfl⟩
    · cases hq
  exact .bind hthrow fun _ => .pure fun _ h => h

theorem set_silent {c : ClientSetter} : Silent sides (set c) := bind_silent setter_silent fun _ => change_silent

theorem checkServiceUrl_reports : Reports sides (checkServiceUrl config) := by
  refine bind_reports hasAs_silent fun hasProvider => bind_reports hasAs_silent fun hasUrl => ?_
  cases hasProvider <;> cases hasUrl
  · exact fail_reports
  · refine bind_reports (bind_silent js_silent fun x => ?_) fun bad => ?_
    · cases x.isString with
      | false => exact pure_silent
      | true => exact bind_silent getString_silent fun _ => pure_silent
    · cases bad with
      | false => exact some_reports
      | true => exact fail_reports
  · exact some_reports
  · exact fail_reports

theorem initLog_silent : Silent sides (initLog config) := by
  refine bind_silent (ifNumber_silent fun _ => change_silent) fun _ => bind_silent set_silent fun _ =>
    bind_silent hasAs_silent fun b => ?_
  cases b with
  | false => exact pure_silent
  | true => exact bind_silent js_silent fun _ => bind_silent js_silent fun _ => change_silent

theorem buildAuthenticationPtr_reports {authObject : JsValue} : Reports sides (buildAuthenticationPtr authObject) := by
  refine bind_reports hasAs_silent fun b => ?_
  cases b with
  | false => exact fail_reports
  | true =>
    refine bind_reports js_silent fun binding => bind_reports js_silent fun _ => bind_reports change_silent fun _ =>
      bind_reports js_silent fun auth => ?_
    cases auth with
    | none => exact fail_reports
    | some auth => exact some_reports

theorem initAuthentication_reports : Reports sides (initAuthentication config) := by
  refine ifHasAs_reports (bind_reports getObject_silent fun obj => ifHasAs_reports ?_ some_reports) some_reports
  exact check_reports buildAuthenticationPtr_reports rfl fun auth => bind_reports set_silent fun _ => some_reports

theorem setPositive_silent {key : String} {c : Int → ClientSetter} : Silent sides (setPositive config key c) := by
  refine ifNumber_silent fun x => ?_
  split
  · exact set_silent
  · exact pure_silent

theorem initOptions_silent : Silent sides (initOptions config) :=
  bind_silent setPositive_silent fun _ => bind_silent setPositive_silent fun _ => bind_silent setPositive_silent fun _ =>
    bind_silent setPositive_silent fun _ => setPositive_silent

theorem initTlsTrustCert_silent : Silent sides (initTlsTrustCert config) := by
  refine bind_silent hasAs_silent fun b => ?_
  cases b with
  | false => exact pure_silent
  | true => exact bind_silent getString_silent fun _ => bind_silent set_silent fun _ => pure_silent

theorem initTlsOptions_silent : Silent sides (initTlsOptions config) :=
  bind_silent (ifString_silent fun _ => set_silent) fun _ => bind_silent (ifString_silent fun _ => set_silent) fun _ =>
    bind_silent (ifBoolean_silent fun _ => set_silent) fun _ => bind_silent (ifBoolean_silent fun _ => set_silent) fun _ =>
    bind_silent (ifNumber_silent fun _ => set_silent) fun _ => ifString_silent fun _ => set_silent

theorem beforeTry_reports : Reports sides (beforeTry config) :=
  check_reports checkServiceUrl_reports rfl fun _ => bind_reports initLog_silent fun _ =>
    check_reports initAuthentication_reports rfl fun _ => bind_reports initOptions_silent fun _ =>
    bind_reports initTlsTrustCert_silent fun _ => bind_reports initTlsOptions_silent fun _ => some_reports

theorem serviceAuthentication_reports {serviceInfo : JsValue} {fieldName : String} {defaultAuth : Option Handle} :
    Reports sides (serviceAuthentication serviceInfo fieldName defaultAuth) := by
  refine ifHasAs_reports (bind_reports js_silent fun x => ?_) some_reports
  cases x.isObject with
  | false => exact fail_reports
  | true =>
    exact bind_reports js_silent fun obj => check_reports buildAuthenticationPtr_reports rfl fun auth => some_reports

theorem serviceTls_reports {serviceInfo : JsValue} {fieldName : String} {defaultTls : Option String} :
    Reports sides (serviceTls serviceInfo fieldName defaultTls) := by
  refine ifHasAs_reports (bind_reports js_silent fun x => ?_) some_reports
  cases x.isString with
  | false => exact fail_reports
  | true => exact bind_reports getString_silent fun _ => some_reports

theorem buildServiceInfo_reports {value : JsValue} {fieldName : String} {defaultAuth : Option Handle}
    {defaultTls : Option String} : Reports sides (buildServiceInfo value fieldName defaultAuth defaultTls) := by
  unfold buildServiceInfo
  cases value.isString with
  | true => exact bind_reports js_silent fun serviceUrl => ite_reports (fun _ => fail_reports) fun _ => some_reports
  | false =>
    cases value.isObject with
    | false => exact fail_reports
    | true =>
      refine bind_reports (bind_silent hasAs_silent fun b => ?_) fun given => ?_
      · cases b with
        | false => exact pure_silent
        | true => exact bind_silent getString_silent fun _ => pure_silent
      · cases given with
        | false => exact fail_reports
        | true =>
          exact bind_reports getString_silent fun _ => check_reports serviceAuthentication_reports rfl fun _ =>
            check_reports serviceTls_reports rfl fun _ => some_reports

theorem setPositiveUint32_reports {fieldName : String} : Reports sides (setPositiveUint32 config fieldName) := by
  refine bind_reports hasAs_silent fun b => ?_
  cases b with
  | false => exact some_reports
  | true =>
    refine bind_reports js_silent fun x => ?_
    cases x.isNumber with
    | false => exact fail_reports
    | true => exact bind_reports getNumber_silent fun _ => ite_reports (fun _ => fail_reports) fun _ => some_reports

/-- The loop is left where a service is not valid, with the exception that says so. -/
theorem secondaryServices_reports {secondaryConfig : JsValue} {defaultAuth : Option Handle} {defaultTls : Option String} :
    Reports sides (secondaryServices secondaryConfig defaultAuth defaultTls) := by
  have hloop (body : Nat → List ServiceInfo → Napi ClientState (Except Unit (List ServiceInfo)))
      (hbody : ∀ i acc, Leads sides.answer (· ≠ .abort) Quiet (body i acc) fun r w =>
        r.casesOn (fun _ => ∃ e, w.pending = some e) fun _ => Quiet w) :
      Leads sides.answer (· ≠ .abort) Quiet (forLength secondaryConfig body []) fun r w =>
        r.casesOn (fun _ => ∃ e, w.pending = some e) fun _ => Quiet w := by
    unfold forLength
    generalize 2 ^ 32 = fuel
    exact .forLoop (fun _ => bind_silent js_silent fun _ => pure_silent) hbody fuel 0 []
  refine .bind (hloop _ fun i secondary => ?_) fun r => ?_
  · refine .bind js_silent fun _ => .bind buildServiceInfo_reports fun r => ?_
    cases r with
    | none => exact .pure fun _ h => h
    | some info => exact .pure fun _ h => h
  · cases r with
    | error u => exact .pure fun _ h => h
    | ok secondary => exact .pure fun _ h => h

theorem providerNumbers_reports {providerConfig : JsValue} {primary : ServiceInfo} {secondary : List ServiceInfo} :
    Reports sides (providerNumbers providerConfig primary secondary) :=
  check_reports setPositiveUint32_reports rfl fun _ => check_reports setPositiveUint32_reports rfl fun _ =>
    check_reports setPositiveUint32_reports rfl fun _ => some_reports

theorem buildServiceInfoProvider_reports {defaultAuth : Option Handle} {defaultTls : Option String} :
    Reports sides (buildServiceInfoProvider config defaultAuth defaultTls) := by
  refine bind_reports js_silent fun providerConfig => ?_
  cases JsValue.isObject providerConfig with
  | false => exact fail_reports
  | true =>
    refine bind_reports hasAs_silent fun b => ?_
    cases b with
    | false => exact fail_reports
    | true =>
      refine bind_reports js_silent fun _ => check_reports buildServiceInfo_reports rfl fun primary =>
        bind_reports hasAs_silent fun b => ?_
      cases b with
      | false => exact fail_reports
      | true =>
        refine bind_reports js_silent fun _ => bind_reports js_silent fun n => ite_reports (fun _ => fail_reports) fun _ => ?_
        exact bind_reports js_silent fun _ => check_reports secondaryServices_reports rfl fun _ => providerNumbers_reports

theorem creation_reports {setup : Setup} : Reports sides (creation config setup) := by
  unfold creation
  refine ite_reports (fun _ => ?_) fun _ => ?_
  · exact check_reports buildServiceInfoProvider_reports rfl fun _ =>
      .bind (.look fun _ _ h => h) fun _ => bind_reports createClient_silent fun _ => some_reports
  · exact bind_reports getString_silent fun _ =>
      .bind (.look fun _ _ h => h) fun _ => bind_reports createClient_silent fun _ => some_reports

/-! ## How the constructor ends -/

/-- What JS is given, and the native client that is kept: an object always has one. -/
inductive Ends : CallOutcome → Option ClientCreation → Prop
  | returned (c : ClientCreation) : Ends .returned (some c)
  | threw (e : JsError) : Ends (.threw e) none
  | terminated (what : String) : Ends (.terminated what) none

/-- A failed check, or a caught exception, is thrown to JS. -/
theorem ends_pending {w : World J N} {c : Option ClientCreation} (hw : ∃ e, w.pending = some e) (hc : c = none) :
    Ends (callbackWrapper (α := Unit) (.ok ()) w) c := by
  obtain ⟨e, he⟩ := hw
  subst hc
  unfold callbackWrapper
  rw [he]
  exact .threw e

/-- What a refusal outside the `try` block comes to. -/
theorem ends_refused {w : World J N} {e : Exn} {c : Option ClientCreation} (he : e ≠ .abort) (hc : c = none) :
    Ends (callbackWrapper (α := Unit) (.error e) w) c := by
  subst hc
  cases e with
  | napi je => exact .threw je
  | std what => exact .terminated what
  | abort => exact absurd rfl he

/-- A refusal inside the `try` block is caught. -/
theorem catchStd_refused {w : World J N} {e : Exn} (he : e ≠ .abort) :
    ∃ w', catchStd (.error e) w = (.ok (), w') ∧ ∃ je, w'.pending = some je := by
  cases e with
  | napi je => exact ⟨_, rfl, _, rfl⟩
  | std what => exact ⟨_, rfl, _, rfl⟩
  | abort => exact absurd rfl he

/-- Whatever JS answers and the native client does: the constructor gives JS an object exactly when it has made a
native client and kept it; it throws or is terminated without one, and is never aborted. -/
theorem construct_ends (sides : Sides J N) (config : JsValue) {st : ClientState} {w : World J N} (hnew : st.cClient = none)
    (hquiet : Quiet w) : Ends (construct sides config st w).1 (construct sides config st w).2.1.cClient := by
  unfold construct
  rcases hbefore : (beforeTry config).run sides.answer st w with ⟨e | _ | setup, st₁, w₁⟩
  · exact ends_refused (beforeTry_reports.run_error hquiet hbefore) (run_noClient (beforeTry_sameClient config) hnew hbefore)
  · exact ends_pending (beforeTry_reports.run_ok hquiet hbefore) (run_noClient (beforeTry_sameClient config) hnew hbefore)
  · have hnew₁ : st₁.cClient = none := run_noClient (beforeTry_sameClient config) hnew hbefore
    have hquiet₁ : Quiet w₁ := beforeTry_reports.run_ok hquiet hbefore
    dsimp only
    rw [tryBlock_eq]
    rcases hmade : (creation config setup).run sides.answer st₁ w₁ with ⟨e | made, st₂, w₂⟩
    · rw [run_bind_error _ hmade]
      obtain ⟨w₃, hcaught, hpending⟩ := catchStd_refused (w := w₂) (creation_reports.run_error hquiet₁ hmade)
      dsimp only
      rw [hcaught]
      exact ends_pending hpending (run_noClient (creation_sameClient config setup) hnew₁ hmade)
    · rw [run_bind_ok _ hmade]
      have hreported := creation_reports.run_ok hquiet₁ hmade
      cases made with
      | none => exact ends_pending hreported (run_noClient (creation_sameClient config setup) hnew₁ hmade)
      | some c =>
        show Ends (callbackWrapper (.ok ()) w₂) (some c)
        unfold callbackWrapper
        rw [show w₂.pending = none from hreported]
        exact .returned c

/-- A provider whose second service is a number. -/
def misnamed : Heap := { Heap.empty with
  props := fun
    | 0 => [(cfgServiceUrlProvider, .object .plain 1)]
    | 1 => [(cfgPrimary, .string "pulsar://a"), (cfgSecondary, .object .array 2)]
    | _ => []
  elements := fun
    | 2 => [.string "pulsar://b", .number (.finite 7)]
    | _ => [] }

theorem construct_ends_misnamed :
    (construct misnamed.sides (.object .plain 0) noClient ⟨(), none, ()⟩).1 =
        .threw (.error "serviceUrlProvider.secondary[1] must be a service URL string or service info object") ∧
      (construct misnamed.sides (.object .plain 0) noClient ⟨(), none, ()⟩).2.1.cClient = none := by
  have hends : Ends (construct misnamed.sides (.object .plain 0) noClient ⟨(), none, ()⟩).1
      (construct misnamed.sides (.object .plain 0) noClient ⟨(), none, ()⟩).2.1.cClient :=
    construct_ends misnamed.sides (.object .plain 0) rfl rfl
  have hthrew : (construct misnamed.sides (.object .plain 0) noClient ⟨(), none, ()⟩).1 =
    .threw (.error "serviceUrlProvider.secondary[1] must be a service URL string or service info object") := rfl
  rw [hthrew] at hends
  refine ⟨hthrew, ?_⟩
  generalize (construct misnamed.sides (.object .plain 0) noClient ⟨(), none, ()⟩).2.1.cClient = c at hends
  cases hends
  rfl

end Client

end PulsarNode
