/-
What `new Client` does to the process-wide logging. A `log` function takes the place of the handler
before the authentication, the options and the services are looked at, and nothing after that puts the
old one back.
-/
import PulsarNode.Config.ClientSections
import PulsarNode.Napi.Object

namespace PulsarNode

open Napi Prog

namespace LogState

/-- A log function that takes the place of another one, or of none, is seen. -/
theorem install_ne (f : Handle) (log : LogState) : log.install f ≠ log := by
  obtain ⟨handler, released⟩ := log
  cases handler with
  | none => simp [install]
  | some g => simp [install]

end LogState

namespace Client

/-- The logging state is the same. -/
def SameLog (st st' : ClientState) : Prop := st'.log = st.log

theorem set_sameLog {c : ClientSetter} : Moves SameLog (set c) := set_moves fun _ => rfl

/-! ## The log function -/

/-- The function of the `log` option, made a thread-safe function; `none` where none is given. -/
def givenLog (clientConfig : JsValue) : Napi ClientState (Option Handle) := do
  ifNumber clientConfig cfgLogLevel fun x => Prog.change ({ · with logLevel := x.int32Value })
  set .logger
  if ← hasAs clientConfig cfgLog JsValue.isFunction then
    return some (← newThreadSafeFunction (← get clientConfig cfgLog))
  return none

def installGiven (logFunction : Option Handle) : Napi ClientState Unit :=
  match logFunction with
  | some f => Prog.change fun st => { st with log := st.log.install f }
  | none => pure ()

theorem initLog_eq (clientConfig : JsValue) : initLog clientConfig = givenLog clientConfig >>= installGiven := by
  unfold initLog givenLog
  rw [Prog.bind_assoc]
  refine congrArg (_ >>= ·) (funext fun _ => ?_)
  rw [Prog.bind_assoc]
  refine congrArg (_ >>= ·) (funext fun _ => ?_)
  rw [Prog.bind_assoc]
  refine congrArg (_ >>= ·) (funext fun b => ?_)
  cases b with
  | false => rfl
  | true => rfl

theorem givenLog_sameLog (clientConfig : JsValue) : Moves SameLog (givenLog clientConfig) := by
  refine .bind (ifNumber_moves fun _ => .change fun _ => rfl) fun _ => .bind set_sameLog fun _ => ?_
  exact ifHasAs_moves (.bind js_moves fun _ => .bind js_moves fun _ => .pure _) (.pure _)

/-! ## The constructor -/

/-- `Client::Client` from the authentication up to its `try` block. -/
def afterLog (clientConfig : JsValue) (hasServiceUrlProvider : Bool) : Napi ClientState (Option Setup) := do
  match ← initAuthentication clientConfig with
  | none => return none
  | some defaultAuthentication =>
    initOptions clientConfig
    let tls ← initTlsTrustCert clientConfig
    initTlsOptions clientConfig
    return some ⟨hasServiceUrlProvider, defaultAuthentication, tls⟩

theorem afterLog_sameLog (clientConfig : JsValue) (b : Bool) : Moves SameLog (afterLog clientConfig b) := by
  refine .bind (initAuthentication_moves clientConfig (fun _ _ => rfl) fun _ => set_sameLog) fun r => ?_
  cases r with
  | none => exact .pure _
  | some auth =>
    exact .bind (initOptions_moves clientConfig fun _ => set_sameLog) fun _ =>
      .bind (initTlsTrustCert_moves clientConfig fun _ => set_sameLog) fun _ =>
      .bind (initTlsOptions_moves clientConfig fun _ => set_sameLog) fun _ => .pure _

variable {J N : Type} (sides : Sides J N) (config : JsValue) (st : ClientState) (w : World J N)

/-- The URL checks pass, and a log function is given and can be made a thread-safe one. -/
def Installs : Prop :=
  ∃ b st₁ w₁ f st₂ w₂, (checkServiceUrl config).run sides.answer st w = (.ok (some b), st₁, w₁) ∧
    (givenLog config).run sides.answer st₁ w₁ = (.ok (some f), st₂, w₂)

/-- A run of a section leaves the logging state as it was. -/
theorem run_sameLog {α : Type} {p : Napi ClientState α} (hp : Moves SameLog p) {r : Except Exn α} {st' : ClientState}
    {w' : World J N} (h : p.run sides.answer st w = (r, st', w')) : st'.log = st.log := by
  have hlog := Moves.run_keeps (H := sides.answer) (f := ClientState.log) hp st w
  rw [h] at hlog
  exact hlog

theorem beforeTry_log_iff :
    ((beforeTry config).run sides.answer st w).2.1.log = st.log ↔ ¬ Installs sides config st w := by
  unfold Installs
  rcases hcheck : (checkServiceUrl config).run sides.answer st w with ⟨e | _ | b, st₁, w₁⟩
  · have hrun : (beforeTry config).run sides.answer st w = (.error e, st₁, w₁) := Prog.run_bind_error _ hcheck
    rw [hrun]
    exact iff_of_true (run_sameLog sides st w (checkServiceUrl_moves config) hcheck) (by simp)
  · have hrun : (beforeTry config).run sides.answer st w = (.ok none, st₁, w₁) := Prog.run_bind_ok _ hcheck
    rw [hrun]
    exact iff_of_true (run_sameLog sides st w (checkServiceUrl_moves config) hcheck) (by simp)
  · have hsame₁ := run_sameLog sides st w (checkServiceUrl_moves config) hcheck
    have hrun : (beforeTry config).run sides.answer st w =
        (initLog config >>= fun _ => afterLog config b).run sides.answer st₁ w₁ := Prog.run_bind_ok _ hcheck
    rw [hrun, initLog_eq, Prog.bind_assoc]
    rcases hgiven : (givenLog config).run sides.answer st₁ w₁ with ⟨e | given, st₂, w₂⟩
    · rw [Prog.run_bind_error _ hgiven]
      have hsame₂ := run_sameLog sides st₁ w₁ (givenLog_sameLog config) hgiven
      exact iff_of_true (hsame₂.trans hsame₁) (by simp [hgiven])
    · rw [Prog.run_bind_ok _ hgiven]
      have hsame₂ := run_sameLog sides st₁ w₁ (givenLog_sameLog config) hgiven
      cases given with
      | none =>
        have hsame₃ := run_sameLog sides st₂ w₂ (afterLog_sameLog config b) rfl
        exact iff_of_true (hsame₃.trans (hsame₂.trans hsame₁)) (by simp [hgiven])
      | some f =>
        -- the handler is replaced here, and nothing that follows puts it back
        have hsame₃ := run_sameLog sides { st₂ with log := st₂.log.install f } w₂ (afterLog_sameLog config b) rfl
        refine iff_of_false (fun hlog => ?_) (by simp [hgiven])
        have hinstalled : st₂.log.install f = st.log := hsame₃.symm.trans hlog
        rw [hsame₂.trans hsame₁] at hinstalled
        exact LogState.install_ne f st.log hinstalled

/-- The body of the `try` block leaves it at that. -/
theorem construct_log : (construct sides config st w).2.1.log = ((beforeTry config).run sides.answer st w).2.1.log := by
  unfold construct
  rcases (beforeTry config).run sides.answer st w with ⟨e | _ | setup, st', w'⟩
  · rfl
  · rfl
  · exact run_sameLog sides st' w' (tryBlock_moves (fun _ _ => rfl) (fun _ _ => rfl) config setup) rfl

/-- However `new Client` ends, the logging state is as before exactly when the URL checks do not pass, or no
log function is given that can be made a thread-safe one. -/
theorem log_unchanged_iff : (construct sides config st w).2.1.log = st.log ↔ ¬ Installs sides config st w := by
  rw [construct_log]
  exact beforeTry_log_iff sides config st w

/-- A configuration with a provider that has no primary service, and a log function. -/
def providerAndLog : Heap := { Heap.empty with
  props := fun
    | 0 => [(cfgServiceUrlProvider, .object .plain 1), (cfgLog, .object .function 2)]
    | _ => [] }

/-- A client while the handler of another one is installed. -/
def logging : ClientState := ⟨none, [], 0, [], ⟨some 5, []⟩⟩

theorem providerAndLog_replaces :
    (construct providerAndLog.sides (.object .plain 0) logging ⟨(), none, ()⟩).1 =
        .threw (.error "serviceUrlProvider.primary is required") ∧
      (construct providerAndLog.sides (.object .plain 0) logging ⟨(), none, ()⟩).2.1.log = ⟨some 0, [5]⟩ := ⟨rfl, rfl⟩

end Client

end PulsarNode
