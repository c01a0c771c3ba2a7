/-
What one native listener thread may go through, as an abstract machine over the events of a
delivery: a message is delivered to the thread and either refused by a closed function, or queued,
passed to the JS listener (or skipped, when there is no reader to pass along), finished, signalled,
and only then does the thread return. `Accepts.courses` reads a history that the machine accepts as
the courses of the deliveries, one after another.
-/
import Mathlib.Data.List.Basic

namespace PulsarNode.Listener

/-- A native message, by its pointer. -/
abbrev Msg := Nat

/-- A `Consumer` or `Reader` wrapper, by its pointer. -/
abbrev WrapperPtr := Nat

/-- `called m w`: the JS listener is called with message `m` and the wrapper `w`; `finished m`: the
listener has returned or thrown, or the promise it returned has settled. -/
inductive Event
  | delivered (m : Msg)
  | refused (m : Msg)
  | queued (m : Msg)
  | called (m : Msg) (w : WrapperPtr)
  | skipped (m : Msg)
  | finished (m : Msg)
  | signalled (m : Msg)
  | returned (m : Msg)
  deriving DecidableEq, Repr

/-- What the JS thread does with a queued message. -/
inductive Handling
  | called | skipped
  deriving DecidableEq, Repr

/-- The ways a delivery can go. -/
inductive Course
  | refused (m : Msg)
  | handled (k : Handling) (m : Msg)
  deriving DecidableEq, Repr

/-- Where a thread is in its present delivery; `ended` when all is done but the signal. -/
inductive Phase
  | idle
  | entered (m : Msg)
  | queued (m : Msg)
  | running (m : Msg)
  | ended (k : Handling) (m : Msg)
  | done (k : Handling) (m : Msg)
  deriving DecidableEq, Repr

section

variable (own : WrapperPtr)

/-- The events before the signal, for the thread of a listener whose wrapper is `own`. -/
def Handling.events (m : Msg) : Handling → List Event
  | called => [.delivered m, .queued m, .called m own, .finished m]
  | skipped => [.delivered m, .queued m, .skipped m]

/-- All events of a course. -/
def Course.events : Course → List Event
  | refused m => [.delivered m, .refused m]
  | handled k m => k.events own m ++ [.signalled m, .returned m]

/-- The events of the present delivery so far. -/
def Phase.progress : Phase → List Event
  | idle => []
  | entered m => [.delivered m]
  | queued m => [.delivered m, .queued m]
  | running m => [.delivered m, .queued m, .called m own]
  | ended k m => k.events own m
  | done k m => k.events own m ++ [.signalled m]

/-- The step that an event takes a thread. -/
def Phase.step : Phase → Event → Option Phase
  | idle, .delivered m => some (entered m)
  | entered m, .refused m' => if m' = m then some idle else none
  | entered m, .queued m' => if m' = m then some (queued m) else none
  | queued m, .called m' w => if m' = m ∧ w = own then some (running m) else none
  | queued m, .skipped m' => if m' = m then some (ended .skipped m) else none
  | running m, .finished m' => if m' = m then some (ended .called m) else none
  | ended k m, .signalled m' => if m' = m then some (done k m) else none
  | done _ m, .returned m' => if m' = m then some idle else none
  | _, _ => none

/-- The histories that lead a thread from rest to a phase. -/
inductive Accepts : List Event → Phase → Prop
  | nil : Accepts [] .idle
  | snoc {h : List Event} {φ φ' : Phase} {e : Event} (ha : Accepts h φ) (he : φ.step own e = some φ') :
      Accepts (h ++ [e]) φ'

end

variable {own : WrapperPtr} {h : List Event} {φ φ' : Phase} {e : Event}

/-- A step goes on with the present delivery, or completes its course. -/
theorem progress_step (hs : φ.step own e = some φ') :
    φ'.progress own = φ.progress own ++ [e] ∨
      φ' = .idle ∧ ∃ c : Course, c.events own = φ.progress own ++ [e] := by
  unfold Phase.step at hs
  split at hs
  · cases hs
    exact .inl rfl
  · split at hs <;> cases hs
    rename_i hm
    subst hm
    exact .inr ⟨rfl, .refused _, rfl⟩
  · split at hs <;> cases hs
    rename_i hm
    subst hm
    exact .inl rfl
  · split at hs <;> cases hs
    rename_i hm
    obtain ⟨rfl, rfl⟩ := hm
    exact .inl rfl
  · split at hs <;> cases hs
    rename_i hm
    subst hm
    exact .inl rfl
  · split at hs <;> cases hs
    rename_i hm
    subst hm
    exact .inl rfl
  · split at hs <;> cases hs
    rename_i hm
    subst hm
    exact .inl rfl
  · split at hs <;> cases hs
    rename_i k m m' hm
    subst hm
    exact .inr ⟨rfl, .handled k m', by simp [Course.events, Phase.progress]⟩
  · cases hs

/-- An accepted history is a sequence of complete courses and the present delivery so far. -/
theorem Accepts.courses (ha : Accepts own h φ) :
    ∃ cs : List Course, h = cs.flatMap (Course.events own) ++ φ.progress own := by
  induction ha with
  | nil => exact ⟨[], rfl⟩
  | snoc _ he ih =>
    obtain ⟨cs, rfl⟩ := ih
    rcases progress_step he with hp | ⟨rfl, c, hc⟩
    · exact ⟨cs, by rw [hp, List.append_assoc]⟩
    · refine ⟨cs ++ [c], ?_⟩
      rw [List.flatMap_append, List.append_assoc, ← hc]
      simp [Phase.progress]

/-- A delivery under way is the beginning of a course; it is skipped only if it was skipped already. -/
theorem progress_begins (hφ : φ ≠ .idle) :
    ∃ k m, φ.progress own <+: (Course.handled k m).events own ∧
      (k = .skipped → .skipped m ∈ φ.progress own) := by
  cases φ with
  | idle => exact absurd rfl hφ
  | entered m => exact ⟨.called, m, ⟨_, rfl⟩, nofun⟩
  | queued m => exact ⟨.called, m, ⟨_, rfl⟩, nofun⟩
  | running m => exact ⟨.called, m, ⟨_, rfl⟩, nofun⟩
  | ended k m =>
    refine ⟨k, m, ⟨_, rfl⟩, ?_⟩
    rintro rfl
    simp [Phase.progress, Handling.events]
  | done k m =>
    refine ⟨k, m, ⟨[.returned m], by simp [Phase.progress, Course.events]⟩, ?_⟩
    rintro rfl
    simp [Phase.progress, Handling.events]

/-- The history of a thread whose deliveries all took a course that `ok` allows: complete courses
one after another, and at the end a beginning of one. -/
def Follows (own : WrapperPtr) (ok : Course → Prop) (h : List Event) : Prop :=
  ∃ cs : List Course, (∀ c ∈ cs, ok c) ∧ h <+: cs.flatMap (Course.events own)

/-- The courses of an accepted history are those that its events do not rule out. -/
theorem Accepts.courses_where {ok : Course → Prop} (ha : Accepts own h φ)
    (hc : ∀ m, ok (.handled .called m)) (hr : ∀ m, .refused m ∈ h → ok (.refused m))
    (hs : ∀ m, .skipped m ∈ h → ok (.handled .skipped m)) :
    ∃ cs : List Course, (∀ c ∈ cs, ok c) ∧ h = cs.flatMap (Course.events own) ++ φ.progress own := by
  obtain ⟨cs, rfl⟩ := ha.courses
  refine ⟨cs, fun c hmem => ?_, rfl⟩
  have hsub : ∀ e ∈ c.events own, e ∈ cs.flatMap (Course.events own) ++ φ.progress own := fun e he =>
    List.mem_append_left _ (List.mem_flatMap.2 ⟨c, hmem, he⟩)
  cases c with
  | refused m => exact hr m (hsub _ (by simp [Course.events]))
  | handled k m =>
    cases k with
    | called => exact hc m
    | skipped => exact hs m (hsub _ (by simp [Course.events, Handling.events]))

theorem Accepts.follows {ok : Course → Prop} (ha : Accepts own h φ)
    (hc : ∀ m, ok (.handled .called m)) (hr : ∀ m, .refused m ∈ h → ok (.refused m))
    (hs : ∀ m, .skipped m ∈ h → ok (.handled .skipped m)) : Follows own ok h := by
  obtain ⟨cs, hcs, rfl⟩ := ha.courses_where hc hr hs
  by_cases hφ : φ = .idle
  · subst hφ
    exact ⟨cs, hcs, by simp [Phase.progress]⟩
  · obtain ⟨k, m, hp, hk⟩ : ∃ k m, φ.progress own <+: (Course.handled k m).events own ∧
        (k = .skipped → .skipped m ∈ φ.progress own) := progress_begins hφ
    refine ⟨cs ++ [.handled k m], ?_, ?_⟩
    · intro c hmem
      rcases List.mem_append.1 hmem with hmem | hmem
      · exact hcs c hmem
      · rw [List.mem_singleton.1 hmem]
        cases k with
        | called => exact hc m
        | skipped => exact hs m (List.mem_append_right _ (hk rfl))
    · obtain ⟨t, ht⟩ := hp
      exact ⟨t, by rw [List.flatMap_append, List.append_assoc, ht]; simp⟩

end PulsarNode.Listener
