import Tablewright.Hook.Run
import Mathlib.Data.List.Basic

/-!
# Hooks in turn

What a run of hooks comes to. Either all of them ran, in order, each from the data that the one
before left and finished before the next started (`InTurn`), or those before some hook did so and
that hook failed (`StopsAt`). No hook behind it was started.
-/

namespace Tablewright

variable {data left : Value} {hooks : List Value} {events : List HookEvent}

/-! ## Runs as they should be -/

/-- The hooks ran in order: each started on the data as the one before left it, and finished before
the next started. -/
inductive InTurn : Value → List Value → List HookEvent → Value → Prop
  | nil (data : Value) : InTurn data [] [] data
  | cons {h : Hook} {data after left : Value} {hooks : List Value} {events : List HookEvent}
      (hdone : performActions data h.actions = (after, none))
      (hrest : InTurn after hooks events left) :
      InTurn data (.hook h :: hooks) (.started h.name data :: .finished h.name :: events) left

/-- A hook failed: it started and did not finish, or it could not even be called. -/
inductive Breaks : Value → Value → List HookEvent → Value → HookCause → Prop
  | raised {h : Hook} {data left : Value} {cause : HookCause}
      (hraised : performActions data h.actions = (left, some cause)) :
      Breaks data (.hook h) [.started h.name data] left cause
  | uncallable {v data : Value} (hv : ∀ h, v ≠ .hook h) :
      Breaks data v [] data (unsupported v "is not callable")

/-- A hook of the list failed: those before it ran in order, and those behind it did not start. -/
def StopsAt (data : Value) (hooks : List Value) (events : List HookEvent) (hook left : Value)
    (cause : HookCause) : Prop :=
  ∃ ran rest before begun between, hooks = ran ++ hook :: rest ∧ InTurn data ran before between ∧
    Breaks between hook begun left cause ∧ events = before ++ begun

/-- A hook that failed behind one that finished. -/
theorem StopsAt.cons {h : Hook} {after hook : Value} {cause : HookCause}
    (hdone : performActions data h.actions = (after, none))
    (hrest : StopsAt after hooks events hook left cause) :
    StopsAt data (.hook h :: hooks) (.started h.name data :: .finished h.name :: events) hook left
      cause := by
  obtain ⟨ran, rest, before, begun, between, rfl, hran, hbreaks, rfl⟩ := hrest
  exact ⟨.hook h :: ran, rest, _, begun, between, rfl, .cons hdone hran, hbreaks, rfl⟩

/-! ## Single hooks -/

/-- One hook finishes, or it fails. -/
theorem runHook_spec (hook data : Value) :
    (∃ h left, hook = .hook h ∧ performActions data h.actions = (left, none) ∧
      runHook hook data =
        { events := [.started h.name data, .finished h.name], data := left }) ∨
    ∃ begun left cause, Breaks data hook begun left cause ∧
      runHook hook data =
        { events := begun, data := left, failure := some (.hookFailed hook cause) } := by
  unfold runHook
  split
  · rename_i h
    rcases hrun : performActions data h.actions with ⟨left, _ | cause⟩
    · exact .inl ⟨h, left, rfl, hrun, rfl⟩
    · exact .inr ⟨_, left, cause, .raised hrun, rfl⟩
  · rename_i hv
    exact .inr ⟨[], data, _, .uncallable hv, rfl⟩

/-! ## Lists of hooks -/

/-- **Hooks run in turn**, up to the first that fails. -/
theorem runHooks_spec (hooks : List Value) (data : Value) :
    ((runHooks data hooks).failure = none ∧
      InTurn data hooks (runHooks data hooks).events (runHooks data hooks).data) ∨
    ∃ hook cause, (runHooks data hooks).failure = some (.hookFailed hook cause) ∧
      StopsAt data hooks (runHooks data hooks).events hook (runHooks data hooks).data cause := by
  induction hooks generalizing data with
  | nil => exact .inl ⟨rfl, .nil data⟩
  | cons hook hooks ih =>
    unfold runHooks
    rcases runHook_spec hook data with
      ⟨h, left, rfl, hdone, hrun⟩ | ⟨begun, left, cause, hbreaks, hrun⟩
    · rw [hrun]
      -- the rest goes on from what the first hook left
      rcases ih left with ⟨hnone, hturn⟩ | ⟨hook, cause, hsome, hstops⟩
      · exact .inl ⟨hnone, .cons hdone hturn⟩
      · exact .inr ⟨hook, cause, hsome, hstops.cons hdone⟩
    · rw [hrun]
      exact .inr ⟨hook, cause, rfl,
        ⟨[], hooks, [], begun, data, rfl, .nil data, hbreaks, rfl⟩⟩

/-- The data can be handed to the hooks: they get the data itself, or a copy that can be made. No
copy is made where there is no hook. -/
def CanHand (hooks : List Value) (data : Value) (isolate : Bool) : Prop :=
  isolate = true → presentHooks hooks ≠ [] → isCopyable data = true

/-- **What running the hooks of a list comes to**: those that are not null run in turn, up to the
first that fails, unless the data cannot be copied for them. -/
theorem HookOutcome.ofRun_spec (hooks : List Value) (data : Value) (isolate : Bool) :
    (CanHand hooks data isolate ∧ (ofRun hooks data isolate).failure = none ∧
      InTurn data (presentHooks hooks) (ofRun hooks data isolate).events
        (ofRun hooks data isolate).data) ∨
    (CanHand hooks data isolate ∧ ∃ hook cause,
      (ofRun hooks data isolate).failure = some (.hookFailed hook cause) ∧
      StopsAt data (presentHooks hooks) (ofRun hooks data isolate).events hook
        (ofRun hooks data isolate).data cause) ∨
    (¬ CanHand hooks data isolate ∧ ofRun hooks data isolate =
      { data, failure := some (.misuse .wrongType) }) := by
  unfold ofRun CanHand
  dsimp only
  split
  · rename_i h
    simp only [Bool.and_eq_true, Bool.not_eq_true', List.isEmpty_eq_false_iff] at h
    obtain ⟨⟨hisolate, hpresent⟩, hcopy⟩ := h
    refine .inr (.inr ⟨fun hcan => ?_, rfl⟩)
    rw [hcan hisolate hpresent] at hcopy
    cases hcopy
  · rename_i h
    have hcan : isolate = true → presentHooks hooks ≠ [] → isCopyable data = true := by
      intro hisolate hpresent
      by_contra hcopy
      rw [Bool.not_eq_true] at hcopy
      exact h (by simp [hisolate, hpresent, hcopy])
    rcases runHooks_spec (presentHooks hooks) data with hdone | hstopped
    · exact .inl ⟨hcan, hdone⟩
    · exact .inr (.inl ⟨hcan, hstopped⟩)

end Tablewright
