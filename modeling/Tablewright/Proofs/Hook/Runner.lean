import Tablewright.Proofs.Fallible
import Tablewright.Proofs.Hook.Run

/-!
# Runners

What a runner makes of hooks of any behaviour: they may keep things to themselves, change the data
they are handed, leave some of their work to be awaited, and be broken off in the middle of it. They
are worked off in order, each on the data as the one before left it, up to the first that is broken
off (`HookRunner.course_of_run`). In isolation all of this happens to a copy; otherwise the data of
the caller is what the hooks left, also behind a failure.

Runs within a database come to the same (`HookRunner.run_describedHooks`).
-/

namespace Tablewright

open Fallible

section

variable {σ : Type} {b : HookBehaviour σ} {kept kept' last : σ} {data after left : Value}
  {hook : Value} {hooks : List Value} {how : HookBreak} {awaitable : Bool}

/-! ## The work of a hook -/

/-- **How a hook is worked off**: by its call, and if that returns something that can be awaited, by
awaiting it, on the data as the call left it. -/
inductive HookBehaviour.WorksOff (b : HookBehaviour σ) (hook : Value) (kept : σ) (data : Value) :
    HookCall σ → Prop
  /-- Nothing is left to be awaited. -/
  | called {c : HookCall σ} (hcall : b.call hook kept data = c)
      (hended : c.ending ≠ .returned true) : WorksOff b hook kept data c
  /-- What is returned is awaited. -/
  | awaited {kept' : σ} {after : Value} {c : HookCall σ}
      (hcall : b.call hook kept data = ⟨kept', after, .returned true⟩)
      (hawait : b.await hook kept' after = c) : WorksOff b hook kept data c

/-- A hook is worked off by calling it and awaiting what is left. -/
theorem HookBehaviour.worksOff_work (b : HookBehaviour σ) (hook : Value) (kept : σ)
    (data : Value) : b.WorksOff hook kept data (b.work hook kept data) := by
  unfold work
  rcases hcall : b.call hook kept data with ⟨kept', after, (_ | _) | how⟩
  · exact .called hcall nofun
  · exact .awaited hcall rfl
  · exact .called hcall nofun

/-! ## Runs as they should be -/

/-- The hooks were worked off in order, each on the data as the one before left it. -/
inductive WorksInTurn (b : HookBehaviour σ) : σ → Value → List Value → σ → Value → Prop
  | nil (kept : σ) (data : Value) : WorksInTurn b kept data [] kept data
  | cons {kept kept' last : σ} {data after left : Value} {hook : Value} {hooks : List Value}
      {awaitable : Bool} (hdone : b.WorksOff hook kept data ⟨kept', after, .returned awaitable⟩)
      (hrest : WorksInTurn b kept' after hooks last left) :
      WorksInTurn b kept data (hook :: hooks) last left

/-- All hooks were called and finished, and the run gives the data as they left it. -/
structure HookRun.Finishes (run : HookRun σ) (b : HookBehaviour σ) (kept : σ) (data : Value)
    (hooks : List Value) (left : Value) : Prop where
  /-- All of them were called, in order. -/
  called : run.called = hooks
  /-- They finished. -/
  inTurn : WorksInTurn b kept data hooks run.kept left
  /-- The run gives what they left. -/
  result : run.result = .ok left

/-- Some hook was broken off: those before it were called and finished, it was called next, and no
other was. -/
structure HookRun.StopsWith (run : HookRun σ) (b : HookBehaviour σ) (kept : σ) (data : Value)
    (hooks ran : List Value) (hook : Value) (how : HookBreak) (left : Value) : Prop where
  /-- The hook stands behind those that ran. -/
  split : ∃ rest, hooks = ran ++ hook :: rest
  /-- These were called, and no other. -/
  called : run.called = ran ++ [hook]
  /-- Those before it finished, and it was broken off on the data as they left it, which it left
  differently. -/
  inTurn : ∃ before between, WorksInTurn b kept data ran before between ∧
    b.WorksOff hook before between ⟨run.kept, left, .broken how⟩
  /-- The run ends with what broke it off. -/
  result : run.result = .error (how.stop hook)

/-- What holds of the hooks behind one that finished. -/
theorem HookRun.StopsWith.cons {run : HookRun σ} {ran : List Value} {first : Value}
    (hdone : b.WorksOff first kept data ⟨kept', after, .returned awaitable⟩)
    (h : run.StopsWith b kept' after hooks ran hook how left) :
    HookRun.StopsWith { run with called := first :: run.called } b kept data (first :: hooks)
      (first :: ran) hook how left := by
  obtain ⟨⟨rest, hsplit⟩, hcalled, ⟨before, between, hran, hbroken⟩, hresult⟩ := h
  refine ⟨⟨rest, ?_⟩, ?_, ⟨before, between, .cons hdone hran, hbroken⟩, hresult⟩
  · rw [hsplit, List.cons_append]
  · dsimp only
    rw [hcalled, List.cons_append]

/-! ## Where the data is -/

namespace HookStore

variable {store : HookStore}

/-- Hooks are handed the data as the last change left it. -/
theorem target_change (store : HookStore) (data : Value) : (store.change data).target = data := by
  unfold change target
  obtain ⟨caller, _ | copy⟩ := store <;> rfl

/-- The last change counts. -/
theorem change_change (store : HookStore) (data after : Value) :
    (store.change data).change after = store.change after := by
  unfold change
  obtain ⟨caller, _ | copy⟩ := store <;> rfl

/-- To leave the data as it is changes nothing. -/
theorem change_target (store : HookStore) : store.change store.target = store := by
  unfold change target
  obtain ⟨caller, _ | copy⟩ := store <;> rfl

/-- Hooks are handed the data, and it is theirs or the caller's to change. -/
theorem ofData_eq_ok {data : Value} {isolate : Bool} (h : isolate = true → isCopyable data = true) :
    ∃ store, ofData data isolate = .ok store ∧ store.target = data ∧
      ∀ left, (store.change left).caller = if isolate then data else left := by
  unfold ofData
  cases isolate with
  | false => exact ⟨_, rfl, rfl, fun _ => rfl⟩
  | true =>
    rw [if_pos rfl, if_pos (h rfl)]
    exact ⟨_, rfl, rfl, fun _ => rfl⟩

/-- **What working off hooks in order comes to.** The data is where it was, as they left it. -/
theorem course_of_hooks (store : HookStore) (kept : σ) (hooks : List Value) :
    ∃ left, (store.run b kept hooks).caller = (store.change left).caller ∧
      ((store.run b kept hooks).Finishes b kept store.target hooks left ∨
        ∃ ran hook how,
          (store.run b kept hooks).StopsWith b kept store.target hooks ran hook how left) := by
  induction hooks generalizing store kept with
  | nil =>
    refine ⟨store.target, ?_, .inl ⟨rfl, .nil kept store.target, rfl⟩⟩
    rw [change_target]
    rfl
  | cons hook hooks ih =>
    have hoff := b.worksOff_work hook kept store.target
    rcases hwork : b.work hook kept store.target with ⟨kept', after, awaitable | how⟩ <;> rw [hwork] at hoff
    · -- the hooks behind it start from what it left
      have hrun : store.run b kept (hook :: hooks) =
          { (store.change after).run b kept' hooks with
            called := hook :: ((store.change after).run b kept' hooks).called } := by
        rw [run, hwork]
      obtain ⟨left, hcaller, hcourse⟩ := ih (store.change after) kept'
      rw [target_change] at hcourse
      rw [hrun]
      refine ⟨left, hcaller.trans (by rw [change_change]), ?_⟩
      rcases hcourse with ⟨hcalled, hturn, hresult⟩ | ⟨ran, broken, how, hstops⟩
      · exact .inl ⟨congrArg (hook :: ·) hcalled, .cons hoff hturn, hresult⟩
      · exact .inr ⟨hook :: ran, broken, how, hstops.cons hoff⟩
    · have hrun : store.run b kept (hook :: hooks) =
          { called := [hook], kept := kept', result := .error (how.stop hook)
            caller := (store.change after).caller } := by
        rw [run, hwork]
      rw [hrun]
      exact ⟨after, rfl, .inr ⟨[], hook, how, ⟨hooks, rfl⟩, rfl,
        ⟨kept, store.target, .nil kept store.target, hoff⟩, rfl⟩⟩

end HookStore

/-! ## Runners -/

namespace HookRunner

/-- A list becomes a runner for what is not null in it. -/
theorem ofValue_list (hooks : List Value) :
    ofValue (.list hooks) = .ok ⟨presentHooks hooks⟩ := by
  cases hooks with
  | nil => rfl
  | cons hook hooks => rfl

/-- **What running a list of hooks comes to**, on data that can be copied if it is to be. The entries
that are not null are called in order, each on the data as the one before left it, up to and with the
first that is broken off, in its call or in what is awaited of it. If none is, the run gives the data
as they left it; otherwise, if an exception broke it off, it gives the failure, with that hook and
its cause. In isolation the data of the caller stays as it was, and else it is what the hooks left,
in either case. -/
theorem course_of_run (b : HookBehaviour σ) (kept : σ) (hooks : List Value) {data : Value}
    {isolate : Bool} (hcopy : isolate = true → isCopyable data = true) :
    ∃ runner left, ofValue (.list hooks) = .ok runner ∧
      (runner.run b kept data isolate).caller = (if isolate then data else left) ∧
      ((runner.run b kept data isolate).Finishes b kept data (presentHooks hooks) left ∨
        ∃ ran hook how,
          (runner.run b kept data isolate).StopsWith b kept data (presentHooks hooks) ran hook how
            left ∧
          ∀ cause, how = .exception cause → ∃ fault,
            (runner.run b kept data isolate).result = .error (.fault fault) ∧
              fault = .hookFailed hook cause ∧
              fault.message = "Hook execution failed: " ++ cause.text) := by
  refine ⟨⟨presentHooks hooks⟩, ?_⟩
  unfold run
  dsimp only
  by_cases hnone : (presentHooks hooks).isEmpty = true
  · -- nothing is called, and no copy is made
    refine ⟨data, ofValue_list hooks, ?_, .inl ?_⟩
    · rw [if_pos hnone, ite_self]
    · rw [if_pos hnone, List.isEmpty_iff.1 hnone]
      exact ⟨rfl, .nil kept data, rfl⟩
  · obtain ⟨store, hstore, htarget, hcaller⟩ := HookStore.ofData_eq_ok hcopy
    obtain ⟨left, hleft, hcourse⟩ :=
      HookStore.course_of_hooks (b := b) store kept (presentHooks hooks)
    rw [htarget] at hcourse
    rw [if_neg hnone, hstore]
    refine ⟨left, ofValue_list hooks, hleft.trans (hcaller left), ?_⟩
    rcases hcourse with hfinishes | ⟨ran, hook, how, hstops⟩
    · exact .inl hfinishes
    · refine .inr ⟨ran, hook, how, hstops, ?_⟩
      rintro cause rfl
      exact ⟨_, hstops.result, rfl, rfl⟩

end HookRunner

end

/-! ## Runs within a database -/

/-- What a run gives: the data as the hooks left it, or why it ended early. -/
def HookOutcome.result (o : HookOutcome) : Except HookStop Value :=
  match o.failure with
  | some fault => .error (.fault fault)
  | none => .ok o.data

/-- How the work of a hook ends that a database runs. -/
def HookOutcome.EndsAs (o : HookOutcome) (hook : Value) : HookEnd → Prop
  | .returned _ => o.failure = none
  | .broken how => ∃ fault, o.failure = some fault ∧ how.stop hook = .fault fault

/-- The work of a hook notes what running it does. -/
theorem work_describedHooks (hook : Value) (events : List HookEvent) (data : Value) :
    (describedHooks.work hook events data).kept = events ++ (runHook hook data).events ∧
      (describedHooks.work hook events data).data = (runHook hook data).data ∧
      (runHook hook data).EndsAs hook (describedHooks.work hook events data).ending := by
  cases hook with
  | hook h =>
    -- called or awaited, it does its actions
    have hwork : describedHooks.work (.hook h) events data = h.work events data := by
      unfold HookBehaviour.work describedHooks
      dsimp only
      cases h.awaited with
      | true => rfl
      | false =>
        unfold HookSpec.work
        rcases performActions data h.actions with ⟨left, _ | cause⟩ <;> rfl
    rw [hwork]
    unfold HookSpec.work runHook
    dsimp only
    rcases performActions data h.actions with ⟨left, _ | cause⟩
    · exact ⟨rfl, rfl, rfl⟩
    · exact ⟨rfl, rfl, _, rfl, rfl⟩
  | _ => exact ⟨(List.append_nil events).symm, rfl, _, rfl, rfl⟩

/-- Working off hooks in order notes what running them does, where the data is. -/
theorem HookStore.run_describedHooks (store : HookStore) (events : List HookEvent)
    (hooks : List Value) :
    (store.run describedHooks events hooks).kept =
        events ++ (runHooks store.target hooks).events ∧
      (store.run describedHooks events hooks).result = (runHooks store.target hooks).result ∧
      (store.run describedHooks events hooks).caller =
        (store.change (runHooks store.target hooks).data).caller := by
  induction hooks generalizing store events with
  | nil =>
    refine ⟨(List.append_nil events).symm, rfl, ?_⟩
    rw [runHooks, change_target]
    rfl
  | cons hook hooks ih =>
    obtain ⟨hkept, hdata, hends⟩ := work_describedHooks hook events store.target
    rw [run, runHooks]
    dsimp only
    cases hending : (describedHooks.work hook events store.target).ending with
    | broken how =>
      rw [hending] at hends
      obtain ⟨fault, hfailure, hstop⟩ := hends
      rw [hfailure]
      refine ⟨hkept, ?_, congrArg (fun v => (store.change v).caller) hdata⟩
      unfold HookOutcome.result
      rw [hfailure]
      exact congrArg Except.error hstop
    | returned awaitable =>
      rw [hending] at hends
      have hfailure : (runHook hook store.target).failure = none := hends
      rw [hfailure]
      obtain ⟨hkept', hresult, hcaller⟩ :=
        ih (store.change (describedHooks.work hook events store.target).data)
          (describedHooks.work hook events store.target).kept
      rw [target_change, hdata] at hkept' hresult hcaller
      rw [hdata]
      refine ⟨?_, hresult, ?_⟩
      · rw [hkept', hkept, List.append_assoc]
      · rw [hcaller, change_change]

/-- **A runner does what hooks do in a database**, where the data is. -/
theorem HookRunner.run_describedHooks (hooks : List Value) (data : Value) (isolate : Bool) :
    let run := (⟨presentHooks hooks⟩ : HookRunner).run describedHooks [] data isolate
    let outcome := HookOutcome.ofRun hooks data isolate
    run.kept = outcome.events ∧ run.result = outcome.result ∧
      run.caller = if isolate then data else outcome.data := by
  unfold run HookOutcome.ofRun
  dsimp only
  by_cases hnone : (presentHooks hooks).isEmpty = true
  · rw [if_pos hnone, List.isEmpty_iff.1 hnone]
    simp [runHooks, HookOutcome.result]
  · have hsome : (!(presentHooks hooks).isEmpty) = true := by simpa using hnone
    rw [if_neg hnone, hsome, Bool.and_true]
    by_cases hrefused : (isolate && !isCopyable data) = true
    · -- the copy cannot be made
      obtain ⟨rfl, hcopy⟩ := Bool.and_eq_true_iff.1 hrefused
      rw [if_pos hrefused, HookStore.ofData, if_pos rfl, if_neg (by simpa using hcopy)]
      exact ⟨rfl, rfl, rfl⟩
    · have hcopy : isolate = true → isCopyable data = true := by
        intro hisolate
        simpa [hisolate] using hrefused
      obtain ⟨store, hstore, htarget, hcaller⟩ := HookStore.ofData_eq_ok hcopy
      obtain ⟨hkept, hresult, hleft⟩ := store.run_describedHooks [] (presentHooks hooks)
      rw [htarget] at hkept hresult hleft
      rw [if_neg hrefused, hstore]
      exact ⟨hkept, hresult, hleft.trans (hcaller _)⟩

/-! ## An example -/

/-- Hooks on a parcel: one that notes something, one that fails behind its first action, and one
that would tell. -/
def parcelHooks : List Value :=
  [.null, .hook ⟨"weigh", [.set (.str "weight") (.int 3)], true, false⟩,
    .hook ⟨"seal", [.set (.str "sealed") (.bool true), .fail (.other "RuntimeError") [.str "torn"]],
      false, false⟩,
    .null, .hook ⟨"send", [.set (.str "sent") (.bool true)], false, false⟩]

/-- A parcel. -/
def openParcel : Value :=
  .dict [(.str "id", .int 1)]

/-- The parcel as the hooks leave it. -/
def sealedParcel : Value :=
  .dict [(.str "id", .int 1), (.str "weight", .int 3), (.str "sealed", .bool true)]

/-- **The second hook ends the run.** The parcel is left sealed, or in isolation as it was. -/
theorem stopsWith_of_parcelHooks :
    (∃ runner ran hook cause left, HookRunner.ofValue (.list parcelHooks) = .ok runner ∧
        (runner.run describedHooks [] openParcel false).StopsWith describedHooks [] openParcel
          (presentHooks parcelHooks) ran hook cause left ∧
        (runner.run describedHooks [] openParcel false).caller = sealedParcel) ∧
      ∃ runner ran hook cause left, HookRunner.ofValue (.list parcelHooks) = .ok runner ∧
        (runner.run describedHooks [] openParcel true).StopsWith describedHooks [] openParcel
          (presentHooks parcelHooks) ran hook cause left ∧
        (runner.run describedHooks [] openParcel true).caller = openParcel := by
  have hstops : ∀ isolate, ∃ ran hook cause left,
      ((⟨presentHooks parcelHooks⟩ : HookRunner).run describedHooks [] openParcel isolate).StopsWith
        describedHooks [] openParcel (presentHooks parcelHooks) ran hook cause left := by
    intro isolate
    have hcopy : isolate = true → isCopyable openParcel = true := fun _ => rfl
    obtain ⟨runner, left, hrunner, -, hcourse⟩ :=
      HookRunner.course_of_run describedHooks [] parcelHooks hcopy
    obtain rfl := Except.ok.inj ((HookRunner.ofValue_list parcelHooks).symm.trans hrunner)
    rcases hcourse with hfinishes | ⟨ran, hook, how, hstops, -⟩
    · have hresult := hfinishes.result
      cases isolate <;> cases hresult
    · exact ⟨ran, hook, how, left, hstops⟩
  obtain ⟨ran, hook, cause, left, hlive⟩ := hstops false
  obtain ⟨ran', hook', cause', left', hisolated⟩ := hstops true
  exact ⟨⟨_, ran, hook, cause, left, HookRunner.ofValue_list parcelHooks, hlive, by cbv⟩,
    ⟨_, ran', hook', cause', left', HookRunner.ofValue_list parcelHooks, hisolated, rfl⟩⟩

end Tablewright
