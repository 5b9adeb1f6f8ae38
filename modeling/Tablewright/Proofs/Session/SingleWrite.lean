import Tablewright.Proofs.Session.Isolation
import Tablewright.Proofs.Session.Validated

/-!
# Calls that write once

A write with hooks around it settles what it is going to send before it sends anything: the hooks
before it run, and then a plan is made of what they left, which touches nothing but the clock and
the sources of defaults. Then one statement goes out, and behind it go only the entry of the log
about it, selections that read back what was written, and what the hooks after it do
(`ResolvedModel.WritesOnce`). So all that is to be known of what such a call writes is what the
statement of its plan is (`HookedOperation.Planned.writesOnce`).
-/

namespace Tablewright

open Fallible

variable {α β : Type}

/-- An event is what a hook does. -/
def Event.IsHook : Event → Prop
  | .hook _ => True
  | _ => False

/-- What hooks do is no statement. -/
theorem statements_of_hooks {events : List Event} (h : ∀ e ∈ events, e.IsHook) :
    statements events = [] := by
  refine List.filterMap_eq_nil_iff.2 fun e he => ?_
  have hhook := h e he
  cases e with
  | hook => rfl
  | _ => cases hhook

/-- The clock tells the present time. -/
theorem Action.perform_timestamp_eq_ok {s t : Session} {now : String} :
    s.perform timestamp = (.ok now, t) ↔ now = s.world.now.stamp ∧ t = s := by
  have hnow : s.perform timestamp = (.ok s.world.now.stamp, s) := rfl
  rw [hnow, Prod.mk.injEq, Except.ok.injEq]
  exact and_congr eq_comm eq_comm

namespace ResolvedModel

/-- What goes with a write. -/
inductive Accompanies (m : ResolvedModel) (operation : String) (w : RowStatement) : Event → Prop
  /-- What a hook does. -/
  | hook (e : HookEvent) : Accompanies m operation w (.hook e)
  /-- A statement of the entry of the log about it. -/
  | logged {e : Event} {changes : Value} (h : e ∈ (m.logEntry operation w changes).events) :
      Accompanies m operation w e
  /-- A selection. -/
  | selected (q : Selection) : Accompanies m operation w q.sent

/-- **At most one statement is written**, and it has a property: only hooks run before it, and what
follows it goes with it. -/
inductive WritesOnce (m : ResolvedModel) (operation : String) (Q : RowStatement → Prop) :
    List Event → Prop
  /-- Nothing is sent. -/
  | unsent {events : List Event} (hevents : ∀ e ∈ events, e.IsHook) :
      WritesOnce m operation Q events
  /-- The statement is sent. -/
  | sent {before after : List Event} {w : RowStatement} (hbefore : ∀ e ∈ before, e.IsHook)
      (hw : Q w) (hafter : ∀ e ∈ after, m.Accompanies operation w e) :
      WritesOnce m operation Q (before ++ .executed w.sql w.params :: after)

open Action

variable {m : ResolvedModel} {operation : String} {w : RowStatement}

/-- What reads rows goes with every write. -/
theorem accompanies_of_reads {withDeleted : Value} {e : Event} (h : m.Reads withDeleted e) :
    m.Accompanies operation w e := by
  obtain ⟨q, -, rfl⟩ := h
  exact .selected q

/-- **A statement that is executed comes first**, whatever the engine answers. -/
theorem exists_trace_execute_bind {P : Event → Prop} (sql : String) (params : List Value)
    {k : List Value × Value × Value → Action α} (hk : ∀ answer, (k answer).Emits P) (s : Session) :
    ∃ after, (s.perform (execute sql params >>= k)).2.trace =
        s.trace ++ .executed sql params :: after ∧ ∀ e ∈ after, P e := by
  rw [Session.perform_bind, perform_execute]
  cases (s.engine.answer sql).1.outcome with
  | error f => exact ⟨[], rfl, fun _ he => nomatch he⟩
  | ok answer =>
    obtain ⟨after, htrace, hafter⟩ := hk answer (s.sending sql params)
    exact ⟨after, by rw [htrace, Session.trace_sending, List.append_assoc]; rfl, hafter⟩

/-- **A write is not sent or sent once**, and then its entry of the log follows. -/
theorem exists_trace_runWrite_bind {k : Value → Action α}
    (hk : ∀ changes, (k changes).Emits (m.Accompanies operation w)) (s : Session) :
    (s.perform (m.runWrite operation w >>= k)).2.trace = s.trace ∨
      ∃ after, (s.perform (m.runWrite operation w >>= k)).2.trace =
          s.trace ++ .executed w.sql w.params :: after ∧
        ∀ e ∈ after, m.Accompanies operation w e := by
  have hlog : ∀ changes, (log (m.logEntry operation w changes)).Emits
      (m.Accompanies operation w) := fun changes => emits_log fun _ => .logged
  have hrest : ∀ answer : List Value × Value × Value, Emits (m.Accompanies operation w) (do
      modifyDatabase fun d => { d with lastRowId := answer.2.2 }
      log (m.logEntry operation w answer.2.1)
      k answer.2.1) := fun _ =>
    Emits.bind (Keeps.emits fun _ => rfl) fun _ => (hlog _).bind fun _ => hk _
  have hwrite : m.runWrite operation w >>= k = (do
      report (w.sql ++ " " ++ (Value.list w.params).repr)
      let answer ← execute w.sql w.params
      modifyDatabase fun d => { d with lastRowId := answer.2.2 }
      log (m.logEntry operation w answer.2.1)
      k answer.2.1) := by
    simp only [runWrite, run, bind_assoc, pure_bind]
    rfl
  rw [hwrite, Session.perform_bind]
  have htrace := Session.trace_eq_of_silent
    (keeps_report (w.sql ++ " " ++ (Value.list w.params).repr) s)
  rcases hs : s.perform (report (w.sql ++ " " ++ (Value.list w.params).repr)) with ⟨f | u, t⟩ <;>
    rw [hs] at htrace
  · exact .inl htrace
  · obtain ⟨after, hsent, hafter⟩ := exists_trace_execute_bind w.sql w.params hrest t
    refine .inr ⟨after, ?_, hafter⟩
    rw [← show t.trace = s.trace from htrace]
    exact hsent

end ResolvedModel

/-! ## Planned writes -/

namespace HookedOperation

open Action ResolvedModel

/-- What hooks are no part of is what it was behind the hooks before an operation. -/
theorem keeps_handed {γ : Type} {f : Session → γ}
    (hf : ∀ s events, f (Session.recording s events) = f s) (m : ResolvedModel) (a : Named Value)
    (o : HookedOperation) : Keeps f (o.handed m a) := by
  refine (Keeps.lift _ _).bind fun data => (Keeps.lift _ _).bind fun skipped => ?_
  split
  · exact Keeps.pure _ data
  · intro s
    rw [perform_runHookList]
    exact hf s _

/-- **An operation is planned**: between the hooks it makes a plan of what it was handed, sends the
statement of the plan, and goes on with what goes with it. -/
structure Planned (m : ResolvedModel) (a : Named Value) (o : HookedOperation)
    (plan : Value → Action β) (statement : β → RowStatement)
    (rest : β → Value → Action (Value × Value)) : Prop where
  /-- These are its parts. -/
  work : ∀ left, o.work m a left = (do
    let p ← plan left
    let changes ← m.runWrite o.operation.name (statement p)
    rest p changes)
  /-- A plan sends nothing. -/
  silent : ∀ left, Keeps Session.trace (plan left)
  /-- What follows goes with the statement. -/
  follows : ∀ p changes, (rest p changes).Emits (m.Accompanies o.operation.name (statement p))

variable {m : ResolvedModel} {a : Named Value} {o : HookedOperation} {plan : Value → Action β}
  {statement : β → RowStatement} {rest : β → Value → Action (Value × Value)}

/-- What is left once the plan is made. -/
def carryOut (m : ResolvedModel) (a : Named Value) (o : HookedOperation)
    (statement : β → RowStatement) (rest : β → Value → Action (Value × Value)) (p : β) :
    Action Value := do
  let changes ← m.runWrite o.operation.name (statement p)
  let done ← rest p changes
  m.runAfter o.after done.2 (a.argument "skip_hooks")
  pure done.1

/-- **The plan comes first**, made of what the hooks left. -/
theorem Planned.perform_eq (h : Planned m a o plan statement rest) :
    o.operation.perform m a =
      (o.handed m a >>= plan) >>= carryOut m a o statement rest := by
  rw [perform_eq_worked]
  simp only [worked, h.work, bind_assoc]
  rfl

/-- **A planned operation writes at most one statement**, that of its plan. -/
theorem Planned.writesOnce (h : Planned m a o plan statement rest) {Q : RowStatement → Prop}
    {s : Session}
    (hQ : ∀ p t, s.perform (o.handed m a >>= plan) = (.ok p, t) →
      s.perform (o.operation.perform m a) = t.perform (carryOut m a o statement rest p) →
      Q (statement p)) :
    ∃ events, (s.perform (o.operation.perform m a)).2.trace = s.trace ++ events ∧
      m.WritesOnce o.operation.name Q events := by
  have hhooks : (o.handed m a >>= plan).Emits Event.IsHook :=
    (Emits.lift_bind fun _ _ => emits_runBefore fun _ => trivial).bind fun left =>
      (h.silent left).emits
  have hafter : ∀ p changes, Emits (m.Accompanies o.operation.name (statement p)) (do
      let done ← rest p changes
      m.runAfter o.after done.2 (a.argument "skip_hooks")
      pure done.1) := fun p changes =>
    (h.follows p changes).bind fun _ => (emits_runAfter .hook).bind fun _ => Emits.pure _
  obtain ⟨before, htrace, hbefore⟩ := hhooks s
  have hperform : s.perform (o.operation.perform m a) =
      s.perform ((o.handed m a >>= plan) >>= carryOut m a o statement rest) := by
    rw [h.perform_eq]
  rw [Session.perform_bind _ (o.handed m a >>= plan)] at hperform
  rcases hs : s.perform (o.handed m a >>= plan) with ⟨f | p, t⟩ <;>
    rw [hs] at htrace hperform
  · rw [hperform]
    exact ⟨before, htrace, .unsent hbefore⟩
  · -- the plan is made, and what is left begins with the write
    have hw := hQ p t hs hperform
    rw [hperform]
    rcases exists_trace_runWrite_bind (hafter p) t with hnone | ⟨after, hsent, hafter⟩
    · exact ⟨before, hnone.trans htrace, .unsent hbefore⟩
    · refine ⟨before ++ .executed (statement p).sql (statement p).params :: after, ?_,
        .sent hbefore hw hafter⟩
      rw [← List.append_assoc, ← htrace]
      exact hsent

end HookedOperation

end Tablewright
