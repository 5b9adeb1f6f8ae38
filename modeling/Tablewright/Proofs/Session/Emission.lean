import Tablewright.Proofs.Session.Parts
import Tablewright.Proofs.Session.Schema

/-!
# What steps add to the trace

`Action.Emits P x` says that however `x` ends, in whatever session it is taken, all that it adds to
the trace has the property `P`. A step that is put together from others emits what they do, and so
does a run of steps that goes on behind failures (`Session.emits_after`).
-/

namespace Tablewright

open Fallible

variable {α β : Type} {P : Event → Prop}

/-- The events of a session, in order. -/
def Session.trace (s : Session) : List Event :=
  s.world.trace

/-- An entry of the log is written by the statements that make the log and add to it. -/
theorem LogEntry.forall_mem_events (hcreate : P (.executed createLog []))
    (hinsert : ∀ params, P (.executed insertLogEntry params)) (e : LogEntry) :
    ∀ event ∈ e.events, P event := by
  rw [events]
  refine List.forall_mem_cons.2 ⟨hcreate, ?_⟩
  cases e.paramsText with
  | ok params => exact List.forall_mem_singleton.2 (hinsert _)
  | error f => exact fun _ he => nomatch he

namespace Action

/-- Whatever the step adds to the trace has the property. -/
def Emits (P : Event → Prop) (x : Action α) : Prop :=
  ∀ s : Session, ∃ sent, (s.perform x).2.trace = s.trace ++ sent ∧ ∀ e ∈ sent, P e

variable {x : Action α}

/-- What leaves the trace alone emits nothing. -/
theorem Keeps.emits (h : Keeps Session.trace x) : Emits P x :=
  fun s => ⟨[], by rw [List.append_nil, h s], fun _ he => nomatch he⟩

theorem Emits.pure (a : α) : Emits P (Pure.pure a : Action α) :=
  (Keeps.pure _ a).emits

theorem Emits.lift (y : Except Fault α) : Emits P (liftM y : Action α) :=
  (Keeps.lift _ y).emits

/-- What has the property has every weaker one. -/
theorem Emits.imp {Q : Event → Prop} (hx : Emits P x) (h : ∀ e, P e → Q e) : Emits Q x := by
  intro s
  obtain ⟨sent, htrace, hsent⟩ := hx s
  exact ⟨sent, htrace, fun e he => h e (hsent e he)⟩

/-- **A sequence emits what its parts do**, the second from where the first ended. -/
theorem Emits.bind {k : α → Action β} (hx : Emits P x) (hk : ∀ a, Emits P (k a)) :
    Emits P (x >>= k) := by
  intro s
  obtain ⟨sent, htrace, hsent⟩ := hx s
  rw [Session.perform_bind]
  rcases hs : s.perform x with ⟨_ | a, t⟩ <;> rw [hs] at htrace
  · exact ⟨sent, htrace, hsent⟩
  · obtain ⟨more, htrace', hmore⟩ := hk a t
    refine ⟨sent ++ more, ?_, List.forall_mem_append.2 ⟨hsent, hmore⟩⟩
    rw [← List.append_assoc, ← htrace]
    exact htrace'

/-- Behind a computation outside of the session, only its outcome matters. -/
theorem Emits.lift_bind {y : Except Fault α} {k : α → Action β}
    (h : ∀ a, y = .ok a → Emits P (k a)) : Emits P (liftM y >>= k) := by
  cases y with
  | error e => exact (Keeps.lift _ _).emits
  | ok a => exact h a rfl

theorem Emits.map {f : α → β} (hx : Emits P x) : Emits P (f <$> x) := by
  rw [map_eq_pure_bind]
  exact hx.bind fun _ => Emits.pure _

theorem Emits.mapM {f : α → Action β} (h : ∀ a, Emits P (f a)) (xs : List α) :
    Emits P (xs.mapM f) := by
  induction xs with
  | nil => exact Emits.pure _
  | cons x xs ih =>
    rw [List.mapM_cons]
    exact (h x).bind fun _ => ih.bind fun _ => Emits.pure _

/-- **What is made of parts emits what they do.** -/
theorem MadeOf.emits {Part : ⦃α : Type⦄ → Action α → Prop} (h : MadeOf Part x)
    (hpart : ∀ (α : Type) (x : Action α), Part x → Emits P x) : Emits P x := by
  induction h with
  | part h => exact hpart _ _ h
  | lift y => exact Emits.lift y
  | bind _ _ hx hk => exact hx.bind hk
  | lift_bind _ h => exact Emits.lift_bind h

/-- What is sent to a database, whichever it is, is emitted. -/
theorem Emits.of_sends {events : Database → List Event} (h : ∀ d, Sends d x (events d))
    (hevents : ∀ d, ∀ e ∈ events d, P e) : Emits P x := by
  intro s
  obtain ⟨-, sent, hsent, htrace, -⟩ := h s.database s rfl
  exact ⟨sent, htrace, fun e he => hevents s.database e (hsent.subset he)⟩

/-! ## Single steps -/

theorem emits_database : Emits P database :=
  (Keeps.database _).emits

theorem emits_report (line : String) : Emits P (report line) :=
  Emits.of_sends (fun d => (keeps_report line).sends d) fun _ _ he => nomatch he

/-- A statement is all that sending it emits. -/
theorem emits_execute {sql : String} {params : List Value} (h : P (.executed sql params)) :
    Emits P (execute sql params) :=
  Emits.of_sends (fun d => sends_execute d sql params) fun _ => List.forall_mem_singleton.2 h

theorem emits_run {sql : String} {params : List Value} (h : P (.executed sql params)) :
    Emits P (run sql params) :=
  (emits_execute h).bind fun _ => Keeps.emits fun _ => rfl

theorem emits_first {sql : String} {params : List Value} (h : P (.executed sql params)) :
    Emits P (first sql params) :=
  (emits_execute h).bind fun _ => Emits.pure _

theorem emits_rows {sql : String} {params : List Value} (h : P (.executed sql params)) :
    Emits P (rows sql params) :=
  (emits_execute h).bind fun _ => Emits.pure _

/-- Logging emits the statements of the entry. -/
theorem emits_log {e : LogEntry} (h : ∀ event ∈ e.events, P event) : Emits P (log e) := by
  refine Emits.of_sends (fun d => sends_log d e) fun d => ?_
  unfold Database.logEvents
  split
  · exact h
  · exact fun _ he => nomatch he

/-- Hooks emit their own events and no statement. -/
theorem emits_runHookList (h : ∀ e, P (.hook e)) (hooks : List Value) (data : Value)
    (isolate : Bool) : Emits P (runHookList hooks data isolate) := by
  refine Emits.bind (fun s => ⟨_, rfl, List.forall_mem_map.2 fun e _ => h e⟩) fun _ => ?_
  split
  · exact Keeps.emits fun _ => rfl
  · exact Emits.pure _

theorem emits_timestamp : Emits P timestamp :=
  Keeps.emits fun _ => rfl

/-- Behind a look at the clock goes what goes on with a time as it is stored. -/
theorem emits_timestamp_bind {k : String → Action α} (h : ∀ now : Moment, Emits P (k now.stamp)) :
    Emits P (timestamp >>= k) := by
  intro s
  have hnow : s.perform timestamp = (.ok s.world.now.stamp, s) := rfl
  rw [Session.perform_bind, hnow]
  exact h s.world.now s

/-- Asking for a default emits nothing. -/
theorem emits_callDefault (source : Value) : Emits P (callDefault source) := by
  unfold callDefault
  split
  · exact Keeps.emits fun _ => rfl
  · exact Emits.lift _

end Action

/-! ## Parts of operations on rows -/

namespace ResolvedModel

open Action

variable {m : ResolvedModel} {x : Action α}

/-- The entry of the log about a statement that an operation on the model sent. -/
def logEntry (m : ResolvedModel) (operation : String) (s : RowStatement) (changes : Value) :
    LogEntry :=
  { operation := .str operation, target := .str m.tableName, params := .list s.params
    rowsAffected := changes, source := .str ("model:" ++ m.name), sql := .str s.sql }

/-- A write emits its statement, beside what logs it. -/
theorem emits_runWrite {operation : String} {s : RowStatement} (h : P (.executed s.sql s.params))
    (hlog : ∀ changes, ∀ event ∈ (m.logEntry operation s changes).events, P event) :
    (m.runWrite operation s).Emits P :=
  (emits_report _).bind fun _ => (emits_run h).bind fun changes =>
    (emits_log (hlog changes)).bind fun _ => Emits.pure _

/-- An event sends a statement with a property, or is part of the entry of the log about one. -/
def SendsOnly (m : ResolvedModel) (Q : RowStatement → Prop) : Event → Prop
  | .executed sql params => ∃ statement, Q statement ∧
      (sql = statement.sql ∧ params = statement.params ∨
        ∃ operation changes,
          .executed sql params ∈ (m.logEntry operation statement changes).events)
  | _ => True

theorem sendsOnly_hook {Q : RowStatement → Prop} (e : HookEvent) : m.SendsOnly Q (.hook e) :=
  trivial

/-- **A write sends its statement only**, but for the log. -/
theorem emits_runWrite_of_statement {Q : RowStatement → Prop} {operation : String}
    {s : RowStatement} (h : Q s) : (m.runWrite operation s).Emits (m.SendsOnly Q) := by
  refine emits_runWrite ⟨s, h, .inl ⟨rfl, rfl⟩⟩ fun changes event hevent => ?_
  cases event with
  | executed sql params => exact ⟨s, h, .inr ⟨operation, changes, hevent⟩⟩
  | _ => trivial

/-- A decrement emits what the increments by negated amounts do. -/
theorem emits_decrement {condition columns amount : Value}
    (h : ∀ columns amount, (m.increment columns condition amount).Emits P) :
    (m.decrement columns condition amount).Emits P := by
  unfold decrement
  split
  · exact (Emits.mapM (fun _ => (Emits.lift _).bind fun _ => Emits.pure _) _).bind fun _ => h _ _
  · exact (Emits.lift _).bind fun _ => h _ _

/-- **What a part emits**: what hooks do, selections, the statements that write, and what logs
these. -/
theorem RowPart.emits (h : m.RowPart x) (hhook : ∀ e, P (.hook e))
    (hselect : ∀ s, P (.executed (RowStatement.select s).sql (RowStatement.select s).params))
    (hwrite : ∀ (kind : RequestKind) (a : Named Value) (s : RowStatement),
      kind.statement m.queryTable a = .ok s → kind ≠ .truncate →
      (kind = .update → (a.argument "expressions").entryList = [] ∨
        a.argument "expressions" = .dict m.versionStep) → P (.executed s.sql s.params))
    (hcreate : P (.executed createLog []))
    (hinsert : ∀ params, P (.executed insertLogEntry params)) : x.Emits P := by
  cases h with
  | time => exact emits_timestamp
  | default source => exact emits_callDefault source
  | lastRow => exact emits_database.bind fun _ => Emits.pure _
  | hooks slot data isolate => exact emits_runHookList hhook _ _ _
  | first => exact emits_first (hselect _)
  | rows => exact emits_rows (hselect _)
  | write kind a operation h hkind _ hexpressions =>
    exact emits_runWrite (hwrite kind a _ h hkind hexpressions) fun _ =>
      LogEntry.forall_mem_events hcreate hinsert _

end ResolvedModel

/-! ## Runs -/

namespace Session

/-- The session after some steps, each taken where the one before ended, failed or not. -/
def after {ι : Type} (step : ι → Action α) (s : Session) (steps : List ι) : Session :=
  steps.foldl (fun s i => (s.perform (step i)).2) s

/-- **What every step emits, a run of them emits.** -/
theorem emits_after {ι : Type} {step : ι → Action α} {steps : List ι}
    (h : ∀ i ∈ steps, (step i).Emits P) (s : Session) :
    ∃ sent, (s.after step steps).trace = s.trace ++ sent ∧ ∀ e ∈ sent, P e := by
  induction steps generalizing s with
  | nil => exact ⟨[], (List.append_nil _).symm, fun _ he => nomatch he⟩
  | cons i steps ih =>
    obtain ⟨hi, hrest⟩ := List.forall_mem_cons.1 h
    obtain ⟨sent, htrace, hsent⟩ := hi s
    obtain ⟨more, htrace', hmore⟩ := ih hrest (s.perform (step i)).2
    refine ⟨sent ++ more, ?_, List.forall_mem_append.2 ⟨hsent, hmore⟩⟩
    rw [← List.append_assoc, ← htrace]
    exact htrace'

end Session

end Tablewright
