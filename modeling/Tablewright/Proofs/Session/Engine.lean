import Tablewright.Proofs.Session.Emission

/-!
# What the engine answers

How the engine answers a statement depends on two things: whether the connection is closed, and the
answers that are still to come (`Engine`). A run of statements is granted when none of them is
refused (`Engine.Grants`). `Action.Dispatches x` says that `x` adds nothing but statements to the
trace, and that it fails as soon as one of them is refused.
-/

namespace Tablewright

open Fallible

variable {α β : Type} {s : Session}

/-- What the engine's answers depend on. -/
structure Engine where
  /-- Whether the connection is closed. -/
  isClosed : Bool
  /-- The answers to come. -/
  replies : List Reply

/-- The engine of a session. -/
def Session.engine (s : Session) : Engine :=
  { isClosed := s.database.isClosed, replies := s.world.replies }

/-- How the engine answers a statement, and how it goes on. -/
def Engine.answer (e : Engine) (sql : String) : Reply × Engine :=
  if e.isClosed then
    (.refused "ProgrammingError" "Cannot operate on a closed database.", e)
  else if Action.isHousekeeping sql then (.nothing, e)
  else (e.replies.head?.getD .nothing, { e with replies := e.replies.tail })

/-- What a step makes of an answer. -/
def Reply.outcome : Reply → Except Fault (List Value × Value × Value)
  | done rows rowCount lastRowId => .ok (rows, rowCount, lastRowId)
  | refused kind message => .error (.engine kind message)

/-- The session in which a statement was sent and answered. -/
def Session.sending (s : Session) (sql : String) (params : List Value) : Session :=
  { s with
    world :=
      { s.world with
        replies := (s.engine.answer sql).2.replies
        trace := s.world.trace ++ [.executed sql params] } }

@[simp] theorem Session.trace_sending (s : Session) (sql : String) (params : List Value) :
    (s.sending sql params).trace = s.trace ++ [.executed sql params] := rfl

/-- Answering closes nothing. -/
theorem Engine.isClosed_answer (e : Engine) (sql : String) :
    (e.answer sql).2.isClosed = e.isClosed := by
  unfold answer
  split
  · rfl
  · split <;> rfl

@[simp] theorem Session.engine_sending (s : Session) (sql : String) (params : List Value) :
    (s.sending sql params).engine = (s.engine.answer sql).2 := by
  have hclosed : s.database.isClosed = (s.engine.answer sql).2.isClosed :=
    (s.engine.isClosed_answer sql).symm
  show Engine.mk s.database.isClosed (s.engine.answer sql).2.replies = _
  rw [hclosed]

/-- **A statement is recorded and answered.** -/
theorem Action.perform_execute (s : Session) (sql : String) (params : List Value) :
    s.perform (execute sql params) =
      ((s.engine.answer sql).1.outcome, s.sending sql params) := by
  have hanswer : ∀ (reply : Reply) (t : Session),
      t.perform
        (match reply with
          | .done rows rowCount lastRowId =>
            (pure (rows, rowCount, lastRowId) : Action (List Value × Value × Value))
          | .refused kind message => throw (.engine kind message)) = (reply.outcome, t) := by
    intro reply t
    cases reply <;> rfl
  rw [execute, Session.perform_bind]
  show Session.perform
    { s with world := { s.world with trace := s.world.trace ++ [.executed sql params] } } _ = _
  rw [Session.perform_bind, Session.perform_database]
  unfold Session.sending Session.engine Engine.answer
  dsimp only
  cases s.database.isClosed with
  | true => rfl
  | false =>
    cases isHousekeeping sql with
    | true => exact hanswer .nothing _
    | false =>
      simp only [Bool.false_eq_true, if_false]
      rw [Session.perform_bind, perform_nextReply]
      cases s.world.replies with
      | nil => exact hanswer .nothing _
      | cons reply rest => exact hanswer reply _

/-- The session in which some events were recorded. -/
def Session.recording (s : Session) (events : List Event) : Session :=
  { s with world := { s.world with trace := s.world.trace ++ events } }

/-- Running hooks records what they do, and fails if one of them does. -/
theorem Action.perform_runHookList (s : Session) (hooks : List Value) (data : Value)
    (isolate : Bool) :
    s.perform (runHookList hooks data isolate) =
      ((match (HookOutcome.ofRun hooks data isolate).failure with
        | some fault => .error fault
        | none => .ok (HookOutcome.ofRun hooks data isolate).data),
        s.recording ((HookOutcome.ofRun hooks data isolate).events.map .hook)) := by
  rw [runHookList, Session.perform_bind]
  show Session.perform _ (match (HookOutcome.ofRun hooks data isolate).failure with
    | some fault => throw fault
    | none => pure (HookOutcome.ofRun hooks data isolate).data) = _
  cases (HookOutcome.ofRun hooks data isolate).failure <;> rfl

/-- Where there is no hook, running hooks does nothing. -/
theorem Action.runHookList_of_none {hooks : List Value} (h : presentHooks hooks = [])
    (data : Value) (isolate : Bool) : runHookList hooks data isolate = pure data := by
  have hrun : HookOutcome.ofRun hooks data isolate = { data } := by
    rw [HookOutcome.ofRun, h, List.isEmpty_nil, Bool.not_true, Bool.and_false, Bool.false_and]
    rfl
  funext s
  show s.perform (runHookList hooks data isolate) = (.ok data, s)
  rw [perform_runHookList, hrun, Session.recording]
  show (Except.ok data, Session.mk s.database { s.world with trace := s.world.trace ++ [] }) = _
  rw [List.append_nil]

/-! ## Granted statements -/

/-- An event is a statement that was sent. -/
def Event.IsStatement : Event → Prop
  | .executed _ _ => True
  | _ => False

/-- The engine grants some statements, one after the other: it refuses none of them. -/
inductive Engine.Grants : Engine → List Event → Engine → Prop
  | nil (e : Engine) : Grants e [] e
  | cons {e e' : Engine} {sql : String} {params rows : List Value} {rowCount lastRowId : Value}
      {sent : List Event} (hdone : (e.answer sql).1 = .done rows rowCount lastRowId)
      (hrest : Grants (e.answer sql).2 sent e') : Grants e (.executed sql params :: sent) e'

/-- What is granted in two parts is granted. -/
theorem Engine.Grants.append {e e' e'' : Engine} {sent more : List Event} (h : e.Grants sent e')
    (hmore : e'.Grants more e'') : e.Grants (sent ++ more) e'' := by
  induction h with
  | nil => exact hmore
  | cons hdone _ ih => exact .cons hdone (ih hmore)

namespace Action

theorem liftM_bind (x : Except Fault α) (f : α → Except Fault β) :
    (liftM (x >>= f) : Action β) = liftM x >>= fun a => liftM (f a) := by
  cases x <;> rfl

theorem liftM_pure (a : α) : (liftM (pure a : Except Fault α) : Action α) = pure a :=
  rfl

/-- The step sends nothing: it touches neither the trace nor what the engine's answers depend on. -/
def Quiet (x : Action α) : Prop :=
  Keeps Session.trace x ∧ Keeps Session.engine x

/-- The step adds nothing but statements to the trace, and it succeeds only where the engine grants
all of them. -/
def Dispatches (x : Action α) : Prop :=
  ∀ s : Session, ∃ sent, (s.perform x).2.trace = s.trace ++ sent ∧ (∀ e ∈ sent, e.IsStatement) ∧
    ((s.perform x).1.isOk = true → s.engine.Grants sent (s.perform x).2.engine)

variable {x : Action α}

theorem Quiet.pure (a : α) : Quiet (Pure.pure a : Action α) :=
  ⟨Keeps.pure _ a, Keeps.pure _ a⟩

theorem Quiet.lift (y : Except Fault α) : Quiet (liftM y : Action α) :=
  ⟨Keeps.lift _ y, Keeps.lift _ y⟩

theorem Quiet.bind {k : α → Action β} (hx : Quiet x) (hk : ∀ a, Quiet (k a)) : Quiet (x >>= k) :=
  ⟨hx.1.bind fun a => (hk a).1, hx.2.bind fun a => (hk a).2⟩

theorem Quiet.mapM {f : α → Action β} (h : ∀ a, Quiet (f a)) (xs : List α) : Quiet (xs.mapM f) := by
  induction xs with
  | nil => exact Quiet.pure _
  | cons x xs ih =>
    rw [List.mapM_cons]
    exact (h x).bind fun _ => ih.bind fun _ => Quiet.pure _

/-- What touches only the reported lines is quiet. -/
theorem Quiet.of_silent (h : Keeps Session.silent x) : Quiet x := by
  refine ⟨fun s => Session.trace_eq_of_silent (h s), fun s => ?_⟩
  show (s.perform x).2.silent.engine = s.silent.engine
  rw [h s]

theorem quiet_report (line : String) : Quiet (report line) :=
  .of_silent (keeps_report line)

theorem quiet_timestamp : Quiet timestamp :=
  ⟨fun _ => rfl, fun _ => rfl⟩

theorem quiet_database : Quiet database :=
  ⟨Keeps.database _, Keeps.database _⟩

/-- Asking for a default sends nothing. -/
theorem quiet_callDefault (source : Value) : Quiet (callDefault source) := by
  unfold callDefault
  split
  · exact ⟨fun _ => rfl, fun _ => rfl⟩
  · exact Quiet.lift _

theorem Quiet.dispatches (h : Quiet x) : Dispatches x := by
  intro s
  refine ⟨[], by rw [List.append_nil, h.1 s], fun _ he => (nomatch he), fun _ => ?_⟩
  rw [h.2 s]
  exact .nil _

/-- **What is dispatched part by part** is dispatched. -/
theorem Dispatches.bind {k : α → Action β} (hx : Dispatches x) (hk : ∀ a, Dispatches (k a)) :
    Dispatches (x >>= k) := by
  intro s
  obtain ⟨sent, htrace, hsent, hgrants⟩ := hx s
  rw [Session.perform_bind]
  rcases hs : s.perform x with ⟨_ | a, t⟩ <;> rw [hs] at htrace hgrants
  · exact ⟨sent, htrace, hsent, nofun⟩
  · obtain ⟨more, htrace', hmore, hgrants'⟩ := hk a t
    refine ⟨sent ++ more, ?_, List.forall_mem_append.2 ⟨hsent, hmore⟩,
      fun hok => (hgrants rfl).append (hgrants' hok)⟩
    rw [← List.append_assoc, ← htrace]
    exact htrace'

theorem dispatches_execute (sql : String) (params : List Value) :
    Dispatches (execute sql params) := by
  intro s
  rw [perform_execute]
  refine ⟨[.executed sql params], rfl, List.forall_mem_singleton.2 trivial, fun hok => ?_⟩
  rw [Session.engine_sending]
  cases hanswer : (s.engine.answer sql).1 with
  | done rows rowCount lastRowId => exact .cons hanswer (.nil _)
  | refused kind message =>
    rw [hanswer] at hok
    cases hok

theorem dispatches_first (sql : String) (params : List Value) : Dispatches (first sql params) :=
  (dispatches_execute sql params).bind fun _ => (Quiet.pure _).dispatches

/-- What logs an entry is granted like any other statement. -/
theorem dispatches_log (e : LogEntry) : Dispatches (log e) := by
  refine quiet_database.dispatches.bind fun d => (Quiet.lift _).dispatches.bind fun b => ?_
  cases b with
  | false => exact (Quiet.pure ()).dispatches
  | true =>
    exact (dispatches_execute _ _).bind fun _ => (Quiet.lift _).dispatches.bind fun _ =>
      (dispatches_execute _ _).bind fun _ => (Quiet.pure ()).dispatches

end Action

end Tablewright
