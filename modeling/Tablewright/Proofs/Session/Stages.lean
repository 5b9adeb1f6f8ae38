import Tablewright.Proofs.Hook.Run
import Tablewright.Proofs.Session.Engine
import Tablewright.Proofs.Session.Rows

/-!
# Writes with hooks around them

Four operations run hooks: creating a row, inserting or changing one, changing rows, and removing
them. All of them go the same way (`ResolvedModel.around`): the arguments are prepared, the hooks
before the write run on them, the statements are sent, and the hooks after it run on a copy of the
outcome. So hooks and statements never stand between each other, and where a stage fails the next
one does not begin (`Course`).
-/

namespace Tablewright

open Fallible

variable {α β : Type}

/-! ## Granted writes -/

/-- The engine grants some statements, the first of which writes. -/
def Engine.GrantsWrite (e : Engine) (sent : List Event) (e' : Engine) : Prop :=
  e.Grants sent e' ∧ ∃ sql params rest, sent = .executed sql params :: rest ∧ WritesRows sql

namespace Action

/-- The step dispatches statements, and where it succeeds the first of them writes. -/
def Writes (x : Action α) : Prop :=
  ∀ s : Session, ∃ sent, (s.perform x).2.trace = s.trace ++ sent ∧ (∀ e ∈ sent, e.IsStatement) ∧
    ((s.perform x).1.isOk = true → s.engine.GrantsWrite sent (s.perform x).2.engine)

variable {x : Action α}

theorem Writes.dispatches (h : Writes x) : Dispatches x := by
  intro s
  obtain ⟨sent, htrace, hsent, hgrants⟩ := h s
  exact ⟨sent, htrace, hsent, fun hok => (hgrants hok).1⟩

/-- What goes before a write may be anything quiet. -/
theorem Quiet.bind_writes {k : α → Action β} (hx : Quiet x) (hk : ∀ a, Writes (k a)) :
    Writes (x >>= k) := by
  intro s
  have htrace := hx.1 s
  have hengine := hx.2 s
  rw [Session.perform_bind]
  rcases hs : s.perform x with ⟨_ | a, t⟩ <;> rw [hs] at htrace hengine
  · exact ⟨[], by rw [List.append_nil]; exact htrace, fun _ he => (nomatch he), nofun⟩
  · obtain ⟨sent, htrace', hsent, hgrants⟩ := hk a t
    rw [htrace] at htrace'
    rw [hengine] at hgrants
    exact ⟨sent, htrace', hsent, hgrants⟩

/-- What goes behind it may dispatch more. -/
theorem Writes.bind {k : α → Action β} (hx : Writes x) (hk : ∀ a, Dispatches (k a)) :
    Writes (x >>= k) := by
  intro s
  obtain ⟨sent, htrace, hsent, hgrants⟩ := hx s
  rw [Session.perform_bind]
  rcases hs : s.perform x with ⟨_ | a, t⟩ <;> rw [hs] at htrace hgrants
  · exact ⟨sent, htrace, hsent, nofun⟩
  · obtain ⟨more, htrace', hmore, hgrants'⟩ := hk a t
    obtain ⟨hgranted, sql, params, rest, rfl, hwrites⟩ := hgrants rfl
    refine ⟨.executed sql params :: rest ++ more, ?_, List.forall_mem_append.2 ⟨hsent, hmore⟩,
      fun hok => ⟨hgranted.append (hgrants' hok), sql, params, rest ++ more, rfl, hwrites⟩⟩
    rw [← List.append_assoc, ← htrace]
    exact htrace'

/-- A statement that writes is written. -/
theorem writes_run {sql : String} {params : List Value} (h : WritesRows sql) :
    Writes (run sql params) := by
  have hexecute : Writes (execute sql params) := by
    intro s
    rw [perform_execute]
    refine ⟨[.executed sql params], rfl, List.forall_mem_singleton.2 trivial, fun hok => ?_⟩
    obtain ⟨sent, htrace, -, hgrants⟩ := dispatches_execute sql params s
    rw [perform_execute] at htrace hgrants
    rw [Session.trace_sending] at htrace
    obtain rfl := List.append_cancel_left htrace
    exact ⟨hgrants hok, sql, params, [], rfl, h⟩
  exact hexecute.bind fun _ =>
    (Quiet.bind ⟨fun _ => rfl, fun _ => rfl⟩ fun _ => .pure _).dispatches

end Action

/-! ## The way of a write -/

namespace ResolvedModel

variable (m : ResolvedModel)

/-- A write with hooks around it: the hooks before it run on what it was asked for, it does its work
on what they left, and the hooks after it run on a copy of the outcome. -/
def around (before after : HookSlot) (skip : Value) (prepared : Except Fault Value)
    (work : Value → Action (Value × Value)) : Action Value := do
  let data ← prepared
  let data ← m.runBefore before data skip
  let (result, outcome) ← work data
  m.runAfter after outcome skip
  pure result

end ResolvedModel

/-- **How a write with hooks around it goes**, given what it was asked for, the hooks that are to
run before and after it, and what the engine's answers depend on: what happens, in order, how it
ends, and what is left of the engine's answers. -/
inductive Course (prepared : Except Fault Value) (before after : List Value) (engine : Engine) :
    List Event → Except Fault Value → Engine → Prop
  /-- What it was asked for is refused, and nothing happens. -/
  | refused {fault : Fault} (hprepared : prepared = .error fault) :
      Course prepared before after engine [] (.error fault) engine
  /-- A hook before it fails, and nothing is sent. -/
  | stoppedBefore {data hook left : Value} {cause : HookCause} {events : List HookEvent}
      (hprepared : prepared = .ok data) (hbefore : StopsAt data before events hook left cause) :
      Course prepared before after engine (events.map .hook) (.error (.hookFailed hook cause))
        engine
  /-- All hooks before it ran, but its work fails, and no hook after it starts. -/
  | stoppedWorking {data left : Value} {events : List HookEvent} {sent : List Event}
      {fault : Fault} {engine' : Engine} (hprepared : prepared = .ok data)
      (hbefore : InTurn data before events left) (hsent : ∀ e ∈ sent, e.IsStatement) :
      Course prepared before after engine (events.map .hook ++ sent) (.error fault) engine'
  /-- Its statements went through, but the outcome cannot be copied for the hooks after it. -/
  | uncopied {data left outcome : Value} {events : List HookEvent} {sent : List Event}
      {engine' : Engine} (hprepared : prepared = .ok data)
      (hbefore : InTurn data before events left) (hsent : ∀ e ∈ sent, e.IsStatement)
      (hgranted : engine.GrantsWrite sent engine') (hafter : after ≠ [])
      (houtcome : isCopyable outcome = false) :
      Course prepared before after engine (events.map .hook ++ sent) (.error (.misuse .wrongType))
        engine'
  /-- Its statements went through, but a hook after it fails, and nothing more is sent. -/
  | stoppedAfter {data left outcome hook last : Value} {cause : HookCause}
      {events more : List HookEvent} {sent : List Event} {engine' : Engine}
      (hprepared : prepared = .ok data) (hbefore : InTurn data before events left)
      (hsent : ∀ e ∈ sent, e.IsStatement) (hgranted : engine.GrantsWrite sent engine')
      (hafter : StopsAt outcome after more hook last cause) :
      Course prepared before after engine (events.map .hook ++ sent ++ more.map .hook)
        (.error (.hookFailed hook cause)) engine'
  /-- Everything went through. -/
  | finished {data left outcome last result : Value} {events more : List HookEvent}
      {sent : List Event} {engine' : Engine} (hprepared : prepared = .ok data)
      (hbefore : InTurn data before events left) (hsent : ∀ e ∈ sent, e.IsStatement)
      (hgranted : engine.GrantsWrite sent engine') (hafter : InTurn outcome after more last) :
      Course prepared before after engine (events.map .hook ++ sent ++ more.map .hook)
        (.ok result) engine'

namespace ResolvedModel

open Action

variable {m : ResolvedModel} {slot before after : HookSlot} {data skip : Value} {s : Session}

/-- Hooks that are skipped do not run. -/
theorem runBefore_of_skip (h : skip.truth = .ok true) : m.runBefore slot data skip = pure data := by
  rw [runBefore, h]
  rfl

theorem runAfter_of_skip (h : skip.truth = .ok true) : m.runAfter slot data skip = pure () := by
  rw [runAfter, h]
  rfl

theorem runBefore_of_not_skip (h : skip.truth = .ok false) :
    m.runBefore slot data skip = runHookList (m.hooks.get slot) data false := by
  rw [runBefore, h]
  rfl

theorem runAfter_of_not_skip (h : skip.truth = .ok false) :
    m.runAfter slot data skip = (do let _ ← runHookList (m.hooks.get slot) data true) := by
  rw [runAfter, h]
  rfl

/-- Hooks before a write always get their data. -/
theorem canHand_live (hooks : List Value) (data : Value) : CanHand hooks data false :=
  nofun

variable {prepared : Except Fault Value} {work : Value → Action (Value × Value)}

/-- **Where hooks are skipped, nothing but statements happens.** -/
theorem dispatches_around (hskip : skip.truth = .ok true) (hwork : ∀ data, Writes (work data)) :
    Dispatches (m.around before after skip prepared work) := by
  refine (Quiet.lift _).dispatches.bind fun data => ?_
  rw [runBefore_of_skip hskip, pure_bind]
  refine (hwork data).dispatches.bind ?_
  rintro ⟨result, outcome⟩
  show Dispatches (m.runAfter after outcome skip >>= _)
  rw [runAfter_of_skip hskip, pure_bind]
  exact (Quiet.pure result).dispatches

variable {engine : Engine} {ran : List Value} {events : List HookEvent} {left : Value}

/-- **How a write goes on behind the hooks before it.** -/
theorem course_of_inTurn (hskip : skip.truth = .ok false) (hwork : Writes (work left))
    (hprepared : prepared = .ok data) (hbefore : InTurn data ran events left) :
    ∃ more,
      (s.perform (do
        let (result, outcome) ← work left
        m.runAfter after outcome skip
        pure result)).2.trace = s.trace ++ more ∧
      Course prepared ran (presentHooks (m.hooks.get after)) s.engine (events.map .hook ++ more)
        (s.perform (do
          let (result, outcome) ← work left
          m.runAfter after outcome skip
          pure result)).1
        (s.perform (do
          let (result, outcome) ← work left
          m.runAfter after outcome skip
          pure result)).2.engine := by
  obtain ⟨sent, htrace, hsent, hgrants⟩ := hwork s
  rw [Session.perform_bind]
  rcases hs : s.perform (work left) with ⟨fault | ⟨result, outcome⟩, t⟩ <;>
    rw [hs] at htrace hgrants
  · exact ⟨sent, htrace, .stoppedWorking hprepared hbefore hsent⟩
  · have hgranted := hgrants rfl
    dsimp only
    rw [runAfter_of_not_skip hskip, bind_assoc, Session.perform_bind, perform_runHookList]
    -- the hooks behind the statements run in turn, stop at one, or get no copy
    rcases HookOutcome.ofRun_spec (m.hooks.get after) outcome true with
      ⟨-, hnone, hturn⟩ | ⟨-, hook, cause, hsome, hstops⟩ | ⟨hcannot, hrun⟩
    · rw [hnone]
      refine ⟨sent ++ (HookOutcome.ofRun (m.hooks.get after) outcome true).events.map .hook, ?_, ?_⟩
      · rw [← List.append_assoc, ← htrace]
        rfl
      · rw [← List.append_assoc]
        exact .finished hprepared hbefore hsent hgranted hturn
    · rw [hsome]
      refine ⟨sent ++ (HookOutcome.ofRun (m.hooks.get after) outcome true).events.map .hook, ?_, ?_⟩
      · rw [← List.append_assoc, ← htrace]
        rfl
      · rw [← List.append_assoc]
        exact .stoppedAfter hprepared hbefore hsent hgranted hstops
    · rw [hrun]
      have hhooks : presentHooks (m.hooks.get after) ≠ [] :=
        fun hnil => hcannot fun _ hsome => absurd hnil hsome
      have hcopy : isCopyable outcome = false :=
        Bool.eq_false_iff.2 fun hcopy => hcannot fun _ _ => hcopy
      refine ⟨sent, ?_, .uncopied hprepared hbefore hsent hgranted hhooks hcopy⟩
      rw [← htrace]
      exact List.append_nil _

/-- **A write with hooks around it takes its course.** -/
theorem course_around (hskip : skip.truth = .ok false) (hwork : ∀ data, Writes (work data)) :
    ∃ events, (s.perform (m.around before after skip prepared work)).2.trace = s.trace ++ events ∧
      Course prepared (presentHooks (m.hooks.get before)) (presentHooks (m.hooks.get after))
        s.engine events (s.perform (m.around before after skip prepared work)).1
        (s.perform (m.around before after skip prepared work)).2.engine := by
  unfold around
  rw [Session.perform_bind, Session.perform_lift]
  cases hprepared : prepared with
  | error fault => exact ⟨[], (List.append_nil _).symm, .refused rfl⟩
  | ok data =>
    dsimp only
    rw [runBefore_of_not_skip hskip, Session.perform_bind, perform_runHookList]
    rcases HookOutcome.ofRun_spec (m.hooks.get before) data false with
      ⟨-, hnone, hturn⟩ | ⟨-, hook, cause, hsome, hstops⟩ | ⟨hcannot, -⟩
    · rw [hnone]
      obtain ⟨more, htrace, hcourse⟩ := course_of_inTurn (s := s.recording
        ((HookOutcome.ofRun (m.hooks.get before) data false).events.map .hook)) hskip (hwork _)
        hprepared hturn
      exact ⟨_ ++ more, htrace.trans (List.append_assoc _ _ _), hprepared ▸ hcourse⟩
    · rw [hsome]
      exact ⟨_, rfl, .stoppedBefore rfl hstops⟩
    · exact absurd (canHand_live _ _) hcannot

/-! ## The works of the operations -/

/-- The work of creating a row. -/
def createWork (m : ResolvedModel) (values : Value) : Action (Value × Value) := do
  let row ← m.insertValues values
  m.validate row
  let insertion ← m.queryTable.insert (.dict row) (.bool false)
  let _ ← m.runWrite "create" (.insert insertion)
  let created ← m.fetchInserted row
  pure (created, created)

theorem create_eq (values skip : Value) :
    m.create values skip =
      m.around .beforeInsert .afterInsert skip
        (do pure (.dict (← (← values.orEmptyMapping).toMapping))) m.createWork := by
  simp only [create, around, createWork, liftM_bind, liftM_pure, bind_assoc, pure_bind]

/-- The work of inserting a row or changing the one it conflicts with. -/
def upsertWork (m : ResolvedModel) (conflict values : Value) : Action (Value × Value) := do
  let row ← m.insertValues values
  m.validate row
  let named ← (← conflict.orElse (.list [.str m.primaryKey])).items
  let targets ← named.mapM fun c => (m.columnFor c : Except Fault Value)
  let missing := targets.filter fun t => !Mapping.hasKey row t
  if !missing.isEmpty then
    let missing ← missing.mapM fun t => (t.asText : Except Fault String)
    refuse (.missingConflictValues m.tableName missing)
  let row := m.withoutCreatedAt row
  let insertion ← m.queryTable.upsert (.dict row) (.list targets)
  let _ ← m.runWrite "upsert" (.insert insertion)
  let key ← conflictValues row targets
  let result ← m.findOne (.dict key) .null (.bool true)
  pure (result, result)

theorem upsert_eq (values conflict skip : Value) :
    m.upsert values conflict skip =
      m.around .beforeInsert .afterInsert skip (do pure (.dict (← values.toMapping)))
        (m.upsertWork conflict) := by
  simp only [upsert, around, upsertWork, liftM_bind, liftM_pure, bind_assoc, pure_bind]
  refine bind_congr fun _ => bind_congr fun _ => bind_congr fun row => bind_congr fun _ =>
    bind_congr fun _ => bind_congr fun _ => bind_congr fun targets => ?_
  split <;> simp only [bind_assoc, pure_bind]

/-- The work of changing rows. -/
def updateWork (m : ResolvedModel) (condition values : Value) : Action (Value × Value) := do
  let row ← m.columnValues values
  m.validate row
  let row := m.withoutVersion (m.withUpdatedAt (← Action.timestamp) row)
  let columns ← m.columnValues condition
  let change ← m.queryTable.update (.dict row) (.dict columns) (.dict m.versionStep)
  let changes ← m.runWrite "update" (.update change)
  pure (changes, .dict row)

theorem update_eq (values condition skip : Value) :
    m.update values condition skip =
      m.around .beforeUpdate .afterUpdate skip
        (do
          m.queryTable.requireCondition "update" condition
          pure (.dict (← values.toMapping))) (m.updateWork condition) := by
  simp only [update, around, updateWork, liftM_bind, liftM_pure, bind_assoc, pure_bind]

/-- The work of removing rows. -/
def destroyWork (m : ResolvedModel) (force condition : Value) : Action (Value × Value) := do
  let columns ← m.columnValues condition
  let changes ←
    match ← m.marksDeletion force with
    | some deletedAt => do
      let now ← Action.timestamp
      let change ← m.queryTable.update (.dict [(.str deletedAt, .str now)]) (.dict columns) .null
      m.runWrite "soft_delete" (.update change)
    | none => do
      let removal ← m.queryTable.delete (.dict columns)
      m.runWrite "destroy" (.delete removal)
  pure (changes, condition)

theorem destroy_eq (condition force skip : Value) :
    m.destroy condition force skip =
      m.around .beforeDelete .afterDelete skip
        (do
          m.queryTable.requireCondition "destroy" condition
          pure (.dict (← condition.toMapping))) (m.destroyWork force) := by
  simp only [destroy, around, destroyWork, liftM_bind, liftM_pure, bind_assoc, pure_bind]
  refine bind_congr fun _ => bind_congr fun _ => bind_congr fun _ => bind_congr fun _ =>
    bind_congr fun marks => ?_
  cases marks <;> simp only [bind_assoc, pure_bind]

/-! ### What they do to the trace -/

theorem dispatches_fetchFirst (s : Selection) : Dispatches (fetchFirst s) :=
  dispatches_first _ _

theorem dispatches_findOne (condition order withDeleted : Value) :
    Dispatches (m.findOne condition order withDeleted) :=
  (Quiet.lift _).dispatches.bind fun _ => (Quiet.lift _).dispatches.bind fun _ =>
    (Quiet.lift _).dispatches.bind fun _ => dispatches_fetchFirst _

theorem dispatches_fetchInserted (row : Mapping) : Dispatches (m.fetchInserted row) := by
  have hfetch : ∀ key : Value, Dispatches (do
      let s ← m.queryTable.selectByKey key (.bool true)
      let found ← fetchFirst s
      found.orElse (.dict row) : Action Value) := fun _ =>
    (Quiet.lift _).dispatches.bind fun _ => (dispatches_fetchFirst _).bind fun _ =>
      (Quiet.lift _).dispatches
  unfold fetchInserted
  split
  · exact (Quiet.pure _).dispatches
  · -- the key is the one that was given, or the number of the row that was made last
    dsimp only
    split
    · exact quiet_database.dispatches.bind fun _ => hfetch _
    · exact hfetch _

/-- **Every write writes.** -/
theorem writes_runWrite (operation : String) {statement : RowStatement}
    (h : WritesRows statement.sql) : Writes (m.runWrite operation statement) :=
  (quiet_report _).bind_writes fun _ => (writes_run h).bind fun _ =>
    (dispatches_log _).bind fun _ => (Quiet.pure _).dispatches

theorem quiet_fillDefaults (row : Mapping) (columns : Named Column) :
    Quiet (fillDefaults row columns) := by
  induction columns generalizing row with
  | nil => exact Quiet.pure row
  | cons e rest ih =>
    unfold fillDefaults
    split
    · split
      · exact ih row
      · exact (quiet_callDefault _).bind fun _ => ih _
    · exact ih row

theorem quiet_insertValues (values : Value) : Quiet (m.insertValues values) :=
  (Quiet.lift _).bind fun _ => (quiet_fillDefaults _ _).bind fun _ =>
    quiet_timestamp.bind fun _ => Quiet.pure _

theorem quiet_validate (row : Mapping) : Quiet (m.validate row) :=
  Quiet.lift _

theorem writes_createWork (values : Value) : Writes (m.createWork values) := by
  refine (quiet_insertValues values).bind_writes fun row => (quiet_validate row).bind_writes
    fun _ => (Quiet.lift _).bind_writes fun insertion => ?_
  refine (writes_runWrite "create" insertion.writesRows).bind fun _ => ?_
  exact (dispatches_fetchInserted row).bind fun _ => (Quiet.pure _).dispatches

theorem writes_upsertWork (conflict values : Value) : Writes (m.upsertWork conflict values) := by
  refine (quiet_insertValues values).bind_writes fun row => (quiet_validate row).bind_writes
    fun _ => (Quiet.lift _).bind_writes fun _ => (Quiet.lift _).bind_writes
    fun _ => (Quiet.mapM (fun _ => .lift _) _).bind_writes fun targets => ?_
  have hrest : Writes (do
      let row := m.withoutCreatedAt row
      let insertion ← m.queryTable.upsert (.dict row) (.list targets)
      let _ ← m.runWrite "upsert" (.insert insertion)
      let key ← conflictValues row targets
      let result ← m.findOne (.dict key) .null (.bool true)
      pure (result, result) : Action (Value × Value)) :=
    (Quiet.lift _).bind_writes fun insertion =>
      (writes_runWrite "upsert" insertion.writesRows).bind fun _ =>
        (Quiet.lift _).dispatches.bind fun _ => (dispatches_findOne _ _ _).bind fun _ =>
          (Quiet.pure _).dispatches
  dsimp only
  split
  · exact (Quiet.mapM (fun _ => .lift _) _).bind_writes fun _ =>
      (Quiet.lift _).bind_writes fun _ => hrest
  · exact hrest

theorem writes_updateWork (condition values : Value) : Writes (m.updateWork condition values) := by
  refine (Quiet.lift _).bind_writes fun row => (quiet_validate row).bind_writes fun _ =>
    quiet_timestamp.bind_writes fun _ => (Quiet.lift _).bind_writes fun _ =>
    (Quiet.lift _).bind_writes fun change => ?_
  exact (writes_runWrite "update" change.writesRows).bind fun _ => (Quiet.pure _).dispatches

theorem writes_destroyWork (force condition : Value) :
    Writes (m.destroyWork force condition) := by
  refine (Quiet.lift _).bind_writes fun columns => (Quiet.lift _).bind_writes fun marks => ?_
  cases marks with
  | some deletedAt =>
    refine quiet_timestamp.bind_writes fun _ => (Quiet.lift _).bind_writes fun change => ?_
    exact (writes_runWrite "soft_delete" change.writesRows).bind fun _ =>
      (Quiet.pure _).dispatches
  | none =>
    refine (Quiet.lift _).bind_writes fun removal => ?_
    exact (writes_runWrite "destroy" removal.writesRows).bind fun _ => (Quiet.pure _).dispatches

end ResolvedModel

/-! ## The operations -/

/-- The operations that run hooks around what they do. -/
inductive HookedOperation where
  | create
  | upsert
  | update
  | destroy
  deriving DecidableEq, Repr

namespace HookedOperation

/-- The operation. -/
def operation : HookedOperation → RowOperation
  | create => .create
  | upsert => .upsert
  | update => .update
  | destroy => .destroy

/-- The hooks that run before it. -/
def before : HookedOperation → HookSlot
  | create | upsert => .beforeInsert
  | update => .beforeUpdate
  | destroy => .beforeDelete

/-- The hooks that run after it. -/
def after : HookedOperation → HookSlot
  | create | upsert => .afterInsert
  | update => .afterUpdate
  | destroy => .afterDelete

/-- What the hooks before it run on: a mapping of its own, made of what it was asked for. Where a
condition is needed, it is looked at first. -/
def prepared (m : ResolvedModel) (a : Named Value) : HookedOperation → Except Fault Value
  | create => do pure (.dict (← (← (a.argument "values").orEmptyMapping).toMapping))
  | upsert => do pure (.dict (← (a.argument "values").toMapping))
  | update => do
    m.queryTable.requireCondition "update" (a.argument "where")
    pure (.dict (← (a.argument "values").toMapping))
  | destroy => do
    m.queryTable.requireCondition "destroy" (a.argument "where")
    pure (.dict (← (a.argument "where").toMapping))

/-- What it does between the hooks. -/
def work (m : ResolvedModel) (a : Named Value) : HookedOperation → Value → Action (Value × Value)
  | create => m.createWork
  | upsert => m.upsertWork (a.argument "conflict")
  | update => m.updateWork (a.argument "where")
  | destroy => m.destroyWork (a.argument "force")

variable {m : ResolvedModel} {a : Named Value} (o : HookedOperation)

/-- All of them go the same way. -/
theorem perform_eq_around :
    o.operation.perform m a =
      m.around o.before o.after (a.argument "skip_hooks") (o.prepared m a) (o.work m a) := by
  cases o with
  | create => exact ResolvedModel.create_eq _ _
  | upsert => exact ResolvedModel.upsert_eq _ _ _
  | update => exact ResolvedModel.update_eq _ _ _
  | destroy => exact ResolvedModel.destroy_eq _ _ _

/-- The work of each of them writes. -/
theorem writes_work (data : Value) : (o.work m a data).Writes := by
  cases o with
  | create => exact ResolvedModel.writes_createWork data
  | upsert => exact ResolvedModel.writes_upsertWork _ data
  | update => exact ResolvedModel.writes_updateWork _ data
  | destroy => exact ResolvedModel.writes_destroyWork _ data

end HookedOperation

namespace ResolvedModel

variable {m : ResolvedModel}

/-- An operation is called by its name. -/
theorem call_name (o : RowOperation) (c : Call) :
    m.call o.name c = liftM (c.bind o.parameters) >>= o.perform m := by
  have hname : RowOperation.ofName? o.name = some o := by cases o <;> rfl
  rw [call, hname]

/-- Where its arguments are understood it is performed. -/
theorem call_of_bind {o : RowOperation} {c : Call} {a : Named Value}
    (h : c.bind o.parameters = .ok a) : m.call o.name c = o.perform m a := by
  rw [call_name, h]
  rfl

/-- **Hooks and statements do not interleave.** Whatever an operation with hooks around it is called
with, whatever its hooks do and whatever the engine answers: the call takes its course, from the
hooks before the write over its statements to the hooks after it. Where hooks are to be skipped,
nothing but statements happens. -/
theorem course_of_call (m : ResolvedModel) (o : HookedOperation) {c : Call} {a : Named Value}
    (h : c.bind o.operation.parameters = .ok a) (s : Session) :
    ((a.argument "skip_hooks").truth = .ok false →
      ∃ events, (s.perform (m.call o.operation.name c)).2.trace = s.trace ++ events ∧
        Course (o.prepared m a) (presentHooks (m.hooks.get o.before))
          (presentHooks (m.hooks.get o.after)) s.engine events
          (s.perform (m.call o.operation.name c)).1
          (s.perform (m.call o.operation.name c)).2.engine) ∧
    ((a.argument "skip_hooks").truth = .ok true →
      ∃ sent, (s.perform (m.call o.operation.name c)).2.trace = s.trace ++ sent ∧
        ∀ e ∈ sent, e.IsStatement) := by
  rw [call_of_bind h, o.perform_eq_around]
  constructor
  · intro hskip
    exact course_around hskip o.writes_work
  · intro hskip
    obtain ⟨sent, htrace, hsent, -⟩ := dispatches_around hskip o.writes_work s
    exact ⟨sent, htrace, hsent⟩

end ResolvedModel

/-! ## A hook that fails after the write -/

/-- What an event is, in short. -/
def Event.label : Event → String
  | connected location _ => "open " ++ location
  | executed sql _ => sql
  | closed => "close"
  | hook (.started name _) => name ++ " starts"
  | hook (.finished name) => name ++ " ends"

/-- A hook that gives its data another title. -/
def retitle : Value :=
  .hook
    { name := "retitle", actions := [.set (.str "Title") (.str "Go")], awaited := true
      isObject := false }

/-- A hook that fails. -/
def objecting : Value :=
  .hook
    { name := "object", actions := [.fail (.other "RuntimeError") [.str "no"]], awaited := false
      isObject := false }

/-- The hooks of tasks: one that is not there and two that are. -/
def taskHooks : HookLists :=
  { beforeInsert := [.null, retitle], afterInsert := [objecting, forgetTitle] }

/-- A task to be made. -/
def packingTask : Call :=
  { args := [.dict [(.str "Title", .str "Pack")]] }

/-- Its arguments. -/
def packingArguments : Named Value :=
  [("values", .dict [(.str "Title", .str "Pack")]), ("skip_hooks", .bool false)]

/-- The hooks before the write and the statements come first, then the hook that fails; the one
behind it does not start. -/
theorem course_of_packingTask :
    ∃ m events, ResolvedModel.hooks m = taskHooks ∧
      packingTask.bind RowOperation.create.parameters = .ok packingArguments ∧
      (packingArguments.argument "skip_hooks").truth = .ok false ∧
      (noonSession.perform (m.call "create" packingTask)).2.trace = noonSession.trace ++ events ∧
      events.map Event.label =
        ["retitle starts", "retitle ends",
         "INSERT INTO Task (title, created_at, updated_at) VALUES (?, ?, ?)",
         "SELECT * FROM Task WHERE id = ? LIMIT 1", "object starts"] ∧
      Course (HookedOperation.create.prepared m packingArguments) [retitle]
        [objecting, forgetTitle] noonSession.engine events
        (noonSession.perform (m.call "create" packingTask)).1
        (noonSession.perform (m.call "create" packingTask)).2.engine := by
  have hrun : (do
      let m ← (DefinitionSource.built taskDefinition).resolve
      let m : ResolvedModel := { m with hooks := taskHooks }
      pure ((noonSession.perform (m.call "create" packingTask)).2.trace.map
        Event.label)).toOption =
      some
        ["retitle starts", "retitle ends",
         "INSERT INTO Task (title, created_at, updated_at) VALUES (?, ?, ?)",
         "SELECT * FROM Task WHERE id = ? LIMIT 1", "object starts"] := by
    decide +kernel
  obtain ⟨m, hm, hrest⟩ := bind_eq_ok.1 (eq_ok_of_toOption hrun)
  have hlabels := pure_eq_ok.1 hrest
  have hbound : packingTask.bind RowOperation.create.parameters = .ok packingArguments := rfl
  have hskip : (packingArguments.argument "skip_hooks").truth = .ok false := rfl
  obtain ⟨events, htrace, hcourse⟩ :=
    (ResolvedModel.course_of_call { m with hooks := taskHooks } .create hbound noonSession).1 hskip
  refine ⟨_, events, rfl, hbound, hskip, htrace, ?_, hcourse⟩
  rw [← hlabels]
  exact congrArg (List.map Event.label) (htrace.trans rfl).symm

end Tablewright
