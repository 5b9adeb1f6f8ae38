import Tablewright.Proofs.Session.Engine
import Tablewright.Proofs.Session.SchemaText
import Tablewright.Proofs.Value.Json

/-!
# Steps that are logged

What the trace of a database that logs its operations has more than that of one that does not:
directly behind each change of the schema or of rows that the engine grants, the two statements that
write it to the log, and nothing else (`Logged`). `Action.Transparent x` says that this is all the
difference which logging makes to `x`: it ends in the same way, and in the same session but for the
trace and the setting itself.
-/

namespace Tablewright

open Fallible

variable {α β : Type}

/-! ## What is logged -/

/-- A statement makes or drops a part of the schema. -/
def WritesSchema (sql : String) : Prop :=
  "CREATE ".toList <+: sql.toList ∨ "DROP ".toList <+: sql.toList

/-- No statement does both. -/
theorem WritesSchema.not_writesRows {sql : String} (h : WritesSchema sql) : ¬ WritesRows sql := by
  rintro (h' | h' | h') <;> rcases h with h | h <;>
    exact absurd (List.prefix_or_prefix_of_prefix h h') (by decide)

/-- The bound values of a statement as the log holds them: as JSON, or null where there are none. -/
inductive LoggedParams : List Value → Value → Prop
  | none : LoggedParams [] .null
  | json {p : Value} {ps : List Value} {text : String}
      (h : Json.write (.list (p :: ps)) = .ok text) : LoggedParams (p :: ps) (.str text)

/-- Whatever the engine can bind can be logged. -/
theorem exists_loggedParams {params : List Value}
    (h : ∀ p ∈ params, ∃ v : Value, v.storable = .ok p) : ∃ text, LoggedParams params text := by
  cases params with
  | nil => exact ⟨.null, .none⟩
  | cons p ps =>
    obtain ⟨texts, htexts⟩ := Json.exists_writeItems fun p hp =>
      Json.exists_write_of_storable (h p hp).choose_spec
    have hwrite : Json.write (.list (p :: ps)) = .ok (Value.enclosed "[" "]" texts) := by
      rw [Json.write, htexts]
      rfl
    exact ⟨_, .json hwrite⟩

/-- An entry for a statement holds its values in that form. -/
theorem paramsText_of_loggedParams {params : List Value} {text : Value} {e : LogEntry}
    (h : LoggedParams params text) (he : e.params = .list params) : e.paramsText = .ok text := by
  rw [LogEntry.paramsText, he]
  cases h with
  | none => rfl
  | json h =>
    show Except.map _ _ = _
    rw [h]
    rfl

/-- How the engine goes on behind an event. -/
def Engine.behind (e : Engine) : Event → Engine
  | .executed sql _ => (e.answer sql).2
  | .closed => { e with isClosed := true }
  | _ => e

/-- An event is a change of the schema or of rows, and the engine grants it. -/
def Engine.GrantsChange (e : Engine) : Event → Prop
  | .executed sql _ =>
    (WritesSchema sql ∨ WritesRows sql) ∧
      ∃ rows rowCount lastRowId, (e.answer sql).1 = .done rows rowCount lastRowId
  | _ => False

/-- **The events of a database that logs its operations**, beside those of one that does not, given
what the engine's answers depend on before them and after them. -/
inductive Logged : Engine → List Event → List Event → Engine → Prop
  | nil (e : Engine) : Logged e [] [] e
  /-- What is no granted change is not logged. -/
  | beside {e e' : Engine} {event : Event} {sent logged : List Event} (h : ¬ e.GrantsChange event)
      (hrest : Logged (e.behind event) sent logged e') :
      Logged e (event :: sent) (event :: logged) e'
  /-- Behind a granted change of the schema or of rows follow the statement that makes the log,
  and the one that adds an entry with the text of the statement, its bound values, and how many rows
  it touched if it was one about rows. -/
  | change {e e' : Engine} {sql : String} {params rows : List Value}
      {rowCount lastRowId operation target text touched source : Value}
      {sent logged : List Event} (hchange : WritesSchema sql ∨ WritesRows sql)
      (hdone : (e.answer sql).1 = .done rows rowCount lastRowId)
      (hparams : LoggedParams params text) (hrows : WritesRows sql → touched = rowCount)
      (hschema : WritesSchema sql → touched = .null)
      (hrest : Logged (e.answer sql).2 sent logged e') :
      Logged e (.executed sql params :: sent)
        (.executed sql params :: .executed createLog [] ::
          .executed insertLogEntry [operation, target, .str sql, text, touched, source] :: logged)
        e'

namespace Logged

variable {e e' e'' : Engine} {sent logged more logged' : List Event}

/-- What is logged in two parts is logged. -/
theorem append (h : Logged e sent logged e') (hmore : Logged e' more logged' e'') :
    Logged e (sent ++ more) (logged ++ logged') e'' := by
  induction h with
  | nil => exact hmore
  | beside h _ ih => exact .beside h (ih hmore)
  | change hchange hdone hparams hrows hschema _ ih =>
    exact .change hchange hdone hparams hrows hschema (ih hmore)

/-- What hooks do is not logged. -/
theorem hooks (e : Engine) (events : List HookEvent) :
    Logged e (events.map .hook) (events.map .hook) e := by
  induction events with
  | nil => exact .nil e
  | cons event events ih => exact .beside id ih

end Logged

/-! ## Sessions side by side -/

/-- The options with another setting for the log. -/
def Options.logging (o : Options) (setting : Value) : Options :=
  { o with logOps := setting }

/-- The database with another setting for its log. -/
def Database.logging (d : Database) (setting : Value) : Database :=
  { d with options := d.options.logging setting }

/-- The session with another setting for its log, and another trace. -/
def Session.twin (s : Session) (setting : Value) (trace : List Event) : Session :=
  { database := s.database.logging setting, world := { s.world with trace } }

/-- The session that remembers the number of another row. -/
def Session.noting (s : Session) (lastRowId : Value) : Session :=
  { s with database := { s.database with lastRowId } }

namespace Action

/-- The step leaves the options as they are, and in a session that logs its operations it ends as in
one that does not; the traces differ in what is logged. -/
def Transparent (x : Action α) : Prop :=
  ∀ (s : Session) (setting : Value) (trace : List Event),
    s.database.options.logOps.truth = .ok false → setting.truth = .ok true →
    (s.perform x).2.database.options = s.database.options ∧
    ∃ sent logged, (s.perform x).2.trace = s.trace ++ sent ∧
      Logged s.engine sent logged (s.perform x).2.engine ∧
      (s.twin setting trace).perform x =
        ((s.perform x).1, (s.perform x).2.twin setting (trace ++ logged))

variable {x : Action α}

/-- A step that sends nothing, and that neither looks at the setting nor at the trace. -/
theorem Quiet.transparent (h : Quiet x) (hoptions : Keeps (·.database.options) x)
    (htwin : ∀ (s : Session) (setting : Value) (trace : List Event),
      (s.twin setting trace).perform x =
        ((s.perform x).1, (s.perform x).2.twin setting trace)) : Transparent x := by
  intro s setting trace _ _
  refine ⟨hoptions s, [], [], by rw [List.append_nil, h.1 s], ?_, ?_⟩
  · rw [h.2 s]
    exact .nil _
  · rw [List.append_nil]
    exact htwin s setting trace

namespace Transparent

theorem lift (y : Except Fault α) : Transparent (liftM y : Action α) :=
  (Quiet.lift y).transparent (Keeps.lift _ y) fun _ _ _ => rfl

theorem pure (a : α) : Transparent (Pure.pure a : Action α) :=
  lift (.ok a)

/-- **A sequence is transparent where its parts are.** -/
theorem bind {k : α → Action β} (hx : Transparent x) (hk : ∀ a, Transparent (k a)) :
    Transparent (x >>= k) := by
  intro s setting trace hoff hon
  obtain ⟨hoptions, sent, logged, htrace, hlogged, htwin⟩ := hx s setting trace hoff hon
  rw [Session.perform_bind, Session.perform_bind, htwin]
  rcases hs : s.perform x with ⟨fault | a, t⟩ <;> rw [hs] at hoptions htrace hlogged
  · exact ⟨hoptions, sent, logged, htrace, hlogged, rfl⟩
  · -- the second part starts from where the first ended, on both sides
    rw [← hoptions] at hoff
    obtain ⟨hoptions', more, logged', htrace', hlogged', htwin'⟩ :=
      hk a t setting (trace ++ logged) hoff hon
    refine ⟨hoptions'.trans hoptions, sent ++ more, logged ++ logged', ?_,
      hlogged.append hlogged', ?_⟩
    · rw [← List.append_assoc, ← htrace]
      exact htrace'
    · rw [← List.append_assoc]
      exact htwin'

theorem lift_bind {y : Except Fault α} {k : α → Action β}
    (h : ∀ a, y = .ok a → Transparent (k a)) : Transparent (liftM y >>= k) := by
  cases y with
  | error fault => exact lift (.error fault)
  | ok a => exact h a rfl

theorem ite {p : Prop} [Decidable p] {y : Action α} (hx : Transparent x) (hy : Transparent y) :
    Transparent (if p then x else y) := by
  split
  · exact hx
  · exact hy

theorem forM {f : α → Action Unit} (h : ∀ a, Transparent (f a)) (xs : List α) :
    Transparent (xs.forM f) := by
  induction xs with
  | nil => exact pure ()
  | cons x xs ih =>
    rw [List.forM]
    exact (h x).bind fun _ => ih

theorem mapM {f : α → Action β} (h : ∀ a, Transparent (f a)) (xs : List α) :
    Transparent (xs.mapM f) := by
  induction xs with
  | nil => exact pure _
  | cons x xs ih =>
    rw [List.mapM_cons]
    exact (h x).bind fun _ => ih.bind fun _ => pure _

theorem filterM {f : α → Action Bool} (h : ∀ a, Transparent (f a)) (xs : List α) :
    Transparent (xs.filterM f) := by
  have haux : ∀ (xs acc : List α), Transparent (xs.filterAuxM f acc) := by
    intro xs
    induction xs with
    | nil => exact fun _ => pure _
    | cons x xs ih => exact fun acc => (h x).bind fun _ => ih _
  exact (haux xs []).bind fun _ => pure _

/-- What is made of transparent parts is transparent. -/
theorem of_madeOf {Part : ⦃α : Type⦄ → Action α → Prop} (h : MadeOf Part x)
    (hpart : ∀ (α : Type) (x : Action α), Part x → Transparent x) : Transparent x := by
  induction h with
  | part h => exact hpart _ _ h
  | lift y => exact lift y
  | bind _ _ hx hk => exact hx.bind hk
  | lift_bind _ h => exact lift_bind h

/-- What goes on from the database in a way that does not depend on its setting for the log. -/
theorem database_bind {k : Database → Action α} (h : ∀ d, Transparent (k d))
    (hsetting : ∀ (d : Database) (setting : Value), k (d.logging setting) = k d) :
    Transparent (database >>= k) := by
  intro s setting trace hoff hon
  obtain ⟨hoptions, sent, logged, htrace, hlogged, htwin⟩ := h s.database s setting trace hoff hon
  exact ⟨hoptions, sent, logged, htrace, hlogged,
    (congrArg (s.twin setting trace).perform (hsetting s.database setting)).trans htwin⟩

/-- A change of what the database remembers that leaves its options and its connection alone. -/
theorem modifyDatabase {f : Database → Database}
    (hclosed : ∀ d, (f d).isClosed = d.isClosed) (hoptions : ∀ d, (f d).options = d.options)
    (hsetting : ∀ (d : Database) (setting : Value),
      f (d.logging setting) = (f d).logging setting) :
    Transparent (modifyDatabase f) := by
  refine Quiet.transparent ⟨fun _ => rfl, fun s => ?_⟩ (fun s => hoptions s.database)
    fun s setting trace => ?_
  · show Engine.mk (f s.database).isClosed s.world.replies = _
    rw [hclosed]
    rfl
  · show (Except.ok (), Session.mk (f (s.database.logging setting)) _) = _
    rw [hsetting]
    rfl

end Transparent

/-! ## Single steps -/

theorem transparent_timestamp : Transparent timestamp :=
  quiet_timestamp.transparent (fun _ => rfl) fun _ _ _ => rfl

/-- Asking for a default goes on in the same way. -/
theorem transparent_callDefault (source : Value) : Transparent (callDefault source) := by
  unfold callDefault
  split
  · exact Quiet.transparent ⟨fun _ => rfl, fun _ => rfl⟩ (fun _ => rfl) fun _ _ _ => rfl
  · exact .lift _

/-- Reporting a line does not depend on the log. -/
theorem transparent_report (line : String) : Transparent (report line) := by
  refine .database_bind (fun d => .lift_bind fun b _ => .ite ?_ (.pure ())) fun _ _ => rfl
  exact Quiet.transparent ⟨fun _ => rfl, fun _ => rfl⟩ (fun _ => rfl) fun _ _ _ => rfl

/-- **A statement that changes nothing is not logged.** -/
theorem transparent_execute {sql : String} (h : ¬ (WritesSchema sql ∨ WritesRows sql))
    (params : List Value) : Transparent (execute sql params) := by
  intro s setting trace _ _
  rw [perform_execute, perform_execute]
  refine ⟨rfl, [.executed sql params], [.executed sql params], rfl, ?_, rfl⟩
  rw [Session.engine_sending]
  exact .beside (fun hgrants => h hgrants.1) (.nil _)

theorem transparent_perform {sql : String} (h : ¬ (WritesSchema sql ∨ WritesRows sql)) :
    Transparent (perform sql) :=
  (transparent_execute h []).bind fun _ => .pure ()

theorem transparent_first {sql : String} (h : ¬ (WritesSchema sql ∨ WritesRows sql))
    (params : List Value) : Transparent (first sql params) :=
  (transparent_execute h params).bind fun _ => .pure _

theorem transparent_rows {sql : String} (h : ¬ (WritesSchema sql ∨ WritesRows sql))
    (params : List Value) : Transparent (rows sql params) :=
  (transparent_execute h params).bind fun _ => .pure _

theorem transparent_record_connected (location : String) (timeout : Value) :
    Transparent (record (.connected location timeout)) :=
  fun _ _ _ _ _ => ⟨rfl, [.connected location timeout], [.connected location timeout], rfl,
    .beside id (.nil _), rfl⟩

/-- Closing is not logged. -/
theorem transparent_close : Transparent close :=
  fun _ _ _ _ _ => ⟨rfl, [.closed], [.closed], rfl, .beside id (.nil _), rfl⟩

/-- **Hooks are not logged**, whatever they do. -/
theorem transparent_runHookList (hooks : List Value) (data : Value) (isolate : Bool) :
    Transparent (runHookList hooks data isolate) := by
  intro s setting trace _ _
  rw [perform_runHookList, perform_runHookList]
  exact ⟨rfl, _, _, rfl, .hooks _ _, rfl⟩

/-! ## Changes -/

/-- Nothing is written to a log that is not kept. -/
theorem perform_log_of_off {s : Session} (h : s.database.options.logOps.truth = .ok false)
    (e : LogEntry) : s.perform (log e) = (.ok (), s) := by
  rw [log, Session.perform_bind, Session.perform_database]
  dsimp only
  rw [h]
  rfl

/-- What keeps the log is granted by the engine itself. -/
theorem isHousekeeping_createLog : isHousekeeping createLog = true := by
  obtain ⟨rest, hrest⟩ := exists_createLog_eq
  rw [isHousekeeping, List.any_eq_true]
  refine ⟨"CREATE TABLE IF NOT EXISTS _ops ", by decide, ?_⟩
  rw [hrest, List.isPrefixOf_iff_prefix, String.toList_append]
  exact (show "CREATE TABLE IF NOT EXISTS _ops ".toList <+:
    "CREATE TABLE IF NOT EXISTS _ops (\n".toList by decide).trans (List.prefix_append _ _)

theorem isHousekeeping_insertLogEntry : isHousekeeping insertLogEntry = true := by
  obtain ⟨rest, hrest⟩ := exists_insertLogEntry_eq
  rw [isHousekeeping, List.any_eq_true]
  refine ⟨"INSERT INTO _ops ", by decide, ?_⟩
  rw [hrest, List.isPrefixOf_iff_prefix, String.toList_append]
  exact List.prefix_append _ _

/-- On an open connection, such a statement takes no answer away. -/
theorem perform_execute_of_housekeeping {s : Session} {sql : String}
    (hopen : s.database.isClosed = false) (h : isHousekeeping sql = true) (params : List Value) :
    s.perform (execute sql params) =
      (.ok ([], .int 0, .null), s.recording [.executed sql params]) := by
  have hanswer : s.engine.answer sql = (.nothing, s.engine) := by
    unfold Engine.answer
    rw [if_neg, if_pos h]
    exact Bool.eq_false_iff.1 hopen
  rw [perform_execute, Session.sending, hanswer]
  rfl

/-- **An entry is written** to a log that is kept, on an open connection. -/
theorem perform_log_of_on {s : Session} {e : LogEntry} {text : Value}
    (hon : s.database.options.logOps.truth = .ok true) (hopen : s.database.isClosed = false)
    (htext : e.paramsText = .ok text) :
    s.perform (log e) =
      (.ok (), s.recording [.executed createLog [], .executed insertLogEntry
        [e.operation, e.target, e.sql, text, e.rowsAffected, e.source]]) := by
  rw [log, Session.perform_bind, Session.perform_database]
  dsimp only
  rw [hon]
  show s.perform e.write = _
  rw [LogEntry.write, Session.perform_bind,
    perform_execute_of_housekeeping hopen isHousekeeping_createLog]
  dsimp only
  rw [Session.perform_bind, Session.perform_lift, htext]
  dsimp only
  rw [Session.perform_bind,
    perform_execute_of_housekeeping (s := s.recording _) hopen isHousekeeping_insertLogEntry]
  show (Except.ok (), Session.recording _ _) = _
  unfold Session.recording
  rw [List.append_assoc]
  rfl

/-- Only on an open connection a statement is granted. -/
theorem isClosed_of_done {e : Engine} {sql : String} {rows : List Value}
    {rowCount lastRowId : Value} (h : (e.answer sql).1 = .done rows rowCount lastRowId) :
    e.isClosed = false := by
  cases hclosed : e.isClosed with
  | false => rfl
  | true =>
    rw [Engine.answer, if_pos hclosed] at h
    cases h

variable {sql : String}

theorem perform_perform (s : Session) (sql : String) :
    s.perform (perform sql) =
      ((s.engine.answer sql).1.outcome.map fun _ => (), s.sending sql []) := by
  rw [perform, Session.perform_bind, perform_execute]
  cases (s.engine.answer sql).1 <;> rfl

/-- A statement that changes rows tells how many it touched, and the database remembers the number
of the row that it made. -/
theorem perform_run (s : Session) (sql : String) (params : List Value) :
    s.perform (run sql params) =
      match (s.engine.answer sql).1 with
      | .done _ rowCount lastRowId => (.ok rowCount, (s.sending sql params).noting lastRowId)
      | .refused kind message => (.error (.engine kind message), s.sending sql params) := by
  rw [run, Session.perform_bind, perform_execute]
  cases (s.engine.answer sql).1 <;> rfl

/-- What is refused is not logged. -/
theorem logged_of_refused {e : Engine} {kind message : String} {params : List Value}
    (h : (e.answer sql).1 = .refused kind message) :
    Logged e [.executed sql params] [.executed sql params] (e.answer sql).2 := by
  refine .beside ?_ (.nil _)
  rintro ⟨-, rows, rowCount, lastRowId, hdone⟩
  rw [h] at hdone
  cases hdone

/-- An entry is written in the twin of a session, on an open connection. -/
theorem perform_log_twin {t : Session} {setting : Value} (hon : setting.truth = .ok true)
    (hopen : t.database.isClosed = false) {e : LogEntry} {text : Value}
    (htext : e.paramsText = .ok text) (trace : List Event) :
    (t.twin setting trace).perform (log e) =
      (.ok (), t.twin setting (trace ++ [.executed createLog [], .executed insertLogEntry
        [e.operation, e.target, e.sql, text, e.rowsAffected, e.source]])) :=
  perform_log_of_on (s := t.twin setting trace) hon hopen htext

/-- **A statement about the schema is logged behind it**, if it is granted. -/
theorem transparent_executeSchema {statement : SchemaStatement}
    (h : WritesSchema statement.render) (table source : String) :
    Transparent (executeSchema statement table source) := by
  refine (transparent_report _).bind fun _ => ?_
  intro s setting trace hoff hon
  have hsent : (s.twin setting trace).sending statement.render [] =
      (s.sending statement.render []).twin setting (trace ++ [.executed statement.render []]) := rfl
  have htwin : (s.twin setting trace).engine = s.engine := rfl
  rw [Session.perform_bind, Session.perform_bind, perform_perform, perform_perform, htwin, hsent]
  cases hanswer : (s.engine.answer statement.render).1 with
  | refused kind message =>
    refine ⟨rfl, [.executed statement.render []], _, rfl, ?_, rfl⟩
    show Logged _ _ _ (s.sending _ _).engine
    rw [Session.engine_sending]
    exact logged_of_refused hanswer
  | done rows rowCount lastRowId =>
    have hopen : (s.sending statement.render []).database.isClosed = false :=
      isClosed_of_done hanswer
    dsimp only [Reply.outcome, Except.map]
    rw [perform_log_of_off (s := s.sending _ _) hoff, perform_log_twin hon hopen rfl,
      List.append_assoc]
    refine ⟨rfl, [.executed statement.render []], _, rfl, ?_, rfl⟩
    show Logged _ _ _ (s.sending _ _).engine
    rw [Session.engine_sending]
    exact .change (.inl h) hanswer .none (fun hrows => absurd hrows h.not_writesRows)
      (fun _ => rfl) (.nil _)

/-- **A statement that writes rows is logged behind it**, if it is granted. -/
theorem transparent_runWrite {m : ResolvedModel} {operation : String} {statement : RowStatement}
    (h : WritesRows statement.sql)
    (hparams : ∀ p ∈ statement.params, ∃ v : Value, v.storable = .ok p) :
    Transparent (m.runWrite operation statement) := by
  obtain ⟨text, htext⟩ := exists_loggedParams hparams
  refine (transparent_report _).bind fun _ => ?_
  intro s setting trace hoff hon
  have hsent : (s.twin setting trace).sending statement.sql statement.params =
      (s.sending statement.sql statement.params).twin setting
        (trace ++ [.executed statement.sql statement.params]) := rfl
  have htwin : (s.twin setting trace).engine = s.engine := rfl
  rw [Session.perform_bind, Session.perform_bind, perform_run, perform_run, htwin, hsent]
  cases hanswer : (s.engine.answer statement.sql).1 with
  | refused kind message =>
    refine ⟨rfl, [.executed statement.sql statement.params], _, rfl, ?_, rfl⟩
    show Logged _ _ _ (s.sending _ _).engine
    rw [Session.engine_sending]
    exact logged_of_refused hanswer
  | done rows rowCount lastRowId =>
    have hopen : ((s.sending statement.sql statement.params).noting lastRowId).database.isClosed =
        false := isClosed_of_done hanswer
    have hnoted : ∀ trace, ((s.sending statement.sql statement.params).twin setting trace).noting
        lastRowId =
        ((s.sending statement.sql statement.params).noting lastRowId).twin setting trace :=
      fun _ => rfl
    dsimp only
    rw [Session.perform_bind, Session.perform_bind, hnoted,
      perform_log_of_off (s := (s.sending _ _).noting lastRowId) hoff,
      perform_log_twin hon hopen (paramsText_of_loggedParams htext rfl), List.append_assoc]
    refine ⟨rfl, [.executed statement.sql statement.params], _, rfl, ?_, rfl⟩
    show Logged _ _ _ (s.sending _ _).engine
    rw [Session.engine_sending]
    exact .change (.inr h) hanswer htext (fun _ => rfl)
      (fun hschema => absurd h hschema.not_writesRows) (.nil _)

end Action

end Tablewright
