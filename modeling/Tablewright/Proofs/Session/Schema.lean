import Tablewright.Proofs.Registry.CreationOrder
import Tablewright.Proofs.ResolvedModel
import Tablewright.Proofs.Session.World

/-!
# Defining models

A definition is compiled before anything is sent, its statements are sent in order, and only then
the database remembers the model. So a definition that fails leaves the database as it was, and
unless sending a statement failed nothing was sent (`Session.SendingFailed`); one that succeeds has
sent the schema of its model and added that model (`Session.Defined`).
-/

namespace Tablewright

open Fallible

variable {s s' : Session} {d : Database} {m : ResolvedModel} {source : DefinitionSource}

/-! ## What is sent -/

/-- The statements that write an entry of the log. -/
def LogEntry.events (e : LogEntry) : List Event :=
  .executed createLog [] ::
    match e.paramsText with
    | .ok params =>
      [.executed insertLogEntry [e.operation, e.target, e.sql, params, e.rowsAffected, e.source]]
    | .error _ => []

/-- The statements that log an entry, if the database keeps a log. -/
def Database.logEvents (d : Database) (e : LogEntry) : List Event :=
  match d.options.logOps.truth with
  | .ok true => e.events
  | _ => []

/-- The statements sent for a statement about the schema: itself, and those that log it. -/
def Database.schemaEvents (d : Database) (table source : String) (statement : SchemaStatement) :
    List Event :=
  .executed statement.render [] ::
    d.logEvents
      { operation := .str "ddl", target := .str table, sql := .str statement.render
        source := .str source }

namespace Action

theorem sends_write (d : Database) (e : LogEntry) : Sends d e.write e.events := by
  refine (sends_execute d createLog []).bind fun _ => Sends.lift_bind fun params hparams => ?_
  rw [hparams]
  exact (sends_execute d insertLogEntry _).bind fun _ => (Keeps.pure _ ()).sends d

theorem sends_log (d : Database) (e : LogEntry) : Sends d (log e) (d.logEvents e) := by
  refine Sends.database_bind (Sends.lift_bind fun b hb => ?_)
  rw [Database.logEvents, hb]
  cases b with
  | false => exact (Keeps.pure _ ()).sends d
  | true => exact sends_write d e

/-- Sends a statement about the schema, and logs it, without reporting it before. -/
def sendSchema (statement : SchemaStatement) (table source : String) : Action Unit := do
  perform statement.render
  log
    { operation := .str "ddl", target := .str table, sql := .str statement.render
      source := .str source }

theorem sends_sendSchema (d : Database) (statement : SchemaStatement) (table source : String) :
    Sends d (sendSchema statement table source) (d.schemaEvents table source statement) :=
  (sends_perform d statement.render).bind fun _ => sends_log d _

/-- **A statement about the schema is sent and logged.** -/
theorem sends_executeSchema (d : Database) (statement : SchemaStatement) (table source : String) :
    Sends d (executeSchema statement table source) (d.schemaEvents table source statement) :=
  ((keeps_report statement.render).sends d).bind fun _ => sends_sendSchema d statement table source

/-- **Statements about the schema are sent in order.** -/
theorem sends_executeAll (d : Database) (statements : List SchemaStatement)
    (table source : String) :
    Sends d (executeAll statements table source)
      (statements.flatMap (d.schemaEvents table source)) :=
  Sends.forM (fun statement => sends_executeSchema d statement table source) statements

end Action

/-! ## Compiling -/

/-- Whether a model is defined is looked up by its name. -/
theorem Database.hasModel_of_text? {v : Value} {name : String} (h : v.text? = some name) :
    d.hasModel v = .ok (Named.has d.models name) := by
  rw [Database.hasModel, Value.asKey_of_text? h]
  show Except.ok _ = _
  rw [h]

/-- The statement makes something that stands beside a table. -/
def SchemaStatement.IsBeside : SchemaStatement → Prop
  | .createIndex _ | .createTrigger _ | .createView _ => True
  | .createTable _ | .dropTable _ | .dropView _ => False

/-- A schema makes one table, and then what stands beside it. -/
theorem ResolvedModel.exists_createTable_of_schema {tables : Mapping}
    {statements : List SchemaStatement}
    (h : m.schema tables = .ok statements) :
    ∃ t rest, m.createTable tables = .ok t ∧ statements = .createTable t :: rest ∧
      ∀ statement ∈ rest, statement.IsBeside := by
  obtain ⟨t, ht, h⟩ := bind_eq_ok.1 h
  obtain ⟨indexes, -, h⟩ := bind_eq_ok.1 h
  obtain ⟨triggers, -, h⟩ := bind_eq_ok.1 h
  obtain ⟨views, -, h⟩ := bind_eq_ok.1 h
  rw [List.cons_append, List.cons_append, pure_eq_ok] at h
  refine ⟨t, _, ht, h.symm, fun statement hmem => ?_⟩
  rw [List.mem_append, List.mem_append, List.mem_map, List.mem_map, List.mem_map] at hmem
  rcases hmem with (⟨_, -, rfl⟩ | ⟨_, -, rfl⟩) | ⟨_, -, rfl⟩
  all_goals trivial

namespace Action

/-- A check for enforced column types reports at most. -/
theorem keeps_warnOfColumn (table : String) (column : String × Column) :
    Keeps Session.silent (warnOfColumn table column) := by
  exact (Keeps.lift _ _).bind fun storage => Keeps.ite (Keeps.pure _ ()) (keeps_report _)

/-- **Compiling a definition sends nothing**: it reports at most. -/
theorem keeps_compileDefinition (source : DefinitionSource) :
    Keeps Session.silent (compileDefinition source) := by
  refine (Keeps.lift _ _).bind fun read => (Keeps.database _).bind fun d =>
    (Keeps.lift _ _).bind fun isThere => Keeps.ite ((Keeps.lift _ _).bind fun _ => ?_) ?_
  -- what is behind the refusal stands in both branches, and so does what is behind the warnings
  all_goals
    refine (Keeps.lift _ _).bind fun m => (Keeps.lift _ _).bind fun strict =>
      Keeps.ite ((Keeps.forM (keeps_warnOfColumn m.tableName) m.columns).bind fun _ => ?_) ?_
    all_goals exact (Keeps.lift _ _).bind fun statements => Keeps.pure _ _

/-- What a definition is compiled to. -/
theorem compileDefinition_eq_ok {statements : List SchemaStatement}
    (h : s.perform (compileDefinition source) = (.ok (m, statements), s')) :
    m.name ∉ s.database.models.names ∧ ∃ read, source.read = .ok read ∧ read.resolve = .ok m ∧
      m.schema s.database.tables = .ok statements := by
  obtain ⟨read, hread, h⟩ := Session.perform_lift_bind_eq_ok.1 h
  rw [Session.perform_bind, Session.perform_database] at h
  obtain ⟨isThere, hthere, h⟩ := Session.perform_lift_bind_eq_ok.1 h
  cases isThere with
  | true =>
    obtain ⟨_, hrefused, _⟩ := Session.perform_lift_bind_eq_ok.1 h
    cases hrefused
  | false =>
    obtain ⟨m', hm, h⟩ := Session.perform_lift_bind_eq_ok.1 h
    obtain ⟨strict, -, h⟩ := Session.perform_lift_bind_eq_ok.1 h
    have hschema : m'.schema s.database.tables = .ok statements ∧ m' = m := by
      -- behind the warnings, or where there are none, only the schema is compiled
      have hend : ∀ t : Session,
          t.perform (liftM (m'.schema s.database.tables) >>= fun statements =>
            pure (m', statements) : Action (ResolvedModel × List SchemaStatement)) =
              (.ok (m, statements), s') →
          m'.schema s.database.tables = .ok statements ∧ m' = m := by
        intro t ht
        obtain ⟨statements', hstatements, ht⟩ := Session.perform_lift_bind_eq_ok.1 ht
        cases ht
        exact ⟨hstatements, rfl⟩
      cases strict with
      | false => exact hend s h
      | true =>
        obtain ⟨u, t, -, h⟩ := Session.perform_bind_eq_ok.1 h
        exact hend t h
    obtain ⟨hstatements, rfl⟩ := hschema
    refine ⟨?_, read, hread, hm, hstatements⟩
    rw [Database.hasModel_of_text? (DefinitionSource.names_of_resolve hm).1] at hthere
    exact Named.has_eq_false.1 (Except.ok.inj hthere)

end Action

/-! ## Remembering -/

namespace Database

/-- The database with a model more, and its relationships. -/
def remember (d : Database) (m : ResolvedModel) : Database :=
  if m.definition.relationships.isEmpty then d.addModel m
  else (d.addModel m).addRelationships m.name m.definition.relationships

/-- A new model comes behind all others. -/
theorem models_remember (h : m.name ∉ d.models.names) :
    (d.remember m).models = d.models ++ [(m.name, m)] := by
  have hadd : (d.addModel m).models = d.models ++ [(m.name, m)] := Named.put_of_not_mem h
  unfold remember
  split
  · exact hadd
  · exact hadd

/-- The relationships of the model come behind those that are known for it. -/
theorem lookup_remember (d : Database) (m : ResolvedModel) (model : String) :
    (d.remember m).registry.lookup model =
      if m.name = model then d.registry.lookup model ++ m.definition.relationships
      else d.registry.lookup model := by
  unfold remember
  split
  · rename_i hnone
    rw [List.isEmpty_iff.1 hnone, List.append_nil, ite_self]
    rfl
  · exact Registry.lookup_register d.registry m.name model m.definition.relationships

/-- Nothing but the models and the relationships is changed. -/
theorem remember_eq (d : Database) (m : ResolvedModel) :
    d.remember m =
      { d with models := (d.remember m).models, registry := (d.remember m).registry } := by
  unfold remember
  split <;> rfl

end Database

/-! ## Defining -/

namespace Session

/-- What a definition that succeeded has done: the schema of the model, compiled against the tables
known before, was sent in order, and the database remembers one model more, and its
relationships. -/
structure Defined (s : Session) (source : DefinitionSource) (m : ResolvedModel) (s' : Session) :
    Prop where
  /-- The model is the one defined, and its schema is what was sent. -/
  sent : ∃ read statements, source.read = .ok read ∧ read.resolve = .ok m ∧
    m.schema s.database.tables = .ok statements ∧
    s'.world.trace = s.world.trace ++
      statements.flatMap (s.database.schemaEvents m.tableName "define")
  /-- No model of that name was defined. -/
  isNew : m.name ∉ s.database.models.names
  /-- The model is remembered behind all others. -/
  models : s'.database.models = s.database.models ++ [(m.name, m)]
  /-- Its relationships are remembered behind those known for it, and no others are. -/
  registry : ∀ model, s'.database.registry.lookup model =
    if m.name = model then s.database.registry.lookup model ++ m.definition.relationships
    else s.database.registry.lookup model
  /-- Nothing else is changed in the database. -/
  rest : s'.database =
    { s.database with models := s'.database.models, registry := s'.database.registry }

/-- The definition was compiled and some of its statements were sent and logged, and then sending
or logging the next one failed. -/
def SendingFailed (s : Session) (source : DefinitionSource) (e : Fault) (s' : Session) : Prop :=
  ∃ (read : DefinitionSource) (m : ResolvedModel) (done rest : List SchemaStatement)
      (statement : SchemaStatement) (t : Session),
    source.read = .ok read ∧ read.resolve = .ok m ∧
    m.schema s.database.tables = .ok (done ++ statement :: rest) ∧
    t.database = s.database ∧
    t.world.trace = s.world.trace ++ done.flatMap (s.database.schemaEvents m.tableName "define") ∧
    t.perform (Action.sendSchema statement m.tableName "define") = (.error e, s')

end Session

namespace Action

variable {e : Fault} {statements : List SchemaStatement} {table label : String}

/-- Where no line can be reported, not even the first statement is sent. -/
theorem perform_executeAll_of_error (h : s.database.options.verbose.truth = .error e)
    (statement : SchemaStatement) (rest : List SchemaStatement) :
    s.perform (executeAll (statement :: rest) table label) = (.error e, s) := by
  rw [executeAll, List.forM, Session.perform_bind, executeSchema, Session.perform_bind,
    perform_report_of_error h]

/-- Where sending statements about the schema stops, if lines can be reported at all. -/
theorem exists_of_executeAll_eq_error {b : Bool} (hb : s.database.options.verbose.truth = .ok b)
    (h : s.perform (executeAll statements table label) = (.error e, s')) :
    ∃ (done rest : List SchemaStatement) (statement : SchemaStatement) (t : Session),
      statements = done ++ statement :: rest ∧ t.database = s.database ∧
      t.world.trace = s.world.trace ++ done.flatMap (s.database.schemaEvents table label) ∧
      t.perform (sendSchema statement table label) = (.error e, s') := by
  obtain ⟨done, statement, rest, t, rfl, hdone, hfailed⟩ :=
    Session.exists_of_perform_forM_eq_error h
  obtain ⟨hdatabase, htrace⟩ := (sends_executeAll s.database done table label).of_ok hdone
  rcases Session.perform_bind_eq_error.1 hfailed with hreport | ⟨u, t', hreport, hsend⟩
  · rw [← hdatabase] at hb
    have hok := perform_report hb statement.render
    rw [hreport] at hok
    cases hok
  · have hsilent : t'.silent = t.silent := (keeps_report statement.render).of_perform hreport
    refine ⟨done, rest, statement, t', rfl, ?_, ?_, hsend⟩
    · rw [Session.database_eq_of_silent hsilent, hdatabase]
    · rw [Session.trace_eq_of_silent hsilent, htrace]

/-- **What defining a model comes to once it is compiled**: its statements are sent, and where all
of them go through the model is remembered. -/
theorem perform_define {t : Session}
    (hcompiled : s.perform (compileDefinition source) = (.ok (m, statements), t)) :
    s.perform (define source) =
      match t.perform (executeAll statements m.tableName "define") with
      | (.ok _, t') =>
        Session.perform { t' with database := t'.database.remember m }
          (report ("defined " ++ m.name ++ " -> " ++ m.tableName) >>= fun _ => pure m)
      | (.error e, t') => (.error e, t') := by
  rw [define, Session.perform_bind, hcompiled]
  show t.perform (executeAll statements m.tableName "define" >>= _) = _
  rw [Session.perform_bind]
  rcases t.perform (executeAll statements m.tableName "define") with ⟨_ | u, t'⟩
  · rfl
  · show t'.perform (modifyDatabase (fun d => d.addModel m) >>= _) = _
    rw [Session.perform_bind, Session.perform_modifyDatabase]
    unfold Database.remember
    cases m.definition.relationships.isEmpty <;> rfl

/-- A definition that succeeds was compiled, its statements were sent, and its model was
remembered. -/
theorem exists_of_perform_define_eq_ok (h : s.perform (define source) = (.ok m, s')) :
    ∃ statements t t' u, s.perform (compileDefinition source) = (.ok (m, statements), t) ∧
      t.perform (executeAll statements m.tableName "define") = (.ok u, t') ∧
      s'.silent = Session.silent { t' with database := t'.database.remember m } := by
  obtain ⟨⟨m', statements⟩, t, hcompiled, -⟩ := Session.perform_bind_eq_ok.1 h
  rw [perform_define hcompiled] at h
  rcases hall : t.perform (executeAll statements m'.tableName "define") with ⟨e | u, t'⟩ <;>
    rw [hall] at h
  · cases h
  · obtain ⟨_, t'', hreport, h⟩ := Session.perform_bind_eq_ok.1 h
    cases h
    exact ⟨statements, t, t', u, hcompiled, hall, (keeps_report _).of_perform hreport⟩

/-- It changes the database in nothing else. -/
theorem database_of_perform_define (h : s.perform (define source) = (.ok m, s')) :
    s'.database = s.database.remember m := by
  obtain ⟨statements, t, t', u, hcompiled, hall, hreported⟩ := exists_of_perform_define_eq_ok h
  have hsilent : t.silent = s.silent := (keeps_compileDefinition source).of_perform hcompiled
  obtain ⟨hdatabase, -⟩ :=
    (sends_executeAll t.database statements m.tableName "define").of_ok hall
  rw [Session.database_eq_of_silent hreported, hdatabase, Session.database_eq_of_silent hsilent]

/-- A definition that succeeds. -/
theorem defined_of_perform_define (h : s.perform (define source) = (.ok m, s')) :
    s.Defined source m s' := by
  have hdatabase := database_of_perform_define h
  obtain ⟨statements, t, t', u, hcompiled, hall, hreported⟩ := exists_of_perform_define_eq_ok h
  have hsilent : t.silent = s.silent := (keeps_compileDefinition source).of_perform hcompiled
  obtain ⟨hnew, read, hread, hresolve, hschema⟩ := compileDefinition_eq_ok hcompiled
  obtain ⟨-, htrace⟩ := (sends_executeAll t.database statements m.tableName "define").of_ok hall
  refine ⟨⟨read, statements, hread, hresolve, hschema, ?_⟩, hnew, ?_, fun model => ?_, ?_⟩
  · rw [Session.trace_eq_of_silent hreported, htrace, Session.trace_eq_of_silent hsilent,
      Session.database_eq_of_silent hsilent]
  · rw [hdatabase, Database.models_remember hnew]
  · rw [hdatabase, Database.lookup_remember]
  · rw [hdatabase]
    exact Database.remember_eq s.database m

/-- A definition that fails. -/
theorem unchanged_of_perform_define (h : s.perform (define source) = (.error e, s')) :
    s'.database = s.database ∧
      (s'.world.trace = s.world.trace ∨ s.SendingFailed source e s') := by
  have hquiet := keeps_compileDefinition source
  rcases Session.perform_bind_eq_error.1 h with hfailed | ⟨⟨m, statements⟩, t, hcompiled, -⟩
  · have hsilent : s'.silent = s.silent := hquiet.of_perform hfailed
    exact ⟨Session.database_eq_of_silent hsilent, Or.inl (Session.trace_eq_of_silent hsilent)⟩
  · have hsilent : t.silent = s.silent := hquiet.of_perform hcompiled
    obtain ⟨-, read, hread, hresolve, hschema⟩ := compileDefinition_eq_ok hcompiled
    rw [perform_define hcompiled] at h
    have hdatabase : t.database = s.database := Session.database_eq_of_silent hsilent
    have htrace : t.world.trace = s.world.trace := Session.trace_eq_of_silent hsilent
    cases hverbose : t.database.options.verbose.truth with
    | error f =>
      -- no line can be reported, which shows before the first statement is sent
      obtain ⟨table, rest, -, rfl, -⟩ := ResolvedModel.exists_createTable_of_schema hschema
      rw [perform_executeAll_of_error hverbose] at h
      cases h
      exact ⟨hdatabase, Or.inl htrace⟩
    | ok b =>
      rcases hall : t.perform (executeAll statements m.tableName "define") with ⟨f | u, t'⟩ <;>
        rw [hall] at h
      · cases h
        obtain ⟨hsame, -⟩ := (sends_executeAll _ statements m.tableName "define").of_error hall
        obtain ⟨done, rest, statement, t'', rfl, hdone, hsent, hfailed⟩ :=
          exists_of_executeAll_eq_error hverbose hall
        refine ⟨hsame.trans hdatabase, Or.inr ⟨read, m, done, rest, statement, t'', hread, hresolve,
          hschema, hdone.trans hdatabase, ?_, hfailed⟩⟩
        rw [hsent, htrace, hdatabase]
      · -- all statements were reported, so the last line can be reported as well
        have hsame := ((sends_executeAll _ statements m.tableName "define").of_ok hall).1
        have hoptions : (t'.database.remember m).options = t.database.options := by
          rw [Database.remember_eq, hsame]
        rw [← hoptions] at hverbose
        have hok := perform_report (s := { t' with database := t'.database.remember m }) hverbose
          ("defined " ++ m.name ++ " -> " ++ m.tableName)
        rcases Session.perform_bind_eq_error.1 h with hreport | ⟨u, t'', -, hdone⟩
        · rw [hreport] at hok
          cases hok
        · cases hdone

/-- **Defining is all or nothing in what the database remembers.** A definition that fails leaves
the database as it was, and nothing was sent unless what failed was sending a statement or logging
it. One that succeeds has sent the schema of its model, compiled against the tables known before, and
added the model and its relationships. -/
theorem define_atomic (s : Session) (source : DefinitionSource) :
    match s.perform (define source) with
    | (.ok m, s') => s.Defined source m s'
    | (.error e, s') => s'.database = s.database ∧
        (s'.world.trace = s.world.trace ∨ s.SendingFailed source e s') := by
  rcases h : s.perform (define source) with ⟨e | m, s'⟩
  · exact unchanged_of_perform_define h
  · exact defined_of_perform_define h

end Action

end Tablewright
