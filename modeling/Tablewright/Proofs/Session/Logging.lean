import Tablewright.Proofs.Session.Logged
import Tablewright.Proofs.Session.Rows
import Tablewright.Session.DatabaseOperation

/-!
# Logging is transparent and complete

A database that logs its operations and one that does not, opened in the same way and then called in
the same way, with the same answers of the engine: every call has the same outcome in both, and what
the first one sends is what the second one sends, with the statements that log a change directly
behind each granted change of the schema or of rows (`Session.alike_of_turns`). The engine grants
what keeps the log by itself, and whatever can be bound has a form in JSON, so that logging does not
fail where the plain run does not.
-/

namespace Tablewright

open Fallible

variable {α : Type}

/-! ## Statements that change nothing -/

/-- What begins otherwise changes nothing. -/
theorem not_changes {sql : String} {c : Char} {cs : List Char} (h : sql.toList = c :: cs)
    (hc : c ∉ ['C', 'D', 'I', 'U']) : ¬ (WritesSchema sql ∨ WritesRows sql) := by
  have hrows : ¬ WritesRows sql := not_writesRows h fun hmem =>
    hc ((by decide : ['I', 'U', 'D'] ⊆ ['C', 'D', 'I', 'U']) hmem)
  simp only [List.mem_cons, List.not_mem_nil, or_false, not_or] at hc
  rintro ((⟨rest, hrest⟩ | ⟨rest, hrest⟩) | hwrites)
  · exact hc.1 (List.cons.inj (h.symm.trans hrest.symm)).1
  · exact hc.2.1 (List.cons.inj (h.symm.trans hrest.symm)).1
  · exact hrows hwrites

theorem Selection.not_changes (s : Selection) :
    ¬ (WritesSchema (RowStatement.select s).sql ∨ WritesRows (RowStatement.select s).sql) :=
  Tablewright.not_changes ((RowStatement.select s).toList_sql.trans rfl) (by decide)

/-- Every statement about the schema makes or drops a part of it. -/
theorem SchemaStatement.writesSchema (statement : SchemaStatement) :
    WritesSchema statement.render := by
  cases statement with
  | createTable t =>
    obtain ⟨tail, htail⟩ := t.exists_render_eq
    left
    rw [render_createTable, htail, String.toList_append]
    exact (show "CREATE ".toList <+: "CREATE TABLE ".toList by decide).trans
      (List.prefix_append _ _)
  | createIndex i =>
    obtain ⟨tail, htail⟩ := i.exists_render_eq
    left
    simp only [render_createIndex, htail, String.toList_append, List.append_assoc]
    exact List.prefix_append _ _
  | createTrigger t =>
    obtain ⟨tail, htail⟩ := t.exists_render_eq
    left
    rw [render_createTrigger, htail, String.toList_append]
    exact (show "CREATE ".toList <+: "CREATE TRIGGER ".toList by decide).trans
      (List.prefix_append _ _)
  | createView v =>
    obtain ⟨tail, htail⟩ := v.exists_render_eq
    left
    simp only [render_createView, htail, String.toList_append, List.append_assoc]
    exact List.prefix_append _ _
  | dropTable name =>
    right
    rw [render_dropTable, String.toList_append]
    exact (show "DROP ".toList <+: "DROP TABLE IF EXISTS ".toList by decide).trans
      (List.prefix_append _ _)
  | dropView name =>
    right
    rw [render_dropView, String.toList_append]
    exact (show "DROP ".toList <+: "DROP VIEW IF EXISTS ".toList by decide).trans
      (List.prefix_append _ _)

/-- Whatever a request binds the engine can store. -/
theorem exists_storable_of_carries {entries : Mapping} {bs : List Binding}
    (h : List.Forall₂ Binding.Carries entries bs) :
    ∀ b ∈ bs, ∃ v : Value, v.storable = .ok b.value := by
  intro b hb
  obtain ⟨e, -, hcarries⟩ := exists_of_mem_forall₂ h hb
  exact ⟨e.2, hcarries.2⟩

theorem Compiled.exists_storable {t : QueryTable} {a : Named Value} {kind : RequestKind}
    {s : RowStatement} (h : Compiled t a kind s) :
    ∀ p ∈ s.params, ∃ v : Value, v.storable = .ok p := by
  rw [RowStatement.params_eq, boundValues, List.forall_mem_map]
  exact List.forall_mem_append.2
    ⟨exists_storable_of_carries h.writes, exists_storable_of_carries h.filters⟩

/-! ## Operations on rows -/

namespace ResolvedModel

open Action

variable {m : ResolvedModel} {x : Action α}

/-- **Every part of an operation on rows is transparent.** -/
theorem transparent_of_rowPart (h : m.RowPart x) : x.Transparent := by
  cases h with
  | time => exact transparent_timestamp
  | default source => exact transparent_callDefault source
  | lastRow => exact .database_bind (fun _ => .pure _) fun _ _ => rfl
  | hooks slot data isolate => exact transparent_runHookList _ _ _
  | first kind a h => exact transparent_first (Selection.not_changes _) _
  | rows kind a h => exact transparent_rows (Selection.not_changes _) _
  | write kind a operation h _ hwrites _ =>
    exact transparent_runWrite hwrites (Compiled.of_statement h).exists_storable

theorem transparent_perform (m : ResolvedModel) (a : Named Value) (o : RowOperation) :
    (o.perform m a).Transparent := by
  by_cases ho : o = .truncate
  · subst ho
    exact transparent_runWrite (Removal.writesRows _) fun _ hp => nomatch hp
  · exact .of_madeOf (madeOf_perform a ho) fun _ _ => transparent_of_rowPart

theorem transparent_call (m : ResolvedModel) (operation : String) (c : Call) :
    (m.call operation c).Transparent := by
  unfold call
  split
  · exact .lift_bind fun a _ => transparent_perform m a _
  · exact .lift _

end ResolvedModel

/-! ## Operations on databases -/

namespace Action

theorem transparent_executeAll (statements : List SchemaStatement) (table source : String) :
    Transparent (executeAll statements table source) :=
  .forM (fun statement => transparent_executeSchema statement.writesSchema table source) statements

theorem transparent_warnOfColumn (table : String) (column : String × Column) :
    Transparent (warnOfColumn table column) :=
  .lift_bind fun _ _ => .ite (.pure ()) (transparent_report _)

/-- Compiling a definition looks at the models that are defined, and not at the log. -/
theorem transparent_compileDefinition (source : DefinitionSource) :
    Transparent (compileDefinition source) := by
  refine .lift_bind fun read _ => .database_bind (fun d => ?_) fun _ _ => rfl
  -- what is behind the refusal stands in both branches, and so does what is behind the warnings
  refine .lift_bind fun isThere _ => .ite (.lift_bind fun _ _ => ?_) ?_
  all_goals
    refine .lift_bind fun m _ => .lift_bind fun strict _ =>
      .ite ((Transparent.forM (transparent_warnOfColumn m.tableName) m.columns).bind fun _ => ?_) ?_
    all_goals exact .lift_bind fun _ _ => .pure _

theorem transparent_addModel (m : ResolvedModel) :
    Transparent (modifyDatabase fun d => d.addModel m) :=
  .modifyDatabase (fun _ => rfl) (fun _ => rfl) fun _ _ => rfl

theorem transparent_addRelationships (model : String) (rels : List Relationship) :
    Transparent (modifyDatabase fun d => d.addRelationships model rels) :=
  .modifyDatabase (fun _ => rfl) (fun _ => rfl) fun _ _ => rfl

theorem transparent_define (source : DefinitionSource) : Transparent (define source) := by
  refine (transparent_compileDefinition source).bind fun compiled => ?_
  refine (transparent_executeAll _ _ _).bind fun _ => (transparent_addModel _).bind fun _ => ?_
  have hrest := (transparent_report ("defined " ++ compiled.1.name ++ " -> " ++
    compiled.1.tableName)).bind fun _ => .pure compiled.1
  exact .ite ((transparent_addRelationships _ _).bind fun _ => hrest) hrest

/-- Registering a relationship leaves everything else as it is. -/
theorem transparent_associate (source : Value) (rel : Relationship) :
    Transparent (associate source rel) := by
  refine .lift_bind fun key _ => Transparent.bind (.modifyDatabase ?_ ?_ ?_) fun _ => .pure rel
  all_goals
    intro d
    unfold Database.associate
    cases key.text? <;> first | rfl | exact fun _ => rfl

theorem transparent_relationships (model : Value) : Transparent (relationships model) :=
  .lift_bind fun _ _ => .database_bind (fun _ => .pure _) fun _ _ => rfl

theorem transparent_addHook (m : ResolvedModel) (slot hook : Value) :
    Transparent (addHook m slot hook) := by
  unfold addHook
  split
  · exact transparent_addModel _
  · exact .lift _

theorem transparent_tableExists (table : Value) : Transparent (tableExists table) :=
  (transparent_first (not_changes rfl (by decide)) _).bind fun _ => .pure _

theorem transparent_createModel (force : Bool) (tables : Mapping) (m : ResolvedModel) :
    Transparent (createModel force tables m) := by
  have hrest : ∀ isThere : Bool, Transparent (do
      if isThere then pure false
      else
        executeAll (← m.schema tables) m.tableName "sync"
        pure true : Action Bool) := fun _ =>
    .ite (.pure _) (.lift_bind fun _ _ => (transparent_executeAll _ _ _).bind fun _ => .pure _)
  exact .ite ((Transparent.pure _).bind hrest) ((transparent_tableExists _).bind hrest)

/-- Synchronizing looks at the models and the relationships, and not at the log. -/
theorem transparent_sync (force : Value) : Transparent (sync force) := by
  refine .database_bind (fun d => ?_) fun _ _ => rfl
  refine .lift_bind fun names _ => Transparent.bind ?_ fun models => .lift_bind fun force _ => ?_
  · exact .database_bind (fun d => .mapM (fun _ => .lift _) names) fun _ _ => rfl
  · have hrest : Transparent (do
        let made ← models.filterM fun m => createModel force d.tables m
        pure (made.map ResolvedModel.name) : Action (List String)) :=
      (Transparent.filterM (transparent_createModel force d.tables) models).bind fun _ => .pure _
    refine .ite ((Transparent.forM (fun m => ?_) _).bind fun _ => hrest) hrest
    exact transparent_executeAll _ _ _

end Action

theorem DatabaseOperation.transparent_perform (a : Named Value) (o : DatabaseOperation) :
    (o.perform a).Transparent := by
  cases o with
  | associate =>
    exact .lift_bind fun _ _ => (Action.transparent_associate _ _).bind fun _ => .pure _
  | relationships => exact (Action.transparent_relationships _).bind fun _ => .pure _
  | sync => exact (Action.transparent_sync _).bind fun _ => .pure _
  | tableNames => exact .database_bind (fun _ => .pure _) fun _ _ => rfl
  | tableExists => exact (Action.transparent_tableExists _).bind fun _ => .pure _
  | model => exact .database_bind (fun _ => .lift_bind fun _ _ => .pure _) fun _ _ => rfl
  | close => exact Action.transparent_close.bind fun _ => .pure _

theorem Action.transparent_call (operation : String) (c : Call) :
    (Action.call operation c).Transparent := by
  unfold call
  split
  · exact .lift_bind fun a _ => DatabaseOperation.transparent_perform a _
  · exact .lift _

/-! ## Calls -/

/-- What a database and its models can be asked for. -/
inductive DatabaseCall where
  /-- A model is defined. -/
  | define (source : DefinitionSource)
  /-- Whether a model is defined. -/
  | contains (name : Value)
  /-- The text of the database. -/
  | text
  /-- An operation on the database, by its name. -/
  | ask (operation : String) (c : Call)
  /-- An operation on the rows of a model, both by name. -/
  | rows (model : Value) (operation : String) (c : Call)
  /-- A hook is added to a model. -/
  | addHook (model : Value) (c : Call)
  /-- The relationships of a model. -/
  | relationships (model : Value) (c : Call)

/-- What the call does. -/
def DatabaseCall.action : DatabaseCall → Action Answer
  | define source => do pure (.model (← Action.define source))
  | contains name => do pure (.value (.bool (← (← Action.database).hasModel name)))
  | text => do pure (.value (.str (← Action.database).repr))
  | ask operation c => Action.call operation c
  | rows model operation c => do pure (.value (← Action.callModel model operation c))
  | addHook model c => do
    Action.callAddHook model c
    pure (.value .null)
  | relationships model c => do pure (.value (← Action.callRelationships model c))

/-- **Every call is transparent.** -/
theorem DatabaseCall.transparent (call : DatabaseCall) : call.action.Transparent := by
  cases call with
  | define source => exact (Action.transparent_define source).bind fun _ => .pure _
  | contains name => exact .database_bind (fun _ => .lift_bind fun _ _ => .pure _) fun _ _ => rfl
  | text => exact .database_bind (fun _ => .pure _) fun _ _ => rfl
  | ask operation c => exact Action.transparent_call operation c
  | rows model operation c =>
    refine Action.Transparent.bind (.database_bind (fun d => .lift_bind fun m _ => ?_)
      fun _ _ => rfl) fun _ => .pure _
    exact m.transparent_call operation c
  | addHook model c =>
    refine Action.Transparent.bind (.database_bind (fun d => .lift_bind fun m _ => ?_)
      fun _ _ => rfl) fun _ => .pure _
    exact .lift_bind fun _ _ => Action.transparent_addHook _ _ _
  | relationships model c =>
    refine Action.Transparent.bind (.database_bind (fun d => .lift_bind fun m _ => ?_)
      fun _ _ => rfl) fun _ => .pure _
    exact .lift_bind fun _ _ => (Action.transparent_relationships _).bind fun _ => .pure _

/-! ## Opening -/

namespace Action

variable {k : Database → Action α}

/-- What comes to the same step whether operations are logged or not. -/
theorem Transparent.of_agreeing (h : ∀ (d : Database) (setting : Value),
      d.options.logOps.truth = .ok false → setting.truth = .ok true →
        ∃ x : Action α, Transparent x ∧ k d = x ∧ k (d.logging setting) = x) :
    Transparent (database >>= k) := by
  intro s setting trace hoff hon
  obtain ⟨x, hx, hd, hlogging⟩ := h s.database setting hoff hon
  obtain ⟨hoptions, sent, logged, htrace, hlogged, htwin⟩ := hx s setting trace hoff hon
  have hplain : s.perform (database >>= k) = s.perform x := by
    rw [Session.perform_bind, Session.perform_database]
    exact congrArg s.perform hd
  rw [hplain]
  exact ⟨hoptions, sent, logged, htrace, hlogged,
    (congrArg (s.twin setting trace).perform hlogging).trans htwin⟩

/-- A statement that sets up the connection changes nothing. -/
theorem transparent_pragma {words : String} {cs : List Char} (h : words.toList = 'P' :: cs)
    (value : String) : Transparent (perform (words ++ value)) := by
  have htext : (words ++ value).toList = 'P' :: (cs ++ value.toList) := by
    rw [String.toList_append, h, List.cons_append]
  exact transparent_perform (not_changes htext (by decide))

theorem transparent_connect (location : String) (options : Options) :
    Transparent (connect location options) :=
  .lift_bind fun _ _ => (transparent_record_connected _ _).bind fun _ => .lift_bind fun _ _ =>
    (transparent_pragma rfl _).bind fun _ => (transparent_pragma rfl _).bind fun _ =>
    .lift_bind fun _ _ => transparent_pragma rfl _

/-- Over a connection that operations can be logged over, nothing is refused. -/
theorem transparent_setUp {kind : DriverKind} (hkind : kind = .own ∨ kind = .given) :
    Transparent (setUp kind) := by
  refine .of_agreeing fun d setting hoff hon => ?_
  rcases hkind with rfl | rfl
  · refine ⟨_, (transparent_connect d.location d.options).bind fun _ => .pure (), ?_, ?_⟩
    · dsimp only
      rw [hoff]
      rfl
    · show (connect d.location d.options >>= fun _ => liftM setting.truth >>= _) = _
      rw [hon]
      rfl
  · refine ⟨_, .pure (), ?_, ?_⟩
    · dsimp only
      rw [hoff]
      rfl
    · show (liftM setting.truth >>= _) = _
      rw [hon]
      rfl

end Action

/-! ## Runs of calls -/

/-- A call, the time at which it is made, and what the engine is going to answer. -/
structure Turn where
  /-- The call. -/
  call : DatabaseCall
  /-- The time. -/
  now : Moment
  /-- The answers. -/
  replies : List Reply

/-- The call is made at its time, with its answers. -/
def Turn.action (turn : Turn) : Action Answer := do
  Action.modifyWorld fun w => { w with now := turn.now, replies := turn.replies }
  turn.call.action

/-- **A turn goes alike in two sessions**, of which the second logs its operations: it has the same
outcome, the traces grow by the same events but for those that log, and the databases it leaves
differ in the setting only. -/
structure Turn.Alike (turn : Turn) (plain logging : Session) : Prop where
  /-- The same outcome. -/
  outcome : (logging.perform turn.action).1 = (plain.perform turn.action).1
  /-- The same events, and those that log. -/
  events : ∃ sent logged, (plain.perform turn.action).2.trace = plain.trace ++ sent ∧
    (logging.perform turn.action).2.trace = logging.trace ++ logged ∧
    Logged { isClosed := plain.database.isClosed, replies := turn.replies } sent logged
      (plain.perform turn.action).2.engine
  /-- The same database, but for the setting. -/
  database : (logging.perform turn.action).2.database =
    (plain.perform turn.action).2.database.logging
      (logging.perform turn.action).2.database.options.logOps

namespace Turn

variable {s : Session} {setting : Value}

/-- The session in which a turn is taken. -/
def entered (turn : Turn) (s : Session) : Session :=
  { s with world := { s.world with now := turn.now, replies := turn.replies } }

theorem perform_action (turn : Turn) (s : Session) :
    s.perform turn.action = (turn.entered s).perform turn.call.action := by
  rw [action, Session.perform_bind]
  rfl

/-- A turn leads from a session and its twin to a session and its twin. -/
theorem exists_twin (turn : Turn) (trace : List Event)
    (hoff : s.database.options.logOps.truth = .ok false) (hon : setting.truth = .ok true) :
    (s.perform turn.action).2.database.options = s.database.options ∧
    ∃ sent logged, (s.perform turn.action).2.trace = s.trace ++ sent ∧
      Logged { isClosed := s.database.isClosed, replies := turn.replies } sent logged
        (s.perform turn.action).2.engine ∧
      (s.twin setting trace).perform turn.action =
        ((s.perform turn.action).1, (s.perform turn.action).2.twin setting (trace ++ logged)) := by
  rw [perform_action, perform_action]
  exact turn.call.transparent (turn.entered s) setting trace hoff hon

theorem alike_twin (turn : Turn) (trace : List Event)
    (hoff : s.database.options.logOps.truth = .ok false) (hon : setting.truth = .ok true) :
    turn.Alike s (s.twin setting trace) := by
  obtain ⟨-, sent, logged, htrace, hlogged, htwin⟩ := turn.exists_twin trace hoff hon
  refine ⟨by rw [htwin], ⟨sent, logged, htrace, ?_, hlogged⟩, ?_⟩ <;> rw [htwin] <;> rfl

/-- A run of turns leads there as well. -/
theorem exists_after_eq_twin (turns : List Turn) (trace : List Event)
    (hoff : s.database.options.logOps.truth = .ok false) (hon : setting.truth = .ok true) :
    (s.after action turns).database.options = s.database.options ∧
    ∃ trace', (s.twin setting trace).after action turns =
      (s.after action turns).twin setting trace' := by
  induction turns generalizing s trace with
  | nil => exact ⟨rfl, trace, rfl⟩
  | cons turn turns ih =>
    obtain ⟨hoptions, sent, logged, -, -, htwin⟩ := turn.exists_twin trace hoff hon
    obtain ⟨hoptions', trace', hafter⟩ := ih (s := (s.perform turn.action).2) (trace ++ logged)
      (hoptions ▸ hoff)
    refine ⟨hoptions'.trans hoptions, trace', ?_⟩
    show ((s.twin setting trace).perform turn.action).2.after action turns = _
    rw [htwin]
    exact hafter

end Turn

namespace Session

variable {kind : DriverKind} {off on : Value}

/-- Opened with a log, a session is the twin of what it is without one. -/
theorem exists_opened_eq_twin (hkind : kind = .own ∨ kind = .given)
    (hoff : off.truth = .ok false) (hon : on.truth = .ok true) (location : String)
    (options : Options) (world : World) {outcome : Except Fault Unit} {plain : Session}
    (hplain : opened location (options.logging off) kind world = (outcome, plain)) :
    plain.database.options = options.logging off ∧
    ∃ sent logged, plain.trace = world.trace ++ sent ∧
      Logged { isClosed := false, replies := world.replies } sent logged plain.engine ∧
      opened location (options.logging on) kind world =
        (outcome, plain.twin on (world.trace ++ logged)) := by
  have hsetUp := Action.transparent_setUp hkind
    { database :=
        { location, options := options.logging off
          channel := if kind = .hidden then .hidden else .connection }
      world } on world.trace hoff hon
  unfold opened at hplain
  rw [hplain] at hsetUp
  exact hsetUp

/-- **Logging is transparent and complete.** A database is opened once without a log and once with
one, over a connection that operations can be logged over. Opening it goes alike, and so does every
turn behind whatever turns. -/
theorem alike_of_turns (hkind : kind = .own ∨ kind = .given) (hoff : off.truth = .ok false)
    (hon : on.truth = .ok true) (location : String) (options : Options) (world : World) :
    ∃ (outcome : Except Fault Unit) (plain logging : Session) (sent logged : List Event),
      opened location (options.logging off) kind world = (outcome, plain) ∧
      opened location (options.logging on) kind world = (outcome, logging) ∧
      plain.trace = world.trace ++ sent ∧ logging.trace = world.trace ++ logged ∧
      Logged { isClosed := false, replies := world.replies } sent logged plain.engine ∧
      ∀ (turns : List Turn) (turn : Turn),
        turn.Alike (plain.after Turn.action turns) (logging.after Turn.action turns) := by
  rcases hplain : opened location (options.logging off) kind world with ⟨outcome, plain⟩
  obtain ⟨hoptions, sent, logged, htrace, hlogged, hlogging⟩ :=
    exists_opened_eq_twin hkind hoff hon location options world hplain
  refine ⟨outcome, plain, _, sent, logged, rfl, hlogging, htrace, rfl, hlogged,
    fun turns turn => ?_⟩
  have hopened : plain.database.options.logOps.truth = .ok false := by
    rw [hoptions]
    exact hoff
  obtain ⟨hafter, trace, hrun⟩ :=
    Turn.exists_after_eq_twin turns (world.trace ++ logged) hopened hon
  rw [← hafter] at hopened
  rw [hrun]
  exact turn.alike_twin trace hopened hon

end Session

/-! ## A tag that is made -/

/-- Tags are defined. -/
def definingTags : Turn :=
  { call :=
      .define (.built
        { name := .str "Tag", timestamps := .bool false
          columns := [(.str "label", { type := .str "TEXT" })] })
    now := noonSession.world.now
    replies := [] }

/-- A tag is made; the engine calls it the seventh row. -/
def makingTag : Turn :=
  { call := .rows (.str "Tag") "create" { args := [.dict [(.str "label", .str "new")]] }
    now := noonSession.world.now
    replies := [.done [] (.int 1) (.int 7)] }

/-- A database in which tags were defined, with a setting for its log. -/
def tagSession (setting : Value) : Session :=
  (Session.opened "app.db" (Options.logging {} setting) .own noonSession.world).2.after
    Turn.action [definingTags]

/-- Making a tag goes alike with a log and without one: it takes two statements beside those that
log. -/
theorem alike_of_makingTag :
    ((Value.bool false).truth = .ok false ∧ (Value.bool true).truth = .ok true) ∧
      makingTag.Alike (tagSession (.bool false)) (tagSession (.bool true)) ∧
      (sentTexts ((tagSession (.bool false)).perform makingTag.action).2.trace).drop 3 =
        ["CREATE TABLE IF NOT EXISTS Tag (id INTEGER PRIMARY KEY AUTOINCREMENT, label TEXT)",
         "INSERT INTO Tag (label) VALUES (?)", "SELECT * FROM Tag WHERE id = ? LIMIT 1"] := by
  have hoff : (Value.bool false).truth = .ok false := rfl
  have hon : (Value.bool true).truth = .ok true := rfl
  obtain ⟨outcome, plain, logging, -, -, hplain, hlogging, -, -, -, halike⟩ :=
    Session.alike_of_turns (.inl rfl) hoff hon "app.db" {} noonSession.world
  have hturn := halike [definingTags] makingTag
  refine ⟨⟨hoff, hon⟩, ?_, by decide +kernel⟩
  unfold tagSession
  rw [hplain, hlogging]
  exact hturn

end Tablewright
