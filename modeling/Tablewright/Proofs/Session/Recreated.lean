import Tablewright.Proofs.Session.Sync

/-!
# What a synchronization by force makes again

Synchronizing by force drops the table of every model and every view that is declared, then makes
the schemas of all models. A schema makes the table of its model and those of its views that have a
name and a query. So every table that is dropped is made again, and a view exactly if a view of its
name lacks nothing; what is dropped is all made again exactly if that is so for each declared view
(`Action.recreated_of_sync`).
-/

namespace Tablewright

open Fallible

/-! ## Dropping and making -/

/-- The statement makes what another one drops: something of the same kind under the same name. -/
def SchemaStatement.Recreates : SchemaStatement → SchemaStatement → Prop
  | createTable t, dropTable name => t.name = name
  | createView v, dropView name => v.name = name
  | _, _ => False

namespace SchemaBatch

/-- The statements of a batch. -/
def statements (b : SchemaBatch) : List SchemaStatement :=
  b.map Prod.snd

/-- The batch makes what a statement drops. -/
def Recreates (b : SchemaBatch) (dropped : SchemaStatement) : Prop :=
  ∃ statement ∈ b.statements, statement.Recreates dropped

theorem statements_flatMap (f : ResolvedModel → SchemaBatch) (order : List ResolvedModel) :
    statements (order.flatMap f) = order.flatMap fun m => statements (f m) :=
  List.map_flatMap

end SchemaBatch

/-- Whether a view has a name and a query. -/
def View.complete (v : View) : Bool :=
  v.name.truthy && v.select.truthy

namespace ResolvedModel

/-- The names of the views that a model declares. -/
def viewNames (m : ResolvedModel) : List String :=
  m.definition.views.map fun v => v.name.display

/-- The names of those that have a name and a query. -/
def completeViewNames (m : ResolvedModel) : List String :=
  (m.definition.views.filter View.complete).map fun v => v.name.display

end ResolvedModel

namespace Database

/-- The names of all views that are declared. -/
def viewNames (d : Database) : List String :=
  d.allModels.flatMap ResolvedModel.viewNames

/-- The names of those that have a name and a query. -/
def completeViewNames (d : Database) : List String :=
  d.allModels.flatMap ResolvedModel.completeViewNames

end Database

/-! ## The statements of one model -/

variable {m : ResolvedModel} {tables : Mapping} {statements : List SchemaStatement} {n : String}

theorem View.complete_of_isComplete {v : View} {b : Bool} (h : v.isComplete = .ok b) :
    v.complete = b := by
  obtain ⟨named, hnamed, h⟩ := bind_eq_ok.1 h
  rw [complete, (Value.truth_eq_ok.1 hnamed).2]
  cases named with
  | false => exact pure_eq_ok.1 h
  | true => exact (Value.truth_eq_ok.1 h).2

/-- A view is made under its name. -/
theorem View.name_of_create {v : View} {w : CreateView} (h : v.create = .ok w) :
    w.name = v.name.display := by
  obtain ⟨temporary, -, h⟩ := bind_eq_ok.1 h
  obtain ⟨ifNotExists, -, h⟩ := bind_eq_ok.1 h
  obtain ⟨given, -, h⟩ := bind_eq_ok.1 h
  obtain ⟨columns, -, h⟩ := ite_bind_eq_ok.1 h
  obtain ⟨select, -, h⟩ := bind_eq_ok.1 h
  rw [← pure_eq_ok.1 h]

/-- **A view is made exactly if it has a name and a query.** -/
theorem View.create?_eq_ok {v : View} {w? : Option CreateView} (h : v.create? = .ok w?) :
    v.complete = w?.isSome ∧ ∀ w, w? = some w → v.name.display = w.name := by
  obtain ⟨b, hb, h⟩ := bind_eq_ok.1 h
  rw [complete_of_isComplete hb]
  cases b with
  | false =>
    obtain rfl := pure_eq_ok.1 h
    exact ⟨rfl, nofun⟩
  | true =>
    obtain ⟨w, hw, rfl⟩ := map_eq_ok.1 h
    refine ⟨rfl, fun w' hw' => ?_⟩
    rw [← Option.some.inj hw', name_of_create hw]

namespace ResolvedModel

/-- The views of a schema are made under the names of the views that lack nothing, in order. -/
theorem names_of_createViews {views : List CreateView} (h : m.createViews = .ok views) :
    views.map (·.name) = m.completeViewNames := by
  have hviews : List.Forall₂ (fun v w => v.name.display = w.name)
      (m.definition.views.filter View.complete) views :=
    filterMapM_eq_ok (fun v w? h => View.create?_eq_ok h) h
  have hnames : List.Forall₂ (fun name name' => name = name') m.completeViewNames
      (views.map (·.name)) := by
    rw [completeViewNames, List.forall₂_map_left_iff, List.forall₂_map_right_iff]
    exact hviews
  rw [List.forall₂_eq_eq_eq] at hnames
  exact hnames.symm

/-- **A schema makes the table of its model** again. -/
theorem recreates_dropTable (h : m.schema tables = .ok statements) :
    ∃ statement ∈ statements, statement.Recreates (.dropTable m.tableName) := by
  obtain ⟨t, rest, ht, rfl, -⟩ := exists_createTable_of_schema h
  exact ⟨_, List.mem_cons_self, (madeFor_of_createTable ht).name⟩

/-- **A schema makes those views of its model again** that have a name and a query. -/
theorem recreates_dropView_iff (h : m.schema tables = .ok statements) :
    (∃ statement ∈ statements, statement.Recreates (.dropView n)) ↔
      n ∈ m.completeViewNames := by
  obtain ⟨t, ht, h⟩ := bind_eq_ok.1 h
  obtain ⟨indexes, hindexes, h⟩ := bind_eq_ok.1 h
  obtain ⟨triggers, htriggers, h⟩ := bind_eq_ok.1 h
  obtain ⟨views, hviews, h⟩ := bind_eq_ok.1 h
  rw [← names_of_createViews hviews, List.mem_map, ← pure_eq_ok.1 h]
  constructor
  · rintro ⟨statement, hmem, hmakes⟩
    cases statement with
    | createView w =>
      refine ⟨w, ?_, hmakes⟩
      simpa using hmem
    | _ => exact absurd hmakes id
  · rintro ⟨w, hw, hname⟩
    exact ⟨.createView w, List.mem_append_right _ (List.mem_map_of_mem hw), hname⟩

theorem statements_batch (m : ResolvedModel) (statements : List SchemaStatement) :
    SchemaBatch.statements (m.batch statements) = statements := by
  rw [SchemaBatch.statements, batch, List.map_map]
  exact List.map_id statements

/-- What is dropped of a model. -/
theorem mem_statements_dropBatch {statement : SchemaStatement} :
    statement ∈ SchemaBatch.statements m.dropBatch ↔
      statement = .dropTable m.tableName ∨ ∃ name ∈ m.viewNames, statement = .dropView name := by
  rw [dropBatch, statements_batch, List.mem_append, List.mem_singleton, List.mem_map, or_comm,
    viewNames]
  simp only [List.mem_map, exists_exists_and_eq_and, eq_comm (a := statement)]

end ResolvedModel

/-! ## Synchronizing -/

section

variable {s s' : Session} {d : Database} {order : List ResolvedModel} {made : List String}
  {force : Value}

/-- What all models drop is a table for each of them, and every declared view. -/
theorem SchemaBatch.mem_statements_drops (horder : order.Perm d.allModels)
    (statement : SchemaStatement) :
    statement ∈ SchemaBatch.statements (order.reverse.flatMap ResolvedModel.dropBatch) ↔
      (∃ m ∈ d.allModels, statement = .dropTable m.tableName) ∨
        ∃ name ∈ d.viewNames, statement = .dropView name := by
  have hmem : ∀ m, m ∈ order.reverse ↔ m ∈ d.allModels := by
    intro m
    rw [List.mem_reverse, horder.mem_iff]
  simp only [statements_flatMap, List.mem_flatMap, hmem, ResolvedModel.mem_statements_dropBatch,
    Database.viewNames]
  constructor
  · rintro ⟨m, hm, hstatement | ⟨name, hname, hstatement⟩⟩
    · exact Or.inl ⟨m, hm, hstatement⟩
    · exact Or.inr ⟨name, ⟨m, hm, hname⟩, hstatement⟩
  · rintro (⟨m, hm, hstatement⟩ | ⟨name, ⟨m, hm, hname⟩, hstatement⟩)
    · exact ⟨m, hm, Or.inl hstatement⟩
    · exact ⟨m, hm, Or.inr ⟨name, hname, hstatement⟩⟩

/-- What all models make again is what the schema of one of them does. -/
theorem SchemaBatch.recreates_schemas_iff (horder : order.Perm d.allModels)
    (hschemas : ∀ m ∈ order, ∃ statements, m.schema tables = .ok statements)
    {dropped : SchemaStatement} :
    SchemaBatch.Recreates (order.flatMap (ResolvedModel.schemaBatch tables)) dropped ↔
      ∃ m ∈ d.allModels, ∃ statements, m.schema tables = .ok statements ∧
        ∃ statement ∈ statements, statement.Recreates dropped := by
  have hmodel : ∀ m ∈ order, ∀ statement,
      statement ∈ SchemaBatch.statements (m.schemaBatch tables) ↔
        ∃ statements, m.schema tables = .ok statements ∧ statement ∈ statements := by
    intro m hm statement
    obtain ⟨statements, hschema⟩ := hschemas m hm
    rw [ResolvedModel.schemaBatch, hschema, ResolvedModel.statements_batch]
    simp [Except.toOption]
  rw [Recreates, statements_flatMap]
  constructor
  · rintro ⟨statement, hmem, hmakes⟩
    obtain ⟨m, hm, hmem⟩ := List.mem_flatMap.1 hmem
    obtain ⟨statements, hschema, hmem⟩ := (hmodel m hm statement).1 hmem
    exact ⟨m, horder.subset hm, statements, hschema, statement, hmem, hmakes⟩
  · rintro ⟨m, hm, statements, hschema, statement, hmem, hmakes⟩
    have hm' : m ∈ order := horder.symm.subset hm
    exact ⟨statement,
      List.mem_flatMap.2 ⟨m, hm', (hmodel m hm' statement).2 ⟨statements, hschema, hmem⟩⟩, hmakes⟩

/-- A view is made again exactly if some model declares one of its name that lacks nothing. -/
theorem SchemaBatch.recreates_dropView_iff (horder : order.Perm d.allModels)
    (hschemas : ∀ m ∈ order, ∃ statements, m.schema tables = .ok statements) {name : String} :
    SchemaBatch.Recreates (order.flatMap (ResolvedModel.schemaBatch tables)) (.dropView name) ↔
      name ∈ d.completeViewNames := by
  rw [recreates_schemas_iff horder hschemas, Database.completeViewNames, List.mem_flatMap]
  constructor
  · rintro ⟨m, hm, statements, hschema, hmakes⟩
    exact ⟨m, hm, (ResolvedModel.recreates_dropView_iff hschema).1 hmakes⟩
  · rintro ⟨m, hm, hname⟩
    obtain ⟨statements, hschema⟩ := hschemas m (horder.symm.subset hm)
    exact ⟨m, hm, statements, hschema, (ResolvedModel.recreates_dropView_iff hschema).2 hname⟩

/-- **What a synchronization by force makes again.** Whatever models a database was told of, one
that succeeds first drops the table of each model and every declared view, and then makes every
table again, and those views under whose name one is declared that has a name and a query; so all
that it dropped it makes again exactly if there is such a view for each declared one. -/
theorem Action.recreated_of_sync (hd : s.database.Reachable) (hforce : force.truth = .ok true)
    (h : s.perform (sync force) = (.ok made, s')) :
    ∃ drops creates : SchemaBatch,
      s'.trace = s.trace ++ drops.events s.database ++ creates.events s.database ∧
      (∀ statement, statement ∈ drops.statements ↔
        (∃ m ∈ s.database.allModels, statement = .dropTable m.tableName) ∨
          ∃ name ∈ s.database.viewNames, statement = .dropView name) ∧
      (∀ m ∈ s.database.allModels, creates.Recreates (.dropTable m.tableName)) ∧
      (∀ name, creates.Recreates (.dropView name) ↔ name ∈ s.database.completeViewNames) ∧
      ((∀ statement ∈ drops.statements, creates.Recreates statement) ↔
        s.database.viewNames ⊆ s.database.completeViewNames) := by
  obtain ⟨names, order, hnames, hmodels, hschemas, -, -, htrace⟩ := sync_eq_ok hforce h
  have hperm := Registry.perm_of_creationOrder hd.sound.nodup hnames
  have horder : order.Perm s.database.allModels := (hd.sound.mapM_model hperm hmodels).2
  have hdropped := SchemaBatch.mem_statements_drops horder
  have htables : ∀ m ∈ s.database.allModels, SchemaBatch.Recreates
      (order.flatMap (ResolvedModel.schemaBatch s.database.tables)) (.dropTable m.tableName) := by
    intro m hm
    obtain ⟨statements, hschema⟩ := hschemas m (horder.symm.subset hm)
    exact (SchemaBatch.recreates_schemas_iff horder hschemas).2
      ⟨m, hm, statements, hschema, ResolvedModel.recreates_dropTable hschema⟩
  have hviews : ∀ name, SchemaBatch.Recreates
      (order.flatMap (ResolvedModel.schemaBatch s.database.tables)) (.dropView name) ↔
        name ∈ s.database.completeViewNames :=
    fun name => SchemaBatch.recreates_dropView_iff horder hschemas
  refine ⟨_, _, htrace, hdropped, htables, hviews, fun hall name hname => ?_,
    fun hcomplete statement hstatement => ?_⟩
  · exact (hviews name).1 (hall _ ((hdropped _).2 (Or.inr ⟨name, hname, rfl⟩)))
  · rcases (hdropped statement).1 hstatement with ⟨m, hm, rfl⟩ | ⟨name, hname, rfl⟩
    · exact htables m hm
    · exact (hviews name).2 (hcomplete hname)

end

/-! ## A view with a query and without -/

/-- Members with a view that has the given query. -/
def memberDefinition (select : String) : ModelDefinition :=
  { name := .str "Member"
    timestamps := .bool false
    columns := [(.str "email", { type := .str "TEXT" })]
    views := [{ name := .str "active", select := .str select }] }

/-- A database that was told of such members. -/
def memberSession (select : String) : Session :=
  openedSession.after SchemaCall.action [.define (.built (memberDefinition select))]

theorem reachable_memberSession (select : String) : (memberSession select).database.Reachable :=
  reachable_openedSession.after _

/-- **All that is dropped is made again where the view has a query**, and where it has none the view
is not. -/
theorem recreated_of_memberSessions :
    (∃ made s' drops creates,
      (memberSession "SELECT 1").perform (Action.sync (.bool true)) = (.ok made, s') ∧
      s'.trace = (memberSession "SELECT 1").trace ++
        SchemaBatch.events (memberSession "SELECT 1").database drops ++
        SchemaBatch.events (memberSession "SELECT 1").database creates ∧
      ∀ statement ∈ drops.statements, SchemaBatch.Recreates creates statement) ∧
    ∃ made s' drops creates,
      (memberSession "").perform (Action.sync (.bool true)) = (.ok made, s') ∧
      s'.trace = (memberSession "").trace ++
        SchemaBatch.events (memberSession "").database drops ++
        SchemaBatch.events (memberSession "").database creates ∧
      .dropView "active" ∈ SchemaBatch.statements drops ∧
      ¬ SchemaBatch.Recreates creates (.dropView "active") := by
  have hforce : (Value.bool true).truth = .ok true := rfl
  have hsync : ∀ select ∈ ["SELECT 1", ""], ∃ s',
      (memberSession select).perform (Action.sync (.bool true)) = (.ok ["Member"], s') := by
    have hdecided : ∀ select ∈ ["SELECT 1", ""],
        ((memberSession select).perform (Action.sync (.bool true))).1.toOption =
          some ["Member"] := by
      decide +kernel
    exact fun select hselect => ⟨_, Prod.ext (eq_ok_of_toOption (hdecided select hselect)) rfl⟩
  constructor
  · obtain ⟨s', hperform⟩ := hsync "SELECT 1" List.mem_cons_self
    obtain ⟨drops, creates, htrace, -, -, -, hall⟩ :=
      Action.recreated_of_sync (reachable_memberSession _) hforce hperform
    exact ⟨_, s', drops, creates, hperform, htrace, hall.2 (by decide +kernel)⟩
  · obtain ⟨s', hperform⟩ := hsync "" (by simp)
    obtain ⟨drops, creates, htrace, hdropped, -, hviews, -⟩ :=
      Action.recreated_of_sync (reachable_memberSession _) hforce hperform
    refine ⟨_, s', drops, creates, hperform, htrace, ?_, ?_⟩
    · exact (hdropped _).2 (Or.inr ⟨"active", by decide +kernel, rfl⟩)
    · exact mt (hviews "active").1 (by decide +kernel)

end Tablewright
