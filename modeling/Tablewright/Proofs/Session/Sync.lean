import Tablewright.Proofs.Schema.ForeignKey
import Tablewright.Proofs.Session.Reachable
import Tablewright.Proofs.Session.SchemaText

/-!
# Rebuilding a database

Synchronizing by force drops what every model made and makes it again. Where no model belongs to
itself through others, the models are made in an order in which each stands behind all it belongs
to, and dropped in the opposite order (`Database.Rebuilt`). The tables are compiled against those of
all models, so a foreign key names the table of the model it refers to, whichever that is.
-/

namespace Tablewright

open Fallible Relation

variable {s s' : Session} {d : Database} {m : ResolvedModel} {tables : Mapping} {force : Value}
variable {made : List String} {order : List ResolvedModel}

/-! ## Batches of statements -/

/-- Statements about the schema in the order in which they are sent, each with its model. -/
abbrev SchemaBatch := List (ResolvedModel × SchemaStatement)

namespace ResolvedModel

/-- Statements of a model as a batch. -/
def batch (m : ResolvedModel) (statements : List SchemaStatement) : SchemaBatch :=
  statements.map (m, ·)

/-- The statements that drop what a model made. -/
def dropBatch (m : ResolvedModel) : SchemaBatch :=
  m.batch (m.definition.views.map (fun v => .dropView v.name.display) ++ [.dropTable m.tableName])

/-- The statements that make what a model needs, if it can be compiled. -/
def schemaBatch (tables : Mapping) (m : ResolvedModel) : SchemaBatch :=
  m.batch ((m.schema tables).toOption.getD [])

end ResolvedModel

namespace SchemaBatch

/-- The texts that are sent. -/
def texts (b : SchemaBatch) : List String :=
  b.map fun e => e.2.render

/-- Those of the texts that begin with the given words. -/
def leading (words : String) (b : SchemaBatch) : List String :=
  b.texts.filter (begins words)

/-- What a synchronization sends for a batch: each statement, and those that log it if there is a
log. -/
def events (d : Database) (b : SchemaBatch) : List Event :=
  b.flatMap fun e => d.schemaEvents e.1.tableName "sync" e.2

theorem texts_flatMap (f : ResolvedModel → SchemaBatch) (order : List ResolvedModel) :
    texts (order.flatMap f) = order.flatMap fun m => texts (f m) :=
  List.map_flatMap

theorem leading_flatMap (words : String) (f : ResolvedModel → SchemaBatch)
    (order : List ResolvedModel) :
    leading words (order.flatMap f) = order.flatMap fun m => leading words (f m) := by
  rw [leading, texts_flatMap, List.filter_flatMap]
  rfl

theorem events_flatMap (d : Database) (f : ResolvedModel → SchemaBatch)
    (order : List ResolvedModel) :
    events d (order.flatMap f) = order.flatMap fun m => events d (f m) :=
  List.flatMap_assoc

end SchemaBatch

/-! ## What is sent -/

namespace Action

/-- The statements of one model are sent in order. -/
theorem sends_executeAll_batch (d : Database) (m : ResolvedModel)
    (statements : List SchemaStatement) :
    Sends d (executeAll statements m.tableName "sync") ((m.batch statements).events d) := by
  rw [SchemaBatch.events, ResolvedModel.batch, List.flatMap_map]
  exact sends_executeAll d statements m.tableName "sync"

theorem sends_dropModel (d : Database) (m : ResolvedModel) :
    Sends d (dropModel m) (m.dropBatch.events d) :=
  sends_executeAll_batch d m _

/-- Makes what a model needs, whatever is there. -/
def remake (tables : Mapping) (m : ResolvedModel) : Action Unit := do
  executeAll (← m.schema tables) m.tableName "sync"

theorem createModel_force (tables : Mapping) (m : ResolvedModel) :
    createModel true tables m = (do remake tables m; pure true) := by
  simp only [createModel, remake, if_pos, pure_bind, bind_assoc, Bool.false_eq_true, if_false]

theorem sends_remake (d : Database) (tables : Mapping) (m : ResolvedModel) :
    Sends d (remake tables m) ((m.schemaBatch tables).events d) := by
  refine Sends.lift_bind fun statements hschema => ?_
  rw [ResolvedModel.schemaBatch, hschema]
  exact sends_executeAll_batch d m statements

/-- A test that always holds keeps every item, and is taken for each of them. -/
theorem filterM_of_holds {α : Type} (f : α → Action Unit) (xs : List α) :
    (xs.filterM fun x => do f x; pure true) = (do xs.forM f; pure xs) := by
  have haux : ∀ acc, (xs.filterAuxM (fun x => do f x; pure true) acc) =
      (do xs.forM f; pure (xs.reverse ++ acc)) := by
    induction xs with
    | nil => exact fun acc => rfl
    | cons x xs ih =>
      intro acc
      simp only [List.filterAuxM, List.forM, bind_assoc, pure_bind, ih, List.reverse_cons,
        List.append_assoc]
      rfl
  simp only [List.filterM, haux, bind_assoc, pure_bind, List.append_nil, List.reverse_reverse]

/-- Looking up models changes nothing. -/
theorem perform_modelsNamed (s : Session) (names : List String) :
    s.perform (modelsNamed names) = (names.mapM fun name => s.database.model (.str name), s) := by
  rw [modelsNamed, Session.perform_bind, Session.perform_database]
  exact Session.perform_mapM_lift s _ names

/-- **What a synchronization by force does**: in the order of creation it looks up all models, drops
them from the last to the first, and makes them from the first to the last. -/
theorem sync_eq_ok (hforce : force.truth = .ok true)
    (h : s.perform (sync force) = (.ok made, s')) :
    ∃ names order, s.database.registry.creationOrder s.database.models.names = .ok names ∧
      names.mapM (fun name => s.database.model (.str name)) = .ok order ∧
      (∀ m ∈ order, ∃ statements, m.schema s.database.tables = .ok statements) ∧
      made = order.map ResolvedModel.name ∧ s'.database = s.database ∧
      s'.trace = s.trace ++
        SchemaBatch.events s.database (order.reverse.flatMap ResolvedModel.dropBatch) ++
        SchemaBatch.events s.database
          (order.flatMap (ResolvedModel.schemaBatch s.database.tables)) := by
  rw [sync, Session.perform_bind, Session.perform_database] at h
  obtain ⟨names, hnames, h⟩ := Session.perform_lift_bind_eq_ok.1 h
  obtain ⟨order, t, hmodels, h⟩ := Session.perform_bind_eq_ok.1 h
  rw [perform_modelsNamed] at hmodels
  obtain ⟨hfound, rfl⟩ := Prod.mk.inj hmodels
  obtain ⟨b, hb, h⟩ := Session.perform_lift_bind_eq_ok.1 h
  obtain rfl : true = b := Except.ok.inj (hforce.symm.trans hb)
  obtain ⟨_, t, hdropped, h⟩ := Session.perform_bind_eq_ok.1 h
  obtain ⟨kept, t', hmade, h⟩ := Session.perform_bind_eq_ok.1 h
  cases h
  -- every model is made, so all of them are kept
  simp only [createModel_force] at hmade
  rw [filterM_of_holds] at hmade
  obtain ⟨_, t'', hmade, hkept⟩ := Session.perform_bind_eq_ok.1 hmade
  cases hkept
  obtain ⟨hdatabase, htrace⟩ :=
    (Sends.forM (sends_dropModel s.database) order.reverse).of_ok hdropped
  obtain ⟨hdatabase', htrace'⟩ :=
    (Sends.forM (sends_remake t.database s.database.tables) order).of_ok hmade
  refine ⟨names, order, hnames, hfound, fun m hm => ?_, rfl, hdatabase'.trans hdatabase, ?_⟩
  · obtain ⟨_, _, hremade⟩ := Session.exists_of_perform_forM_eq_ok hmade hm
    obtain ⟨statements, hstatements, -⟩ := Session.perform_lift_bind_eq_ok.1 hremade
    exact ⟨statements, hstatements⟩
  · rw [Session.trace, htrace', htrace, hdatabase, SchemaBatch.events_flatMap,
      SchemaBatch.events_flatMap]
    rfl

end Action

/-! ## What the texts begin with -/

namespace SchemaStatement

variable {statement : SchemaStatement}

theorem begins_dropTable (name : String) :
    begins "DROP " (dropTable name).render = true ∧
      begins "DROP TABLE " (dropTable name).render = true := by
  have hword : "DROP TABLE IF EXISTS " = "DROP " ++ "TABLE IF EXISTS " := by decide
  have hwords : "DROP TABLE IF EXISTS " = "DROP TABLE " ++ "IF EXISTS " := by decide
  rw [render_dropTable]
  refine ⟨?_, ?_⟩
  · rw [hword, String.append_assoc]
    exact begins_append _ _
  · rw [hwords, String.append_assoc]
    exact begins_append _ _

theorem begins_dropView (name : String) :
    begins "DROP " (dropView name).render = true ∧
      begins "DROP TABLE " (dropView name).render = false := by
  have hword : "DROP VIEW IF EXISTS " = "DROP " ++ "VIEW IF EXISTS " := by decide
  rw [render_dropView]
  refine ⟨?_, begins_eq_false (by decide) (by decide)⟩
  rw [hword, String.append_assoc]
  exact begins_append _ _

theorem begins_createTable (t : CreateTable) :
    begins "CREATE " (createTable t).render = true ∧
      begins "CREATE TABLE " (createTable t).render = true := by
  have hword : "CREATE TABLE " = "CREATE " ++ "TABLE " := by decide
  obtain ⟨tail, htail⟩ := t.exists_render_eq
  rw [render_createTable, htail]
  refine ⟨?_, begins_append _ _⟩
  rw [hword, String.append_assoc]
  exact begins_append _ _

/-- What stands beside a table is told from a table by its opening. -/
theorem IsBeside.begins (h : statement.IsBeside) :
    begins "CREATE " statement.render = true ∧
      begins "CREATE TABLE " statement.render = false := by
  constructor
  · obtain ⟨tail, htail⟩ := h.creates.exists_render_eq
    rw [htail]
    exact begins_append _ _
  cases statement with
  | createTable t => exact absurd h id
  | createIndex i =>
    obtain ⟨tail, htail⟩ := i.exists_render_eq
    rw [render_createIndex, htail]
    cases i.unique
    · exact begins_eq_false (by decide) (by decide)
    · exact begins_eq_false (by decide) (by decide)
  | createTrigger t =>
    obtain ⟨tail, htail⟩ := t.exists_render_eq
    rw [render_createTrigger, htail]
    exact begins_eq_false (by decide) (by decide)
  | createView v =>
    obtain ⟨tail, htail⟩ := v.exists_render_eq
    rw [render_createView, htail]
    cases v.temporary
    · exact begins_eq_false (by decide) (by decide)
    · exact begins_eq_false (by decide) (by decide)
  | dropTable name => exact absurd h id
  | dropView name => exact absurd h id

end SchemaStatement

namespace ResolvedModel

theorem texts_batch (m : ResolvedModel) (statements : List SchemaStatement) :
    SchemaBatch.texts (m.batch statements) = statements.map SchemaStatement.render := by
  rw [SchemaBatch.texts, batch, List.map_map]
  rfl

/-- Of the statements that drop what a model made the last one drops its table. -/
theorem leading_dropBatch (m : ResolvedModel) :
    SchemaBatch.leading "DROP TABLE " m.dropBatch =
      [(SchemaStatement.dropTable m.tableName).render] := by
  have hviews : ∀ statement ∈ m.definition.views.map fun v => .dropView v.name.display,
      ¬ begins "DROP TABLE " (SchemaStatement.render statement) = true := by
    rw [List.forall_mem_map]
    intro v _
    rw [(SchemaStatement.begins_dropView _).2]
    exact Bool.false_ne_true
  rw [SchemaBatch.leading, dropBatch, texts_batch, List.map_append, List.filter_append,
    List.filter_eq_nil_iff.2 (List.forall_mem_map.2 hviews), List.nil_append, List.map_singleton,
    List.filter_cons_of_pos (SchemaStatement.begins_dropTable _).2, List.filter_nil]

/-- Whatever is dropped, the statement begins with the same word. -/
theorem begins_of_mem_dropBatch {text : String} (h : text ∈ SchemaBatch.texts m.dropBatch) :
    begins "DROP " text = true := by
  rw [dropBatch, texts_batch, List.map_append, List.map_map, List.mem_append, List.mem_map,
    List.map_singleton, List.mem_singleton] at h
  rcases h with ⟨v, -, rfl⟩ | rfl
  · exact (SchemaStatement.begins_dropView _).1
  · exact (SchemaStatement.begins_dropTable _).1

/-- Of the statements of a schema the first one makes the table. -/
theorem leading_schemaBatch {statements : List SchemaStatement}
    (h : m.schema tables = .ok statements) :
    ∃ t, m.createTable tables = .ok t ∧
      SchemaBatch.leading "CREATE TABLE " (m.schemaBatch tables) = [t.render] := by
  obtain ⟨t, rest, ht, rfl, hrest⟩ := exists_createTable_of_schema h
  refine ⟨t, ht, ?_⟩
  have hbeside : ∀ statement ∈ rest, ¬ begins "CREATE TABLE " statement.render = true := by
    intro statement hmem
    rw [(hrest statement hmem).begins.2]
    exact Bool.false_ne_true
  rw [SchemaBatch.leading, schemaBatch, h, texts_batch, Except.toOption, Option.getD_some,
    List.map_cons, List.filter_cons_of_pos (SchemaStatement.begins_createTable t).2,
    List.filter_eq_nil_iff.2 (List.forall_mem_map.2 hbeside)]
  rfl

/-- Whatever is made, the statement begins with the same word. -/
theorem begins_of_mem_schemaBatch {text : String} {statements : List SchemaStatement}
    (h : m.schema tables = .ok statements)
    (hmem : text ∈ SchemaBatch.texts (m.schemaBatch tables)) : begins "CREATE " text = true := by
  obtain ⟨t, rest, -, rfl, hrest⟩ := exists_createTable_of_schema h
  rw [schemaBatch, h, texts_batch, List.mem_map] at hmem
  obtain ⟨statement, hstatement, rfl⟩ := hmem
  rcases List.mem_cons.1 hstatement with rfl | hstatement
  · exact (SchemaStatement.begins_createTable t).1
  · exact (hrest statement hstatement).begins.1

end ResolvedModel

/-! ## Tables -/

namespace Relationship

/-- The table of a known model stands in the foreign keys that refer to it. -/
theorem tableIn_tableNames {r : Relationship} {target : ResolvedModel} (hd : d.Sound)
    (hmem : target ∈ d.allModels) (ht : r.target.text? = some target.name) :
    r.tableIn d.tableNames = target.tableName := by
  have hfound : d.models.get? target.name = some target := hd.get?_eq_some.2 ⟨hmem, rfl⟩
  rw [tableIn, ht, Option.bind_some, Database.tableNames, Named.get?_map, hfound]
  rfl

end Relationship

namespace ResolvedModel

/-- The table made for a model when all models of a database are known: compiled against their
tables and under its own name, with every foreign key that refers to one of them, itself included,
naming the table of that one. -/
structure TableIn (d : Database) (m : ResolvedModel) (t : CreateTable) : Prop where
  /-- It is compiled against the tables of all models. -/
  compiled : m.createTable d.tables = .ok t
  /-- It has the name of the model's table. -/
  name : t.name = m.tableName
  /-- Each relationship that has a foreign key puts it into the table, with the table of the model
  that it leads to. -/
  foreignKeys : List.Forall₂
    (fun (r : Relationship) (k : ForeignKey) =>
      ∀ target ∈ d.allModels, r.target.text? = some target.name → k.table = target.tableName)
    m.references t.foreignKeys

theorem tableIn_of_createTable {t : CreateTable} (hd : d.Sound)
    (h : m.createTable d.tables = .ok t) : m.TableIn d t := by
  have hkeys : m.foreignKeys d.tableNames.toMapping = .ok t.foreignKeys :=
    (createTable_eq_ok h h).2.1
  refine ⟨h, (madeFor_of_createTable h).name,
    (forall₂_foreignKeys hkeys).imp fun r k hk target hmem ht => ?_⟩
  rw [hk, Relationship.tableIn_tableNames hd hmem ht]

/-- **The tables that the schemas of some models make**, in their order. -/
theorem exists_tables (hd : d.Sound)
    (h : ∀ m ∈ order, ∃ statements, m.schema d.tables = .ok statements) :
    ∃ made, SchemaBatch.leading "CREATE TABLE " (order.flatMap (schemaBatch d.tables)) =
        made.map CreateTable.render ∧ List.Forall₂ (TableIn d) order made := by
  rw [SchemaBatch.leading_flatMap]
  induction order with
  | nil => exact ⟨[], rfl, List.Forall₂.nil⟩
  | cons m order ih =>
    obtain ⟨⟨statements, hstatements⟩, hrest⟩ := List.forall_mem_cons.1 h
    obtain ⟨made, hmade, htables⟩ := ih hrest
    obtain ⟨t, ht, hlead⟩ := leading_schemaBatch hstatements
    refine ⟨t :: made, ?_, List.Forall₂.cons (tableIn_of_createTable hd ht) htables⟩
    rw [List.flatMap_cons, hlead, hmade]
    rfl

end ResolvedModel

/-! ## The order of the models -/

namespace Database

/-- Among different models that are defined, none belongs to itself through others. -/
def Acyclic (d : Database) : Prop :=
  ∀ name, ¬ TransGen (d.registry.Awaits d.models.names) name name

theorem model_eq_ok {name : String} (h : d.model (.str name) = .ok m) :
    d.models.get? name = some m := by
  have hkey : (Value.str name).asKey = .ok (.str name) := Value.asKey_of_text? rfl
  rw [Database.model, ok_bind hkey, Value.text?, Option.bind_some] at h
  split at h
  · rename_i hget
    rw [hget, pure_eq_ok.1 h]
  · cases h

/-- Looking up all names of a sound database gives all models, in the order of the names. -/
theorem Sound.mapM_model (hd : d.Sound) {names : List String} (hperm : names.Perm d.models.names)
    (h : names.mapM (fun name => d.model (.str name)) = .ok order) :
    order.map ResolvedModel.name = names ∧ order.Perm d.allModels := by
  have hall := (mapM_eq_ok.1 h).imp fun _ _ hm => hd.get?_eq_some.1 (model_eq_ok hm)
  have hnames : order.map ResolvedModel.name = names := by
    clear h hperm
    induction hall with
    | nil => rfl
    | cons hm _ ih => rw [List.map_cons, hm.2, ih]
  refine ⟨hnames, ?_⟩
  -- names tell the models apart, on both sides
  have hnodup : order.Nodup := by
    refine List.Nodup.of_map ResolvedModel.name ?_
    rw [hnames, hperm.nodup_iff]
    exact hd.nodup
  have hnodup' : d.allModels.Nodup := by
    refine List.Nodup.of_map ResolvedModel.name ?_
    rw [hd.names_allModels]
    exact hd.nodup
  rw [List.perm_ext_iff_of_nodup hnodup hnodup']
  intro m
  constructor
  · intro hm
    obtain ⟨name, -, hname⟩ := exists_of_mem_mapM h hm
    exact (hd.get?_eq_some.1 (model_eq_ok hname)).1
  · intro hm
    have hname : m.name ∈ names := by
      rw [hperm.mem_iff, ← hd.names_allModels]
      exact List.mem_map_of_mem hm
    obtain ⟨m', hm', hfound⟩ := mem_mapM_of_mem h hname
    have hget := model_eq_ok hfound
    rw [hd.get?_eq_some.2 ⟨hm, rfl⟩] at hget
    exact Option.some.inj hget ▸ hm'

/-! ## Rebuilding -/

/-- What is sent to rebuild a database whose models are taken in some order: statements that drop,
and then statements that make. -/
structure Rebuilt (d : Database) (order : List ResolvedModel) (drops creates : SchemaBatch) :
    Prop where
  /-- The order holds every model once. -/
  models : order.Perm d.allModels
  /-- No model belongs to one behind it. -/
  behind : order.Pairwise fun m later => ¬ d.registry.BelongsTo m.name later.name
  /-- So no foreign key refers to a model whose table is made later. -/
  settled : order.Pairwise fun m later =>
    ∀ r ∈ m.references, r.target.text? ≠ some later.name
  /-- First only drops are sent. -/
  drop : ∀ text ∈ drops.texts, begins "DROP " text = true
  /-- Among them is one for each table, from the last model to the first. -/
  dropped : drops.leading "DROP TABLE " =
    order.reverse.map fun m => "DROP TABLE IF EXISTS " ++ m.tableName
  /-- Then only statements that make something are sent. -/
  create : ∀ text ∈ creates.texts, begins "CREATE " text = true
  /-- Among them is one for each table, from the first model to the last. -/
  created : ∃ made, creates.leading "CREATE TABLE " = made.map CreateTable.render ∧
    List.Forall₂ (ResolvedModel.TableIn d) order made

/-- A foreign key leads to a model only if its own model belongs to that one. -/
theorem Sound.belongsTo_of_references (hd : d.Sound) (hm : m ∈ d.allModels) {r : Relationship}
    (hr : r ∈ m.references) {target : String} (ht : r.target.text? = some target) :
    d.registry.BelongsTo m.name target := by
  obtain ⟨hdeclared, hrefers⟩ := List.mem_filter.1 hr
  rw [Relationship.refers, Bool.and_eq_true, decide_eq_true_iff] at hrefers
  exact hd.belongsTo hm hdeclared hrefers.1 ht

end Database

/-- **A database is rebuilt in the order of what belongs to what.** Whatever models and
relationships a database was told of, if no model belongs to itself through others, a
synchronization by force that succeeds has dropped the table of every model once, dependents first,
and then made every table once, dependents last; it answers with the names of all models in that
order. -/
theorem Action.rebuilt_of_sync (hd : s.database.Reachable) (hacyclic : s.database.Acyclic)
    (hforce : force.truth = .ok true) (h : s.perform (sync force) = (.ok made, s')) :
    ∃ order drops creates, s.database.Rebuilt order drops creates ∧
      s'.database = s.database ∧
      s'.trace = s.trace ++ drops.events s.database ++ creates.events s.database ∧
      made = order.map ResolvedModel.name ∧ made.Nodup ∧ made.Perm s.database.models.names := by
  have hsound := hd.sound
  obtain ⟨names, order, hnames, hmodels, hschemas, hmade, hdatabase, htrace⟩ :=
    sync_eq_ok hforce h
  -- the order is one of names; as names are distinct it is one of models
  have hperm := ((Registry.creationOrder_spec hsound.nodup hnames).1 hacyclic).1
  obtain ⟨hordered, hall⟩ := hsound.mapM_model hperm hmodels
  have hbehind : order.Pairwise fun m later =>
      ¬ s.database.registry.BelongsTo m.name later.name := by
    rw [← List.pairwise_map (f := ResolvedModel.name)
      (R := fun name later => ¬ s.database.registry.BelongsTo name later), hordered]
    exact Registry.pairwise_of_creationOrder hsound.nodup hnames hacyclic
  refine ⟨order, _, _, ⟨hall, hbehind, ?_, ?_, ?_, ?_, ResolvedModel.exists_tables hsound hschemas⟩,
    hdatabase, htrace, hmade, ?_, ?_⟩
  · exact hbehind.imp_of_mem fun hm _ hnot r hr ht =>
      hnot (hsound.belongsTo_of_references (hall.subset hm) hr ht)
  · intro text htext
    rw [SchemaBatch.texts_flatMap] at htext
    obtain ⟨m, -, hmem⟩ := List.mem_flatMap.1 htext
    exact ResolvedModel.begins_of_mem_dropBatch hmem
  · rw [SchemaBatch.leading_flatMap, List.map_eq_flatMap]
    exact congrArg (order.reverse.flatMap ·) (funext ResolvedModel.leading_dropBatch)
  · intro text htext
    rw [SchemaBatch.texts_flatMap] at htext
    obtain ⟨m, hm, hmem⟩ := List.mem_flatMap.1 htext
    obtain ⟨statements, hstatements⟩ := hschemas m hm
    exact ResolvedModel.begins_of_mem_schemaBatch hstatements hmem
  · rw [hmade, hordered, hperm.nodup_iff]
    exact hsound.nodup
  · rw [hmade, hordered]
    exact hperm

/-! ## Posts, authors and teams -/

/-- Posts are defined first, and belong to authors and to each other; authors are defined before
teams, and are told to belong to them only then. -/
def blogCalls : List SchemaCall :=
  [.define (.built
    { name := .str "Post"
      tableName := .str "posts"
      timestamps := .bool false
      relationships :=
        [{ kind := .belongsTo, target := .str "Author", foreignKey := .str "authorId" },
         { kind := .belongsTo, target := .str "Post", foreignKey := .str "parentId" }] }),
   .define (.built { name := .str "Author", timestamps := .bool false }),
   .associate (.str "Author") { kind := .belongsTo, target := .str "Team" },
   .define (.built { name := .str "Team", timestamps := .bool false })]

/-- A database that was opened. -/
def openedSession : Session :=
  (Session.opened "app.db" {} .own { now := ⟨⟨2024, 5, 1⟩, ⟨12, 0, 0, 0, none⟩⟩ }).2

theorem reachable_openedSession : openedSession.database.Reachable := by
  have hopened : (Session.opened "app.db" {} .own
      { now := ⟨⟨2024, 5, 1⟩, ⟨12, 0, 0, 0, none⟩⟩ }).1 = .ok () :=
    eq_ok_of_toOption (by decide +kernel)
  exact .opened (Prod.ext hopened rfl)

/-- A database that was told of posts, authors and teams. -/
def blogSession : Session :=
  openedSession.after SchemaCall.action blogCalls

theorem reachable_blogSession : blogSession.database.Reachable :=
  reachable_openedSession.after blogCalls

theorem acyclic_blogSession : blogSession.database.Acyclic := by
  have hrank : ∀ name ∈ blogSession.database.models.names,
      ∀ rel ∈ blogSession.database.registry.lookup name, ∀ target ∈ rel.target.text?,
        target ≠ name → ["Team", "Author", "Post"].idxOf target <
          ["Team", "Author", "Post"].idxOf name := by
    decide +kernel
  refine Registry.not_transGen_of_rank (["Team", "Author", "Post"].idxOf ·) ?_
  rintro target name ⟨-, hname, hne, rel, hrel, -, ht⟩
  exact hrank name hname rel hrel target ht hne

/-- They are rebuilt with teams first and posts last, although posts were defined first. -/
theorem rebuilt_of_blogCalls :
    (blogSession.database.Reachable ∧ blogSession.database.Acyclic ∧
      (Value.bool true).truth = .ok true) ∧
      ∃ s' order drops creates,
        blogSession.perform (Action.sync (.bool true)) = (.ok ["Team", "Author", "Post"], s') ∧
        blogSession.database.Rebuilt order drops creates ∧
        s'.trace = blogSession.trace ++ drops.events blogSession.database ++
          creates.events blogSession.database ∧
        order.map ResolvedModel.name = ["Team", "Author", "Post"] := by
  have hforce : (Value.bool true).truth = .ok true := rfl
  have hsync : (blogSession.perform (Action.sync (.bool true))).1 =
      .ok ["Team", "Author", "Post"] := eq_ok_of_toOption (by decide +kernel)
  obtain ⟨order, drops, creates, hrebuilt, -, htrace, hmade, -, -⟩ := Action.rebuilt_of_sync
    reachable_blogSession acyclic_blogSession hforce (Prod.ext hsync rfl)
  exact ⟨⟨reachable_blogSession, acyclic_blogSession, hforce⟩,
    _, order, drops, creates, Prod.ext hsync rfl, hrebuilt, htrace, hmade.symm⟩

end Tablewright
