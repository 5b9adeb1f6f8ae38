import Tablewright.CommandLine.Run
import Tablewright.Proofs.ModelFile
import Tablewright.Proofs.Registry.CreationOrder
import Tablewright.Proofs.Schema.Table
import Tablewright.Proofs.Session.Schema

/-!
# The order in which the tables of a file are made

The definitions of a file are put in an order in which every model stands behind those it belongs
to, and compiled against the tables of all. So where no model belongs to itself through others, a
foreign key that refers to a model of the file names the table of that model, and this table is made
before its own or is its own (`MadeInOrder`).
-/

namespace Tablewright

open Fallible Relation

variable {ds order : List ModelDefinition} {models : List ResolvedModel}
  {statements : List SchemaStatement} {c : Catalog}

/-! ## What is compiled -/

namespace ModelDefinition

/-- The statements that make the models of a list of definitions, and then the views of a directory,
if one is given. -/
def schemaWithViews (files : Files) (views : Option Path) (ds : List ModelDefinition) :
    Except Fault (List SchemaStatement) := do
  let statements ← schemaOf ds
  match views with
  | some directory => pure (statements ++ (← files.viewSchema directory))
  | none => pure statements

/-- What is printed for a file is compiled from its definitions. -/
theorem schemaOf_eq (files : Files) (path : Path) (views : Option Path) :
    CommandLine.schemaOf files path views =
      (do schemaWithViews files views (← files.models path)) := rfl

/-- The names of the models that are named. -/
def givenNames (ds : List ModelDefinition) : List String :=
  ds.filterMap fun d => d.name.text?

/-- Of two different models of a list the second belongs to the first. -/
def Depends (ds : List ModelDefinition) (target name : String) : Prop :=
  target ∈ givenNames ds ∧ target ≠ name ∧ ∃ d ∈ ds, d.name.text? = some name ∧
    ∃ rel ∈ d.relationships, rel.kind = .belongsTo ∧ rel.target.text? = some target

end ModelDefinition

/-- The table that a statement makes, if it makes one. -/
def SchemaStatement.table? : SchemaStatement → Option CreateTable
  | createTable t => some t
  | _ => none

/-- Tables made one after the other, one for each of some models, each behind those it refers
to. -/
structure MadeInOrder (models : List ResolvedModel) (made : List CreateTable) : Prop where
  /-- They are the tables of the models, which know the tables of all. -/
  tables : List.Forall₂ (fun m t => t.MadeFor m (ModelDefinition.tablesOf models)) models made
  /-- Each relationship that has a foreign key puts it into the table; if it leads to one of the
  models, it names the table of that one, which is not made later. -/
  foreignKeys : ∀ (i : Nat) m t, models[i]? = some m → made[i]? = some t →
    List.Forall₂ (fun (r : Relationship) (k : ForeignKey) =>
      ∀ (j : Nat) target, models[j]? = some target → r.target.text? = some target.name →
        k.table = target.tableName ∧ j ≤ i) m.references t.foreignKeys

/-! ## Catalogs -/

namespace ModelDefinition

/-- A definition with its name. -/
def entry (d : ModelDefinition) : String × ModelDefinition :=
  (d.name.display, d)

/-- The registrations of a list of definitions. -/
def registrations (ds : List ModelDefinition) : List (String × List Relationship) :=
  ds.map fun d => (d.name.display, d.relationships)

/-- A definition that resolves has a name, and the model has that name and the relationships of the
definition. -/
theorem resolve_eq_ok {d : ModelDefinition} {m : ResolvedModel} (h : d.resolve = .ok m) :
    d.name.text? = some m.name ∧ d.name.display = m.name ∧
      m.definition.relationships = d.relationships := by
  have hbuilt : (DefinitionSource.built d).resolve = .ok m := h
  have htext : d.name.text? = some m.name := (DefinitionSource.names_of_resolve hbuilt).1
  obtain ⟨names, -, h⟩ := bind_eq_ok.1 h
  obtain ⟨_, _, -, -, -, -, -, hdefinition⟩ := exists_stage_of_resolveWith h
  exact ⟨htext, Value.display_of_text? htext, by rw [hdefinition]⟩

/-- Definitions that resolve are all named. -/
theorem givenNames_of_resolves (h : ∀ d ∈ ds, ∃ m, d.resolve = .ok m) :
    givenNames ds = ds.map fun d => d.name.display := by
  induction ds with
  | nil => rfl
  | cons d ds ih =>
    obtain ⟨⟨m, hm⟩, hrest⟩ := List.forall_mem_cons.1 h
    obtain ⟨htext, hdisplay, -⟩ := resolve_eq_ok hm
    rw [givenNames, List.filterMap_cons, htext, List.map_cons, hdisplay, ← ih hrest]
    rfl

end ModelDefinition

namespace Catalog

open ModelDefinition

/-- Adding a definition, which resolves, stores it under its name and registers its
relationships. -/
theorem add_eq_ok {start : Catalog} {d : ModelDefinition} (h : start.add d = .ok c) :
    (∃ m, d.resolve = .ok m) ∧
      c.definitions = Named.put start.definitions d.name.display d ∧
      c.registry = start.registry.register d.name.display d.relationships := by
  obtain ⟨key, -, h⟩ := bind_eq_ok.1 h
  obtain ⟨m, hm, h⟩ := bind_eq_ok.1 h
  obtain ⟨-, hname, hrelationships⟩ := resolve_eq_ok hm
  rw [← pure_eq_ok.1 h, hname, hrelationships]
  exact ⟨⟨m, hm⟩, rfl, rfl⟩

/-- All definitions of a catalog resolve. -/
theorem exists_resolve_of_foldlM_add {start : Catalog} (h : ds.foldlM add start = .ok c) :
    ∀ d ∈ ds, ∃ m, d.resolve = .ok m := by
  induction ds generalizing start with
  | nil => exact nofun
  | cons d ds ih =>
    rw [List.foldlM_cons] at h
    obtain ⟨next, hnext, h⟩ := bind_eq_ok.1 h
    exact List.forall_mem_cons.2 ⟨(add_eq_ok hnext).1, ih h⟩

/-- **What a catalog holds**: the definitions, stored under their names one after the other, and
their relationships. -/
theorem foldlM_add_eq_ok {start : Catalog} (h : ds.foldlM add start = .ok c) :
    c.definitions = Named.union start.definitions (ds.map entry) ∧
      c.registry = (registrations ds).foldl (fun r call => r.register call.1 call.2)
        start.registry := by
  induction ds generalizing start with
  | nil =>
    rw [List.foldlM_nil, pure_eq_ok] at h
    rw [← h]
    exact ⟨rfl, rfl⟩
  | cons d ds ih =>
    rw [List.foldlM_cons] at h
    obtain ⟨next, hnext, h⟩ := bind_eq_ok.1 h
    obtain ⟨-, hdefinitions, hregistry⟩ := add_eq_ok hnext
    obtain ⟨hall, hregistered⟩ := ih h
    rw [hdefinitions] at hall
    rw [hregistry] at hregistered
    exact ⟨hall, hregistered⟩

/-- The catalog of definitions with distinct names. -/
theorem ofDefinitions_eq_ok (hnames : (givenNames ds).Nodup) (h : ofDefinitions ds = .ok c) :
    (∀ d ∈ ds, ∃ m, d.resolve = .ok m) ∧ c.definitions = ds.map entry ∧
      c.definitions.names.Nodup ∧ c.registry = Registry.ofHistory (registrations ds) := by
  have hresolves : ∀ d ∈ ds, ∃ m, d.resolve = .ok m := exists_resolve_of_foldlM_add h
  have hentries : Named.names (ds.map entry) = givenNames ds := by
    rw [givenNames_of_resolves hresolves, Named.names, List.map_map]
    rfl
  obtain ⟨hdefinitions, hregistry⟩ := foldlM_add_eq_ok h
  have hall : c.definitions = ds.map entry := by
    rw [hdefinitions]
    refine Named.union_eq_append ?_
    rw [List.nil_append, hentries]
    exact hnames
  exact ⟨hresolves, hall, by rw [hall, hentries]; exact hnames, hregistry⟩

/-- What waits for what in the order of creation is what depends on what. -/
theorem awaits_iff_depends (hresolves : ∀ d ∈ ds, ∃ m, d.resolve = .ok m) {target name : String} :
    (Registry.ofHistory (registrations ds)).Awaits (givenNames ds) target name ↔
      Depends ds target name := by
  rw [Registry.Awaits, Registry.belongsTo_ofHistory, Depends]
  constructor
  · rintro ⟨htarget, -, hne, call, hcall, hname, hrel⟩
    obtain ⟨d, hd, rfl⟩ := List.mem_map.1 hcall
    obtain ⟨m, hm⟩ := hresolves d hd
    obtain ⟨htext, hdisplay, -⟩ := resolve_eq_ok hm
    exact ⟨htarget, hne, d, hd, by rw [htext, ← hdisplay, ← hname], hrel⟩
  · rintro ⟨htarget, hne, d, hd, htext, hrel⟩
    exact ⟨htarget, List.mem_filterMap.2 ⟨d, hd, htext⟩, hne, _, List.mem_map_of_mem hd,
      Value.display_of_text? htext, hrel⟩

/-- **No definition of a catalog is lost** in the order of creation, whatever depends on what. -/
theorem perm_of_ordered (hnd : c.definitions.names.Nodup) (h : c.ordered = .ok order) :
    order.Perm (c.definitions.map (·.2)) := by
  obtain ⟨names, hnames, h⟩ := bind_eq_ok.1 h
  rw [← pure_eq_ok.1 h, ← Named.filterMap_get?_names hnd]
  exact (Registry.perm_of_creationOrder hnd hnames).filterMap _

/-- Definitions looked up under their names are in the order of the names. -/
theorem map_filterMap_get? {defs : Named ModelDefinition} {names : List String}
    (hnames : names ⊆ defs.names) (hkeys : ∀ e ∈ defs, e.2.name.display = e.1) :
    (names.filterMap (Named.get? defs)).map (fun d => d.name.display) = names := by
  induction names with
  | nil => rfl
  | cons name names ih =>
    obtain ⟨hname, hrest⟩ := List.cons_subset.1 hnames
    obtain ⟨d, hd⟩ := Named.exists_get?_of_mem hname
    rw [List.filterMap_cons, hd, List.map_cons, ih hrest, hkeys _ (Named.mem_of_get? hd)]

end Catalog

namespace ModelDefinition

open Catalog

/-- **The order of creation** of definitions with distinct names, none of which depends on itself
through others: each stands behind those it belongs to. -/
theorem inCreationOrder_eq_ok (hnames : (givenNames ds).Nodup)
    (hacyclic : ∀ name, ¬ TransGen (Depends ds) name name) (h : inCreationOrder ds = .ok order) :
    order.Perm ds ∧ (order.map fun d => d.name.display).Nodup ∧
      order.Pairwise fun d later =>
        ∀ rel ∈ d.relationships, rel.kind = .belongsTo →
          rel.target.text? ≠ some later.name.display := by
  obtain ⟨c, hc, h⟩ := bind_eq_ok.1 h
  obtain ⟨hresolves, hdefinitions, hnd, hregistry⟩ := ofDefinitions_eq_ok hnames hc
  have hds : order.Perm ds := by
    have hkept := perm_of_ordered hnd h
    rw [hdefinitions, List.map_map] at hkept
    exact hkept.trans (.of_eq (List.map_id ds))
  obtain ⟨names, hordered, h⟩ := bind_eq_ok.1 h
  have hall : Named.names c.definitions = givenNames ds := by
    rw [hdefinitions, givenNames_of_resolves hresolves, Named.names, List.map_map]
    rfl
  have hopen : ∀ name, ¬ TransGen (c.registry.Awaits c.definitions.names) name name := by
    have hsame : c.registry.Awaits c.definitions.names = Depends ds := by
      funext target name
      rw [hregistry, hall]
      exact propext (awaits_iff_depends hresolves)
    rwa [hsame]
  have hperm : names.Perm c.definitions.names := Registry.perm_of_creationOrder hnd hordered
  have hbehind := Registry.pairwise_of_creationOrder hnd hordered hopen
  have hkeys : ∀ e ∈ c.definitions, e.2.name.display = e.1 := by
    intro e he
    rw [hdefinitions] at he
    obtain ⟨d, -, rfl⟩ := List.mem_map.1 he
    rfl
  have hmap : order.map (fun d => d.name.display) = names := by
    rw [← pure_eq_ok.1 h]
    exact map_filterMap_get? hperm.subset hkeys
  have hnodup : (order.map fun d => d.name.display).Nodup := by
    rw [hmap, hperm.nodup_iff]
    exact hnd
  refine ⟨hds, hnodup, ?_⟩
  rw [← hmap, List.pairwise_map] at hbehind
  refine hbehind.imp_of_mem fun {d later} hd _ hnot rel hrel hkind htarget => hnot ?_
  rw [hregistry, Registry.belongsTo_ofHistory]
  exact ⟨_, List.mem_map_of_mem (hds.subset hd), rfl, rel, hrel, hkind, htarget⟩

end ModelDefinition

/-! ## Tables -/

/-- What stands beside a table makes none. -/
theorem SchemaStatement.IsBeside.table?_eq_none {statement : SchemaStatement}
    (h : statement.IsBeside) : statement.table? = none := by
  cases statement with
  | createTable t => exact absurd h id
  | _ => rfl

/-- **Each schema makes one table**, and they are made in the order of the models. -/
theorem tables_of_schemas {tables : Mapping} {schemas : List (List SchemaStatement)}
    (h : models.mapM (fun m => m.schema tables) = .ok schemas) :
    List.Forall₂ (fun m t => m.createTable tables = .ok t) models
      (schemas.flatten.filterMap SchemaStatement.table?) := by
  have hschemas := mapM_eq_ok.1 h
  clear h
  induction hschemas with
  | nil => exact List.Forall₂.nil
  | cons hschema _ ih =>
    obtain ⟨t, rest, ht, rfl, hrest⟩ := ResolvedModel.exists_createTable_of_schema hschema
    have hnone : rest.filterMap SchemaStatement.table? = [] :=
      List.filterMap_eq_nil_iff.2 fun statement hmem => (hrest statement hmem).table?_eq_none
    rw [List.flatten_cons, List.filterMap_append, List.filterMap_cons, SchemaStatement.table?,
      hnone]
    exact List.Forall₂.cons ht ih

/-- Tables that are compiled against those of all models are made in order, if no model refers to a
later one. -/
theorem madeInOrder_of_createTable {made : List CreateTable}
    (hnd : (tableEntries models).names.Nodup)
    (hbehind : models.Pairwise fun m later => ∀ r ∈ m.references,
      r.target.text? ≠ some later.name)
    (h : List.Forall₂ (fun m t => m.createTable (ModelDefinition.tablesOf models) = .ok t) models
      made) : MadeInOrder models made where
  tables := h.imp fun _ _ ht => ResolvedModel.madeFor_of_createTable ht
  foreignKeys i m t hm ht := by
    obtain ⟨hi, rfl⟩ := List.getElem?_eq_some_iff.1 hm
    obtain ⟨hi', rfl⟩ := List.getElem?_eq_some_iff.1 ht
    have hkeys := (ResolvedModel.madeFor_of_createTable (h.get hi hi')).foreignKeys
    rw [tablesOf_eq hnd] at hkeys
    have hrelated := (List.forall₂_and_left _ _).2
      ⟨fun r (hr : r ∈ models[i].references) => hr, ResolvedModel.forall₂_foreignKeys hkeys⟩
    refine hrelated.imp fun r k hk j target htarget hr => ⟨?_, ?_⟩
    · rw [hk.2, Relationship.tableIn, hr, Option.bind_some,
        get?_tableEntries hnd (List.mem_of_getElem? htarget), Option.getD_some]
    · by_contra hlater
      obtain ⟨hj, rfl⟩ := List.getElem?_eq_some_iff.1 htarget
      exact List.pairwise_iff_getElem.1 hbehind i j hi hj (by omega) r hk.1 hr

namespace ModelDefinition

/-- Printing views makes no tables. -/
theorem schemaWithViews_eq_ok {files : Files} {views : Option Path}
    (h : schemaWithViews files views ds = .ok statements) :
    ∃ own, schemaOf ds = .ok own ∧
      statements.filterMap SchemaStatement.table? = own.filterMap SchemaStatement.table? := by
  obtain ⟨own, hown, h⟩ := bind_eq_ok.1 h
  refine ⟨own, hown, ?_⟩
  cases views with
  | none => rw [pure_eq_ok.1 h]
  | some directory =>
    obtain ⟨made, hmade, h⟩ := bind_eq_ok.1 h
    have hnone : made.filterMap SchemaStatement.table? = [] := by
      refine List.filterMap_eq_nil_iff.2 fun statement hmem => ?_
      obtain ⟨vs, -, hmade⟩ := bind_eq_ok.1 hmade
      obtain ⟨v, -, hv⟩ := exists_of_mem_mapM hmade hmem
      obtain ⟨view, -, hv⟩ := bind_eq_ok.1 hv
      rw [← pure_eq_ok.1 hv]
      rfl
    rw [← pure_eq_ok.1 h, List.filterMap_append, hnone, List.append_nil]

/-- **The tables of a list of models are made in order.** Whatever definitions of distinct names are
compiled, with views or without, if none depends on itself through others, there is one table for
each of them, every foreign key that refers to a model of the list names the table of that model,
and this table is the same or an earlier one. -/
theorem madeInOrder_of_schema {files : Files} {views : Option Path}
    (hnames : (givenNames ds).Nodup) (hacyclic : ∀ name, ¬ TransGen (Depends ds) name name)
    (h : schemaWithViews files views ds = .ok statements) :
    ∃ (order : List ModelDefinition) (models : List ResolvedModel), order.Perm ds ∧
      order.mapM resolve = .ok models ∧
      MadeInOrder models (statements.filterMap SchemaStatement.table?) := by
  obtain ⟨own, hown, htables⟩ := schemaWithViews_eq_ok h
  obtain ⟨order, horder, hown⟩ := bind_eq_ok.1 hown
  obtain ⟨models, hmodels, hown⟩ := bind_eq_ok.1 hown
  obtain ⟨schemas, hschemas, hown⟩ := bind_eq_ok.1 hown
  obtain ⟨hperm, hnd, hbehind⟩ := inCreationOrder_eq_ok hnames hacyclic horder
  refine ⟨order, models, hperm, hmodels, ?_⟩
  rw [htables, ← pure_eq_ok.1 hown]
  refine madeInOrder_of_createTable ?_ ?_ (tables_of_schemas hschemas)
  · rw [List.Nodup, List.pairwise_map] at hnd
    rw [tableEntries, Named.names, List.map_map, List.Nodup, List.pairwise_map]
    refine pairwise_of_mapM (fun d d' m m' hm hm' hne => ?_) hmodels hnd
    rwa [(resolve_eq_ok hm).2.1, (resolve_eq_ok hm').2.1] at hne
  · refine pairwise_of_mapM (fun d d' m m' hm hm' hnot r hr => ?_) hmodels hbehind
    obtain ⟨hdeclared, hrefers⟩ := List.mem_filter.1 hr
    rw [Relationship.refers, Bool.and_eq_true, decide_eq_true_iff] at hrefers
    rw [(resolve_eq_ok hm).2.2] at hdeclared
    rw [← (resolve_eq_ok hm').2.1]
    exact hnot r hdeclared hrefers.1

/-- Remarks come first although they belong to posts and to each other; posts belong to authors and
to a model that is not in the list. -/
def forumDefinitions : List ModelDefinition :=
  [{ name := .str "Remark"
     tableName := .str "remark"
     underscored := .bool true
     relationships :=
       [{ kind := .belongsTo, target := .str "Post", foreignKey := .str "postId" },
        { kind := .belongsTo, target := .str "Remark", foreignKey := .str "parentId" }] },
   { name := .str "Post"
     pluralizeTableName := .bool true
     relationships :=
       [{ kind := .belongsTo, target := .str "Author", foreignKey := .str "authorId" },
        { kind := .belongsTo, target := .str "Forum", foreignKey := .str "forumId" }] },
   { name := .str "Author", tableName := .str "people", freezeTableName := .bool true }]

/-- A directory with one view. -/
def forumFiles : Files :=
  FileTree.files [(["views", "latest.sql"], "SELECT 1".toList.map fun c => c.toNat.toUInt8)]

/-- The tables of statements with those that their foreign keys refer to. -/
def tableNames (statements : List SchemaStatement) : List (String × List String) :=
  (statements.filterMap SchemaStatement.table?).map fun t => (t.name, t.foreignKeys.map (·.table))

theorem not_transGen_forumDefinitions (name : String) :
    ¬ TransGen (Depends forumDefinitions) name name := by
  refine Registry.not_transGen_of_rank (["Author", "Post", "Remark"].idxOf ·) ?_ name
  have hrank : ∀ d ∈ forumDefinitions, ∀ name ∈ d.name.text?, ∀ rel ∈ d.relationships,
      ∀ target ∈ rel.target.text?, target ∈ givenNames forumDefinitions → target ≠ name →
        ["Author", "Post", "Remark"].idxOf target < ["Author", "Post", "Remark"].idxOf name := by
    decide +kernel
  rintro target name ⟨htarget, hne, d, hd, hname, rel, hrel, -, ht⟩
  exact hrank d hd name hname rel hrel target ht htarget hne

/-- Their tables are made with authors first and remarks last. -/
theorem madeInOrder_of_forum :
    (givenNames forumDefinitions).Nodup ∧
      (∀ name, ¬ TransGen (Depends forumDefinitions) name name) ∧
      ∃ (statements : List SchemaStatement) (order : List ModelDefinition)
        (models : List ResolvedModel),
        schemaWithViews forumFiles (some ⟨"", ["views"]⟩) forumDefinitions = .ok statements ∧
        order.Perm forumDefinitions ∧ order.mapM resolve = .ok models ∧
        MadeInOrder models (statements.filterMap SchemaStatement.table?) ∧
        tableNames statements =
          [("people", []), ("Posts", ["people", "Forum"]), ("remarks", ["Posts", "remarks"])] := by
  have hnames : (givenNames forumDefinitions).Nodup := by decide +kernel
  have hruns : ((schemaWithViews forumFiles (some ⟨"", ["views"]⟩) forumDefinitions).toOption.map
      fun statements => tableNames statements) = some
        [("people", []), ("Posts", ["people", "Forum"]), ("remarks", ["Posts", "remarks"])] := by
    decide +kernel
  obtain ⟨statements, hstatements, htables⟩ := Option.map_eq_some_iff.1 hruns
  have hschema := eq_ok_of_toOption hstatements
  obtain ⟨order, models, hperm, hmodels, hmade⟩ :=
    madeInOrder_of_schema hnames not_transGen_forumDefinitions hschema
  exact ⟨hnames, not_transGen_forumDefinitions, statements, order, models, hschema, hperm, hmodels,
    hmade, htables⟩

end ModelDefinition

end Tablewright
