import Tablewright.Proofs.Catalog

/-!
# Which definitions of a file are compiled

The definitions of a file are stored under their names before they are put in order, so a definition
takes the place of an earlier one of its name: of those with one name the last is kept
(`ModelDefinition.lastOfName`). Every definition that is kept is compiled to one table, whatever
depends on what. So the tables of a file are those of its definitions, one for each, exactly if no
two have one name (`ModelDefinition.madeFrom_of_schema`).
-/

namespace Tablewright

open Fallible

namespace ModelDefinition

variable {ds order : List ModelDefinition} {statements : List SchemaStatement}

/-- The definitions of a list whose name no later one has. -/
def lastOfName (ds : List ModelDefinition) : List ModelDefinition :=
  (Named.latest (ds.map entry)).map (·.2)

/-- Some tables are those of some definitions, one for each, in some order. -/
def MadeFrom (tables : Mapping) (ds : List ModelDefinition) (made : List CreateTable) : Prop :=
  ∃ order : List ModelDefinition, order.Perm ds ∧
    List.Forall₂ (fun d t => ∃ m, d.resolve = .ok m ∧ m.createTable tables = .ok t) order made

/-- There are as many tables as definitions. -/
theorem MadeFrom.length_eq {tables : Mapping} {made : List CreateTable}
    (h : MadeFrom tables ds made) : made.length = ds.length := by
  obtain ⟨order, hperm, hmade⟩ := h
  rw [← hmade.length_eq, hperm.length_eq]

theorem lastOfName_sublist (ds : List ModelDefinition) : (lastOfName ds).Sublist ds := by
  have hentries : (lastOfName ds).Sublist ((ds.map entry).map Prod.snd) :=
    (Named.latest_sublist (ds.map entry)).map Prod.snd
  have hself : (ds.map entry).map Prod.snd = ds := by
    rw [List.map_map]
    exact List.map_id ds
  rwa [hself] at hentries

/-- **No definition is replaced exactly if no two have one name.** -/
theorem length_lastOfName_eq_iff (h : ∀ d ∈ ds, ∃ m, d.resolve = .ok m) :
    (lastOfName ds).length = ds.length ↔ (givenNames ds).Nodup := by
  have hnames : Named.names (ds.map entry) = givenNames ds := by
    rw [givenNames_of_resolves h, Named.names, List.map_map]
    rfl
  rw [← hnames, ← Named.latest_eq_self_iff, ← (Named.latest_sublist _).length_eq, lastOfName,
    List.length_map, List.length_map]

/-- **Which definitions are put in order**: of those with one name the last. -/
theorem perm_of_inCreationOrder (h : inCreationOrder ds = .ok order) :
    (∀ d ∈ ds, ∃ m, d.resolve = .ok m) ∧ order.Perm (lastOfName ds) := by
  obtain ⟨c, hc, h⟩ := bind_eq_ok.1 h
  obtain ⟨hdefinitions, -⟩ := Catalog.foldlM_add_eq_ok hc
  have hnd : c.definitions.names.Nodup := by
    rw [hdefinitions]
    exact Named.nodup_names_union List.nodup_nil
  refine ⟨Catalog.exists_resolve_of_foldlM_add hc, (Catalog.perm_of_ordered hnd h).trans ?_⟩
  rw [hdefinitions]
  exact (Named.perm_latest (ds.map entry)).map _

/-- **Which tables are made of a list of definitions.** Whatever the definitions are, and whatever
depends on what, one table is made for each that no later one of its name replaces, compiled from
that definition against the tables of all; so the tables are those of the whole list, one for each
definition, exactly if no two definitions have one name. -/
theorem madeFrom_of_schema {files : Files} {views : Option Path}
    (h : schemaWithViews files views ds = .ok statements) :
    ∃ (order : List ModelDefinition) (models : List ResolvedModel),
      order.Perm (lastOfName ds) ∧ order.mapM resolve = .ok models ∧
      MadeFrom (tablesOf models) (lastOfName ds)
        (statements.filterMap SchemaStatement.table?) ∧
      (MadeFrom (tablesOf models) ds (statements.filterMap SchemaStatement.table?) ↔
        (givenNames ds).Nodup) := by
  obtain ⟨own, hown, htables⟩ := schemaWithViews_eq_ok h
  obtain ⟨order, horder, hown⟩ := bind_eq_ok.1 hown
  obtain ⟨models, hmodels, hown⟩ := bind_eq_ok.1 hown
  obtain ⟨schemas, hschemas, hown⟩ := bind_eq_ok.1 hown
  obtain ⟨hresolves, hperm⟩ := perm_of_inCreationOrder horder
  have hlast : MadeFrom (tablesOf models) (lastOfName ds)
      (statements.filterMap SchemaStatement.table?) := by
    rw [htables, ← pure_eq_ok.1 hown]
    refine ⟨order, hperm, ?_⟩
    exact forall₂_trans (fun d m t hm ht => ⟨m, hm, ht⟩) (mapM_eq_ok.1 hmodels)
      (tables_of_schemas hschemas)
  refine ⟨order, models, hperm, hmodels, hlast, fun hall => ?_, fun hnames => ?_⟩
  · -- a definition that was replaced has no table, so there are too few
    rw [← length_lastOfName_eq_iff hresolves, ← hlast.length_eq, hall.length_eq]
  · have hkept : lastOfName ds = ds :=
      (lastOfName_sublist ds).eq_of_length ((length_lastOfName_eq_iff hresolves).2 hnames)
    rwa [hkept] at hlast

/-- Two definitions that belong to each other, and the first to itself; the second has the given
name. -/
def mutualDefinitions (second : String) : List ModelDefinition :=
  [{ name := .str "User"
     columns := [(.str "email", { type := .str "TEXT" })]
     relationships :=
       [{ kind := .belongsTo, target := .str "Team", foreignKey := .str "teamId" },
        { kind := .belongsTo, target := .str "User", foreignKey := .str "managerId" }] },
   { name := .str second
     columns := [(.str "title", { type := .str "TEXT" })]
     relationships := [{ kind := .belongsTo, target := .str "User",
                         foreignKey := .str "leaderId" }] }]

/-- **Each is compiled under names of their own**, and no longer if they have one name. -/
theorem madeFrom_of_mutualDefinitions :
    (∃ statements tables,
      schemaWithViews (FileTree.files []) none (mutualDefinitions "Team") = .ok statements ∧
      MadeFrom tables (mutualDefinitions "Team")
        (statements.filterMap SchemaStatement.table?)) ∧
    ∃ statements tables,
      schemaWithViews (FileTree.files []) none (mutualDefinitions "User") = .ok statements ∧
      ¬ MadeFrom tables (mutualDefinitions "User")
        (statements.filterMap SchemaStatement.table?) := by
  have hcase : ∀ second, ((schemaWithViews (FileTree.files []) none
      (mutualDefinitions second)).toOption.isSome = true) → ∃ statements tables,
        schemaWithViews (FileTree.files []) none (mutualDefinitions second) = .ok statements ∧
        (MadeFrom tables (mutualDefinitions second)
          (statements.filterMap SchemaStatement.table?) ↔
            (givenNames (mutualDefinitions second)).Nodup) := by
    intro second hsome
    obtain ⟨statements, hstatements⟩ := Option.isSome_iff_exists.1 hsome
    have hschema := eq_ok_of_toOption hstatements
    obtain ⟨order, models, -, -, -, hiff⟩ := madeFrom_of_schema hschema
    exact ⟨statements, tablesOf models, hschema, hiff⟩
  obtain ⟨statements, tables, hschema, hall⟩ := hcase "Team" (by decide +kernel)
  obtain ⟨statements', tables', hschema', hnone⟩ := hcase "User" (by decide +kernel)
  exact ⟨⟨statements, tables, hschema, hall.2 (by decide +kernel)⟩,
    statements', tables', hschema', mt hnone.1 (by decide +kernel)⟩

end ModelDefinition

end Tablewright
