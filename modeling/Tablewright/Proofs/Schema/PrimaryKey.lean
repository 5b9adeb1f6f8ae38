import Tablewright.Proofs.DeclaredColumns
import Tablewright.Proofs.Schema.Table

/-!
# How many primary keys a table has

A column may be flagged as primary key, and constraints may declare one. Resolving adds a column for
the key unless a constraint announces it, and looks for one spelling of its type; the table takes
every spelling, but leaves out a constraint that names no columns. So the two may disagree, and the
table may end up with two keys or with none: `DefinitionSource.primaryKeys_of_createTable` tells
when.
-/

namespace Tablewright

open Fallible

/-! ## Keys of a statement -/

/-- The primary keys that a statement declares, each by its columns: first the flagged columns, then
the constraints. -/
def CreateTable.primaryKeys (t : CreateTable) : List (List String) :=
  ((t.columns.filter (·.primaryKey)).map fun c => [c.name]) ++ t.constraints.flatMap (·.body.keys)

namespace ResolvedModel

variable {m : ResolvedModel} {tables : Mapping} {t : CreateTable}

/-- The primary keys that the constraints of a model put into its table. -/
def constraintKeys (m : ResolvedModel) : List (List String) :=
  m.definition.constraints.flatMap Constraint.keys

/-- The clauses of flagged columns are those that say primary key. -/
theorem names_of_flagged_clauses {columns : Named Column} {clauses : List ColumnClause}
    (h : List.Forall₂ (fun e clause => Column.clause e.1 e.2 = .ok clause) columns clauses) :
    (clauses.filter (·.primaryKey)).map (·.name) =
      Named.names (columns.filter fun e => e.2.primaryKey.truthy) := by
  induction h with
  | nil => rfl
  | cons hclause _ ih =>
    obtain ⟨hname, hflag, -⟩ := Column.clause_eq_ok hclause
    rw [List.filter_cons, List.filter_cons, hflag]
    split
    · rw [List.map_cons, Named.names_cons, ih, hname]
    · exact ih

/-- **The keys of a table are the flagged columns of the model and those of its constraints.** -/
theorem primaryKeys_eq (h : t.MadeFor m tables) :
    t.primaryKeys = (m.flaggedNames.map fun c => [c]) ++ m.constraintKeys := by
  have hflagged : (t.columns.filter (·.primaryKey)).map (·.name) = m.flaggedNames :=
    names_of_flagged_clauses (mapM_eq_ok.1 h.columns)
  rw [CreateTable.primaryKeys, ← hflagged, List.map_map, constraintKeys,
    h.flatMap_constraints fun _ _ hdemands => hdemands.keys_eq]
  rfl

/-! ## The flagged column -/

/-- A declared column is stored under the name. -/
def Declares (m : ResolvedModel) (c : String) : Prop :=
  ∃ e ∈ m.definition.columns, m.storedName e.1 = c

/-- A declared column is flagged as primary key. -/
def FlagsDeclared (m : ResolvedModel) : Prop :=
  ∃ c ∈ m.flaggedNames, m.Declares c

/-- A constraint announces the primary key, in the spelling that resolving looks for. -/
def AnnouncesKey (m : ResolvedModel) : Prop :=
  ∃ c ∈ m.definition.constraints, c.isPrimaryKey = .ok true

/-- Which column of a model is flagged as primary key. -/
inductive Flagged (m : ResolvedModel) : Prop
  /-- One that the definition flags. -/
  | declared {c : String} (hflagged : m.flaggedNames = [c]) (hdeclared : m.Declares c)
  /-- One that is added, since the name is free and no constraint announces the key. -/
  | added (hflagged : m.flaggedNames = ["id"]) (hfree : ¬ m.Declares "id")
      (hsilent : ¬ m.AnnouncesKey)
  /-- None, since the name is taken or a constraint announces the key. -/
  | none (hflagged : m.flaggedNames = []) (htaken : m.Declares "id" ∨ m.AnnouncesKey)

end ResolvedModel

/-- **Which column resolving leaves flagged.** -/
theorem ModelDefinition.flagged_of_resolveWith {d : ModelDefinition} {name table : String}
    {m : ResolvedModel} (h : d.resolveWith name table = .ok m) : m.Flagged := by
  obtain ⟨declared, start, hdeclared, hfew, hstart, hstage, -, hdefinition⟩ :=
    exists_stage_of_resolveWith h
  have hplan := ColumnPlan.declared_declaredColumns hdeclared
  have hflagged : m.flaggedNames = start.keys := hstage.keys
  have hnames : ∀ c, m.Declares c ↔ c ∈ declared.columns.names := by
    intro c
    rw [ColumnPlan.mem_names_declaredColumns hdeclared, ResolvedModel.Declares, hdefinition]
    simp only [ResolvedModel.storedName, hdefinition]
  rcases withId_eq_ok hstart with ⟨hnone, hnew, hsilent, rowid, rfl⟩ | ⟨rfl, htaken⟩
  · refine .added ?_ (mt (hnames "id").1 hnew) ?_
    · rw [hflagged, hplan.keys_putFirst hnew rfl, hnone]
    · rintro ⟨c, hc, hannounces⟩
      rw [hdefinition] at hc
      rw [hsilent c hc] at hannounces
      cases hannounces
  · cases hkeys : start.keys with
    | nil =>
      refine .none (hflagged.trans hkeys) ?_
      rw [hnames, ResolvedModel.AnnouncesKey, hdefinition]
      exact htaken hkeys
    | cons c others =>
      rw [hkeys, List.length_cons] at hfew
      obtain rfl : others = [] := List.eq_nil_of_length_eq_zero (by omega)
      refine .declared (hflagged.trans hkeys) ((hnames c).2 (start.keys_subset ?_))
      rw [hkeys]
      exact List.mem_cons_self

/-! ## Models -/

/-- **How many primary keys a table has.** At most one, exactly if no constraint puts one into it,
or one does and neither a declared nor an added column is flagged beside it; and where no declared
column has the name of the added one, exactly one if either a column is flagged or a constraint that
is announced puts it in, but not both. -/
theorem DefinitionSource.primaryKeys_of_createTable {source : DefinitionSource} {m : ResolvedModel}
    {tables : Mapping} {t : CreateTable} (h : source.resolve = .ok m)
    (ht : m.createTable tables = .ok t) :
    t.primaryKeys = (m.flaggedNames.map fun c => [c]) ++ m.constraintKeys ∧
      (t.primaryKeys.length ≤ 1 ↔ m.constraintKeys = [] ∨
        m.constraintKeys.length = 1 ∧ ¬ m.FlagsDeclared ∧
          (m.Declares "id" ∨ m.AnnouncesKey)) ∧
      (¬ m.Declares "id" → (t.primaryKeys.length = 1 ↔
        (m.FlagsDeclared ∨ ¬ m.AnnouncesKey) ∧ m.constraintKeys = [] ∨
          ¬ m.FlagsDeclared ∧ m.AnnouncesKey ∧ m.constraintKeys.length = 1)) := by
  have hkeys : t.primaryKeys = (m.flaggedNames.map fun c => [c]) ++ m.constraintKeys :=
    ResolvedModel.primaryKeys_eq (ResolvedModel.madeFor_of_createTable ht)
  have hlength : t.primaryKeys.length = m.flaggedNames.length + m.constraintKeys.length := by
    rw [hkeys, List.length_append, List.length_map]
  obtain ⟨d, name, table, -, hm⟩ := DefinitionSource.exists_resolveWith h
  refine ⟨hkeys, ?_⟩
  rw [hlength, ← List.length_eq_zero_iff]
  cases ModelDefinition.flagged_of_resolveWith hm with
  | @declared c hflagged hdeclared =>
    have hflags : m.FlagsDeclared := ⟨c, by rw [hflagged]; exact List.mem_cons_self, hdeclared⟩
    rw [hflagged, List.length_singleton]
    refine ⟨?_, fun _ => ?_⟩
    all_goals simp only [hflags, not_true_eq_false, true_or, true_and, false_and, and_false,
      or_false]; omega
  | added hflagged hfree hsilent =>
    have hflags : ¬ m.FlagsDeclared := by
      rintro ⟨c, hc, hdeclared⟩
      rw [hflagged, List.mem_singleton] at hc
      exact hfree (hc ▸ hdeclared)
    rw [hflagged, List.length_singleton]
    refine ⟨?_, fun _ => ?_⟩
    all_goals simp only [hflags, hfree, hsilent, not_false_eq_true, or_self, or_true, true_and,
      false_and, and_false, or_false]; omega
  | none hflagged htaken =>
    have hflags : ¬ m.FlagsDeclared := by
      rintro ⟨c, hc, -⟩
      rw [hflagged] at hc
      exact List.not_mem_nil hc
    rw [hflagged, List.length_nil, Nat.zero_add]
    refine ⟨?_, fun hfree => ?_⟩
    · simp only [hflags, htaken, not_false_eq_true, and_true]; omega
    · have hannounces : m.AnnouncesKey := htaken.resolve_left hfree
      simp only [hflags, hannounces, not_true_eq_false, or_self, false_and, not_false_eq_true,
        true_and, false_or]

/-- A table of pairs whose key is left to a constraint. -/
def membershipDefinition (key : Constraint) : ModelDefinition :=
  { name := .str "Membership"
    timestamps := .bool false
    columns := [(.str "a", { type := .str "INTEGER" }), (.str "b", { type := .str "INTEGER" })]
    constraints := [key] }

/-- **One key, two and none**: as the type of the constraint is spelled, and as it names columns. -/
theorem primaryKeys_of_memberships :
    (∃ m t, (DefinitionSource.built (membershipDefinition
        { type := .str "primary_key", columns := .ofTexts ["a", "b"] })).resolve = .ok m ∧
      m.createTable [] = .ok t ∧ t.primaryKeys = [["a", "b"]]) ∧
    (∃ m t, (DefinitionSource.built (membershipDefinition
        { type := .str "primaryKey", columns := .ofTexts ["a", "b"] })).resolve = .ok m ∧
      m.createTable [] = .ok t ∧ t.primaryKeys = [["id"], ["a", "b"]]) ∧
    ∃ m t, (DefinitionSource.built (membershipDefinition
        { type := .str "primary_key" })).resolve = .ok m ∧
      m.createTable [] = .ok t ∧ t.primaryKeys = [] := by
  have hcase : ∀ (key : Constraint) (flagged : List String) (keys : List (List String)),
      (∃ m, (DefinitionSource.built (membershipDefinition key)).resolve = .ok m ∧
        m.flaggedNames = flagged ∧ m.constraintKeys = keys ∧
          (m.createTable []).toOption.isSome = true) →
      ∃ m t, (DefinitionSource.built (membershipDefinition key)).resolve = .ok m ∧
        m.createTable [] = .ok t ∧ t.primaryKeys = (flagged.map fun c => [c]) ++ keys := by
    rintro key _ _ ⟨m, hm, rfl, rfl, hsome⟩
    obtain ⟨t, ht⟩ := Option.isSome_iff_exists.1 hsome
    exact ⟨m, t, hm, eq_ok_of_toOption ht,
      (DefinitionSource.primaryKeys_of_createTable hm (eq_ok_of_toOption ht)).1⟩
  exact ⟨hcase _ [] [["a", "b"]] (exists_resolve_of_decide _ _ (by decide +kernel)),
    hcase _ ["id"] [["a", "b"]] (exists_resolve_of_decide _ _ (by decide +kernel)),
    hcase _ [] [] (exists_resolve_of_decide _ _ (by decide +kernel))⟩

end Tablewright
