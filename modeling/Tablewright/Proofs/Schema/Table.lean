import Tablewright.Proofs.Value.Access
import Tablewright.Schema.Table

/-!
# What a table is made of

A table made for a model takes its columns from the columns of the model, its foreign keys from the
relationships and its constraints from the declared ones (`CreateTable.MadeFor`), in order. What a
constraint comes to is told by the word that its type spells and by the columns it names
(`Constraint.Demands`); a constraint that lacks something is left out.
-/

namespace Tablewright

open Fallible

/-- A column's clause has the name of the column, says whether it is the primary key, and refers to
what the column does. -/
theorem Column.clause_eq_ok {name : String} {c : Column} {clause : ColumnClause}
    (h : c.clause name = .ok clause) :
    clause.name = name ∧ clause.primaryKey = c.primaryKey.truthy ∧
      c.referenceClause = .ok clause.reference := by
  obtain ⟨storage, -, h⟩ := bind_eq_ok.1 h
  obtain ⟨allowNull, -, h⟩ := bind_eq_ok.1 h
  obtain ⟨primaryKey, hprimary, h⟩ := bind_eq_ok.1 h
  obtain ⟨numbered, -, h⟩ := ite_bind_eq_ok.1 h
  obtain ⟨unique, -, h⟩ := bind_eq_ok.1 h
  obtain ⟨default?, -, h⟩ := bind_eq_ok.1 h
  obtain ⟨check, -, h⟩ := bind_eq_ok.1 h
  obtain ⟨collate, -, h⟩ := bind_eq_ok.1 h
  obtain ⟨generated, -, h⟩ := bind_eq_ok.1 h
  obtain ⟨reference, hreference, h⟩ := bind_eq_ok.1 h
  rw [← pure_eq_ok.1 h]
  exact ⟨rfl, (Value.truth_eq_ok.1 hprimary).2.symm, hreference⟩

/-! ## Constraints -/

namespace ConstraintBody

/-- The columns of the table that are constrained. -/
def columns : ConstraintBody → List String
  | check _ => []
  | unique columns => columns
  | primaryKey columns => columns
  | foreignKey columns _ _ _ => columns

/-- The primary key that the constraint declares, by its columns; none if it is of another kind. -/
def keys : ConstraintBody → List (List String)
  | primaryKey columns => [columns]
  | _ => []

end ConstraintBody

namespace Constraint

variable {c : Constraint}

/-- The word that the type of a constraint spells; letters count in lower case, dashes as
underscores. -/
def word (c : Constraint) : String :=
  Text.replaceChar '-' ['_'] (Text.lower (if c.type.truthy then c.type.text?.getD "" else ""))

/-- The columns that a constraint names. -/
def columnNames (c : Constraint) : List String :=
  (c.columns.orEmptyList >>= Value.texts).toOption.getD []

/-- Whether the columns of a constraint can be written down. -/
def namesColumns (c : Constraint) : Bool :=
  commas c.columnNames != ""

/-- Whether the type spells a primary key. -/
def spellsPrimaryKey (c : Constraint) : Bool :=
  c.word == "primary_key" || c.word == "primarykey"

/-- Whether the type spells a foreign key. -/
def spellsForeignKey (c : Constraint) : Bool :=
  c.word == "foreign_key" || c.word == "foreignkey"

/-- Whether a constraint is one on columns and lacks nothing. -/
def bindsColumns (c : Constraint) : Bool :=
  (c.word == "unique" || c.spellsPrimaryKey || c.spellsForeignKey && c.references.truthy) &&
    c.namesColumns

/-- The columns that a constraint constrains, if it is one on columns. -/
def boundColumns (c : Constraint) : List String :=
  if c.bindsColumns then c.columnNames else []

/-- The primary key that a constraint puts into the table, by its columns, if it does. -/
def keys (c : Constraint) : List (List String) :=
  if c.spellsPrimaryKey && c.namesColumns then [c.columnNames] else []

/-- **What a constraint comes to**, by the word that its type spells. -/
inductive Demands (c : Constraint) : Option ConstraintBody → Prop
  | check {expression : Option String} (hword : c.word = "check") :
      Demands c (expression.map .check)
  | unique (hword : c.word = "unique") (hcolumns : c.namesColumns = true) :
      Demands c (some (.unique c.columnNames))
  | primaryKey (hword : c.spellsPrimaryKey = true) (hcolumns : c.namesColumns = true) :
      Demands c (some (.primaryKey c.columnNames))
  | foreignKey {table : String} {keys : List String} {actions : ReferentialActions}
      (hword : c.spellsForeignKey = true) (hcolumns : c.namesColumns = true)
      (hreferences : c.references.truthy = true)
      (hactions : referentialActionsOf c.onDelete c.onUpdate = .ok actions) :
      Demands c (some (.foreignKey c.columnNames table keys actions))
  | incomplete (hincomplete : c.bindsColumns = false) : Demands c none

/-- The text of a type; a constraint without one counts as having an empty one. -/
theorem eq_text_of_type {type : Value} {s : String} (htype : c.type.orElse (.str "") = .ok type)
    (hs : type.abilityText = .ok s) :
    s = if c.type.truthy then c.type.text?.getD "" else "" := by
  have htext : type.text? = some s := Value.text?_of_abilityText hs
  obtain ⟨given, hgiven, htype⟩ := bind_eq_ok.1 htype
  obtain rfl := pure_eq_ok.1 htype
  rw [(Value.truth_eq_ok.1 hgiven).2]
  cases given with
  | true =>
    rw [if_pos rfl] at htext ⊢
    rw [htext, Option.getD_some]
  | false => exact (Option.some_inj.1 htext).symm

/-- **A constraint comes to what its type and its columns say.** -/
theorem demands_of_body? {body? : Option ConstraintBody} (h : c.body? = .ok body?) :
    c.Demands body? := by
  obtain ⟨type, htype, h⟩ := bind_eq_ok.1 h
  obtain ⟨s, hs, h⟩ := bind_eq_ok.1 h
  obtain ⟨v, hv, h⟩ := bind_eq_ok.1 h
  obtain ⟨columns, hcolumns, h⟩ := bind_eq_ok.1 h
  obtain rfl := eq_text_of_type htype hs
  have hnames : columns = c.columnNames := by
    rw [columnNames, ok_bind hv, hcolumns]
    rfl
  subst hnames
  replace h : (if c.word == "check" then (do pure ((← given? c.expression).map .check))
      else if c.word == "unique" && c.namesColumns then pure (some (.unique c.columnNames))
      else if c.spellsPrimaryKey && c.namesColumns then pure (some (.primaryKey c.columnNames))
      else if c.spellsForeignKey && c.namesColumns then do
        if ← c.references.truth then
          let keys ← referencedColumns c.references
          let table ← referencedTable c.references
          let keys ← keys.texts
          let actions ← referentialActionsOf c.onDelete c.onUpdate
          pure (some (.foreignKey c.columnNames table.display keys actions))
        else pure none
      else pure none : Except Fault (Option ConstraintBody)) = .ok body? := h
  split at h
  · rename_i hword
    obtain ⟨expression, -, h⟩ := bind_eq_ok.1 h
    exact pure_eq_ok.1 h ▸ .check (beq_iff_eq.1 hword)
  split at h
  · rename_i hword
    rw [Bool.and_eq_true, beq_iff_eq] at hword
    exact pure_eq_ok.1 h ▸ .unique hword.1 hword.2
  rename_i hunique
  split at h
  · rename_i hword
    rw [Bool.and_eq_true] at hword
    exact pure_eq_ok.1 h ▸ .primaryKey hword.1 hword.2
  rename_i hprimary
  split at h
  · rename_i hword
    rw [Bool.and_eq_true] at hword
    obtain ⟨refers, hrefers, h⟩ := bind_eq_ok.1 h
    have hreferences : c.references.truthy = refers := (Value.truth_eq_ok.1 hrefers).2
    cases refers with
    | true =>
      obtain ⟨keys, -, h⟩ := bind_eq_ok.1 h
      obtain ⟨table, -, h⟩ := bind_eq_ok.1 h
      obtain ⟨keys, -, h⟩ := bind_eq_ok.1 h
      obtain ⟨actions, hactions, h⟩ := bind_eq_ok.1 h
      exact pure_eq_ok.1 h ▸ .foreignKey hword.1 hword.2 hreferences hactions
    | false =>
      refine pure_eq_ok.1 h ▸ .incomplete ?_
      grind [bindsColumns]
  · rename_i hforeign
    refine pure_eq_ok.1 h ▸ .incomplete ?_
    grind [bindsColumns]

/-- A constraint that comes to something is named, if at all, and does not change by that. -/
theorem body?_of_clause? {clause? : Option TableConstraint} (h : c.clause? = .ok clause?) :
    c.body? = .ok (clause?.map (·.body)) := by
  obtain ⟨body?, hbody, h⟩ := bind_eq_ok.1 h
  rw [hbody]
  cases body? with
  | none => rw [← pure_eq_ok.1 h]; rfl
  | some body =>
    obtain ⟨name, -, h⟩ := bind_eq_ok.1 h
    rw [← pure_eq_ok.1 h]
    rfl

namespace Demands

variable {body? : Option ConstraintBody}

/-- The columns that are constrained are those the constraint names. -/
theorem columns_eq (h : c.Demands body?) :
    (body?.map ConstraintBody.columns).getD [] = c.boundColumns := by
  cases h with
  | @check expression hword =>
    have hbinds : c.bindsColumns = false := by
      simp [bindsColumns, spellsPrimaryKey, spellsForeignKey, hword]
    rw [boundColumns, hbinds, if_neg Bool.false_ne_true]
    cases expression <;> rfl
  | unique hword hcolumns =>
    simp [boundColumns, bindsColumns, hword, hcolumns, ConstraintBody.columns]
  | primaryKey hword hcolumns =>
    simp [boundColumns, bindsColumns, hword, hcolumns, ConstraintBody.columns]
  | foreignKey hword hcolumns hreferences _ =>
    simp [boundColumns, bindsColumns, hword, hcolumns, hreferences, ConstraintBody.columns]
  | incomplete hincomplete => rw [boundColumns, hincomplete, if_neg Bool.false_ne_true]; rfl

/-- It is a primary key exactly if its type spells one and it names columns. -/
theorem keys_eq (h : c.Demands body?) : (body?.map ConstraintBody.keys).getD [] = c.keys := by
  cases h with
  | @check expression hword =>
    cases expression <;> simp [Constraint.keys, spellsPrimaryKey, hword, ConstraintBody.keys]
  | unique hword hcolumns => simp [Constraint.keys, spellsPrimaryKey, hword, ConstraintBody.keys]
  | primaryKey hword hcolumns => simp [Constraint.keys, hword, hcolumns, ConstraintBody.keys]
  | foreignKey hword hcolumns hreferences _ =>
    have hother : c.spellsPrimaryKey = false := by
      grind [spellsForeignKey, spellsPrimaryKey]
    simp [Constraint.keys, hother, ConstraintBody.keys]
  | incomplete hincomplete =>
    have hother : (c.spellsPrimaryKey && c.namesColumns) = false := by
      grind [bindsColumns]
    rw [Constraint.keys, hother, if_neg Bool.false_ne_true]
    rfl

end Demands

end Constraint

/-! ## Tables -/

/-- What the parts of a table made for a model are compiled from. -/
structure CreateTable.MadeFor (t : CreateTable) (m : ResolvedModel) (tables : Mapping) : Prop where
  /-- The table has the name that the model gives it. -/
  name : t.name = m.tableName
  /-- Its columns are those of the model. -/
  columns : (m.columns.mapM fun (name, c) => c.clause name) = .ok t.columns
  /-- Its foreign keys are those of the relationships. -/
  foreignKeys : m.foreignKeys tables = .ok t.foreignKeys
  /-- Its constraints are the declared ones that are complete. -/
  constraints : ∃ clauses, m.definition.constraints.mapM Constraint.clause? = .ok clauses ∧
    t.constraints = clauses.filterMap id

/-- **What a table made for a model is made of.** -/
theorem ResolvedModel.madeFor_of_createTable {m : ResolvedModel} {tables : Mapping}
    {t : CreateTable} (h : m.createTable tables = .ok t) : t.MadeFor m tables := by
  obtain ⟨columns, hcolumns, h⟩ := bind_eq_ok.1 h
  obtain ⟨keys, hkeys, h⟩ := bind_eq_ok.1 h
  obtain ⟨constraints, hconstraints, h⟩ := bind_eq_ok.1 h
  obtain ⟨ifNotExists, -, h⟩ := bind_eq_ok.1 h
  obtain ⟨withoutRowid, -, h⟩ := bind_eq_ok.1 h
  obtain ⟨strict, -, h⟩ := bind_eq_ok.1 h
  rw [← pure_eq_ok.1 h]
  exact ⟨rfl, hcolumns, hkeys, constraints, hconstraints, rfl⟩

/-- **The constraints of a table come from the declared ones, one after the other**, in whatever
their bodies are told by. -/
theorem CreateTable.MadeFor.flatMap_constraints {α : Type} {t : CreateTable} {m : ResolvedModel}
    {tables : Mapping} {f : Constraint → List α} {g : ConstraintBody → List α}
    (hmade : t.MadeFor m tables)
    (hfg : ∀ c body?, Constraint.Demands c body? → (body?.map g).getD [] = f c) :
    (t.constraints.flatMap fun c => g c.body) = m.definition.constraints.flatMap f := by
  obtain ⟨clauses, hclauses, hconstraints⟩ := hmade.constraints
  rw [hconstraints]
  have hitems := mapM_eq_ok.1 hclauses
  clear hclauses hconstraints hmade
  generalize m.definition.constraints = declared at hitems ⊢
  induction hitems with
  | nil => rfl
  | @cons c clause? cs clauses hclause _ ih =>
    rw [List.flatMap_cons, ← ih,
      ← hfg c _ (Constraint.demands_of_body? (Constraint.body?_of_clause? hclause))]
    cases clause? <;> rfl

end Tablewright
