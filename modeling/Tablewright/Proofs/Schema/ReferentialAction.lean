import Tablewright.Proofs.DeclaredColumns
import Tablewright.Proofs.Schema.ForeignKey
import Tablewright.Proofs.Schema.Table
import Tablewright.Proofs.Session.Schema

/-!
# The referential actions of a table

Columns, relationships and constraints may say what happens to a row when the row it refers to goes
or changes. Whatever is given for that is written in upper case (`Value.writtenAction`). Resolving
checks the actions of columns, so those are known to the engine. It checks no others: a table has
the actions of its relationships and constraints as they are given
(`ResolvedModel.uncheckedActions`), and all of its actions are known exactly if these are
(`DefinitionSource.actions_of_schema`).
-/

namespace Tablewright

open Fallible

/-! ## Actions of a statement -/

/-- The actions that are given. -/
def ReferentialActions.texts (a : ReferentialActions) : List String :=
  a.onDelete.toList ++ a.onUpdate.toList

/-- The actions in a clause of a column. -/
def ColumnClause.actions (c : ColumnClause) : List String :=
  (c.reference.map fun r => r.actions.texts).getD []

/-- The actions in a constraint. -/
def ConstraintBody.actions : ConstraintBody → List String
  | foreignKey _ _ _ actions => actions.texts
  | _ => []

/-- All actions in the statement that makes a table. -/
def CreateTable.actions (t : CreateTable) : List String :=
  t.columns.flatMap ColumnClause.actions ++ t.foreignKeys.flatMap (·.actions.texts) ++
    t.constraints.flatMap (·.body.actions)

/-- The engine knows all of some actions. -/
def AreKnownActions (actions : List String) : Prop :=
  ∀ a ∈ actions, a ∈ referentialActions

instance (actions : List String) : Decidable (AreKnownActions actions) :=
  inferInstanceAs (Decidable (∀ a ∈ actions, a ∈ referentialActions))

/-! ## Actions of a definition -/

/-- The text that is written for an action, if one is given. -/
def Value.writtenAction (v : Value) : Option String :=
  if v.truthy then v.upperCase.toOption.map Value.display else none

/-- The actions that a relationship writes into its foreign key. -/
def Relationship.writtenActions (r : Relationship) : List String :=
  r.onDelete.writtenAction.toList ++ r.onUpdate.writtenAction.toList

/-- The actions that a constraint writes, which it does if it is a foreign key that lacks
nothing. -/
def Constraint.writtenActions (c : Constraint) : List String :=
  if c.spellsForeignKey && c.namesColumns && c.references.truthy then
    c.onDelete.writtenAction.toList ++ c.onUpdate.writtenAction.toList
  else []

/-- The actions of a model that nothing checks. -/
def ResolvedModel.uncheckedActions (m : ResolvedModel) : List String :=
  m.references.flatMap Relationship.writtenActions ++
    m.definition.constraints.flatMap Constraint.writtenActions

/-! ## What is written -/

variable {v w : Value} {a : String} {actions : ReferentialActions}

theorem action?_eq_ok {text? : Option String} (h : action? v = .ok text?) :
    text? = v.writtenAction := by
  obtain ⟨given, hgiven, h⟩ := bind_eq_ok.1 h
  rw [Value.writtenAction, (Value.truth_eq_ok.1 hgiven).2]
  cases given with
  | false => exact (pure_eq_ok.1 h).symm
  | true =>
    obtain ⟨upper, hupper, h⟩ := bind_eq_ok.1 h
    rw [if_pos rfl, hupper]
    exact (pure_eq_ok.1 h).symm

/-- **What is given for the actions is written**, whatever it is. -/
theorem texts_of_referentialActionsOf (h : referentialActionsOf v w = .ok actions) :
    actions.texts = v.writtenAction.toList ++ w.writtenAction.toList := by
  obtain ⟨onDelete, hdelete, h⟩ := bind_eq_ok.1 h
  obtain ⟨onUpdate, hupdate, h⟩ := bind_eq_ok.1 h
  rw [← pure_eq_ok.1 h, ReferentialActions.texts, action?_eq_ok hdelete, action?_eq_ok hupdate]

/-- **An action that is checked is known** as it is written. -/
theorem mem_referentialActions_of_checkAction (h : checkAction v = .ok ())
    (ha : a ∈ v.writtenAction) : a ∈ referentialActions := by
  obtain ⟨given, hgiven, h⟩ := bind_eq_ok.1 h
  rw [Value.writtenAction, (Value.truth_eq_ok.1 hgiven).2] at ha
  cases given with
  | false => cases ha
  | true =>
    obtain ⟨upper, hupper, h⟩ := bind_eq_ok.1 h
    rw [if_pos rfl, hupper] at ha
    obtain rfl : upper.display = a := Option.some.inj ha
    split at h
    · rename_i s hs
      split at h
      · rename_i hknown
        rw [Value.display_of_text? hs]
        exact List.contains_iff_mem.1 hknown
      · cases h
    · cases h

/-- What a column refers to comes with what is given for its actions. -/
theorem Column.texts_of_referenceClause {c : Column} {reference : ColumnReference}
    (h : c.referenceClause = .ok (some reference)) :
    reference.actions.texts = c.onDelete.writtenAction.toList ++ c.onUpdate.writtenAction.toList := by
  obtain ⟨refers, -, h⟩ := bind_eq_ok.1 h
  cases refers with
  | false => cases h
  | true =>
    obtain ⟨byTable, -, h⟩ := bind_eq_ok.1 h
    obtain ⟨byModel, -, h⟩ := bind_eq_ok.1 h
    obtain ⟨table, -, h⟩ := bind_eq_ok.1 h
    obtain ⟨byColumn, -, h⟩ := bind_eq_ok.1 h
    obtain ⟨byKey, -, h⟩ := bind_eq_ok.1 h
    obtain ⟨column, -, h⟩ := bind_eq_ok.1 h
    obtain ⟨column, -, h⟩ := bind_eq_ok.1 h
    obtain ⟨actions, hactions, h⟩ := bind_eq_ok.1 h
    rw [← Option.some.inj (pure_eq_ok.1 h)]
    exact texts_of_referentialActionsOf hactions

/-- **The actions of a column are known** in the table if they are checked. -/
theorem Column.areKnownActions_of_clause {name : String} {c : Column} {clause : ColumnClause}
    (h : c.clause name = .ok clause) (hchecked : c.ActionsChecked) :
    AreKnownActions clause.actions := by
  obtain ⟨-, -, hreference⟩ := Column.clause_eq_ok h
  intro a ha
  rw [ColumnClause.actions] at ha
  cases href : clause.reference with
  | none =>
    rw [href] at ha
    cases ha
  | some reference =>
    rw [href] at hreference ha
    rw [Option.map_some, Option.getD_some, texts_of_referenceClause hreference, List.mem_append,
      Option.mem_toList, Option.mem_toList] at ha
    rcases ha with ha | ha
    · exact mem_referentialActions_of_checkAction hchecked.1 ha
    · exact mem_referentialActions_of_checkAction hchecked.2 ha

/-- A foreign key has the actions of its relationship. -/
theorem Relationship.texts_of_foreignKeyClause {m : ResolvedModel} {tables : Mapping}
    {r : Relationship} {k : ForeignKey} (h : r.foreignKeyClause m tables = .ok k) :
    k.actions.texts = r.writtenActions := by
  obtain ⟨table, -, h⟩ := bind_eq_ok.1 h
  obtain ⟨column, -, h⟩ := bind_eq_ok.1 h
  obtain ⟨key, -, h⟩ := bind_eq_ok.1 h
  obtain ⟨actions, hactions, h⟩ := bind_eq_ok.1 h
  rw [← pure_eq_ok.1 h]
  exact texts_of_referentialActionsOf hactions

/-- What a constraint comes to has the actions of the constraint, if it is a foreign key. -/
theorem Constraint.Demands.actions_eq {c : Constraint} {body? : Option ConstraintBody}
    (h : c.Demands body?) : (body?.map ConstraintBody.actions).getD [] = c.writtenActions := by
  rw [writtenActions]
  cases h with
  | @check expression hword =>
    have hother : c.spellsForeignKey = false := by simp [spellsForeignKey, hword]
    rw [hother]
    cases expression <;> rfl
  | unique hword hcolumns =>
    have hother : c.spellsForeignKey = false := by simp [spellsForeignKey, hword]
    rw [hother]
    rfl
  | primaryKey hword hcolumns =>
    have hother : c.spellsForeignKey = false := by
      grind [spellsForeignKey, spellsPrimaryKey]
    rw [hother]
    rfl
  | foreignKey hword hcolumns hreferences hactions =>
    rw [hword, hcolumns, hreferences]
    exact texts_of_referentialActionsOf hactions
  | incomplete hincomplete =>
    have hother : (c.spellsForeignKey && c.namesColumns && c.references.truthy) = false := by
      grind [bindsColumns]
    rw [hother]
    rfl

/-! ## Columns of a model -/

namespace ModelDefinition

variable {d : ModelDefinition} {name table : String} {m : ResolvedModel} {e : String × Column}

/-- **Where the columns of a model come from**: one is declared, numbers the rows, or is made for a
role. -/
theorem column_of_resolveWith (h : d.resolveWith name table = .ok m) (he : e ∈ m.columns) :
    (∃ attr, (attr, e.2) ∈ d.columns) ∨ (∃ rowid, e.2 = idColumn rowid) ∨ e.2 ∈ roleColumns := by
  obtain ⟨declared, start, hdeclared, -, hstart, hstage, -, -⟩ := exists_stage_of_resolveWith h
  have hplan := ColumnPlan.declared_declaredColumns hdeclared
  have hget : m.columns.get? e.1 = some e.2 :=
    Named.get?_of_mem (wellFormed_of_resolveWith h).nodup he
  rcases hstage.added e.1 e.2 hget with hthere | hrole
  · rw [hstage.columns e.1 hthere] at hget
    -- a declared column is found where it was stored last
    have hlatest : declared.columns.get? e.1 = some e.2 → ∃ attr, (attr, e.2) ∈ d.columns := by
      intro hgot
      rw [ColumnPlan.columns_get?_declaredColumns hdeclared] at hgot
      obtain ⟨⟨attr, column⟩, hmem, hentry⟩ :=
        List.mem_map.1 (List.mem_reverse.1 (Named.mem_of_get? hgot))
      obtain rfl : column = e.2 := congrArg Prod.snd hentry
      exact ⟨attr, hmem⟩
    rcases withId_eq_ok hstart with ⟨-, hnew, -, rowid, rfl⟩ | ⟨rfl, -⟩
    · rw [hplan.columns_putFirst hnew, Named.get?_cons] at hget
      split at hget
      · exact Or.inr (Or.inl ⟨rowid, (Option.some.inj hget).symm⟩)
      · exact Or.inl (hlatest hget)
    · exact Or.inl (hlatest hget)
  · exact Or.inr (Or.inr hrole)

/-- **The actions of every column are checked**; columns that are made have none. -/
theorem actionsChecked_of_resolveWith (h : d.resolveWith name table = .ok m)
    (he : e ∈ m.columns) : e.2.ActionsChecked := by
  obtain ⟨declared, start, hdeclared, -⟩ := exists_stage_of_resolveWith h
  rcases column_of_resolveWith h he with ⟨attr, hattr⟩ | ⟨rowid, hnumbers⟩ | hrole
  · exact ((ColumnPlan.foldlM_declare_eq_ok hdeclared).1 _ hattr).2
  · rw [hnumbers]
    exact ⟨rfl, rfl⟩
  · simp only [roleColumns, List.mem_cons, List.not_mem_nil, or_false] at hrole
    rcases hrole with hrole | hrole | hrole <;> rw [hrole] <;> exact ⟨rfl, rfl⟩

end ModelDefinition

/-! ## Tables -/

/-- **The foreign keys of a table have the actions of the relationships**, in order. -/
theorem CreateTable.MadeFor.actions_of_foreignKeys {t : CreateTable} {m : ResolvedModel}
    {tables : Mapping} (h : t.MadeFor m tables) :
    t.foreignKeys.flatMap (·.actions.texts) = m.references.flatMap Relationship.writtenActions := by
  have hkeys : List.Forall₂ (fun r k => r.foreignKeyClause m tables = .ok k) m.references
      t.foreignKeys :=
    filterMapM_eq_ok (fun r k? h => Relationship.foreignKeyClause?_eq_ok h) h.foreignKeys
  refine (flatMap_eq_of_forall₂ (hkeys.imp fun r k hk => ?_)).symm
  exact (Relationship.texts_of_foreignKeyClause hk).symm

/-- **Which actions a table has.** Those of its columns are known to the engine; those of its
foreign keys and constraints are what relationships and constraints give, and all are known exactly
if these are. -/
theorem DefinitionSource.actions_of_schema {source : DefinitionSource} {m : ResolvedModel}
    {tables : Mapping} {statements : List SchemaStatement} {t : CreateTable}
    (h : source.resolve = .ok m) (hschema : m.schema tables = .ok statements)
    (ht : .createTable t ∈ statements) :
    AreKnownActions (t.columns.flatMap ColumnClause.actions) ∧
      t.foreignKeys.flatMap (·.actions.texts) =
        m.references.flatMap Relationship.writtenActions ∧
      (t.constraints.flatMap fun c => c.body.actions) =
        m.definition.constraints.flatMap Constraint.writtenActions ∧
      (AreKnownActions t.actions ↔ AreKnownActions m.uncheckedActions) := by
  obtain ⟨d, name, table, -, hm⟩ := DefinitionSource.exists_resolveWith h
  have hmade : t.MadeFor m tables := by
    obtain ⟨t', rest, ht', rfl, hbeside⟩ := ResolvedModel.exists_createTable_of_schema hschema
    rcases List.mem_cons.1 ht with heq | hrest
    · cases heq
      exact ResolvedModel.madeFor_of_createTable ht'
    · exact absurd (hbeside _ hrest) id
  have hcolumns : AreKnownActions (t.columns.flatMap ColumnClause.actions) := by
    intro a ha
    obtain ⟨clause, hclause, ha⟩ := List.mem_flatMap.1 ha
    obtain ⟨e, he, hclause⟩ := exists_of_mem_mapM hmade.columns hclause
    exact Column.areKnownActions_of_clause hclause
      (ModelDefinition.actionsChecked_of_resolveWith hm he) a ha
  have hkeys := hmade.actions_of_foreignKeys
  have hconstraints : (t.constraints.flatMap fun c => c.body.actions) =
      m.definition.constraints.flatMap Constraint.writtenActions :=
    hmade.flatMap_constraints fun _ _ hdemands => hdemands.actions_eq
  refine ⟨hcolumns, hkeys, hconstraints, ?_⟩
  rw [CreateTable.actions, ResolvedModel.uncheckedActions, hkeys, hconstraints, List.append_assoc]
  exact ⟨fun hall a ha => hall a (List.mem_append_right _ ha),
    fun hall a ha => (List.mem_append.1 ha).elim (hcolumns a) (hall a)⟩

/-- A definition that refers to users by a column, a relationship and a constraint, the last two
with the given actions. -/
def letterDefinition (ofRelationship ofConstraint : Value) : ModelDefinition :=
  { name := .str "Letter"
    timestamps := .bool false
    columns := [(.str "sender",
      { type := .str "INTEGER", references := .dict [(.str "table", .str "users")]
        onDelete := .str "set null" })]
    relationships := [{ kind := .belongsTo, target := .str "User", foreignKey := .str "sender"
                        onDelete := ofRelationship }]
    constraints := [{ type := .str "foreign_key", columns := .list [.str "sender"]
                      references := .dict [(.str "table", .str "users")]
                      onUpdate := ofConstraint }] }

/-- **All actions are known in such a table**, and no longer if the relationship or the constraint
gives an unknown one. -/
theorem actions_of_letters :
    (∃ m statements t,
      (DefinitionSource.built (letterDefinition (.str "cascade") (.str "No Action"))).resolve =
        .ok m ∧ m.schema [] = .ok statements ∧ .createTable t ∈ statements ∧
      AreKnownActions t.actions) ∧
    (∃ m statements t,
      (DefinitionSource.built (letterDefinition (.str "explode") .null)).resolve = .ok m ∧
      m.schema [] = .ok statements ∧ .createTable t ∈ statements ∧
      ¬ AreKnownActions t.actions) ∧
    ∃ m statements t,
      (DefinitionSource.built (letterDefinition .null (.str "explode"))).resolve = .ok m ∧
      m.schema [] = .ok statements ∧ .createTable t ∈ statements ∧
      ¬ AreKnownActions t.actions := by
  have hcase : ∀ (d : ModelDefinition) (answer : Bool),
      (∃ m, (DefinitionSource.built d).resolve = .ok m ∧
        (m.schema []).toOption.isSome = true ∧
        decide (AreKnownActions m.uncheckedActions) = answer) →
      ∃ m statements t, (DefinitionSource.built d).resolve = .ok m ∧
        m.schema [] = .ok statements ∧ .createTable t ∈ statements ∧
        (AreKnownActions t.actions ↔ answer = true) := by
    rintro d _ ⟨m, hm, hsome, rfl⟩
    obtain ⟨statements, hstatements⟩ := Option.isSome_iff_exists.1 hsome
    have hschema := eq_ok_of_toOption hstatements
    obtain ⟨t, rest, -, rfl, -⟩ := ResolvedModel.exists_createTable_of_schema hschema
    refine ⟨m, _, t, hm, hschema, List.mem_cons_self, ?_⟩
    rw [decide_eq_true_iff]
    exact (DefinitionSource.actions_of_schema hm hschema List.mem_cons_self).2.2.2
  obtain ⟨m, statements, t, hm, hs, ht, hknown⟩ :=
    hcase (letterDefinition (.str "cascade") (.str "No Action")) true
      (exists_resolve_of_decide _ _ (by decide +kernel))
  obtain ⟨m', statements', t', hm', hs', ht', hunknown⟩ :=
    hcase (letterDefinition (.str "explode") .null) false
      (exists_resolve_of_decide _ _ (by decide +kernel))
  obtain ⟨m'', statements'', t'', hm'', hs'', ht'', hunknown'⟩ :=
    hcase (letterDefinition .null (.str "explode")) false
      (exists_resolve_of_decide _ _ (by decide +kernel))
  exact ⟨⟨m, statements, t, hm, hs, ht, hknown.2 rfl⟩,
    ⟨m', statements', t', hm', hs', ht', fun h => Bool.false_ne_true (hunknown.1 h)⟩,
    ⟨m'', statements'', t'', hm'', hs'', ht'', fun h => Bool.false_ne_true (hunknown'.1 h)⟩⟩

end Tablewright
