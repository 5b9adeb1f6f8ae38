import Tablewright.Proofs.DeclaredColumns
import Tablewright.Proofs.Schema.ForeignKey
import Tablewright.Proofs.Schema.Table

/-!
# How a schema names the columns of its own table

A definition names attributes of its model in four places: in foreign keys, in constraints, in
indexes and in triggers. Foreign keys and indexes are compiled to the columns that the attributes
stand for, constraints and triggers to the attributes as they are written
(`ResolvedModel.Spells`). So all of a schema names columns exactly where the attributes that
constraints and triggers name stand for themselves (`DefinitionSource.namings_of_schema`).
-/

namespace Tablewright

open Fallible

/-! ## What a definition names -/

/-- A place of a definition where an attribute of its own model is named. -/
inductive Naming where
  /-- The attribute that refers to another table. -/
  | referring (attr : Value)
  /-- An attribute that a constraint is about. -/
  | constrained (attr : String)
  /-- An attribute by which an index orders. -/
  | indexed (attr : Value)
  /-- An expression by which an index orders, which names no attribute. -/
  | computed
  /-- An attribute whose change sets off a trigger. -/
  | watched (attr : String)

namespace Naming

/-- The attribute that is named, as a text. -/
def attribute? : Naming → Option String
  | referring attr => attr.text?
  | constrained attr => some attr
  | indexed attr => attr.text?
  | computed => none
  | watched attr => some attr

/-- The attribute that is named, in a place where it is written as it is. -/
def verbatim? : Naming → Option String
  | constrained attr => some attr
  | watched attr => some attr
  | _ => none

end Naming

/-- What a term of an index names. -/
def IndexTerm.naming : IndexTerm → Naming
  | column name => .indexed (.str name)
  | field f => if f.expression.truthy then .computed else .indexed f.name
  | other _ => .computed

/-- What an index names. -/
def Index.namings (i : Index) : List Naming :=
  (i.terms.toOption.getD []).map IndexTerm.naming

namespace Trigger

/-- Whether a trigger lacks nothing. -/
def complete (t : Trigger) : Bool :=
  t.name.truthy && t.timing.truthy && t.event.truthy && !t.statements.isNull

/-- The attributes whose change sets off a trigger; none if every change does. -/
def watchedColumns (t : Trigger) : List String :=
  if keywordText t.event == "UPDATE" && t.columns.truthy then t.columns.texts.toOption.getD []
  else []

end Trigger

namespace ResolvedModel

/-- The places of a definition where attributes of the model are named, in the order of the
schema. -/
def namings (m : ResolvedModel) : List Naming :=
  m.references.map (fun r => .referring r.foreignKey) ++
    (m.definition.constraints.flatMap Constraint.boundColumns).map .constrained ++
    ((m.definition.indexes.filter fun i => i.fields.truthy).flatMap Index.namings ++
      (m.columns.filter fun e => e.2.indexed.truthy).map fun e => .indexed (.str e.1)) ++
    ((m.definition.triggers.filter Trigger.complete).flatMap Trigger.watchedColumns).map .watched

/-- **What is written for an attribute**: its column in foreign keys and indexes, but the attribute
as it is in constraints and triggers. -/
def Spells (m : ResolvedModel) : Naming → String → Prop
  | .referring attr, text => ∃ column, m.columnFor attr = .ok column ∧ text = column.display
  | .constrained attr, text => text = attr
  | .indexed attr, text => ∃ column, m.columnFor attr = .ok column ∧ text = column.display
  | .computed, _ => True
  | .watched attr, text => text = attr

/-- What is to be written for an attribute of the model: its column, which the table has. -/
def Translates (m : ResolvedModel) (n : Naming) (text : String) : Prop :=
  ∀ attr ∈ n.attribute?, attr ∈ m.fieldMap.names →
    text = m.columnOf attr ∧ text ∈ m.columnNames

end ResolvedModel

/-- The names of columns of its own table in a statement, and the expressions that stand in their
place. -/
def SchemaStatement.names : SchemaStatement → List String
  | createTable t => t.foreignKeys.map (·.column) ++ t.constraints.flatMap (·.body.columns)
  | createIndex i => i.terms.map (·.text)
  | createTrigger t => t.columns.getD []
  | createView _ | dropTable _ | dropView _ => []

/-! ## Part by part -/

namespace ResolvedModel

variable {m : ResolvedModel} {tables : Mapping} {statements : List SchemaStatement}

theorem columnFor_str (m : ResolvedModel) (name : String) :
    m.columnFor (.str name) = .ok (.str (m.columnOf name)) := by
  rw [columnFor, if_pos (Value.isHashable_of_text? rfl), columnOf, Named.getOr, Value.text?,
    Option.bind_some]
  cases m.fieldMap.get? name <;> rfl

/-- The foreign keys of a table name columns. -/
theorem spells_foreignKeys {keys : List ForeignKey} (h : m.foreignKeys tables = .ok keys) :
    List.Forall₂ m.Spells (m.references.map fun r => .referring r.foreignKey)
      (keys.map (·.column)) := by
  rw [List.forall₂_map_left_iff, List.forall₂_map_right_iff]
  refine (filterMapM_eq_ok (fun r k? hk => Relationship.foreignKeyClause?_eq_ok hk) h).imp
    fun r k hk => ?_
  obtain ⟨table, -, hk⟩ := bind_eq_ok.1 hk
  obtain ⟨column, hcolumn, hk⟩ := bind_eq_ok.1 hk
  obtain ⟨key, -, hk⟩ := bind_eq_ok.1 hk
  obtain ⟨actions, -, hk⟩ := bind_eq_ok.1 hk
  exact ⟨column, hcolumn, by rw [← pure_eq_ok.1 hk]⟩

/-- Names that are written as they are. -/
theorem spells_verbatim (place : String → Naming) (h : ∀ attr, m.Spells (place attr) attr)
    (attrs : List String) : List.Forall₂ m.Spells (attrs.map place) attrs := by
  rw [List.forall₂_map_left_iff, List.forall₂_same]
  exact fun attr _ => h attr

/-- How a term is ordered does not change its text. -/
theorem termText_of_term {f : IndexField} {v : Value} {collate order : Option String}
    (h : Index.term m (.field f) = .ok (v, collate, order)) : Index.termText m f = .ok v := by
  obtain ⟨text, htext, h⟩ := bind_eq_ok.1 h
  obtain ⟨collate', -, h⟩ := bind_eq_ok.1 h
  have hrest : Gives (fun out : Value × Option String × Option String => out.1 = text)
      (do let order ← action? f.order
          if order.isSome && !Index.isExtensible text then wrongType
          pure (text, collate', order)) :=
    Gives.bind fun _ => Gives.ite (Gives.bind fun _ => Gives.pure rfl) (Gives.pure rfl)
  have hsame : v = text := Gives.ite (Gives.bind fun _ => hrest) hrest _ h
  rw [hsame, htext]

/-- A term of an index names a column, or is an expression. -/
theorem spells_term {term : IndexTerm} {v : Value} {collate order : Option String} {text : String}
    (h : Index.term m term = .ok (v, collate, order)) (htext : v.text? = some text) :
    m.Spells term.naming text := by
  cases term with
  | column name =>
    cases h
    exact ⟨_, m.columnFor_str name, (Value.display_of_text? htext).symm⟩
  | field f =>
    obtain ⟨computed, hcomputed, hv⟩ := bind_eq_ok.1 (termText_of_term h)
    rw [IndexTerm.naming, (Value.truth_eq_ok.1 hcomputed).2]
    cases computed with
    | true => trivial
    | false => exact ⟨v, hv, (Value.display_of_text? htext).symm⟩
  | other v => cases h

/-- An index names its terms, in order. -/
theorem spells_index {i : Index} {made : CreateIndex} (h : Index.create m i = .ok made) :
    List.Forall₂ m.Spells i.namings (made.terms.map (·.text)) := by
  obtain ⟨unique, -, h⟩ := bind_eq_ok.1 h
  obtain ⟨ifNotExists, -, h⟩ := bind_eq_ok.1 h
  obtain ⟨named, -, h⟩ := bind_eq_ok.1 h
  obtain ⟨name, -, h⟩ := ite_bind_eq_ok.1 h
  obtain ⟨terms, hterms, h⟩ := bind_eq_ok.1 h
  obtain ⟨values, hvalues, h⟩ := bind_eq_ok.1 h
  obtain ⟨texts, htexts, h⟩ := bind_eq_ok.1 h
  obtain ⟨condition, -, h⟩ := bind_eq_ok.1 h
  have hnamings : i.namings = terms.map IndexTerm.naming := by
    rw [Index.namings, hterms]
    rfl
  rw [← pure_eq_ok.1 h, hnamings, List.forall₂_map_left_iff, List.forall₂_map_right_iff]
  -- a term is compiled in two steps, the second of which takes its text
  refine forall₂_trans (fun term value text hterm htext => ?_) (mapM_eq_ok.1 hvalues)
    (mapM_eq_ok.1 htexts)
  obtain ⟨s, hs, htext⟩ := bind_eq_ok.1 htext
  rw [← pure_eq_ok.1 htext]
  exact spells_term hterm (Value.asText_eq_ok.1 hs)

/-- Some indexes name their terms, one index after the other. -/
theorem spells_mapM_create {is : List Index} {made : List CreateIndex}
    (h : is.mapM (Index.create m) = .ok made) :
    List.Forall₂ m.Spells (is.flatMap Index.namings)
      (made.flatMap fun i => i.terms.map (·.text)) :=
  List.rel_flatMap (mapM_eq_ok.1 h) fun _ _ hmade => spells_index hmade

/-- The index of a flagged column names that column. -/
theorem namings_of_flaggedIndex? {c : Column} {name : String} {i? : Option Index}
    (h : c.flaggedIndex? name = .ok i?) :
    c.indexed.truthy = i?.isSome ∧ ∀ i, i? = some i → i.namings = [.indexed (.str name)] := by
  obtain ⟨flagged, hflagged, h⟩ := bind_eq_ok.1 h
  rw [(Value.truth_eq_ok.1 hflagged).2]
  cases flagged with
  | false =>
    cases h
    exact ⟨rfl, nofun⟩
  | true =>
    cases h
    exact ⟨rfl, fun i hi => by rw [← Option.some.inj hi]; rfl⟩

/-- The indexes of a model: the declared ones that have terms, and one for each flagged column. -/
theorem spells_indexes {made : List CreateIndex} (h : m.createIndexes = .ok made) :
    List.Forall₂ m.Spells
      ((m.definition.indexes.filter fun i => i.fields.truthy).flatMap Index.namings ++
        (m.columns.filter fun e => e.2.indexed.truthy).map fun e => .indexed (.str e.1))
      (made.flatMap fun i => i.terms.map (·.text)) := by
  obtain ⟨all, hall, h⟩ := bind_eq_ok.1 h
  obtain ⟨declared, hdeclared, hall⟩ := bind_eq_ok.1 hall
  obtain ⟨flagged, hflagged, hall⟩ := bind_eq_ok.1 hall
  have hsame : (m.columns.filter fun e => e.2.indexed.truthy).map
      (fun e => .indexed (.str e.1)) = flagged.flatMap Index.namings := by
    rw [List.map_eq_flatMap]
    refine flatMap_eq_of_forall₂ ((filterMapM_eq_ok
      (fun e i? hi => namings_of_flaggedIndex? hi) hflagged).imp fun e i hi => hi.symm)
  rw [← filterM_eq_ok (fun i b hb => (Value.truth_eq_ok.1 hb).2) hdeclared, hsame,
    ← List.flatMap_append, pure_eq_ok.1 hall]
  exact spells_mapM_create h

/-- A trigger names the columns whose change sets it off. -/
theorem watchedColumns_of_create {t : Trigger} {table : String} {made : CreateTrigger}
    (h : t.create table = .ok made) : t.watchedColumns = made.columns.getD [] := by
  obtain ⟨timing, -, h⟩ := bind_eq_ok.1 h
  obtain ⟨event, hevent, h⟩ := bind_eq_ok.1 h
  obtain ⟨ifNotExists, -, h⟩ := bind_eq_ok.1 h
  obtain ⟨columns, hcolumns, h⟩ := bind_eq_ok.1 h
  obtain ⟨condition, -, h⟩ := bind_eq_ok.1 h
  obtain ⟨body, -, h⟩ := bind_eq_ok.1 h
  have hkeyword : event = keywordText t.event := by
    rw [checkEvent] at hevent
    split at hevent
    · exact (pure_eq_ok.1 hevent).symm
    · cases hevent
  rw [← pure_eq_ok.1 h, Trigger.watchedColumns, ← hkeyword]
  rw [Trigger.restriction] at hcolumns
  cases hupdate : event == "UPDATE" with
  | false =>
    rw [hupdate, if_neg Bool.false_ne_true] at hcolumns
    rw [Bool.false_and, if_neg Bool.false_ne_true, ← pure_eq_ok.1 hcolumns]
    rfl
  | true =>
    rw [hupdate, if_pos rfl] at hcolumns
    obtain ⟨given, hgiven, hcolumns⟩ := bind_eq_ok.1 hcolumns
    rw [(Value.truth_eq_ok.1 hgiven).2, Bool.true_and]
    cases given with
    | false => rw [← pure_eq_ok.1 hcolumns]; rfl
    | true =>
      obtain ⟨names, hnames, rfl⟩ := map_eq_ok.1 hcolumns
      rw [hnames]
      rfl

/-- A trigger is active if it lacks nothing. -/
theorem complete_of_isActive {t : Trigger} {active : Bool} (h : t.isActive = .ok active) :
    t.complete = active := by
  obtain ⟨named, hnamed, h⟩ := bind_eq_ok.1 h
  rw [Trigger.complete, (Value.truth_eq_ok.1 hnamed).2]
  cases named with
  | false => exact pure_eq_ok.1 h
  | true =>
    obtain ⟨timed, htimed, h⟩ := bind_eq_ok.1 h
    rw [(Value.truth_eq_ok.1 htimed).2]
    cases timed with
    | false => exact pure_eq_ok.1 h
    | true =>
      obtain ⟨set, hset, h⟩ := bind_eq_ok.1 h
      rw [(Value.truth_eq_ok.1 hset).2]
      cases set with
      | false => exact pure_eq_ok.1 h
      | true => exact pure_eq_ok.1 h

/-- A trigger that lacks nothing is made. -/
theorem watchedColumns_of_create? {t : Trigger} {table : String} {made? : Option CreateTrigger}
    (h : t.create? table = .ok made?) : t.complete = made?.isSome ∧
      ∀ made, made? = some made → t.watchedColumns = made.columns.getD [] := by
  obtain ⟨active, hactive, h⟩ := bind_eq_ok.1 h
  rw [complete_of_isActive hactive]
  cases active with
  | false =>
    cases h
    exact ⟨rfl, nofun⟩
  | true =>
    obtain ⟨made, hmade, rfl⟩ := map_eq_ok.1 h
    exact ⟨rfl, fun other hother => Option.some.inj hother ▸ watchedColumns_of_create hmade⟩

/-- The triggers of a model name the columns whose change sets them off, in order. -/
theorem watchedColumns_of_createTriggers {made : List CreateTrigger}
    (h : m.createTriggers = .ok made) :
    (m.definition.triggers.filter Trigger.complete).flatMap Trigger.watchedColumns =
      made.flatMap fun t => t.columns.getD [] :=
  flatMap_eq_of_forall₂ (filterMapM_eq_ok (fun _ _ hmade => watchedColumns_of_create? hmade) h)

/-! ## The whole schema -/

/-- **Every place of a definition where an attribute is named has its place in the schema**, and
what is written there. -/
theorem spells_of_schema (h : m.schema tables = .ok statements) :
    List.Forall₂ m.Spells m.namings (statements.flatMap SchemaStatement.names) := by
  obtain ⟨t, ht, h⟩ := bind_eq_ok.1 h
  obtain ⟨indexes, hindexes, h⟩ := bind_eq_ok.1 h
  obtain ⟨triggers, htriggers, h⟩ := bind_eq_ok.1 h
  obtain ⟨views, -, h⟩ := bind_eq_ok.1 h
  have hmade : t.MadeFor m tables := madeFor_of_createTable ht
  have hnames : statements.flatMap SchemaStatement.names =
      t.foreignKeys.map (·.column) ++ m.definition.constraints.flatMap Constraint.boundColumns ++
        (indexes.flatMap fun i => i.terms.map (·.text)) ++
        (m.definition.triggers.filter Trigger.complete).flatMap Trigger.watchedColumns := by
    rw [← pure_eq_ok.1 h, watchedColumns_of_createTriggers htriggers,
      ← hmade.flatMap_constraints fun _ _ hdemands => hdemands.columns_eq]
    simp [List.flatMap_append, List.flatMap_map, SchemaStatement.names, List.append_assoc]
  rw [hnames, namings]
  refine List.rel_append (List.rel_append (List.rel_append ?_ ?_) ?_) ?_
  · exact spells_foreignKeys hmade.foreignKeys
  · exact spells_verbatim .constrained (fun _ => rfl) _
  · exact spells_indexes hindexes
  · exact spells_verbatim .watched (fun _ => rfl) _

/-- An attribute of a model stands for a column. -/
theorem columnOf_mem (hm : m.WellFormed) {attr : String} (h : attr ∈ m.fieldMap.names) :
    m.columnOf attr ∈ m.columnNames := by
  obtain ⟨column, hcolumn⟩ := Named.exists_get?_of_mem h
  rw [columnOf, Named.getOr, hcolumn, Option.getD_some]
  exact hm.mapped (attr, column) (Named.mem_of_get? hcolumn)

/-- Where an attribute is written as its column, it is written right. -/
theorem translates_of_columnFor (hm : m.WellFormed) {attr : Value} {text : String}
    (h : ∃ column, m.columnFor attr = .ok column ∧ text = column.display) {attr' : String}
    (hattr : attr.text? = some attr') (hthere : attr' ∈ m.fieldMap.names) :
    text = m.columnOf attr' ∧ text ∈ m.columnNames := by
  obtain ⟨column, hcolumn, rfl⟩ := h
  obtain ⟨c, hc⟩ := Named.exists_get?_of_mem hthere
  have hof : m.columnOf attr' = c := by
    rw [columnOf, Named.getOr, hc, Option.getD_some]
  rw [columnFor_of_get? hattr hc] at hcolumn
  cases hcolumn
  have hdisplay : (Value.str c).display = m.columnOf attr' :=
    (Value.display_of_text? rfl).trans hof.symm
  rw [hdisplay]
  exact ⟨rfl, columnOf_mem hm hthere⟩

/-- Where an attribute is written as it is, it is written right if it stands for itself. -/
theorem translates_verbatim (hm : m.WellFormed) {attr : String} :
    (attr ∈ m.fieldMap.names → attr = m.columnOf attr ∧ attr ∈ m.columnNames) ↔
      (attr ∈ m.fieldMap.names → m.columnOf attr = attr) := by
  refine forall_congr' fun hthere => ⟨fun h => h.1.symm, fun h => ⟨h.symm, ?_⟩⟩
  rw [← h]
  exact columnOf_mem hm hthere

/-- Whether an attribute is written as its column comes down to whether it is where it is written as
it is. -/
theorem translates_iff (hm : m.WellFormed) {n : Naming} {text : String} (h : m.Spells n text) :
    m.Translates n text ↔
      ∀ attr ∈ n.verbatim?, attr ∈ m.fieldMap.names → m.columnOf attr = attr := by
  cases n with
  | referring attr =>
    exact ⟨fun _ => nofun, fun _ attr' hattr => translates_of_columnFor hm h hattr⟩
  | constrained attr =>
    obtain rfl : text = attr := h
    simpa [Translates, Naming.attribute?, Naming.verbatim?] using translates_verbatim hm
  | indexed attr =>
    exact ⟨fun _ => nofun, fun _ attr' hattr => translates_of_columnFor hm h hattr⟩
  | computed => exact ⟨fun _ => nofun, fun _ => nofun⟩
  | watched attr =>
    obtain rfl : text = attr := h
    simpa [Translates, Naming.attribute?, Naming.verbatim?] using translates_verbatim hm

end ResolvedModel

/-- **Where a schema names columns**: every attribute of the model that a definition names in a
relationship or an index is written as its column, and all of them are exactly if those named in
constraints and triggers stand for themselves. -/
theorem DefinitionSource.namings_of_schema {source : DefinitionSource} {m : ResolvedModel}
    {tables : Mapping} {statements : List SchemaStatement} (h : source.resolve = .ok m)
    (hs : m.schema tables = .ok statements) :
    List.Forall₂ m.Spells m.namings (statements.flatMap SchemaStatement.names) ∧
      (List.Forall₂ m.Translates m.namings (statements.flatMap SchemaStatement.names) ↔
        ∀ n ∈ m.namings, ∀ attr ∈ n.verbatim?, attr ∈ m.fieldMap.names →
          m.columnOf attr = attr) := by
  obtain ⟨d, name, table, -, hd⟩ := DefinitionSource.exists_resolveWith h
  have hformed := ModelDefinition.wellFormed_of_resolveWith hd
  have hspells := ResolvedModel.spells_of_schema hs
  refine ⟨hspells, forall₂_iff_of_forall₂ (fun n text hn => ?_) hspells⟩
  exact ResolvedModel.translates_iff hformed hn

/-- A model in snake case that names its attribute in a relationship and in an index. -/
def postDefinition (constraints : List Constraint) (triggers : List Trigger) : ModelDefinition :=
  { name := .str "Post"
    timestamps := .bool false
    underscored := .bool true
    columns := [(.str "userId", { type := .str "INTEGER" })]
    relationships := [{ kind := .belongsTo, target := .str "User", foreignKey := .str "userId" }]
    indexes := [{ fields := .ofTexts ["userId"] }]
    constraints
    triggers }

/-- A trigger on changes of the attribute. -/
def userTrigger : Trigger :=
  { name := .str "stamp", timing := .str "AFTER", event := .str "update",
    columns := .ofTexts ["userId"], statements := .str "SELECT 1" }

/-- **All names are columns in such a model**, and no longer if a constraint or a trigger names the
attribute. -/
theorem namings_of_posts :
    (∃ m statements, (DefinitionSource.built (postDefinition [] [])).resolve = .ok m ∧
      m.schema [] = .ok statements ∧
      List.Forall₂ m.Translates m.namings (statements.flatMap SchemaStatement.names)) ∧
    (∃ m statements, (DefinitionSource.built (postDefinition
        [{ type := .str "unique", columns := .ofTexts ["userId"] }] [])).resolve = .ok m ∧
      m.schema [] = .ok statements ∧
      ¬ List.Forall₂ m.Translates m.namings (statements.flatMap SchemaStatement.names)) ∧
    ∃ m statements, (DefinitionSource.built (postDefinition [] [userTrigger])).resolve = .ok m ∧
      m.schema [] = .ok statements ∧
      ¬ List.Forall₂ m.Translates m.namings (statements.flatMap SchemaStatement.names) := by
  have hcase : ∀ (d : ModelDefinition) (answer : Bool),
      (∃ m, (DefinitionSource.built d).resolve = .ok m ∧
        (m.schema []).toOption.isSome = true ∧
        decide (∀ n ∈ m.namings, ∀ attr ∈ n.verbatim?, attr ∈ m.fieldMap.names →
          m.columnOf attr = attr) = answer) →
      ∃ m statements, (DefinitionSource.built d).resolve = .ok m ∧
        m.schema [] = .ok statements ∧
        (List.Forall₂ m.Translates m.namings (statements.flatMap SchemaStatement.names) ↔
          answer = true) := by
    rintro d _ ⟨m, hm, hsome, rfl⟩
    obtain ⟨statements, hstatements⟩ := Option.isSome_iff_exists.1 hsome
    refine ⟨m, statements, hm, eq_ok_of_toOption hstatements, ?_⟩
    rw [decide_eq_true_iff]
    exact (DefinitionSource.namings_of_schema hm (eq_ok_of_toOption hstatements)).2
  obtain ⟨m, statements, hm, hs, hgood⟩ :=
    hcase (postDefinition [] []) true (exists_resolve_of_decide _ _ (by decide +kernel))
  obtain ⟨m', statements', hm', hs', hbad⟩ := hcase (postDefinition
    [{ type := .str "unique", columns := .ofTexts ["userId"] }] []) false
      (exists_resolve_of_decide _ _ (by decide +kernel))
  obtain ⟨m'', statements'', hm'', hs'', hworse⟩ := hcase (postDefinition [] [userTrigger]) false
    (exists_resolve_of_decide _ _ (by decide +kernel))
  exact ⟨⟨m, statements, hm, hs, hgood.2 rfl⟩,
    ⟨m', statements', hm', hs', fun h => Bool.false_ne_true (hbad.1 h)⟩,
    ⟨m'', statements'', hm'', hs'', fun h => Bool.false_ne_true (hworse.1 h)⟩⟩

end Tablewright
