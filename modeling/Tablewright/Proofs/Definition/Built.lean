import Tablewright.Proofs.ResolvedModel

/-!
# Built definitions

A definition is built from its parts as they were given, whether a literal or a draft gave them
(`ModelDefinition.BuiltFrom`). Built parts are definition objects, and what builds a part leaves
such an object as it is. So a definition whose parts are built again stays what it is
(`ModelDefinition.build_toDraft`), and resolving the definition of a resolved model gives the model
itself (`DefinitionSource.resolved_again`).
-/

namespace Tablewright

open Fallible

variable {d : ModelDefinition} {v : Value}

/-! ## What a definition is built from -/

/-- The parts of a definition are built from the given ones. -/
structure ModelDefinition.BuiltFrom (d : ModelDefinition) (columns : Except Fault Mapping)
    (items : String → Except Fault (List Value)) : Prop where
  /-- The columns, from the entries of a mapping. -/
  columns : columns >>= buildColumns = .ok d.columns
  /-- The relationships, from items. -/
  relationships : items "relationships" >>= List.mapM Relationship.ofValue = .ok d.relationships
  /-- The indexes. -/
  indexes : items "indexes" >>= List.mapM Index.ofValue = .ok d.indexes
  /-- The constraints. -/
  constraints : items "constraints" >>= List.mapM Constraint.ofValue = .ok d.constraints
  /-- The triggers. -/
  triggers : items "triggers" >>= List.mapM Trigger.ofValue = .ok d.triggers
  /-- The views. -/
  views : items "views" >>= List.mapM View.ofValue = .ok d.views

/-- **What a literal gives** is built from its parts, of which a null or an empty one stands for
none. -/
theorem ModelDefinition.ofLiteral_eq_ok : ofLiteral v = .ok d ↔ ∃ fields, canonical v = .ok fields ∧
    d.BuiltFrom (do (← (fields.getOr "columns" .null).orEmptyMapping).entries)
      (fun name => do (← (fields.getOr name .null).orEmptyList).items) ∧
    literalHooks (fields.get? "hooks") = .ok d.hooks ∧
    ModelSettings.ofFields fields = .ok d.toModelSettings := by
  unfold ofLiteral
  rw [bind_eq_ok]
  refine exists_congr fun fields => and_congr_right fun _ => ?_
  -- each part is taken out and built in one step
  simp only [← bind_assoc, bind_eq_ok (f := fun x => _ >>= _)]
  constructor
  · rintro ⟨columns, hcolumns, relationships, hrelationships, indexes, hindexes, constraints,
      hconstraints, triggers, htriggers, views, hviews, hooks, hhooks, h⟩
    obtain ⟨settings, hsettings, h⟩ := bind_eq_ok.1 h
    obtain rfl := pure_eq_ok.1 h
    exact ⟨⟨hcolumns, hrelationships, hindexes, hconstraints, htriggers, hviews⟩, hhooks,
      hsettings⟩
  · rintro ⟨⟨hcolumns, hrelationships, hindexes, hconstraints, htriggers, hviews⟩, hhooks,
      hsettings⟩
    exact ⟨_, hcolumns, _, hrelationships, _, hindexes, _, hconstraints, _, htriggers, _, hviews,
      _, hhooks, ok_bind hsettings _⟩

/-- **What a draft builds** is built from its parts as they are. -/
theorem ModelDraft.build_eq_ok {draft : ModelDraft} : draft.build = .ok d ↔
    d.BuiltFrom draft.columns.entries (fun name => (draft.toFields.getOr name .null).items) ∧
      draft.hooks = d.hooks ∧ draft.toModelSettings = d.toModelSettings := by
  unfold build ModelDefinition.build
  simp only [← bind_assoc, bind_eq_ok (f := fun x => _ >>= _)]
  constructor
  · rintro ⟨columns, hcolumns, relationships, hrelationships, indexes, hindexes, constraints,
      hconstraints, triggers, htriggers, h⟩
    obtain ⟨views, hviews, h⟩ := bind_eq_ok.1 h
    obtain rfl := pure_eq_ok.1 h
    exact ⟨⟨hcolumns, hrelationships, hindexes, hconstraints, htriggers, hviews⟩, rfl, rfl⟩
  · rintro ⟨⟨hcolumns, hrelationships, hindexes, hconstraints, htriggers, hviews⟩, hhooks,
      hsettings⟩
    refine ⟨_, hcolumns, _, hrelationships, _, hindexes, _, hconstraints, _, htriggers, ?_⟩
    rw [hhooks, hsettings]
    exact ok_bind hviews _

/-! ## Built parts are left as they are -/

/-- What is declared about a column does not name the value that stands for no default. -/
def Column.Proper (c : Column) : Prop :=
  c.defaultValue ≠ some noDefault

/-- A declared default is a value. -/
theorem declaredDefault_ne (v : Value) : declaredDefault v ≠ some noDefault := by
  unfold declaredDefault noDefault
  split
  · nofun
  · rename_i hother
    intro h
    exact hother (Option.some.inj h)

/-- A default that is a value is declared again. -/
theorem declaredDefault_getD {default? : Option Value} (h : default? ≠ some noDefault) :
    declaredDefault (default?.getD noDefault) = default? := by
  cases default? with
  | none => rfl
  | some v =>
    rw [Option.getD_some, declaredDefault]
    rintro rfl
    exact h rfl

namespace Column

theorem proper_ofFields (f : Named Value) : (ofFields f).Proper := by
  change (f.get? "default").bind declaredDefault ≠ some noDefault
  cases f.get? "default" with
  | none => nofun
  | some v => exact declaredDefault_ne v

/-- Whatever a column is built from, it declares no default or a value. -/
theorem proper_of_ofValue (v : Value) : Gives Proper (ofValue v) := by
  unfold ofValue
  split
  · exact Gives.pure (proper_ofFields _)
  · refine Gives.ite (Gives.pure nofun) ?_
    exact Gives.bind fun _ => Gives.pure (proper_ofFields _)

theorem ofValue_toValue {c : Column} (h : c.Proper) : ofValue c.toValue = .ok c := by
  have hfields : ofFields c.toFields =
      { c with defaultValue := declaredDefault (c.defaultValue.getD noDefault) } := rfl
  rw [declaredDefault_getD h] at hfields
  exact congrArg _ hfields

end Column

theorem RelationshipKind.ofValue_name (k : RelationshipKind) : ofValue (.str k.name) = .ok k := by
  cases k <;> rfl

theorem Relationship.ofValue_toValue (r : Relationship) : ofValue r.toValue = .ok r := by
  have hfields : ofValue r.toValue =
      RelationshipKind.ofValue (.str r.kind.name) >>= fun kind => pure { r with kind } := rfl
  rw [hfields, RelationshipKind.ofValue_name]
  rfl

theorem Index.ofValue_toValue (i : Index) : ofValue i.toValue = .ok i := rfl

theorem Constraint.ofValue_toValue (c : Constraint) : ofValue c.toValue = .ok c := rfl

theorem Trigger.ofValue_toValue (t : Trigger) : ofValue t.toValue = .ok t := rfl

theorem View.ofValue_toValue (v : View) : ofValue v.toValue = .ok v := rfl

theorem HookLists.ofValue_toValue (h : HookLists) : ofValue h.toValue = .ok h := rfl

/-! ## Built definitions are left as they are -/

namespace ModelDefinition

/-- No column of the definition names the value that stands for no default. -/
def Proper (d : ModelDefinition) : Prop :=
  ∀ e ∈ d.columns, e.2.Proper

/-- **What is built from given parts is proper**, whatever they are. -/
theorem BuiltFrom.proper {columns : Except Fault Mapping}
    {items : String → Except Fault (List Value)} (h : d.BuiltFrom columns items) : d.Proper := by
  intro e he
  obtain ⟨entries, -, hbuilt⟩ := bind_eq_ok.1 h.columns
  obtain ⟨entry, -, hentry⟩ := exists_of_mem_mapM hbuilt he
  obtain ⟨column, hcolumn, hpair⟩ := bind_eq_ok.1 hentry
  rw [← pure_eq_ok.1 hpair]
  exact Column.proper_of_ofValue _ column hcolumn

theorem proper_of_ofLiteral (h : ofLiteral v = .ok d) : d.Proper := by
  obtain ⟨fields, -, hbuilt, -⟩ := ofLiteral_eq_ok.1 h
  exact hbuilt.proper

/-- **Building the parts of a definition again** gives the definition. -/
theorem build_toDraft (h : d.Proper) : d.toDraft.build = .ok d := by
  have hitems : ∀ {α : Type} {f : α → Value} {g : Value → Except Fault α} (xs : List α),
      (∀ x, g (f x) = .ok x) → (Value.list (xs.map f)).items >>= List.mapM g = .ok xs :=
    fun xs hback => mapM_map_eq_ok fun x _ => hback x
  refine ModelDraft.build_eq_ok.2 ⟨?_, rfl, rfl⟩
  exact
    { columns := mapM_map_eq_ok fun e he => ok_bind (Column.ofValue_toValue (h e he)) _
      relationships := hitems _ Relationship.ofValue_toValue
      indexes := hitems _ Index.ofValue_toValue
      constraints := hitems _ Constraint.ofValue_toValue
      triggers := hitems _ Trigger.ofValue_toValue
      views := hitems _ View.ofValue_toValue }

/-- So the definition resolves to the same model, whether its parts are built again or not. -/
theorem resolve_toDraft (h : d.Proper) : d.toDraft.resolve = d.resolve := by
  unfold ModelDraft.resolve
  rw [build_toDraft h]
  rfl

/-! ## Resolving again -/

variable {m : ResolvedModel} {name table : String}

/-- The hooks of a resolved model are those that its definition gives, and its definition has them
built. -/
theorem hooks_of_resolveWith (h : d.resolveWith name table = .ok m) :
    HookLists.ofValue d.hooks = .ok m.hooks ∧
      m.definition = { d with hooks := m.hooks.toValue } := by
  obtain ⟨hooks, hhooks, h⟩ := bind_eq_ok.1 h
  have hgives : Gives (fun m : ResolvedModel =>
      m.hooks = hooks ∧ m.definition = { d with hooks := hooks.toValue })
        (.ok m : Except Fault ResolvedModel) := by
    rw [← h]
    refine Gives.bind fun declared => Gives.bind fun flagged => ?_
    refine Gives.ite (Gives.bind fun _ => ?_) ?_
    all_goals
      refine Gives.bind fun start => ?_
      refine Gives.bind fun ⟨_, _⟩ => Gives.bind fun ⟨_, _⟩ => Gives.bind fun ⟨_, _⟩ => ?_
      exact Gives.bind fun _ => Gives.pure ⟨rfl, rfl⟩
  obtain ⟨rfl, hdefinition⟩ := hgives m rfl
  exact ⟨hhooks, hdefinition⟩

/-- The passes look at everything but the hooks, which are built once. -/
theorem resolveWith_definition (h : d.resolveWith name table = .ok m) :
    m.definition.resolveWith name table = .ok m := by
  obtain ⟨hhooks, hdefinition⟩ := hooks_of_resolveWith h
  unfold resolveWith at h ⊢
  rw [ok_bind hhooks] at h
  rw [hdefinition, ok_bind (HookLists.ofValue_toValue m.hooks)]
  exact h

/-- The definition of a resolved model is proper if the one it was resolved from is. -/
theorem proper_definition (hproper : d.Proper) (h : d.resolveWith name table = .ok m) :
    m.definition.Proper := by
  rw [(hooks_of_resolveWith h).2]
  exact hproper

end ModelDefinition

namespace DefinitionSource

/-- A definition whose parts are built is proper; in a draft there is nothing to ask for yet. -/
def Proper : DefinitionSource → Prop
  | built d => d.Proper
  | _ => True

/-- The statements that a definition is compiled to. -/
def schema (source : DefinitionSource) (tables : Mapping) :
    Except Fault (List SchemaStatement) := do
  (← source.resolve).schema tables

/-- Once its parts are built, a definition is proper. -/
theorem proper_definition {source : DefinitionSource} (hproper : source.Proper)
    (h : source.definition = .ok d) : d.Proper := by
  cases source with
  | literal v => cases h
  | draft draft => exact (ModelDraft.build_eq_ok.1 h).1.proper
  | built d' =>
    obtain rfl := pure_eq_ok.1 h
    exact hproper

/-- **Resolving twice is resolving once.** Whatever definition a model was resolved from, the
definition it keeps resolves to the very model, both as a definition object whose parts are built
again and as it is; so all of them are compiled to the same statements, or fail alike. -/
theorem resolved_again {source : DefinitionSource} {m : ResolvedModel} (hproper : source.Proper)
    (h : source.resolve = .ok m) :
    (draft m.definition.toDraft).resolve = .ok m ∧ (built m.definition).resolve = .ok m ∧
      ∀ tables, source.schema tables = m.schema tables ∧
        (draft m.definition.toDraft).schema tables = m.schema tables ∧
        (built m.definition).schema tables = m.schema tables := by
  obtain ⟨d, hd, -, hnames, hm⟩ := exists_definition h
  have hsame : m.definition.resolveNames = .ok (m.name, m.tableName) := by
    rw [(ModelDefinition.hooks_of_resolveWith hm).2]
    exact hnames
  have hbuilt : (built m.definition).resolve = .ok m :=
    (ok_bind hsame _).trans (ModelDefinition.resolveWith_definition hm)
  have hdraft : (draft m.definition.toDraft).resolve = .ok m :=
    (ModelDefinition.resolve_toDraft
      (ModelDefinition.proper_definition (proper_definition hproper hd) hm)).trans hbuilt
  exact ⟨hdraft, hbuilt, fun tables => ⟨ok_bind h _, ok_bind hdraft _, ok_bind hbuilt _⟩⟩

end DefinitionSource

/-- A literal of which every part is said in another way than the model says it. -/
def entryLiteral : Value :=
  .dict
    [(.str "name", .str "Entry"), (.str "tableName", .str "ledger"),
      (.str "attributes", .dict
        [(.str "bookedOn", .str "DATE"),
          (.str "amount", .dict [(.str "type", .str "REAL"), (.str "defaultValue", .int 0)])]),
      (.str "relationships", .list [.dict
        [(.str "type", .str "belongsTo"), (.str "targetModel", .str "Account"),
          (.str "as", .str "account")]]),
      (.str "indexes", .list [.dict [(.str "columns", .list [.str "bookedOn"])]]),
      (.str "options", .dict
        [(.str "underscored", .bool true), (.str "paranoid", .bool true),
          (.str "version", .bool true)])]

/-- **Its table is put into the plural once**, and it gets the columns it asks for once. -/
theorem resolved_again_entry : ∃ d m, ModelDefinition.ofLiteral entryLiteral = .ok d ∧
    (DefinitionSource.built d).resolve = .ok m ∧ m.tableName = "ledgers" ∧
    m.columnNames =
      ["id", "booked_on", "amount", "created_at", "updated_at", "deleted_at", "version"] ∧
    (DefinitionSource.draft m.definition.toDraft).resolve = .ok m := by
  have hdecided : (do
      let m ← (← ModelDefinition.ofLiteral entryLiteral).resolve
      pure (m.tableName, m.columnNames) : Except Fault _).toOption =
        some ("ledgers",
          ["id", "booked_on", "amount", "created_at", "updated_at", "deleted_at", "version"]) := by
    decide +kernel
  obtain ⟨d, hd, h⟩ := bind_eq_ok.1 (eq_ok_of_toOption hdecided)
  obtain ⟨m, hm, h⟩ := bind_eq_ok.1 h
  obtain ⟨htable, hcolumns⟩ := Prod.mk.inj (pure_eq_ok.1 h)
  have hproper : (DefinitionSource.built d).Proper := ModelDefinition.proper_of_ofLiteral hd
  exact ⟨d, m, hd, hm, htable, hcolumns, (DefinitionSource.resolved_again hproper hm).1⟩

end Tablewright
