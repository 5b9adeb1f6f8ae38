import Tablewright.Definition.Hooks
import Tablewright.Definition.Parts
import Tablewright.Definition.Relationship

/-!
# Model definitions

A model is declared by a literal, whose keys may be in camel case and may use the vocabulary of
other libraries (`attributes`, `paranoid`, `options`), or part by part under the exact names. A
literal builds its parts at once and gives a `ModelDefinition`; the other form keeps them as given
in a `ModelDraft` until the model is resolved.
-/

namespace Tablewright

/-- What is declared about a model as a whole. -/
structure ModelSettings where
  /-- The name of the model. -/
  name : Value
  /-- The name of the table, if it is not to follow from that of the model. -/
  tableName : Value := .null
  /-- Whether the table's name is the plural. -/
  pluralizeTableName : Value := .bool false
  /-- Whether the name of the table is taken as it is. -/
  freezeTableName : Value := .bool false
  /-- Whether the table does without row numbers. -/
  withoutRowid : Value := .bool false
  /-- Whether the engine enforces the column types. -/
  strict : Value := .bool false
  /-- Whether rows are marked instead of deleted. -/
  softDelete : Value := .bool false
  /-- Whether rows carry the times of their making and of their last change. -/
  timestamps : Value := .bool true
  /-- Whether the columns are named in snake case. -/
  underscored : Value := .bool false
  /-- Whether the table may be there already. -/
  ifNotExists : Value := .bool true
  /-- The column that holds the time of making. -/
  createdAt : Value := .null
  /-- The column that holds the time of the last change. -/
  updatedAt : Value := .null
  /-- The column that holds the time of deletion. -/
  deletedAt : Value := .null
  /-- Whether changes are counted; a text names the column. -/
  version : Value := .bool false

/-- A model with its parts built. -/
structure ModelDefinition extends ModelSettings where
  /-- The declared columns under their attributes. -/
  columns : List (Value × Column) := []
  /-- The relationships, in order. -/
  relationships : List Relationship := []
  /-- The indexes, in order. -/
  indexes : List Index := []
  /-- The constraints, in order. -/
  constraints : List Constraint := []
  /-- The triggers, in order. -/
  triggers : List Trigger := []
  /-- The views, in order. -/
  views : List View := []
  /-- The hooks. -/
  hooks : Value := HookLists.toValue {}

/-- A model whose parts are still as they were given. -/
structure ModelDraft extends ModelSettings where
  /-- The declared columns. -/
  columns : Value := .dict []
  /-- The relationships. -/
  relationships : Value := .list []
  /-- The indexes. -/
  indexes : Value := .list []
  /-- The constraints. -/
  constraints : Value := .list []
  /-- The triggers. -/
  triggers : Value := .list []
  /-- The views. -/
  views : Value := .list []
  /-- The hooks. -/
  hooks : Value := HookLists.toValue {}

namespace ModelSettings

/-- The settings with the given parts; what names no setting is left aside. -/
def ofFields (f : Named Value) : Except Fault ModelSettings := do
  let name ← required f "name"
  let d : ModelSettings := { name }
  pure
    { name
      tableName := f.getOr "table_name" d.tableName
      pluralizeTableName := f.getOr "pluralize_tablename" d.pluralizeTableName
      freezeTableName := f.getOr "freeze_table_name" d.freezeTableName
      withoutRowid := f.getOr "without_rowid" d.withoutRowid
      strict := f.getOr "strict" d.strict
      softDelete := f.getOr "soft_delete" d.softDelete
      timestamps := f.getOr "timestamps" d.timestamps
      underscored := f.getOr "underscored" d.underscored
      ifNotExists := f.getOr "if_not_exists" d.ifNotExists
      createdAt := f.getOr "created_at" d.createdAt
      updatedAt := f.getOr "updated_at" d.updatedAt
      deletedAt := f.getOr "deleted_at" d.deletedAt
      version := f.getOr "version" d.version }

end ModelSettings

namespace ModelDraft

/-- All the parts of a draft under their names. -/
def toFields (d : ModelDraft) : Named Value :=
  [("name", d.name), ("columns", d.columns), ("table_name", d.tableName),
   ("pluralize_tablename", d.pluralizeTableName), ("freeze_table_name", d.freezeTableName),
   ("relationships", d.relationships), ("indexes", d.indexes), ("constraints", d.constraints),
   ("triggers", d.triggers), ("views", d.views), ("without_rowid", d.withoutRowid),
   ("strict", d.strict), ("soft_delete", d.softDelete), ("timestamps", d.timestamps),
   ("underscored", d.underscored), ("if_not_exists", d.ifNotExists),
   ("created_at", d.createdAt), ("updated_at", d.updatedAt), ("deleted_at", d.deletedAt),
   ("version", d.version), ("hooks", d.hooks)]

/-- The draft as a value. -/
def toValue (d : ModelDraft) : Value :=
  .record .model d.toFields

end ModelDraft

namespace ModelDefinition

/-- The draft whose parts are those of a definition. -/
def toDraft (d : ModelDefinition) : ModelDraft :=
  { d.toModelSettings with
    columns := .dict (d.columns.map fun e => (e.1, e.2.toValue))
    relationships := .list (d.relationships.map Relationship.toValue)
    indexes := .list (d.indexes.map Index.toValue)
    constraints := .list (d.constraints.map Constraint.toValue)
    triggers := .list (d.triggers.map Trigger.toValue)
    views := .list (d.views.map View.toValue)
    hooks := d.hooks }

/-- All the parts of a definition under their names. -/
def toFields (d : ModelDefinition) : Named Value :=
  d.toDraft.toFields

/-- The definition as a value. -/
def toValue (d : ModelDefinition) : Value :=
  d.toDraft.toValue

/-- The names of the parts of a definition. -/
def fieldNames : List String :=
  (toFields { name := .null }).names

/-! ## Building the parts -/

/-- The columns under their attributes. Storing one under an attribute that is there replaces it. -/
def buildColumns (entries : Mapping) : Except Fault (List (Value × Column)) :=
  entries.mapM fun (attr, spec) => do
    let column ← Column.ofValue spec
    pure (attr, column)

/-- The definition whose parts are built from the given values, in this order. -/
def build (settings : ModelSettings)
    (columns relationships indexes constraints triggers views hooks : Value) :
    Except Fault ModelDefinition := do
  let columns ← buildColumns (← columns.entries)
  let relationships ← (← relationships.items).mapM Relationship.ofValue
  let indexes ← (← indexes.items).mapM Index.ofValue
  let constraints ← (← constraints.items).mapM Constraint.ofValue
  let triggers ← (← triggers.items).mapM Trigger.ofValue
  let views ← (← views.items).mapM View.ofValue
  pure { settings with columns, relationships, indexes, constraints, triggers, views, hooks }

/-! ## Literals -/

/-- The parts of a literal under their own names: the options are parts like the others but give
way to them, `attributes` may stand for the columns, and `paranoid` for soft deletion. -/
def canonical (v : Value) : Except Fault (Named Value) := do
  let data ← snakeKeys v
  let options ← snakeKeys (← (data.getOr "options" .null).orEmptyMapping)
  let merged := Named.union options (data.erase "options")
  pure ((merged.rename "attributes" "columns").rename "paranoid" "soft_delete")

/-- The hooks of a literal: a mapping is read slot by slot, anything else is kept. -/
def literalHooks : Option Value → Except Fault Value
  | none => pure (HookLists.toValue {})
  | some (.dict entries) => HookLists.declare (.dict entries)
  | some v => pure v

/-- The definition that a literal gives. A part that is null or empty is as good as absent. -/
def ofLiteral (v : Value) : Except Fault ModelDefinition := do
  let fields ← canonical v
  let columns ← buildColumns (← (← (fields.getOr "columns" .null).orEmptyMapping).entries)
  let part (name : String) : Except Fault (List Value) := do
    (← (fields.getOr name .null).orEmptyList).items
  let relationships ← (← part "relationships").mapM Relationship.ofValue
  let indexes ← (← part "indexes").mapM Index.ofValue
  let constraints ← (← part "constraints").mapM Constraint.ofValue
  let triggers ← (← part "triggers").mapM Trigger.ofValue
  let views ← (← part "views").mapM View.ofValue
  let hooks ← literalHooks (fields.get? "hooks")
  let settings ← ModelSettings.ofFields fields
  pure { settings with columns, relationships, indexes, constraints, triggers, views, hooks }

end ModelDefinition

namespace ModelDraft

/-- The draft with the given parts. A part that no model has is refused. -/
def ofFields (fields : Named Value) : Except Fault ModelDraft := do
  onlyKnown ModelDefinition.fieldNames fields
  let settings ← ModelSettings.ofFields fields
  let d : ModelDraft := { settings with }
  pure
    { d with
      columns := fields.getOr "columns" d.columns
      relationships := fields.getOr "relationships" d.relationships
      indexes := fields.getOr "indexes" d.indexes
      constraints := fields.getOr "constraints" d.constraints
      triggers := fields.getOr "triggers" d.triggers
      views := fields.getOr "views" d.views
      hooks := fields.getOr "hooks" d.hooks }

/-- The draft that a mapping gives, whose keys must be the exact names of parts. -/
def ofMapping (m : Mapping) : Except Fault ModelDraft := do
  ofFields (← m.mapM fun (k, v) => do pure (← k.asText, v))

/-- The draft that a value gives; only a mapping gives one. -/
def ofValue : Value → Except Fault ModelDraft
  | .dict m => ofMapping m
  | _ => wrongType

/-- Builds the parts. -/
def build (d : ModelDraft) : Except Fault ModelDefinition :=
  ModelDefinition.build d.toModelSettings d.columns d.relationships d.indexes d.constraints
    d.triggers d.views d.hooks

end ModelDraft

end Tablewright
