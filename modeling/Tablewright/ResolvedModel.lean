import Tablewright.Definition.Model

/-!
# Resolved models

Resolving a definition settles what it leaves open: the name of the table, the names of the columns,
the primary key, and the columns that the model's settings ask for. The outcome is a
`ResolvedModel`, from which the schema and all requests are compiled.
-/

namespace Tablewright

/-- A model with every name settled. -/
structure ResolvedModel where
  /-- The name of the model. -/
  name : String
  /-- The name of the table. -/
  tableName : String
  /-- The columns of the table, in order. -/
  columns : Named Column
  /-- The column of every attribute. -/
  fieldMap : Named String
  /-- The column that tells rows apart. -/
  primaryKey : String
  /-- The column that holds the time of making. -/
  createdAt : Option String
  /-- The column that holds the time of the last change. -/
  updatedAt : Option String
  /-- The column that holds the time of deletion. -/
  deletedAt : Option String
  /-- The column that counts changes. -/
  version : Option String
  /-- The definition with its parts built. -/
  definition : ModelDefinition
  /-- The hooks. -/
  hooks : HookLists

namespace ResolvedModel

/-- The names of the columns, in order. -/
def columnNames (m : ResolvedModel) : List String :=
  m.columns.names

/-- The column that a name stands for: an attribute for its column, anything else for itself. -/
def columnOf (m : ResolvedModel) (name : String) : String :=
  m.fieldMap.getOr name name

/-- The column that a key stands for. -/
def columnFor (m : ResolvedModel) (key : Value) : Except Fault Value :=
  if key.isHashable then
    pure (match key.text?.bind m.fieldMap.get? with
      | some column => .str column
      | none => key)
  else wrongType

end ResolvedModel

/-! ## The table's name -/

/-- A name with the ending of the plural. -/
def plural (name : Value) : Value :=
  .str (name.display ++ "s")

/-- The name of the table: a name given for it is put into the plural unless it is frozen; without
one, the name of the model serves, in the plural only on request. -/
def ModelSettings.resolveTableName (d : ModelSettings) : Except Fault Value := do
  if ← d.pluralizeTableName.truth then pure (plural (← d.tableName.orElse d.name))
  else if ← d.tableName.truth then
    pure (if ← d.freezeTableName.truth then d.tableName else plural d.tableName)
  else pure d.name

/-- The names of the model and of its table. -/
def ModelSettings.resolveNames (d : ModelSettings) : Except Fault (String × String) := do
  if !(← d.name.truth) then refuse (.unnamedModel d.name)
  let name ← checkIdentifier "model name" d.name
  let table ← checkIdentifier "table name" (← d.resolveTableName)
  pure (name, table)

/-! ## Columns -/

/-- An expression of the engine that gives the present time in universal time. -/
def presentTime : String := "strftime('%Y-%m-%dT%H:%M:%fZ', 'now')"

/-- The column that numbers the rows. -/
def idColumn (autoIncrement : Bool) : Column :=
  { type := .str "INTEGER", primaryKey := .bool true, autoIncrement := .bool autoIncrement }

/-- A column that holds the time at which a row was made or changed. -/
def timeColumn : Column :=
  { type := .str "DATE", allowNull := .bool false, defaultExpression := .str presentTime }

/-- The column that holds the time at which a row was deleted. -/
def deletionColumn : Column :=
  { type := .str "DATE", allowNull := .bool true }

/-- The column that counts changes. -/
def versionColumn : Column :=
  { type := .str "INTEGER", allowNull := .bool false, defaultValue := some (.int 0) }

/-- A referential action must be absent or known. -/
def checkAction (action : Value) : Except Fault Unit := do
  if ← action.truth then
    let upper ← action.upperCase
    match upper.text? with
    | some s =>
      if referentialActions.contains s then pure () else refuse (.referentialAction action)
    | none => refuse (.referentialAction action)
  else pure ()

/-- The columns and the attribute map while they are being settled. -/
structure ColumnPlan where
  /-- The columns so far. -/
  columns : Named Column := []
  /-- The attributes so far. -/
  fieldMap : Named String := []

namespace ColumnPlan

/-- Adds a declared column. -/
def declare (settings : ModelSettings) (model : String) (plan : ColumnPlan)
    (entry : Value × Column) : Except Fault ColumnPlan := do
  let (attr, column) := entry
  let key ←
    if ← settings.underscored.truth then (.str ∘ snakeCase) <$> attr.asText else pure attr
  let name ← checkIdentifier ("column name in " ++ model) key
  let acts ← if ← column.onDelete.truth then pure true else column.onUpdate.truth
  if acts then
    if !(← column.references.truth) then refuse (.actionWithoutReference attr model)
  checkAction column.onDelete
  checkAction column.onUpdate
  pure
    { columns := plan.columns.put name column
      fieldMap := plan.fieldMap.put ((attr.text?).getD name) name }

/-- Adds a column in front of all others. -/
def putFirst (plan : ColumnPlan) (name : String) (column : Column) : ColumnPlan :=
  { columns := Named.union [(name, column)] plan.columns
    fieldMap := Named.union [(name, name)] plan.fieldMap }

/-- Adds a column at the end unless there is one of that name. -/
def ensure (plan : ColumnPlan) (name : String) (column : Column) : ColumnPlan :=
  if plan.columns.has name then plan
  else
    { columns := plan.columns.put name column
      fieldMap := plan.fieldMap.put name name }

/-- The columns flagged as primary key. -/
def flagged (plan : ColumnPlan) : Except Fault (List String) := do
  pure (Named.names (← plan.columns.filterM fun e => e.2.primaryKey.truth))

/-- Lets an attribute stand for a column, unless it stands for one already. -/
def spell (plan : ColumnPlan) (attr : String) (column? : Option String) : ColumnPlan :=
  match column? with
  | some column => { plan with fieldMap := plan.fieldMap.putNew attr column }
  | none => plan

end ColumnPlan

/-- The name of a column that the settings ask for: the one they give, or the usual one. -/
def settingColumn (settings : ModelSettings) (given : Value) (usual : String) :
    Except Fault String := do
  let name ← if ← given.truth then pure given else do
    pure (.str (if ← settings.underscored.truth then snakeCase usual else usual))
  checkIdentifier "column name" name

/-- Whether a constraint declares the primary key of the table. -/
def Constraint.isPrimaryKey (c : Constraint) : Except Fault Bool :=
  c.type.equals (.str "primary_key")

/-- The names of the columns that the settings ask for, each if it is asked for. -/
structure RoleColumns where
  /-- The time of making. -/
  createdAt : Option String := none
  /-- The time of the last change. -/
  updatedAt : Option String := none
  /-- The time of deletion. -/
  deletedAt : Option String := none
  /-- The count of changes. -/
  version : Option String := none

namespace ModelDefinition

/-- The declared columns, settled. -/
def declaredColumns (d : ModelDefinition) (model : String) : Except Fault ColumnPlan :=
  d.columns.foldlM (ColumnPlan.declare d.toModelSettings model) {}

/-- Adds a column that numbers the rows where none is flagged as primary key: not if a declared
column has its name, nor if a constraint declares the key. -/
def withId (d : ModelDefinition) (flagged : List String) (plan : ColumnPlan) :
    Except Fault ColumnPlan := do
  let isConstrained ← d.constraints.anyM Constraint.isPrimaryKey
  if flagged.isEmpty && !plan.columns.has "id" && !isConstrained then
    pure (plan.putFirst "id" (idColumn !(← d.withoutRowid.truth)))
  else pure plan

/-- Adds the columns for the times of making and of the last change. -/
def withTimes (d : ModelDefinition) (plan : ColumnPlan) (roles : RoleColumns) :
    Except Fault (ColumnPlan × RoleColumns) := do
  if ← d.timestamps.truth then
    let createdAt ← settingColumn d.toModelSettings d.createdAt "createdAt"
    let updatedAt ← settingColumn d.toModelSettings d.updatedAt "updatedAt"
    pure ((plan.ensure createdAt timeColumn).ensure updatedAt timeColumn,
      { roles with createdAt := some createdAt, updatedAt := some updatedAt })
  else pure (plan, roles)

/-- Adds the column for the time of deletion. -/
def withDeletion (d : ModelDefinition) (plan : ColumnPlan) (roles : RoleColumns) :
    Except Fault (ColumnPlan × RoleColumns) := do
  if ← d.softDelete.truth then
    let deletedAt ← settingColumn d.toModelSettings d.deletedAt "deletedAt"
    pure (plan.ensure deletedAt deletionColumn, { roles with deletedAt := some deletedAt })
  else pure (plan, roles)

/-- Adds the column that counts changes. -/
def withVersion (d : ModelDefinition) (plan : ColumnPlan) (roles : RoleColumns) :
    Except Fault (ColumnPlan × RoleColumns) := do
  if ← d.version.truth then
    let given := if d.version.text?.isSome then d.version else .null
    let version ← settingColumn d.toModelSettings given "version"
    pure (plan.ensure version versionColumn, { roles with version := some version })
  else pure (plan, roles)

/-- In a model whose columns are in snake case, the usual spellings of its time columns still stand
for them. -/
def withSpellings (d : ModelDefinition) (plan : ColumnPlan) (roles : RoleColumns) :
    Except Fault ColumnPlan := do
  if ← d.underscored.truth then
    pure (((plan.spell "createdAt" roles.createdAt).spell "updatedAt" roles.updatedAt).spell
      "deletedAt" roles.deletedAt)
  else pure plan

/-- The definition resolved under names that are already settled. -/
def resolveWith (d : ModelDefinition) (name table : String) : Except Fault ResolvedModel := do
  let hooks ← HookLists.ofValue d.hooks
  let plan ← d.declaredColumns name
  let flagged ← plan.flagged
  if 1 < flagged.length then refuse (.severalPrimaryKeys name flagged)
  let plan ← d.withId flagged plan
  let (plan, roles) ← d.withTimes plan {}
  let (plan, roles) ← d.withDeletion plan roles
  let (plan, roles) ← d.withVersion plan roles
  let plan ← d.withSpellings plan roles
  pure
    { name := name
      tableName := table
      columns := plan.columns
      fieldMap := plan.fieldMap
      primaryKey := flagged.head?.getD "id"
      createdAt := roles.createdAt
      updatedAt := roles.updatedAt
      deletedAt := roles.deletedAt
      version := roles.version
      definition := { d with hooks := hooks.toValue }
      hooks := hooks }

/-- Resolves a definition. -/
def resolve (d : ModelDefinition) : Except Fault ResolvedModel := do
  let (name, table) ← d.resolveNames
  d.resolveWith name table

end ModelDefinition

/-- Resolves a draft: the names are settled first, then the parts are built. -/
def ModelDraft.resolve (d : ModelDraft) : Except Fault ResolvedModel := do
  let (name, table) ← d.resolveNames
  let definition ← d.build
  definition.resolveWith name table

end Tablewright
