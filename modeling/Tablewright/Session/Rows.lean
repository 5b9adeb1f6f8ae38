import Tablewright.Query.Table
import Tablewright.Session.Schema
import Tablewright.Validation.Row

/-!
# Reading and writing the rows of a model

The operations of a model. Keys may be attributes or columns. Hooks that run before a write work on
its live data; hooks that run after it get a copy of the outcome, so that nothing they do reaches
the caller.
-/

namespace Tablewright

namespace ResolvedModel

variable (m : ResolvedModel)

/-- The entries of a mapping under the columns that their keys stand for. Of two keys for one column
the later counts. -/
def columnValues (values : Value) : Except Fault Mapping := do
  let pairs ← (← (← values.orEmptyMapping).entries).mapM fun (k, v) => do
    pure (← m.columnFor k, v)
  pure (Mapping.ofPairs pairs)

/-- An ordering in terms of columns. -/
def columnOrder (order : Value) : Except Fault Value := do
  if !(← order.truth) then pure order
  else
    let items ← if order.text?.isSome then pure [order] else order.items
    let terms ← items.mapM fun item => do
      if item.text?.isSome then m.columnFor item
      else
        let (column, direction) ← item.pair
        pure (.tuple [← m.columnFor column, direction])
    pure (.list terms)

/-! ## Hooks -/

/-- Runs the hooks of a slot before a write, on its data. -/
def runBefore (slot : HookSlot) (data : Value) (skip : Value) : Action Value := do
  if ← skip.truth then pure data else Action.runHookList (m.hooks.get slot) data false

/-- Runs the hooks of a slot after a write, on a copy of its outcome. -/
def runAfter (slot : HookSlot) (data : Value) (skip : Value) : Action Unit := do
  if ← skip.truth then pure ()
  else do
    let _ ← Action.runHookList (m.hooks.get slot) data true

/-! ## Statements -/

/-- The first row that a selection gives, or null. -/
def fetchFirst (s : Selection) : Action Value :=
  let statement := RowStatement.select s
  Action.first statement.sql statement.params

/-- Sends a statement that changes rows, and logs it. Gives the number of rows it touched. -/
def runWrite (operation : String) (statement : RowStatement) : Action Value := do
  let sql := statement.sql
  let params := Value.list statement.params
  Action.report (sql ++ " " ++ params.repr)
  let changes ← Action.run sql statement.params
  Action.log
    { operation := .str operation, target := .str m.tableName, params, rowsAffected := changes,
      source := .str ("model:" ++ m.name), sql := .str sql }
  pure changes

/-- The part of a row that an aggregate gives. -/
def resultOf : Value → Except Fault Value
  | .dict row =>
    match Mapping.field? row "result" with
    | some v => pure v
    | none => .error (.misuse .missingKey)
  | _ => wrongType

/-! ## Reading -/

/-- The rows that meet a condition. -/
def findAll (condition order limit offset withDeleted : Value) : Action (List Value) := do
  let columns ← m.columnValues condition
  let order ← m.columnOrder order
  let s ← m.queryTable.select (.dict columns) order limit offset withDeleted
  let statement := RowStatement.select s
  Action.rows statement.sql statement.params

/-- The row with a primary key, or null. -/
def findByKey (key withDeleted : Value) : Action Value := do
  let s ← m.queryTable.selectByKey key withDeleted
  fetchFirst s

/-- The first row that meets a condition, or null. -/
def findOne (condition order withDeleted : Value) : Action Value := do
  let columns ← m.columnValues condition
  let order ← m.columnOrder order
  let s ← m.queryTable.selectOne (.dict columns) order withDeleted
  fetchFirst s

/-- The number of rows that meet a condition. -/
def count (condition withDeleted : Value) : Action Value := do
  let columns ← m.columnValues condition
  let s ← m.queryTable.count (.dict columns) withDeleted
  let row ← fetchFirst s
  resultOf row

/-- One page of the rows that meet a condition, and the number of all of them. -/
def findAndCountAll (condition order limit offset withDeleted : Value) : Action Value := do
  let rows ← m.findAll condition order limit offset withDeleted
  let total ← m.count condition withDeleted
  pure (.dict [(.str "count", total), (.str "rows", .list rows)])

/-- A function over a column of the rows that meet a condition. -/
def aggregate (function : String) (column condition : Value) : Action Value := do
  let column ← m.columnFor column
  let columns ← m.columnValues condition
  let s ← m.queryTable.aggregate (.str function) column (.dict columns) (.bool false)
  let row ← fetchFirst s
  resultOf row

/-! ## Inserting -/

/-- Adds the defaults that are called for a value, in the order of the columns. -/
def fillDefaults (row : Mapping) : Named Column → Action Mapping
  | [] => pure row
  | (name, c) :: rest => do
    match c.defaultValue.filter Value.isCallable with
    | some source =>
      if Mapping.hasKey row (.str name) then fillDefaults row rest
      else
        let v ← Action.callDefault source
        fillDefaults (Mapping.put row (.str name) v) rest
    | none => fillDefaults row rest

/-- Puts a time into a column that has no value. -/
def fillTime (now : String) (row : Mapping) (column? : Option String) : Mapping :=
  match column? with
  | some column =>
    if ((Mapping.field? row column).getD .null).isNull then
      Mapping.put row (.str column) (.str now)
    else row
  | none => row

/-- The row that is inserted for some values: with the defaults that are called for a value, and
with the times of making and of change. -/
def insertValues (values : Value) : Action Mapping := do
  let row ← m.columnValues values
  let row ← fillDefaults row m.columns
  let now ← Action.timestamp
  pure (fillTime now (fillTime now row m.createdAt) m.updatedAt)

/-- Refuses a row in which anything is wrong. -/
def validate (row : Mapping) : Action Unit := do
  validateRow m.name m.columns (.dict row)

/-- The row as the engine keeps it after it was inserted; the row that was sent if the engine gives
none, or if it cannot be told from others. -/
def fetchInserted (row : Mapping) : Action Value := do
  if !m.columns.has m.primaryKey then pure (.dict row)
  else
    let given := (Mapping.field? row m.primaryKey).getD .null
    let key ← if given.isNull then do pure (← Action.database).lastRowId else pure given
    let s ← m.queryTable.selectByKey key (.bool true)
    let found ← fetchFirst s
    found.orElse (.dict row)

/-- Inserts one row and gives it as it is stored. -/
def create (values skipHooks : Value) : Action Value := do
  let values ← (← values.orEmptyMapping).toMapping
  let values ← m.runBefore .beforeInsert (.dict values) skipHooks
  let row ← m.insertValues values
  m.validate row
  let insertion ← m.queryTable.insert (.dict row) (.bool false)
  let _ ← m.runWrite "create" (.insert insertion)
  let created ← m.fetchInserted row
  m.runAfter .afterInsert created skipHooks
  pure created

/-- Inserts rows in order, up to the first failure. -/
def createAll (records skipHooks : Value) : Action Value := do
  let created ← (← records.items).mapM fun record => m.create record skipHooks
  pure (.list created)

/-- The values of a row in the columns of a conflict. -/
def conflictValues (row : Mapping) (targets : List Value) : Except Fault Mapping := do
  let pairs ← targets.mapM fun t => do
    match Mapping.get? row t with
    | some v => pure (t, v)
    | none => .error (.misuse .missingKey)
  pure (Mapping.ofPairs pairs)

/-- The row without the time of making. -/
def withoutCreatedAt (row : Mapping) : Mapping :=
  match m.createdAt with
  | some column => Mapping.remove row (.str column)
  | none => row

/-- Inserts a row, or changes the one it conflicts with. -/
def upsert (values conflict skipHooks : Value) : Action Value := do
  let values ← values.toMapping
  let values ← m.runBefore .beforeInsert (.dict values) skipHooks
  let row ← m.insertValues values
  m.validate row
  let named ← (← conflict.orElse (.list [.str m.primaryKey])).items
  let targets ← named.mapM fun c => (m.columnFor c : Except Fault Value)
  let missing := targets.filter fun t => !Mapping.hasKey row t
  if !missing.isEmpty then
    let missing ← missing.mapM fun t => (t.asText : Except Fault String)
    refuse (.missingConflictValues m.tableName missing)
  let row := m.withoutCreatedAt row
  let insertion ← m.queryTable.upsert (.dict row) (.list targets)
  let _ ← m.runWrite "upsert" (.insert insertion)
  let key ← conflictValues row targets
  let result ← m.findOne (.dict key) .null (.bool true)
  m.runAfter .afterInsert result skipHooks
  pure result

/-- The entries of a mapping, which nothing else can be taken for. -/
def spread : Value → Except Fault Mapping
  | .dict entries => pure entries
  | _ => wrongType

/-- The first row that meets a condition, or else a new row made of the condition and some more
values; and whether the row is new. -/
def findOrCreate (condition defaults : Value) : Action Value := do
  let found ← m.findOne condition .null (.bool false)
  if found.isNull then
    let values ← spread condition
    let values := Mapping.union values (← spread (← defaults.orEmptyMapping))
    let created ← m.create (.dict values) (.bool false)
    pure (.tuple [created, .bool true])
  else pure (.tuple [found, .bool false])

/-! ## Changing -/

/-- The columns that an update takes to new values by itself: the time of change. -/
def withUpdatedAt (now : String) (row : Mapping) : Mapping :=
  match m.updatedAt with
  | some column => Mapping.put row (.str column) (.str now)
  | none => row

/-- The expression that counts a change. -/
def versionStep : Mapping :=
  match m.version with
  | some column => [(.str column, .str (column ++ " + 1"))]
  | none => []

/-- The row without the count of changes. -/
def withoutVersion (row : Mapping) : Mapping :=
  match m.version with
  | some column => Mapping.remove row (.str column)
  | none => row

/-- Changes the rows that meet a condition; gives their number. -/
def update (values condition skipHooks : Value) : Action Value := do
  m.queryTable.requireCondition "update" condition
  let values ← values.toMapping
  let values ← m.runBefore .beforeUpdate (.dict values) skipHooks
  let row ← m.columnValues values
  m.validate row
  let row := m.withoutVersion (m.withUpdatedAt (← Action.timestamp) row)
  let columns ← m.columnValues condition
  let change ← m.queryTable.update (.dict row) (.dict columns) (.dict m.versionStep)
  let changes ← m.runWrite "update" (.update change)
  m.runAfter .afterUpdate (.dict row) skipHooks
  pure changes

/-- The amounts by which columns grow: as a mapping gives them, or one for all that are named. -/
def deltas (columns amount : Value) : Except Fault Value :=
  match columns with
  | .dict _ => pure columns
  | _ => do
    let names ← if columns.text?.isSome then pure [columns] else columns.items
    let pairs ← names.mapM fun c => do pure (← c.asKey, amount)
    pure (.dict (Mapping.ofPairs pairs))

/-- Adds amounts to columns of the rows that meet a condition; gives their number. -/
def increment (columns condition amount : Value) : Action Value := do
  let deltas ← deltas columns amount
  let deltas ← m.columnValues deltas
  let columns ← m.columnValues condition
  let change ← m.queryTable.increment (.dict deltas) (.dict columns)
  m.runWrite "increment" (.update change)

/-- Takes amounts from columns of the rows that meet a condition; gives their number. -/
def decrement (columns condition amount : Value) : Action Value := do
  match columns with
  | .dict entries =>
    let negated ← entries.mapM fun (c, v) => do pure (c, ← (v.negated : Except Fault Value))
    m.increment (.dict negated) condition (.int 1)
  | _ =>
    let amount ← amount.negated
    m.increment columns condition amount

/-! ## Deleting -/

/-- The column that marks rows as deleted, unless they are to be deleted all the same. -/
def marksDeletion (force : Value) : Except Fault (Option String) :=
  match m.deletedAt with
  | some deletedAt => do pure (if ← force.truth then none else some deletedAt)
  | none => pure none

/-- Deletes the rows that meet a condition, or marks them as deleted where the model does so; gives
their number. -/
def destroy (condition force skipHooks : Value) : Action Value := do
  m.queryTable.requireCondition "destroy" condition
  let condition ← condition.toMapping
  let condition ← m.runBefore .beforeDelete (.dict condition) skipHooks
  let columns ← m.columnValues condition
  let changes ←
    match ← m.marksDeletion force with
    | some deletedAt => do
      let now ← Action.timestamp
      let change ← m.queryTable.update (.dict [(.str deletedAt, .str now)]) (.dict columns) .null
      m.runWrite "soft_delete" (.update change)
    | none => do
      let removal ← m.queryTable.delete (.dict columns)
      m.runWrite "destroy" (.delete removal)
  m.runAfter .afterDelete condition skipHooks
  pure changes

/-- Takes back the deletion of the rows that meet a condition; gives their number. -/
def restore (condition : Value) : Action Value := do
  match m.deletedAt with
  | none => refuse (.notSoftDelete m.name)
  | some deletedAt =>
    let columns ← m.columnValues condition
    let change ← m.queryTable.update (.dict [(.str deletedAt, .null)]) (.dict columns) .null
    m.runWrite "restore" (.update change)

/-- Deletes every row; gives their number. -/
def truncate : Action Value :=
  m.runWrite "truncate" (.delete m.queryTable.truncate)

end ResolvedModel

end Tablewright
