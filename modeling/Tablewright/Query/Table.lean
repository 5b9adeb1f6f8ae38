import Tablewright.Query.Statement
import Tablewright.ResolvedModel
import Tablewright.Value.Numeric
import Tablewright.Value.Storable

/-!
# Requests to a table

A `QueryTable` is what requests need to know of a table. Each request checks every column it names
against those of the table and gives a statement; the values it holds are bound as they are stored.
Filters ask for equality only.
-/

namespace Tablewright

/-- A table as requests see it. -/
structure QueryTable where
  /-- The name of the table. -/
  name : String
  /-- The columns that may be named; if there are none, any may. -/
  columns : List Value
  /-- The column that tells rows apart. -/
  primaryKey : String := "id"
  /-- The column that marks deleted rows. -/
  deletedAt : Option String := none

/-- The table of a resolved model. -/
def ResolvedModel.queryTable (m : ResolvedModel) : QueryTable :=
  { name := m.tableName, columns := m.columnNames.map .str, primaryKey := m.primaryKey,
    deletedAt := m.deletedAt }

namespace QueryTable

variable (t : QueryTable)

/-- The columns that a collection lists. Each must be fit to be looked up by. -/
def columnsOf (v : Value) : Except Fault (List Value) := do
  (← v.items).mapM Value.asKey

/-- The text of a table in messages. -/
def repr : String :=
  "QueryBuilder(" ++ Text.quoted t.name ++ ", pk=" ++ Text.quoted t.primaryKey ++ ")"

/-! ## Parts of requests -/

/-- A column that a request names. -/
def column (v : Value) : Except Fault Value :=
  if t.columns.isEmpty then pure v
  else do
    let key ← v.memberKey
    if t.columns.any (key.same ·) then pure v else refuse (.unknownColumn v t.name t.columns)

/-- One filter: the column is checked, then the value is stored. -/
def filter (entry : Value × Value) : Except Fault Binding := do
  let column ← t.column entry.1
  let value ← entry.2.storable
  pure { column := column.display, value }

/-- The filters of a condition; null and whatever is empty filter nothing. -/
def filters (condition : Value) : Except Fault (List Binding) := do
  (← (← condition.orEmptyMapping).entries).mapM t.filter

/-- The column that keeps deleted rows out, unless they are asked for. -/
def undeleted (withDeleted : Value) : Except Fault (Option String) :=
  match t.deletedAt with
  | some column => do pure (if ← withDeleted.truth then none else some column)
  | none => pure none

/-- A term of an ordering: a column, or a column and its direction. -/
def orderTerm (item : Value) : Except Fault OrderTerm := do
  let (column, direction) ←
    if item.text?.isSome then pure (item, Value.str "ASC") else item.pair
  let keyword := Text.upper direction.text
  match Direction.ofKeyword? keyword with
  | some direction =>
    let column ← t.column column
    pure { column := column.display, direction }
  | none => refuse (.orderDirection keyword)

/-- The terms of an ordering, if one is given. -/
def ordering (order : Value) : Except Fault (List OrderTerm) := do
  if ← order.truth then (← order.items).mapM t.orderTerm else pure []

/-- A number of rows, if one is given. -/
def rowCount? (v : Value) : Except Fault (Option Int) := do
  if ← v.truth then pure (some (← v.toInt)) else pure none

/-! ## Reading -/

/-- The rows that meet a condition. -/
def select (condition order limit offset withDeleted : Value) : Except Fault Selection := do
  let undeleted ← t.undeleted withDeleted
  let filters ← t.filters condition
  let order ← t.ordering order
  let limit ← rowCount? limit
  let offset ← rowCount? offset
  pure { projection := .rows, table := t.name, undeleted, filters, order, limit, offset }

/-- The first row that meets a condition. -/
def selectOne (condition order withDeleted : Value) : Except Fault Selection :=
  t.select condition order (.int 1) .null withDeleted

/-- The row with a primary key. -/
def selectByKey (key withDeleted : Value) : Except Fault Selection := do
  let undeleted ← t.undeleted withDeleted
  let value ← key.storable
  pure
    { projection := .rows, table := t.name, undeleted,
      filters := [{ column := t.primaryKey, value }], limit := some 1 }

/-- A function over the rows that meet a condition. -/
def aggregate (function column condition withDeleted : Value) : Except Fault Selection := do
  let function ← function.upperCase
  match function.text? with
  | some name =>
    if !aggregateNames.contains name then refuse (.aggregate function)
    let column? ←
      if ← column.equals (.str "*") then pure none
      else (fun v => some v.display) <$> t.column column
    let undeleted ← t.undeleted withDeleted
    let filters ← t.filters condition
    pure { projection := .aggregate name column?, table := t.name, undeleted, filters }
  | none => refuse (.aggregate function)

/-- The number of rows that meet a condition. -/
def count (condition withDeleted : Value) : Except Fault Selection :=
  t.aggregate (.str "COUNT") (.str "*") condition withDeleted

/-! ## Writing -/

/-- Values paired with their columns. -/
def bindAll (columns : List String) (values : List Value) : List Binding :=
  (columns.zip values).map fun e => { column := e.1, value := e.2 }

/-- The stored values of a mapping, in order. -/
def storedValues (values : Value) : Except Fault (List Value) := do
  (← values.entries).mapM fun e => e.2.storable

/-- The insertion of a row. -/
def insert (values orIgnore : Value) : Except Fault Insertion := do
  let orIgnore ← orIgnore.truth
  if ← values.truth then
    let columns ← (← values.items).mapM t.column
    let columns ← columns.mapM Value.asText
    let stored ← storedValues values
    pure { orIgnore, table := t.name, values := bindAll columns stored }
  else pure { orIgnore, table := t.name, values := [] }

/-- The insertion of a row that takes the place of one it conflicts with. -/
def upsert (values conflict : Value) : Except Fault Insertion := do
  if !(← values.truth) then refuse (.nothingToUpsert values)
  let conflict ← conflict.orElse (.list [.str t.primaryKey])
  let targets ← (← conflict.items).mapM t.column
  let insertion ← t.insert values (.bool false)
  let updates ← (← values.items).filterM fun c => do pure !(← c.isAmong targets)
  let targets ← targets.mapM Value.asText
  pure
    { insertion with
      conflict := some { targets, updates := updates.map Value.display } }

/-- A condition that must not be empty. -/
def requireCondition (operation : String) (condition : Value) : Except Fault Unit := do
  if ← condition.truth then pure () else refuse (.noCondition operation t.name condition)

/-- A column that takes the value of an expression. -/
def computation (entry : Value × Value) : Except Fault Assignment := do
  let column ← t.column entry.1
  pure (.compute column.display entry.2.display)

/-- The change of the rows that meet a condition. -/
def update (values condition expressions : Value) : Except Fault Change := do
  t.requireCondition "update" condition
  let changes ← if ← values.truth then pure true else expressions.truth
  if !changes then refuse (.nothingToUpdate t.name values)
  let columns ← (← values.items).mapM t.column
  let stored ← storedValues values
  let computed ← (← (← expressions.orEmptyMapping).entries).mapM t.computation
  let filters ← t.filters condition
  pure
    { table := t.name
      assignments := (bindAll (columns.map Value.display) stored).map .set ++ computed
      filters }

/-- The addition of amounts to columns of the rows that meet a condition. -/
def increment (deltas condition : Value) : Except Fault Change := do
  if !(← deltas.truth) then refuse (.nothingToIncrement deltas)
  t.requireCondition "increment" condition
  let columns ← (← deltas.items).mapM t.column
  let filters ← t.filters condition
  let stored ← storedValues deltas
  pure
    { table := t.name
      assignments := (bindAll (columns.map Value.display) stored).map .add
      filters }

/-- The removal of the rows that meet a condition. -/
def delete (condition : Value) : Except Fault Removal := do
  t.requireCondition "delete" condition
  let filters ← t.filters condition
  pure { table := t.name, filters }

/-- The removal of every row. -/
def truncate : Removal :=
  { table := t.name, filters := [] }

end QueryTable

end Tablewright
