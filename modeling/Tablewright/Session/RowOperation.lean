import Tablewright.Arguments
import Tablewright.Session.Rows

/-!
# Operations on rows by name

An operation on the rows of a model as it is called from outside: by its name, with arguments by
position or by name.
-/

namespace Tablewright

/-- The operations on the rows of a model. -/
inductive RowOperation where
  | findAll
  | findByKey
  | findOne
  | count
  | findAndCountAll
  | min
  | max
  | sum
  | average
  | create
  | createAll
  | upsert
  | findOrCreate
  | update
  | increment
  | decrement
  | destroy
  | restore
  | truncate
  deriving DecidableEq, Repr

namespace RowOperation

/-- The name by which an operation is called. -/
def name : RowOperation → String
  | findAll => "find_all"
  | findByKey => "find_by_pk"
  | findOne => "find_one"
  | count => "count"
  | findAndCountAll => "find_and_count_all"
  | min => "min"
  | max => "max"
  | sum => "sum"
  | average => "average"
  | create => "create"
  | createAll => "bulk_create"
  | upsert => "upsert"
  | findOrCreate => "find_or_create"
  | update => "update"
  | increment => "increment"
  | decrement => "decrement"
  | destroy => "destroy"
  | restore => "restore"
  | truncate => "truncate"

/-- Every operation. -/
def all : List RowOperation :=
  [findAll, findByKey, findOne, count, findAndCountAll, min, max, sum, average, create, createAll,
   upsert, findOrCreate, update, increment, decrement, destroy, restore, truncate]

/-- The operation that is called by a name. -/
def ofName? (s : String) : Option RowOperation :=
  all.find? fun o => o.name == s

/-- The parameters of an operation. -/
def parameters : RowOperation → List Parameter
  | findAll | findAndCountAll =>
    [optional "where", optional "order", optional "limit", optional "offset",
     flag "with_deleted"]
  | findByKey => [needed "value", flag "with_deleted"]
  | findOne => [optional "where", optional "order", flag "with_deleted"]
  | count => [optional "where", flag "with_deleted"]
  | min | max | sum | average => [needed "column", optional "where"]
  | create => [optional "values", flag "skip_hooks"]
  | createAll => [needed "records", flag "skip_hooks"]
  | upsert => [needed "values", optional "conflict", flag "skip_hooks"]
  | findOrCreate => [needed "where", optional "defaults"]
  | update => [needed "values", needed "where", flag "skip_hooks"]
  | increment | decrement =>
    [needed "columns", needed "where", { name := "by", default? := some (.int 1) }]
  | destroy => [needed "where", flag "force", flag "skip_hooks"]
  | restore => [needed "where"]
  | truncate => []

/-- Performs an operation on a model, given the value of every parameter. A sum over no rows is
zero and not null. -/
def perform (m : ResolvedModel) (arguments : Named Value) : RowOperation → Action Value :=
  let arg (name : String) : Value := arguments.getOr name .null
  fun
  | findAll =>
    .list <$> m.findAll (arg "where") (arg "order") (arg "limit") (arg "offset")
      (arg "with_deleted")
  | findByKey => m.findByKey (arg "value") (arg "with_deleted")
  | findOne => m.findOne (arg "where") (arg "order") (arg "with_deleted")
  | count => m.count (arg "where") (arg "with_deleted")
  | findAndCountAll =>
    m.findAndCountAll (arg "where") (arg "order") (arg "limit") (arg "offset")
      (arg "with_deleted")
  | min => m.aggregate "MIN" (arg "column") (arg "where")
  | max => m.aggregate "MAX" (arg "column") (arg "where")
  | sum => m.aggregate "TOTAL" (arg "column") (arg "where")
  | average => m.aggregate "AVG" (arg "column") (arg "where")
  | create => m.create (arg "values") (arg "skip_hooks")
  | createAll => m.createAll (arg "records") (arg "skip_hooks")
  | upsert => m.upsert (arg "values") (arg "conflict") (arg "skip_hooks")
  | findOrCreate => m.findOrCreate (arg "where") (arg "defaults")
  | update => m.update (arg "values") (arg "where") (arg "skip_hooks")
  | increment => m.increment (arg "columns") (arg "where") (arg "by")
  | decrement => m.decrement (arg "columns") (arg "where") (arg "by")
  | destroy => m.destroy (arg "where") (arg "force") (arg "skip_hooks")
  | restore => m.restore (arg "where")
  | truncate => m.truncate

end RowOperation

/-- Performs an operation that is called by name. -/
def ResolvedModel.call (m : ResolvedModel) (operation : String) (c : Call) : Action Value := do
  match RowOperation.ofName? operation with
  | some o => o.perform m (← c.bind o.parameters)
  | none => noAttribute

end Tablewright
