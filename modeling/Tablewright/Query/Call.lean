import Tablewright.Arguments
import Tablewright.Query.Table

/-!
# Requests by name

A request to a table as it is called from outside: by its name, with arguments by position or by
name.
-/

namespace Tablewright

/-- The requests to a table. -/
inductive RequestKind where
  | select
  | selectOne
  | selectByKey
  | aggregate
  | count
  | insert
  | upsert
  | update
  | increment
  | delete
  | truncate
  deriving DecidableEq, Repr

namespace RequestKind

/-- The name by which a request is called. -/
def name : RequestKind → String
  | select => "select"
  | selectOne => "select_one"
  | selectByKey => "select_by_pk"
  | aggregate => "aggregate"
  | count => "count"
  | insert => "insert"
  | upsert => "upsert"
  | update => "update"
  | increment => "increment"
  | delete => "delete"
  | truncate => "truncate"

/-- Every request. -/
def all : List RequestKind :=
  [select, selectOne, selectByKey, aggregate, count, insert, upsert, update, increment, delete,
   truncate]

/-- The request that is called by a name. -/
def ofName? (s : String) : Option RequestKind :=
  all.find? fun k => k.name == s

/-- The parameters of a request. -/
def parameters : RequestKind → List Parameter
  | select =>
    [optional "where", optional "order", optional "limit", optional "offset",
     flag "with_deleted"]
  | selectOne => [optional "where", optional "order", flag "with_deleted"]
  | selectByKey => [needed "value", flag "with_deleted"]
  | aggregate =>
    [needed "fn", { name := "column", default? := some (.str "*") }, optional "where",
     flag "with_deleted"]
  | count => [optional "where", flag "with_deleted"]
  | insert => [needed "values", flag "or_ignore"]
  | upsert => [needed "values", optional "conflict"]
  | update => [needed "values", needed "where", optional "expressions"]
  | increment => [needed "deltas", needed "where"]
  | delete => [needed "where"]
  | truncate => []

/-- The statement of a request, given the value of every parameter. -/
def statement (t : QueryTable) (arguments : Named Value) :
    RequestKind → Except Fault RowStatement :=
  let arg (name : String) : Value := arguments.getOr name .null
  fun
  | select =>
    .select <$> t.select (arg "where") (arg "order") (arg "limit") (arg "offset")
      (arg "with_deleted")
  | selectOne => .select <$> t.selectOne (arg "where") (arg "order") (arg "with_deleted")
  | selectByKey => .select <$> t.selectByKey (arg "value") (arg "with_deleted")
  | aggregate =>
    .select <$> t.aggregate (arg "fn") (arg "column") (arg "where") (arg "with_deleted")
  | count => .select <$> t.count (arg "where") (arg "with_deleted")
  | insert => .insert <$> t.insert (arg "values") (arg "or_ignore")
  | upsert => .insert <$> t.upsert (arg "values") (arg "conflict")
  | update => .update <$> t.update (arg "values") (arg "where") (arg "expressions")
  | increment => .update <$> t.increment (arg "deltas") (arg "where")
  | delete => .delete <$> t.delete (arg "where")
  | truncate => pure (.delete t.truncate)

end RequestKind

/-- The statement of a request that is called by name. -/
def QueryTable.call (t : QueryTable) (request : String) (c : Call) :
    Except Fault RowStatement := do
  match RequestKind.ofName? request with
  | some kind => kind.statement t (← c.bind kind.parameters)
  | none => noAttribute

end Tablewright
