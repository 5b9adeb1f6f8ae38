import Tablewright.Session.RowOperation
import Tablewright.Session.Schema

/-!
# Operations on databases by name

What can be asked of a database as it is called from outside: about its models and relationships,
and, past them, directly of the engine.
-/

namespace Tablewright

/-- What an operation on a database answers. -/
inductive Answer where
  | value (v : Value)
  | model (m : ResolvedModel)

/-! ## Models and relationships -/

/-- The operations on a database. -/
inductive DatabaseOperation where
  | associate
  | relationships
  | sync
  | tableNames
  | tableExists
  | model
  | close
  deriving DecidableEq, Repr

namespace DatabaseOperation

/-- The name by which an operation is called. -/
def name : DatabaseOperation → String
  | associate => "associate"
  | relationships => "relationships"
  | sync => "sync"
  | tableNames => "table_names"
  | tableExists => "table_exists"
  | model => "model"
  | close => "close"

/-- Every operation. -/
def all : List DatabaseOperation :=
  [associate, relationships, sync, tableNames, tableExists, model, close]

/-- The operation that is called by a name. -/
def ofName? (s : String) : Option DatabaseOperation :=
  all.find? fun o => o.name == s

/-- The parameters of an operation. -/
def parameters : DatabaseOperation → List Parameter
  | associate => [needed "source", needed "kind", needed "target"]
  | relationships => [needed "model_name"]
  | sync => [flag "force"]
  | tableNames => []
  | tableExists => [needed "table_name"]
  | model => [needed "name"]
  | close => []

/-- The arguments of an operation. A relationship takes any of its parts by name as well. -/
def arguments (o : DatabaseOperation) (c : Call) : Except Fault (Named Value) :=
  match o with
  | associate => c.bindOpen o.parameters
  | _ => c.bind o.parameters

/-- Relationships as a value. -/
def relationshipList (rels : List Relationship) : Value :=
  .list (rels.map Relationship.toValue)

/-- The relationship that is given by the names of its parts, and the model that is to have it. -/
def relationshipOf (arguments : Named Value) : Except Fault (Value × Relationship) := do
  let parts := arguments.erase "source"
  onlyKnown Relationship.fieldNames parts
  pure (arguments.getOr "source" .null, ← Relationship.ofFields parts)

/-- Performs an operation, given its arguments. -/
def perform (arguments : Named Value) : DatabaseOperation → Action Answer
  | associate => do
    let (source, rel) ← relationshipOf arguments
    pure (.value (← Action.associate source rel).toValue)
  | relationships => do
    let rels ← Action.relationships (arguments.getOr "model_name" .null)
    pure (.value (relationshipList rels))
  | sync => do
    let made ← Action.sync (arguments.getOr "force" .null)
    pure (.value (.ofTexts made))
  | tableNames => do
    pure (.value (.dict (← Action.database).tables))
  | tableExists => do
    pure (.value (.bool (← Action.tableExists (arguments.getOr "table_name" .null))))
  | model => do
    pure (.model (← (← Action.database).model (arguments.getOr "name" .null)))
  | close => do
    Action.close
    pure (.value .null)

end DatabaseOperation

/-- Performs an operation on a database that is called by name. -/
def Action.call (operation : String) (c : Call) : Action Answer := do
  match DatabaseOperation.ofName? operation with
  | some o => o.perform (← o.arguments c)
  | none => noAttribute

/-! ## Single models -/

/-- Performs an operation on the rows of a model, both called by name. -/
def Action.callModel (model : Value) (operation : String) (c : Call) : Action Value := do
  let m ← (← database).model model
  m.call operation c

/-- Adds a hook to a model that is called by name. -/
def Action.callAddHook (model : Value) (c : Call) : Action Unit := do
  let m ← (← database).model model
  let arguments ← c.bind [needed "slot", needed "hook"]
  addHook m (arguments.getOr "slot" .null) (arguments.getOr "hook" .null)

/-- The relationships of a model that is called by name. -/
def Action.callRelationships (model : Value) (c : Call) : Action Value := do
  let m ← (← database).model model
  let _ ← c.bind []
  pure (DatabaseOperation.relationshipList (← relationships (.str m.name)))

/-! ## The engine -/

/-- What can be asked of the engine directly. -/
inductive EngineOperation where
  | run
  | first
  | all
  | perform
  | close
  deriving DecidableEq, Repr

namespace EngineOperation

/-- The operation that is called by a name. -/
def ofName? : String → Option EngineOperation
  | "run" => some run
  | "get" => some first
  | "all" => some all
  | "exec" => some perform
  | "close" => some close
  | _ => none

/-- The parameters of an operation. -/
def parameters : EngineOperation → List Parameter
  | run | first | all => [needed "sql", { name := "params", default? := some (.tuple []) }]
  | perform => [needed "sql"]
  | close => []

/-- Sends a statement, given the arguments. -/
def send (o : EngineOperation) (arguments : Named Value) : Action Value := do
  let sql ← (arguments.getOr "sql" (.str "")).asText
  let params ← (arguments.getOr "params" (.tuple [])).items
  match o with
  | run => Action.run sql params
  | first => Action.first sql params
  | all => .list <$> Action.rows sql params
  | perform => do
    Action.perform sql
    pure .null
  | close => do
    Action.close
    pure .null

end EngineOperation

/-- Asks the engine for something by name. Gives the result and the number of the row that was made
last. -/
def Action.callEngine (operation : String) (c : Call) : Action (Value × Value) := do
  match EngineOperation.ofName? operation with
  | some o =>
    let result ← o.send (← c.bind o.parameters)
    pure (result, (← Action.database).lastRowId)
  | none => noAttribute

/-! ## The log -/

/-- The parameters of an entry of the log. -/
def LogEntry.parameters : List Parameter :=
  [needed "operation", needed "target", optional "params", optional "rows_affected",
   optional "source", optional "sql"]

/-- The entry of the log that the arguments of a call describe. -/
def LogEntry.ofCall (c : Call) : Except Fault LogEntry := do
  let arguments ← c.bind LogEntry.parameters
  let arg (name : String) : Value := arguments.getOr name .null
  pure
    { operation := arg "operation", target := arg "target", params := arg "params",
      rowsAffected := arg "rows_affected", source := arg "source", sql := arg "sql" }

/-- Writes an entry to the log, whether or not the database keeps one by itself. -/
def Action.logCall (c : Call) : Action Unit := do
  if (← Action.database).channel = .hidden then noAttribute
  else (← LogEntry.ofCall c).write

end Tablewright
