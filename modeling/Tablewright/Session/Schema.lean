import Tablewright.Schema.Compile
import Tablewright.Session.Log
import Tablewright.Value.Numeric

/-!
# Databases and their models

Opening a database, defining models in it, and making their tables. Defining a model resolves it,
compiles it, and sends its statements in order; only when all of them succeeded does the database
remember the model and its relationships.
-/

namespace Tablewright

/-! ## Opening -/

/-- What statements are to be sent through. -/
inductive DriverKind where
  /-- A connection of the database's own. -/
  | own
  /-- A connection that is there already. -/
  | given
  /-- An object that can send statements but hides its connection. -/
  | hidden
  /-- An object that cannot send statements. -/
  | unsuited
  deriving DecidableEq, Repr

namespace Action

/-- Opens a connection and sets it up. -/
def connect (location : String) (options : Options) : Action Unit := do
  let timeout ← options.busyTimeout.thousandth
  record (.connected location timeout)
  let milliseconds ← options.busyTimeout.toInt
  perform ("PRAGMA busy_timeout=" ++ toString milliseconds)
  perform ("PRAGMA journal_mode=" ++ options.journalMode)
  let foreignKeys ← options.foreignKeys.truth
  perform ("PRAGMA foreign_keys=" ++ (if foreignKeys then "ON" else "OFF"))

/-- Sets up a database that was just created. -/
def setUp (kind : DriverKind) : Action Unit := do
  let d ← database
  match kind with
  | .own => connect d.location d.options
  | .given | .hidden => pure ()
  | .unsuited => wrongType
  if ← d.options.logOps.truth then
    if kind = .hidden then refuse (.noLogConnection (.foreign "PlainDriver"))

end Action

/-- Opens a database in a world. -/
def Session.opened (location : String) (options : Options) (kind : DriverKind) (world : World) :
    Except Fault Unit × Session :=
  let channel := if kind = .hidden then Channel.hidden else .connection
  Session.perform { database := { location, options, channel }, world } (Action.setUp kind)

/-! ## Models -/

/-- What a model is defined by. -/
inductive DefinitionSource where
  /-- A literal. -/
  | literal (v : Value)
  /-- A draft whose parts are not built yet. -/
  | draft (d : ModelDraft)
  /-- A definition with its parts built. -/
  | built (d : ModelDefinition)

namespace DefinitionSource

/-- A literal is read; it must be a mapping or a definition object. -/
def read : DefinitionSource → Except Fault DefinitionSource
  | literal (.dict m) => built <$> ModelDefinition.ofLiteral (.dict m)
  | literal (.record .model fields) => do
    pure (draft (← ModelDraft.ofMapping (fields.map fun e => (.str e.1, e.2))))
  | literal _ => noAttribute
  | s => pure s

/-- The name it gives the model. -/
def modelName : DefinitionSource → Value
  | literal _ => .null
  | draft d => d.name
  | built d => d.name

/-- The model, resolved. -/
def resolve : DefinitionSource → Except Fault ResolvedModel
  | literal _ => noAttribute
  | draft d => d.resolve
  | built d => d.resolve

end DefinitionSource

/-- The text of a model. -/
def ResolvedModel.repr (m : ResolvedModel) : String :=
  "Model(" ++ Text.quoted m.name ++ ", table=" ++ Text.quoted m.tableName ++ ")"

namespace Database

/-- The tables of all models. -/
def tableNames (d : Database) : Named String :=
  d.models.map fun e => (e.1, e.2.tableName)

/-- The tables of all models, by the models' names as values. -/
def tables (d : Database) : Mapping :=
  d.tableNames.map fun e => (.str e.1, .str e.2)

/-- The text of a database. -/
def repr (d : Database) : String :=
  "Database(" ++ Text.quoted d.location ++ ", models=" ++
    (Value.ofTexts (Named.names d.models)).repr ++ ")"

/-- Whether a model of that name is defined. -/
def hasModel (d : Database) (name : Value) : Except Fault Bool := do
  let key ← name.asKey
  pure (match key.text? with
    | some s => Named.has d.models s
    | none => false)

/-- The model of a name. -/
def model (d : Database) (name : Value) : Except Fault ResolvedModel := do
  let key ← name.asKey
  match key.text?.bind (Named.get? d.models) with
  | some m => pure m
  | none => .error (.modelNotDefined name)

/-- Remembers a model. -/
def addModel (d : Database) (m : ResolvedModel) : Database :=
  { d with models := Named.put d.models m.name m }

/-- Remembers relationships of a model. -/
def addRelationships (d : Database) (model : String) (rels : List Relationship) : Database :=
  { d with registry := d.registry.register model rels }

/-- Remembers one more relationship, under whatever key. -/
def associate (d : Database) (key : Value) (rel : Relationship) : Database :=
  match key.text? with
  | some model => d.addRelationships model [rel]
  | none => { d with strayRelationships := d.strayRelationships ++ [(key, rel)] }

/-- The relationships under a key. -/
def relationships (d : Database) (key : Value) : List Relationship :=
  match key.text? with
  | some model => d.registry.lookup model
  | none => (d.strayRelationships.filter fun e => key.same e.1).map (·.2)

end Database

namespace Action

/-- Sends a statement about the schema, and logs it. -/
def executeSchema (statement : SchemaStatement) (table source : String) : Action Unit := do
  let sql := statement.render
  report sql
  perform sql
  log { operation := .str "ddl", target := .str table, sql := .str sql, source := .str source }

/-- Sends statements about the schema in order. -/
def executeAll (statements : List SchemaStatement) (table source : String) : Action Unit :=
  statements.forM fun statement => executeSchema statement table source

/-- Warns of a column that a table with enforced column types rejects. -/
def warnOfColumn (table : String) (column : String × Column) : Action Unit := do
  let storage ← storageOf column.2.type
  if storage.inStrictTable then pure ()
  else
    report ("warning: " ++ table ++ "." ++ column.1 ++ " is " ++ storage.keyword ++
      ", which a STRICT table rejects")

/-- The model that a definition gives and the statements that make it, without sending any. -/
def compileDefinition (source : DefinitionSource) :
    Action (ResolvedModel × List SchemaStatement) := do
  let source ← source.read
  let d ← database
  if ← d.hasModel source.modelName then refuse (.modelAlreadyDefined source.modelName)
  let m ← source.resolve
  if ← m.definition.strict.truth then m.columns.forM (warnOfColumn m.tableName)
  let statements ← m.schema d.tables
  pure (m, statements)

/-- Defines a model. -/
def define (source : DefinitionSource) : Action ResolvedModel := do
  let (m, statements) ← compileDefinition source
  executeAll statements m.tableName "define"
  modifyDatabase fun d => d.addModel m
  if !m.definition.relationships.isEmpty then
    modifyDatabase fun d => d.addRelationships m.name m.definition.relationships
  report ("defined " ++ m.name ++ " -> " ++ m.tableName)
  pure m

/-- Registers one more relationship. -/
def associate (source : Value) (rel : Relationship) : Action Relationship := do
  let key ← source.asKey
  modifyDatabase fun d => d.associate key rel
  pure rel

/-- The relationships of a model. -/
def relationships (model : Value) : Action (List Relationship) := do
  let key ← model.asKey
  pure ((← database).relationships key)

/-- Adds a hook to a model. -/
def addHook (m : ResolvedModel) (slot hook : Value) : Action Unit := do
  match slot.text?.bind HookSlot.ofName? with
  | some s => modifyDatabase fun d => d.addModel { m with hooks := m.hooks.add s hook }
  | none => refuse (.hookSlot slot)

/-! ## Making tables -/

/-- Whether the engine has a table. -/
def tableExists (table : Value) : Action Bool := do
  let row ← first "SELECT name FROM sqlite_master WHERE type = 'table' AND name = ?" [table]
  pure !row.isNull

/-- The models of the given names. -/
def modelsNamed (names : List String) : Action (List ResolvedModel) := do
  let d ← database
  names.mapM fun name => d.model (.str name)

/-- Drops what a model made: its views, then its table. -/
def dropModel (m : ResolvedModel) : Action Unit :=
  executeAll
    (m.definition.views.map (fun v => .dropView v.name.display) ++ [.dropTable m.tableName])
    m.tableName "sync"

/-- Makes what a model needs, unless it is only to be made where it is missing and its table is
there. Tells whether it was made. -/
def createModel (force : Bool) (tables : Mapping) (m : ResolvedModel) : Action Bool := do
  let isThere ← if force then pure false else tableExists (.str m.tableName)
  if isThere then pure false
  else
    executeAll (← m.schema tables) m.tableName "sync"
    pure true

/-- Makes the tables of all models, those that others belong to first; the missing ones only, or
else all of them after dropping what is there. Gives the models that were made. -/
def sync (force : Value) : Action (List String) := do
  let d ← database
  let models ← modelsNamed (← d.registry.creationOrder (Named.names d.models))
  let force ← force.truth
  if force then models.reverse.forM dropModel
  let made ← models.filterM fun m => createModel force d.tables m
  pure (made.map ResolvedModel.name)

end Action

end Tablewright
