import Tablewright.Hook.Run
import Tablewright.Registry
import Tablewright.ResolvedModel
import Tablewright.Session.Options

/-!
# Sessions

What a database remembers, and the world it works in: the answers that the engine is going to give,
the clock, the sources of default values, and the trace of all that was done. An `Action` is a step
of a session that may fail; what was done before the failure stays done.
-/

namespace Tablewright

/-- What happens in a session. -/
inductive Event where
  /-- A connection to a location was opened, with a time to wait for locks. -/
  | connected (location : String) (timeout : Value)
  /-- A statement was sent to the engine. -/
  | executed (sql : String) (params : List Value)
  /-- The connection was closed. -/
  | closed
  /-- A hook started or finished. -/
  | hook (e : HookEvent)

/-- The engine's answer to a statement. -/
inductive Reply where
  /-- It went well: the rows it gave, how many it touched, and the number of the row it made. -/
  | done (rows : List Value) (rowCount lastRowId : Value)
  /-- It was refused. -/
  | refused (kind message : String)

/-- The answer to a statement that gives nothing. -/
def Reply.nothing : Reply :=
  .done [] (.int 0) .null

/-- What a session works in. -/
structure World where
  /-- The answers to come. -/
  replies : List Reply := []
  /-- The present time, in universal time. -/
  now : Moment
  /-- How often each source of default values has been asked. -/
  drawn : List (Nat × Nat) := []
  /-- What happened, in order. -/
  trace : List Event := []
  /-- The lines that were reported. -/
  diagnostics : List String := []
  /-- The lines that were printed. -/
  output : List String := []

/-- How statements reach the engine. -/
inductive Channel where
  /-- Through a connection that operations can be logged over. -/
  | connection
  /-- Through an object that hides its connection. -/
  | hidden
  deriving DecidableEq, Repr

/-- What a database remembers. -/
structure Database where
  /-- Where it is. -/
  location : String
  /-- How it was set up. -/
  options : Options
  /-- How statements reach the engine. -/
  channel : Channel := .connection
  /-- Whether the connection is closed. -/
  isClosed : Bool := false
  /-- The number of the row that was made last. -/
  lastRowId : Value := .null
  /-- The models that are defined, under their names. -/
  models : Named ResolvedModel := []
  /-- The relationships that are known. -/
  registry : Registry := []
  /-- The relationships that were registered under what can be no name of a model, with what that
  was. -/
  strayRelationships : List (Value × Relationship) := []

/-- A database in its world. -/
structure Session where
  /-- The database. -/
  database : Database
  /-- The world. -/
  world : World

/-- A step of a session. -/
abbrev Action (α : Type) := ExceptT Fault (StateM Session) α

/-- Takes a step in a session: its outcome and the session as it leaves it. -/
def Session.perform {α : Type} (s : Session) (action : Action α) : Except Fault α × Session :=
  StateT.run (ExceptT.run action) s

namespace Action

/-- The database as it is. -/
def database : Action Database := do
  pure (← get).database

/-- Changes what the database remembers. -/
def modifyDatabase (f : Database → Database) : Action Unit :=
  modify fun s => { s with database := f s.database }

/-- Changes the world. -/
def modifyWorld (f : World → World) : Action Unit :=
  modify fun s => { s with world := f s.world }

/-- Adds an event to the trace. -/
def record (e : Event) : Action Unit :=
  modifyWorld fun w => { w with trace := w.trace ++ [e] }

/-- Reports a line, if the database is to report. -/
def report (line : String) : Action Unit := do
  if ← (← database).options.verbose.truth then
    modifyWorld fun w => { w with diagnostics := w.diagnostics ++ [line] }
  else pure ()

/-- The present time as it is stored. -/
def timestamp : Action String := do
  pure (← get).world.now.stamp

/-! ## The engine -/

/-- Whether the engine answers a statement by itself: settings of the connection and the log of
operations. -/
def isHousekeeping (sql : String) : Bool :=
  ["PRAGMA ", "INSERT INTO _ops ", "CREATE TABLE IF NOT EXISTS _ops "].any fun opening =>
    opening.toList.isPrefixOf sql.toList

/-- Takes the next answer; when there are no more, statements succeed and give nothing. -/
def nextReply : Action Reply := do
  match (← get).world.replies with
  | [] => pure .nothing
  | reply :: rest =>
    modifyWorld fun w => { w with replies := rest }
    pure reply

/-- Sends a statement to the engine and waits for its answer. -/
def execute (sql : String) (params : List Value) : Action (List Value × Value × Value) := do
  record (.executed sql params)
  if (← database).isClosed then
    throw (.engine "ProgrammingError" "Cannot operate on a closed database.")
  let reply ← if isHousekeeping sql then pure .nothing else nextReply
  match reply with
  | .done rows rowCount lastRowId => pure (rows, rowCount, lastRowId)
  | .refused kind message => throw (.engine kind message)

/-- Sends a statement that changes rows; gives the number of rows it touched. -/
def run (sql : String) (params : List Value) : Action Value := do
  let (_, rowCount, lastRowId) ← execute sql params
  modifyDatabase fun d => { d with lastRowId }
  pure rowCount

/-- Sends a query; gives the first row, or null. -/
def first (sql : String) (params : List Value) : Action Value := do
  let (rows, _, _) ← execute sql params
  pure (rows.head?.getD .null)

/-- Sends a query; gives every row. -/
def rows (sql : String) (params : List Value) : Action (List Value) := do
  let (rows, _, _) ← execute sql params
  pure rows

/-- Sends a statement that binds nothing. -/
def perform (sql : String) : Action Unit := do
  let _ ← execute sql []

/-- Closes the connection. -/
def close : Action Unit := do
  record .closed
  modifyDatabase fun d => { d with isClosed := true }

/-! ## Default values -/

/-- The value that a source hands out next. -/
def draw (id : Nat) (values : List Value) : Action Value := do
  let count := ((← get).world.drawn.lookup id).getD 0
  modifyWorld fun w =>
    { w with drawn := (id, count + 1) :: w.drawn.filter fun e => e.1 != id }
  pure ((values[count % values.length]?).getD .null)

/-- The value of a default that is called for one; a hook is no such default. -/
def callDefault : Value → Action Value
  | .producer id values => draw id values
  | _ => wrongType

/-! ## Hooks -/

/-- Runs hooks on data; gives the data as they left it. -/
def runHookList (hooks : List Value) (data : Value) (isolate : Bool) : Action Value := do
  let outcome := HookOutcome.ofRun hooks data isolate
  modifyWorld fun w => { w with trace := w.trace ++ outcome.events.map .hook }
  match outcome.failure with
  | some fault => throw fault
  | none => pure outcome.data

end Action

end Tablewright
