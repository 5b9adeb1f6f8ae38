import Tablewright.Session.World
import Tablewright.Value.Json

/-!
# The log of operations

On request every change of the schema and of rows is written to a table of its own, which is made
when it is first needed.
-/

namespace Tablewright

/-- The statement that makes the log. -/
def createLog : String :=
  "CREATE TABLE IF NOT EXISTS _ops (\n" ++
  "        id INTEGER PRIMARY KEY AUTOINCREMENT,\n" ++
  "        timestamp INTEGER DEFAULT (strftime('%s','now')),\n" ++
  "        operation TEXT,\n" ++
  "        target TEXT,\n" ++
  "        sql TEXT,\n" ++
  "        params TEXT,\n" ++
  "        rows_affected INTEGER,\n" ++
  "        source TEXT\n" ++
  "    )"

/-- The statement that adds an entry to the log. -/
def insertLogEntry : String :=
  "INSERT INTO _ops (operation, target, sql, params, rows_affected, source) " ++
  "VALUES (?, ?, ?, ?, ?, ?)"

/-- An entry of the log. -/
structure LogEntry where
  /-- What was done. -/
  operation : Value
  /-- What it was done to. -/
  target : Value
  /-- The values that were bound. -/
  params : Value := .null
  /-- How many rows it touched. -/
  rowsAffected : Value := .null
  /-- Who did it. -/
  source : Value := .null
  /-- The statement. -/
  sql : Value := .null

namespace LogEntry

/-- The bound values of a statement as they are logged: as JSON, or null if there are none. -/
def paramsText (e : LogEntry) : Except Fault Value := do
  if ← e.params.truth then .str <$> Json.write e.params else pure .null

/-- Writes the entry. -/
def write (e : LogEntry) : Action Unit := do
  let _ ← Action.execute createLog []
  let params ← e.paramsText
  let _ ← Action.execute insertLogEntry
    [e.operation, e.target, e.sql, params, e.rowsAffected, e.source]

end LogEntry

namespace Action

/-- Writes an entry to the log, if the database keeps one. -/
def log (e : LogEntry) : Action Unit := do
  if ← (← database).options.logOps.truth then e.write else pure ()

end Action

end Tablewright
