import Tablewright.Schema.Index
import Tablewright.Schema.Trigger
import Tablewright.Schema.View

/-!
# The schema of a model

All statements that make what a model needs, in a fixed order: its table, its indexes, its
triggers, its views.
-/

namespace Tablewright

/-- The statements that make a model's part of the schema. The mapping gives the tables of the
models that are known. -/
def ResolvedModel.schema (m : ResolvedModel) (tables : Mapping) :
    Except Fault (List SchemaStatement) := do
  let table ← m.createTable tables
  let indexes ← m.createIndexes
  let triggers ← m.createTriggers
  let views ← m.createViews
  pure (.createTable table :: indexes.map .createIndex ++ triggers.map .createTrigger ++
    views.map .createView)

end Tablewright
