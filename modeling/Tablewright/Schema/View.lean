import Tablewright.ResolvedModel
import Tablewright.Schema.Table

/-!
# Views

The statements that make the views of a model. A view without a name or a query is passed over.
-/

namespace Tablewright

namespace View

/-- The query of a view without surrounding blanks and without the semicolons at its end. -/
def query (s : String) : String :=
  Text.trimEndOf ';' (Text.trim s)

/-- Whether the view has all it needs to be made. -/
def isComplete (v : View) : Except Fault Bool := do
  if ← v.name.truth then v.select.truth else pure false

/-- The statement that makes a view. -/
def create (v : View) : Except Fault CreateView := do
  let temporary ← v.temporary.truth
  let ifNotExists ← v.ifNotExists.truth
  let columns ← if ← v.columns.truth then some <$> v.columns.texts else pure none
  let select ← v.select.abilityText
  pure { temporary, ifNotExists, name := v.name.display, columns, select := query select }

/-- The statement that makes a view, if it has all it needs. -/
def create? (v : View) : Except Fault (Option CreateView) := do
  if ← v.isComplete then some <$> v.create else pure none

end View

/-- The statements that make the views of a model, in order. -/
def ResolvedModel.createViews (m : ResolvedModel) : Except Fault (List CreateView) :=
  m.definition.views.filterMapM View.create?

end Tablewright
