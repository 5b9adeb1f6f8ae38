import Tablewright.ResolvedModel
import Tablewright.Schema.Table

/-!
# Triggers

The statements that make the triggers of a model. An inactive trigger is passed over; an active one
with an unknown time or event stops everything.
-/

namespace Tablewright

/-- A value as a keyword: its text, the words one blank apart, in upper case. -/
def keywordText (v : Value) : String :=
  Text.upper (Text.collapseBlanks v.text)

/-- The time at which a trigger runs. -/
def checkTiming (v : Value) : Except Fault String :=
  let s := keywordText v
  if triggerTimings.contains s then pure s else refuse (.triggerTiming v)

/-- The event to which a trigger reacts. -/
def checkEvent (v : Value) : Except Fault String :=
  let s := keywordText v
  if triggerEvents.contains s then pure s else refuse (.triggerEvent v)

/-- A statement without surrounding blanks and without the semicolons at its end. -/
def bareStatement (s : String) : String :=
  Text.trimEnd (Text.trimEndOf ';' (Text.trim s))

namespace Trigger

/-- Whether the trigger has all it needs to be made. -/
def isActive (t : Trigger) : Except Fault Bool := do
  if ← t.name.truth then
    if ← t.timing.truth then
      if ← t.event.truth then pure !t.statements.isNull else pure false
    else pure false
  else pure false

/-- The statements of a trigger; a text is a single one. -/
def statementItems (t : Trigger) : Except Fault (List Value) :=
  if t.statements.text?.isSome then pure [t.statements] else t.statements.items

/-- The statements that say something, bare. -/
def body (t : Trigger) : Except Fault (List String) := do
  let statements ← (← t.statementItems).mapM fun v => bareStatement <$> v.abilityText
  pure (statements.filter (· != ""))

/-- The columns that a trigger on updates is restricted to. -/
def restriction (t : Trigger) (event : String) : Except Fault (Option (List String)) := do
  if event == "UPDATE" then
    if ← t.columns.truth then some <$> t.columns.texts else pure none
  else pure none

/-- The statement that makes a trigger on a table. -/
def create (table : String) (t : Trigger) : Except Fault CreateTrigger := do
  let timing ← checkTiming t.timing
  let event ← checkEvent t.event
  let ifNotExists ← t.ifNotExists.truth
  let columns ← t.restriction event
  let condition ← given? t.condition
  let body ← t.body
  pure { ifNotExists, name := t.name.display, timing, event, columns, table, condition, body }

/-- The statement that makes a trigger on a table, if it is active. -/
def create? (table : String) (t : Trigger) : Except Fault (Option CreateTrigger) := do
  if ← t.isActive then some <$> t.create table else pure none

end Trigger

/-- The statements that make the active triggers of a model, in order. -/
def ResolvedModel.createTriggers (m : ResolvedModel) : Except Fault (List CreateTrigger) :=
  m.definition.triggers.filterMapM (Trigger.create? m.tableName)

end Tablewright
