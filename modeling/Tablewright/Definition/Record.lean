import Tablewright.Definition.Model

/-!
# Definition objects

A definition object is made of some of its fields; the others take their defaults, and a field that
its kind does not have is refused.
-/

namespace Tablewright

/-- The definition object of a kind that is made of the given fields. -/
def RecordKind.make (kind : RecordKind) (fields : Named Value) : Except Fault Value :=
  match kind with
  | .column => do
    onlyKnown Column.fieldNames fields
    pure (Column.ofFields fields).toValue
  | .relationship => do
    onlyKnown Relationship.fieldNames fields
    pure (← Relationship.ofFields fields).toValue
  | .trigger => do
    onlyKnown (Trigger.toFields {}).names fields
    pure (Trigger.ofFields fields).toValue
  | .indexField => do
    onlyKnown (IndexField.toFields { name := .null }).names fields
    pure (← IndexField.ofFields fields).toValue
  | .index => do
    onlyKnown (Index.toFields {}).names fields
    pure (Index.ofFields fields).toValue
  | .constraint => do
    onlyKnown (Constraint.toFields { type := .null }).names fields
    pure (← Constraint.ofFields fields).toValue
  | .view => do
    onlyKnown (View.toFields { name := .null, select := .null }).names fields
    pure (← View.ofFields fields).toValue
  | .hooks => do
    onlyKnown (HookSlot.all.map HookSlot.name) fields
    pure (.record .hooks (HookSlot.all.map fun slot =>
      (slot.name, HookLists.slotValue fields slot)))
  | .model => do pure (← ModelDraft.ofFields fields).toValue
  | .options => pure (.record .options fields)

end Tablewright
