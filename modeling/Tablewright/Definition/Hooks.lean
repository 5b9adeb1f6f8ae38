import Tablewright.Definition.Column

/-!
# The hooks of a model

Six ordered lists, one for each moment at which hooks run. An entry may be null: it keeps its place
in the list and is passed over when the hooks run.
-/

namespace Tablewright

/-- The moments at which hooks run. -/
inductive HookSlot where
  | beforeInsert
  | afterInsert
  | beforeUpdate
  | afterUpdate
  | beforeDelete
  | afterDelete
  deriving DecidableEq, Repr

namespace HookSlot

/-- The written form of a slot. -/
def name : HookSlot → String
  | beforeInsert => "before_insert"
  | afterInsert => "after_insert"
  | beforeUpdate => "before_update"
  | afterUpdate => "after_update"
  | beforeDelete => "before_delete"
  | afterDelete => "after_delete"

/-- Every slot, in order. -/
def all : List HookSlot :=
  [beforeInsert, afterInsert, beforeUpdate, afterUpdate, beforeDelete, afterDelete]

/-- The slot with a written form. -/
def ofName? (s : String) : Option HookSlot :=
  all.find? fun slot => slot.name == s

end HookSlot

/-- The hooks of a model, by slot. -/
structure HookLists where
  /-- Run on the values of a new row before it is inserted. -/
  beforeInsert : List Value := []
  /-- Run on the row that was inserted. -/
  afterInsert : List Value := []
  /-- Run on the new values before an update. -/
  beforeUpdate : List Value := []
  /-- Run on the values that were written. -/
  afterUpdate : List Value := []
  /-- Run on the condition before a deletion. -/
  beforeDelete : List Value := []
  /-- Run on the condition after it. -/
  afterDelete : List Value := []

namespace HookLists

/-- The hooks of one slot. -/
def get (h : HookLists) : HookSlot → List Value
  | .beforeInsert => h.beforeInsert
  | .afterInsert => h.afterInsert
  | .beforeUpdate => h.beforeUpdate
  | .afterUpdate => h.afterUpdate
  | .beforeDelete => h.beforeDelete
  | .afterDelete => h.afterDelete

/-- The lists that a function gives for each slot. -/
def ofSlots (f : HookSlot → List Value) : HookLists :=
  ⟨f .beforeInsert, f .afterInsert, f .beforeUpdate, f .afterUpdate, f .beforeDelete,
    f .afterDelete⟩

/-- Adds a hook to the end of one slot. -/
def add (h : HookLists) (slot : HookSlot) (hook : Value) : HookLists :=
  ofSlots fun s => if s = slot then h.get s ++ [hook] else h.get s

/-- The hooks as a value. -/
def toValue (h : HookLists) : Value :=
  .record .hooks (HookSlot.all.map fun slot => (slot.name, .list (h.get slot)))

/-- The value in one slot of a declaration that gives some of the slots. -/
def slotValue (fields : Named Value) (slot : HookSlot) : Value :=
  fields.getOr slot.name (.list [])

/-- The lists of a finished declaration; only a declaration of hooks has slots. -/
def ofValue (v : Value) : Except Fault HookLists :=
  match v with
  | .record .hooks fields => do
    let beforeInsert ← (slotValue fields .beforeInsert).items
    let afterInsert ← (slotValue fields .afterInsert).items
    let beforeUpdate ← (slotValue fields .beforeUpdate).items
    let afterUpdate ← (slotValue fields .afterUpdate).items
    let beforeDelete ← (slotValue fields .beforeDelete).items
    let afterDelete ← (slotValue fields .afterDelete).items
    pure { beforeInsert, afterInsert, beforeUpdate, afterUpdate, beforeDelete, afterDelete }
  | _ => noAttribute

/-- The declaration that a mapping from slots to hooks makes; other keys are left aside. -/
def declare (v : Value) : Except Fault Value := do
  let fields ← snakeKeys v
  let lists ← (fields.filter fun e => (HookSlot.ofName? e.1).isSome).mapM fun (name, v) => do
    pure (name, Value.list (← v.items))
  pure (.record .hooks (HookSlot.all.map fun slot => (slot.name, slotValue lists slot)))

end HookLists

end Tablewright
