import Tablewright.Definition.Column

/-!
# Indexes, constraints, triggers and views

The declarations that a model holds beside its columns and relationships, and how each is read from
a value: a declaration as it is, or a mapping of its parts, whose keys may be in camel case. What
names no part is left aside.
-/

namespace Tablewright

/-! ## Triggers -/

/-- The declaration of a trigger. One that lacks its name, its time, its event or its statements is
inactive. -/
structure Trigger where
  /-- The name. -/
  name : Value := .null
  /-- When it runs. -/
  timing : Value := .null
  /-- What it reacts to. -/
  event : Value := .null
  /-- What it does. -/
  statements : Value := .null
  /-- The columns whose change it reacts to. -/
  columns : Value := .null
  /-- The condition under which it runs. -/
  condition : Value := .null
  /-- Whether it may be there already. -/
  ifNotExists : Value := .bool false

namespace Trigger

/-- All the parts of a trigger under their names. -/
def toFields (t : Trigger) : Named Value :=
  [("name", t.name), ("timing", t.timing), ("event", t.event), ("statements", t.statements),
   ("columns", t.columns), ("condition", t.condition), ("if_not_exists", t.ifNotExists)]

/-- The trigger as a value. -/
def toValue (t : Trigger) : Value :=
  .record .trigger t.toFields

/-- The trigger with the given parts. -/
def ofFields (f : Named Value) : Trigger :=
  let d : Trigger := {}
  { name := f.getOr "name" d.name
    timing := f.getOr "timing" d.timing
    event := f.getOr "event" d.event
    statements := f.getOr "statements" d.statements
    columns := f.getOr "columns" d.columns
    condition := f.getOr "condition" d.condition
    ifNotExists := f.getOr "if_not_exists" d.ifNotExists }

/-- The trigger that a value declares. -/
def ofValue (v : Value) : Except Fault Trigger :=
  match v with
  | .record .trigger fields => pure (ofFields fields)
  | _ => ofFields <$> snakeKeys v

end Trigger

/-! ## Indexes -/

/-- One term of an index that is more than a column. -/
structure IndexField where
  /-- The attribute, or the expression. -/
  name : Value
  /-- The direction. -/
  order : Value := .null
  /-- The collating sequence. -/
  collate : Value := .null
  /-- Whether the name is an expression. -/
  expression : Value := .bool false

namespace IndexField

/-- All the parts of an index term under their names. -/
def toFields (i : IndexField) : Named Value :=
  [("name", i.name), ("order", i.order), ("collate", i.collate), ("expression", i.expression)]

/-- The index term as a value. -/
def toValue (i : IndexField) : Value :=
  .record .indexField i.toFields

/-- The index term with the given parts. -/
def ofFields (f : Named Value) : Except Fault IndexField := do
  let name ← required f "name"
  let d : IndexField := { name }
  pure
    { name
      order := f.getOr "order" d.order
      collate := f.getOr "collate" d.collate
      expression := f.getOr "expression" d.expression }

end IndexField

/-- A term of an index. -/
inductive IndexTerm where
  /-- The attribute of that name. -/
  | column (name : String)
  | field (f : IndexField)
  /-- What is no term of an index. -/
  | other (v : Value)

namespace IndexTerm

/-- The term that a literal declares, as a value: a text or a term as it is, or the term of which a
mapping gives the parts. -/
def declare (v : Value) : Except Fault Value :=
  match v with
  | .record .indexField fields => pure (.record .indexField fields)
  | _ =>
    if v.text?.isSome then pure v
    else do pure (← IndexField.ofFields (← snakeKeys v)).toValue

/-- The term that a value stands for, where only texts and terms count. -/
def ofValue (v : Value) : IndexTerm :=
  match v with
  | .record .indexField fields =>
    field
      { name := Named.getOr fields "name" .null
        order := Named.getOr fields "order" .null
        collate := Named.getOr fields "collate" .null
        expression := Named.getOr fields "expression" (.bool false) }
  | _ =>
    match v.text? with
    | some s => column s
    | none => other v

end IndexTerm

/-- The declaration of an index. -/
structure Index where
  /-- The terms, in order; any collection may hold them. -/
  fields : Value := .list []
  /-- Whether no combination of values may occur twice. -/
  unique : Value := .bool false
  /-- The name, if it is not to be made up. -/
  name : Value := .null
  /-- The condition on the rows that the index covers. -/
  condition : Value := .null
  /-- Whether it may be there already. -/
  ifNotExists : Value := .bool false

namespace Index

/-- The terms, in order. -/
def terms (i : Index) : Except Fault (List IndexTerm) := do
  pure ((← i.fields.items).map IndexTerm.ofValue)

/-- All the parts of an index under their names. -/
def toFields (i : Index) : Named Value :=
  [("fields", i.fields), ("unique", i.unique), ("name", i.name), ("where", i.condition),
   ("if_not_exists", i.ifNotExists)]

/-- The index as a value. -/
def toValue (i : Index) : Value :=
  .record .index i.toFields

/-- The index with the given parts. -/
def ofFields (f : Named Value) : Index :=
  let d : Index := {}
  { fields := f.getOr "fields" d.fields
    unique := f.getOr "unique" d.unique
    name := f.getOr "name" d.name
    condition := f.getOr "where" d.condition
    ifNotExists := f.getOr "if_not_exists" d.ifNotExists }

/-- The terms that a literal gives, under `fields` or else under `columns`. -/
def literalTerms (f : Named Value) : Except Fault Value := do
  (← (f.getOr "fields" .null).orElse (f.getOr "columns" .null)).orEmptyList

/-- The index that a value declares. -/
def ofValue (v : Value) : Except Fault Index :=
  match v with
  | .record .index fields => pure (ofFields fields)
  | _ => do
    let fields ← snakeKeys v
    let terms ← (← (← literalTerms fields).items).mapM IndexTerm.declare
    pure { ofFields fields with fields := .list terms }

end Index

/-! ## Constraints -/

/-- The declaration of a constraint on the whole table. -/
structure Constraint where
  /-- Its type. -/
  type : Value
  /-- The columns it is about. -/
  columns : Value := .list []
  /-- The condition of a check. -/
  expression : Value := .null
  /-- The table and columns that a foreign key refers to. -/
  references : Value := .null
  /-- What happens when the row referred to is deleted. -/
  onDelete : Value := .null
  /-- What happens when the row referred to changes. -/
  onUpdate : Value := .null
  /-- The name. -/
  name : Value := .null

namespace Constraint

/-- All the parts of a constraint under their names. -/
def toFields (c : Constraint) : Named Value :=
  [("type", c.type), ("columns", c.columns), ("expression", c.expression),
   ("references", c.references), ("on_delete", c.onDelete), ("on_update", c.onUpdate),
   ("name", c.name)]

/-- The constraint as a value. -/
def toValue (c : Constraint) : Value :=
  .record .constraint c.toFields

/-- The constraint with the given parts. -/
def ofFields (f : Named Value) : Except Fault Constraint := do
  let type ← required f "type"
  let d : Constraint := { type }
  pure
    { type
      columns := f.getOr "columns" d.columns
      expression := f.getOr "expression" d.expression
      references := f.getOr "references" d.references
      onDelete := f.getOr "on_delete" d.onDelete
      onUpdate := f.getOr "on_update" d.onUpdate
      name := f.getOr "name" d.name }

/-- The constraint that a value declares. -/
def ofValue (v : Value) : Except Fault Constraint :=
  match v with
  | .record .constraint fields => ofFields fields
  | _ => do ofFields (← snakeKeys v)

end Constraint

/-! ## Views -/

/-- The declaration of a view. -/
structure View where
  /-- The name. -/
  name : Value
  /-- The query. -/
  select : Value
  /-- The names of the columns, if they are given. -/
  columns : Value := .null
  /-- Whether the view goes away with the connection. -/
  temporary : Value := .bool false
  /-- Whether it may be there already. -/
  ifNotExists : Value := .bool false

namespace View

/-- All the parts of a view under their names. -/
def toFields (v : View) : Named Value :=
  [("name", v.name), ("select", v.select), ("columns", v.columns), ("temporary", v.temporary),
   ("if_not_exists", v.ifNotExists)]

/-- The view as a value. -/
def toValue (v : View) : Value :=
  .record .view v.toFields

/-- The view with the given parts. -/
def ofFields (f : Named Value) : Except Fault View := do
  let name ← required f "name"
  let select ← required f "select"
  let d : View := { name, select }
  pure
    { name
      select
      columns := f.getOr "columns" d.columns
      temporary := f.getOr "temporary" d.temporary
      ifNotExists := f.getOr "if_not_exists" d.ifNotExists }

/-- The view that a value declares. -/
def ofValue (v : Value) : Except Fault View :=
  match v with
  | .record .view fields => ofFields fields
  | _ => do ofFields (← snakeKeys v)

end View

end Tablewright
