import Tablewright.Identifier

/-!
# Column definitions

What is declared about a column. The parts are plain values: what they mean is decided where they
are used, and a part that makes no sense there is refused there.
-/

namespace Tablewright

/-- The declaration of a column. -/
structure Column where
  /-- The logical type. -/
  type : Value := .str "TEXT"
  /-- Whether null may be stored. -/
  allowNull : Value := .bool true
  /-- Whether the column is the primary key. -/
  primaryKey : Value := .bool false
  /-- Whether the engine numbers the rows by itself. -/
  autoIncrement : Value := .bool false
  /-- Whether no value may occur twice. -/
  unique : Value := .bool false
  /-- The value of a row that gives none, if one is declared; null is a value. -/
  defaultValue : Option Value := none
  /-- The same as an expression of the engine. -/
  defaultExpression : Value := .null
  /-- A condition that every row must meet. -/
  check : Value := .null
  /-- The collating sequence. -/
  collate : Value := .null
  /-- The table and column that the values refer to. -/
  references : Value := .null
  /-- What happens when the row referred to is deleted. -/
  onDelete : Value := .null
  /-- What happens when the row referred to changes. -/
  onUpdate : Value := .null
  /-- The expression that computes the column. -/
  generated : Value := .null
  /-- Whether the computed values are stored. -/
  stored : Value := .bool false
  /-- Whether the column has an index; a text names it. -/
  indexed : Value := .bool false
  /-- The rules that values must meet before they are written. -/
  validate : Value := .null

/-- The value that stands for a default that is not declared. -/
def noDefault : Value := .foreign "NoDefault"

/-- A declared default; the value that stands for none declares none. -/
def declaredDefault : Value → Option Value
  | .foreign "NoDefault" => none
  | v => some v

/-- A value that can be called for a value. -/
def Value.isCallable : Value → Bool
  | .producer .. => true
  | .hook _ => true
  | _ => false

/-- Fails unless every name is one of those known. -/
def onlyKnown (known : List String) (fields : Named Value) : Except Fault Unit :=
  if fields.names.all known.contains then pure () else wrongType

/-- A field that must be given. -/
def required (fields : Named Value) (name : String) : Except Fault Value :=
  match fields.get? name with
  | some v => pure v
  | none => wrongType

namespace Column

/-- All the parts of a column under their names. -/
def toFields (c : Column) : Named Value :=
  [("type", c.type), ("allow_null", c.allowNull), ("primary_key", c.primaryKey),
   ("auto_increment", c.autoIncrement), ("unique", c.unique),
   ("default", c.defaultValue.getD noDefault), ("default_expression", c.defaultExpression),
   ("check", c.check), ("collate", c.collate), ("references", c.references),
   ("on_delete", c.onDelete), ("on_update", c.onUpdate), ("generated", c.generated),
   ("stored", c.stored), ("indexed", c.indexed), ("validate", c.validate)]

/-- The column as a value. -/
def toValue (c : Column) : Value :=
  .record .column c.toFields

/-- The names of the parts of a column. -/
def fieldNames : List String :=
  (toFields {}).names

/-- The column with the given parts; what names no part of a column is left aside. -/
def ofFields (f : Named Value) : Column :=
  let d : Column := {}
  { type := f.getOr "type" d.type
    allowNull := f.getOr "allow_null" d.allowNull
    primaryKey := f.getOr "primary_key" d.primaryKey
    autoIncrement := f.getOr "auto_increment" d.autoIncrement
    unique := f.getOr "unique" d.unique
    defaultValue := (f.get? "default").bind declaredDefault
    defaultExpression := f.getOr "default_expression" d.defaultExpression
    check := f.getOr "check" d.check
    collate := f.getOr "collate" d.collate
    references := f.getOr "references" d.references
    onDelete := f.getOr "on_delete" d.onDelete
    onUpdate := f.getOr "on_update" d.onUpdate
    generated := f.getOr "generated" d.generated
    stored := f.getOr "stored" d.stored
    indexed := f.getOr "indexed" d.indexed
    validate := f.getOr "validate" d.validate }

/-- The other names under which parts of a column may be given. -/
def fieldName : String → String
  | "default_value" => "default"
  | "collation" => "collate"
  | "generated_as" => "generated"
  | name => name

/-- The column that a value declares: a column as it is, a text as its type, or a mapping of its
parts. -/
def ofValue (v : Value) : Except Fault Column :=
  match v with
  | .record .column fields => pure (ofFields fields)
  | _ =>
    if v.text?.isSome then pure { type := v }
    else do
      let fields ← snakeKeys v
      pure (ofFields (Named.ofPairs (fields.map fun e => (fieldName e.1, e.2))))

/-- The default that goes into the schema: one that is declared and is a value by itself. -/
def schemaDefault? (c : Column) : Option Value :=
  c.defaultValue.filter fun v => !v.isCallable

end Column

end Tablewright
