import Tablewright.ResolvedModel
import Tablewright.Schema.Literal
import Tablewright.Schema.Statement

/-!
# Tables

The statement that makes the table of a model: its columns, declared and added alike, then the
foreign keys of its relationships, then its constraints.
-/

namespace Tablewright

/-- The text of a part that is written only if it is given. -/
def given? (v : Value) : Except Fault (Option String) := do
  pure (if ← v.truth then some v.display else none)

/-- The text of an action, in upper case, if it is given. -/
def action? (v : Value) : Except Fault (Option String) := do
  if ← v.truth then pure (some (← v.upperCase).display) else pure none

/-- The actions on deletion and on update. -/
def referentialActionsOf (onDelete onUpdate : Value) : Except Fault ReferentialActions := do
  let onDelete ← action? onDelete
  let onUpdate ← action? onUpdate
  pure { onDelete, onUpdate }

/-- The value under a key of a mapping; null if there is none. -/
def fieldOf (v : Value) (name : String) : Except Fault Value := do
  pure (((← v.entries).field? name).getD .null)

namespace Column

/-- The default of a column: the declared value, or else the expression. -/
def defaultClause (c : Column) : Except Fault (Option ColumnDefault) := do
  match c.schemaDefault? with
  | some v => pure (some (.value (← literal v)))
  | none => pure ((← given? c.defaultExpression).map .expression)

/-- What a column refers to: a table or, failing that, a model, and a column or key. -/
def referenceClause (c : Column) : Except Fault (Option ColumnReference) := do
  if ← c.references.truth then
    let table ← (← fieldOf c.references "table").orElse (← fieldOf c.references "model")
    let column ← (← fieldOf c.references "column").orElse (← fieldOf c.references "key")
    let column ← column.orElse (.str "id")
    let actions ← referentialActionsOf c.onDelete c.onUpdate
    pure (some { table := table.display, column := column.display, actions })
  else pure none

/-- How the values of a column are computed, if they are. -/
def computedClause (c : Column) : Except Fault (Option Generation) := do
  match ← given? c.generated with
  | some text => pure (some ⟨text, ← c.stored.truth⟩)
  | none => pure none

/-- The clause of a column. The engine numbers rows by itself only in an integer primary key, and
only texts have a collating sequence. -/
def clause (name : String) (c : Column) : Except Fault ColumnClause := do
  let storage ← storageOf c.type
  let allowNull ← c.allowNull.truth
  let primaryKey ← c.primaryKey.truth
  let numbered ← if primaryKey then c.autoIncrement.truth else pure false
  let unique ← c.unique.truth
  let default? ← c.defaultClause
  let check ← given? c.check
  let collate ← given? c.collate
  let generated ← c.computedClause
  let reference ← c.referenceClause
  pure
    { name
      storage
      notNull := !allowNull
      primaryKey
      autoIncrement := numbered && storage = .integer
      unique
      default?
      check
      collate := if storage = .text then collate else none
      generated
      reference }

end Column

/-! ## Foreign keys -/

/-- The table of a model, if it is known; else the name itself is taken for that of a table. -/
def tableOf (tables : Mapping) (target : Value) : Except Fault Value := do
  let key ← target.asKey
  pure ((tables.get? key).getD target)

namespace Relationship

/-- Whether the relationship puts a foreign key into the table. -/
def hasForeignKey (r : Relationship) : Except Fault Bool :=
  if r.kind = .belongsTo then r.foreignKey.truth else pure false

/-- The foreign key of a relationship. -/
def foreignKeyClause (m : ResolvedModel) (tables : Mapping) (r : Relationship) :
    Except Fault ForeignKey := do
  let table ← tableOf tables r.target
  let column ← m.columnFor r.foreignKey
  let key ← r.sourceKey.orElse (.str "id")
  let actions ← referentialActionsOf r.onDelete r.onUpdate
  pure { column := column.display, table := table.display, key := key.display, actions }

/-- The foreign key of a relationship, if it puts one into the table. -/
def foreignKeyClause? (m : ResolvedModel) (tables : Mapping) (r : Relationship) :
    Except Fault (Option ForeignKey) := do
  if ← r.hasForeignKey then some <$> r.foreignKeyClause m tables else pure none

end Relationship

/-- The foreign keys of a model, in the order of its relationships. The mapping gives the tables of
the models that are known. -/
def ResolvedModel.foreignKeys (m : ResolvedModel) (tables : Mapping) :
    Except Fault (List ForeignKey) :=
  m.definition.relationships.filterMapM (Relationship.foreignKeyClause? m tables)

/-! ## Constraints -/

namespace Constraint

/-- The columns that a foreign key refers to, by default the one called `id`. -/
def referencedColumns (references : Value) : Except Fault Value := do
  let columns ← (← fieldOf references "columns").orElse (← fieldOf references "fields")
  let columns ← columns.orElse (.ofTexts ["id"])
  pure (if columns.text?.isSome then .list [columns] else columns)

/-- The table that a foreign key refers to. -/
def referencedTable (references : Value) : Except Fault Value := do
  match (← references.entries).field? "table" with
  | some table => pure table
  | none => .error (.misuse .missingKey)

/-- What a constraint demands; none if it is incomplete or of no known type. -/
def body? (c : Constraint) : Except Fault (Option ConstraintBody) := do
  let type ← (← c.type.orElse (.str "")).abilityText
  let kind := Text.replaceChar '-' ['_'] (Text.lower type)
  let columns ← (← c.columns.orEmptyList).texts
  let hasColumns := commas columns != ""
  if kind == "check" then
    pure ((← given? c.expression).map .check)
  else if kind == "unique" && hasColumns then
    pure (some (.unique columns))
  else if (kind == "primary_key" || kind == "primarykey") && hasColumns then
    pure (some (.primaryKey columns))
  else if (kind == "foreign_key" || kind == "foreignkey") && hasColumns then
    if ← c.references.truth then
      let keys ← referencedColumns c.references
      let table ← referencedTable c.references
      let keys ← keys.texts
      let actions ← referentialActionsOf c.onDelete c.onUpdate
      pure (some (.foreignKey columns table.display keys actions))
    else pure none
  else pure none

/-- The constraint as it stands in the table, if it is complete. -/
def clause? (c : Constraint) : Except Fault (Option TableConstraint) := do
  match ← c.body? with
  | some body => pure (some { name := ← given? c.name, body })
  | none => pure none

end Constraint

/-! ## The statement -/

/-- The statement that makes the table of a model. -/
def ResolvedModel.createTable (m : ResolvedModel) (tables : Mapping) :
    Except Fault CreateTable := do
  let columns ← m.columns.mapM fun (name, c) => c.clause name
  let foreignKeys ← m.foreignKeys tables
  let constraints ← m.definition.constraints.mapM Constraint.clause?
  let ifNotExists ← m.definition.ifNotExists.truth
  let withoutRowid ← m.definition.withoutRowid.truth
  let strict ← m.definition.strict.truth
  pure
    { ifNotExists
      name := m.tableName
      columns
      foreignKeys
      constraints := constraints.filterMap id
      withoutRowid
      strict }

end Tablewright
