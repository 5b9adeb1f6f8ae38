import Tablewright.Schema.Storage

/-!
# Schema statements

The statements that make and drop the parts of a schema, as data, and their texts. Names,
conditions and expressions are texts that were settled before.
-/

namespace Tablewright

/-- Terms separated by commas. -/
def commas (terms : List String) : String :=
  ", ".intercalate terms

/-- Terms between parentheses. -/
def parenthesized (terms : List String) : String :=
  "(" ++ commas terms ++ ")"

/-- A word that is written only if a condition holds, with a blank behind it. -/
def wordIf (condition : Bool) (word : String) : String :=
  if condition then word ++ " " else ""

/-- What happens to a row when the row it refers to goes or changes. -/
structure ReferentialActions where
  /-- On deletion. -/
  onDelete : Option String
  /-- On a change of the key. -/
  onUpdate : Option String
  deriving DecidableEq, Repr

/-- The clauses of the actions that are given. -/
def ReferentialActions.clauses (a : ReferentialActions) : List String :=
  (a.onDelete.map ("ON DELETE " ++ ·)).toList ++ (a.onUpdate.map ("ON UPDATE " ++ ·)).toList

/-! ## Tables -/

/-- The default of a column. -/
inductive ColumnDefault where
  | value (literal : String)
  | expression (text : String)
  deriving DecidableEq, Repr

/-- The text of a default. -/
def ColumnDefault.render : ColumnDefault → String
  | value literal => "DEFAULT " ++ literal
  | expression text => "DEFAULT (" ++ text ++ ")"

/-- A computed column. -/
structure Generation where
  /-- The expression. -/
  expression : String
  /-- Whether the values are stored. -/
  stored : Bool
  deriving DecidableEq, Repr

/-- The text of a computation. -/
def Generation.render (g : Generation) : String :=
  "GENERATED ALWAYS AS (" ++ g.expression ++ ") " ++ (if g.stored then "STORED" else "VIRTUAL")

/-- The table and column that a column refers to. -/
structure ColumnReference where
  /-- The table. -/
  table : String
  /-- The column. -/
  column : String
  /-- What happens when it goes or changes. -/
  actions : ReferentialActions
  deriving DecidableEq, Repr

/-- The words of a reference. -/
def ColumnReference.clauses (r : ColumnReference) : List String :=
  ("REFERENCES " ++ r.table ++ "(" ++ r.column ++ ")") :: r.actions.clauses

/-- The clause of one column. -/
structure ColumnClause where
  /-- The name. -/
  name : String
  /-- How the engine keeps it. -/
  storage : StorageClass
  /-- Whether null is refused. -/
  notNull : Bool
  /-- Whether it is the primary key. -/
  primaryKey : Bool
  /-- Whether the engine numbers the rows by itself. -/
  autoIncrement : Bool
  /-- Whether no value may occur twice. -/
  unique : Bool
  /-- The default, if there is one. -/
  default? : Option ColumnDefault
  /-- The condition that values must meet. -/
  check : Option String
  /-- The collating sequence. -/
  collate : Option String
  /-- The computation. -/
  generated : Option Generation
  /-- What the column refers to. -/
  reference : Option ColumnReference
  deriving DecidableEq, Repr

/-- The words of a column clause, in order. -/
def ColumnClause.parts (c : ColumnClause) : List String :=
  [c.name, c.storage.keyword] ++
    (if c.notNull then ["NOT NULL"] else []) ++
    (if c.primaryKey then ["PRIMARY KEY"] else []) ++
    (if c.autoIncrement then ["AUTOINCREMENT"] else []) ++
    (if c.unique then ["UNIQUE"] else []) ++
    (c.default?.map ColumnDefault.render).toList ++
    (c.check.map fun text => "CHECK (" ++ text ++ ")").toList ++
    (c.collate.map ("COLLATE " ++ ·)).toList ++
    (c.generated.map Generation.render).toList ++
    (c.reference.map ColumnReference.clauses).getD []

/-- The text of a column clause. -/
def ColumnClause.render (c : ColumnClause) : String :=
  " ".intercalate c.parts

/-- A foreign key that a relationship puts into the table. -/
structure ForeignKey where
  /-- The column that refers. -/
  column : String
  /-- The table that is referred to. -/
  table : String
  /-- The column that is referred to. -/
  key : String
  /-- What happens when it goes or changes. -/
  actions : ReferentialActions
  deriving DecidableEq, Repr

/-- The text of a foreign key. -/
def ForeignKey.render (k : ForeignKey) : String :=
  " ".intercalate
    (("FOREIGN KEY (" ++ k.column ++ ") REFERENCES " ++ k.table ++ "(" ++ k.key ++ ")") ::
      k.actions.clauses)

/-- What a constraint demands. -/
inductive ConstraintBody where
  | check (expression : String)
  | unique (columns : List String)
  | primaryKey (columns : List String)
  | foreignKey (columns : List String) (table : String) (keys : List String)
      (actions : ReferentialActions)
  deriving DecidableEq, Repr

/-- The text of what a constraint demands. -/
def ConstraintBody.render : ConstraintBody → String
  | check expression => "CHECK (" ++ expression ++ ")"
  | unique columns => "UNIQUE " ++ parenthesized columns
  | primaryKey columns => "PRIMARY KEY " ++ parenthesized columns
  | foreignKey columns table keys actions =>
    " ".intercalate
      (("FOREIGN KEY " ++ parenthesized columns ++ " REFERENCES " ++ table ++
        parenthesized keys) :: actions.clauses)

/-- A constraint on the table, which may have a name. -/
structure TableConstraint where
  /-- The name. -/
  name : Option String
  /-- What it demands. -/
  body : ConstraintBody
  deriving DecidableEq, Repr

/-- The text of a constraint. -/
def TableConstraint.render (c : TableConstraint) : String :=
  match c.name with
  | some name => "CONSTRAINT " ++ name ++ " " ++ c.body.render
  | none => c.body.render

/-- A statement that makes a table. -/
structure CreateTable where
  /-- Whether the table may be there already. -/
  ifNotExists : Bool
  /-- The name. -/
  name : String
  /-- The columns, in order. -/
  columns : List ColumnClause
  /-- The foreign keys of relationships, in order. -/
  foreignKeys : List ForeignKey
  /-- The declared constraints, in order. -/
  constraints : List TableConstraint
  /-- Whether the table does without row numbers. -/
  withoutRowid : Bool
  /-- Whether the engine enforces the column types. -/
  strict : Bool
  deriving DecidableEq, Repr

/-- What stands between the parentheses. -/
def CreateTable.body (t : CreateTable) : List String :=
  t.columns.map ColumnClause.render ++ t.foreignKeys.map ForeignKey.render ++
    t.constraints.map TableConstraint.render

/-- What stands behind them. -/
def CreateTable.options (t : CreateTable) : List String :=
  (if t.withoutRowid then ["WITHOUT ROWID"] else []) ++ (if t.strict then ["STRICT"] else [])

/-- The text of the statement. -/
def CreateTable.render (t : CreateTable) : String :=
  "CREATE TABLE " ++ wordIf t.ifNotExists "IF NOT EXISTS" ++ t.name ++ " " ++
    parenthesized t.body ++
    (if t.options.isEmpty then "" else " " ++ commas t.options)

/-! ## Indexes -/

/-- A term of an index: a column or an expression, and how it is ordered. -/
structure IndexedTerm where
  /-- The column or the expression. -/
  text : String
  /-- The collating sequence. -/
  collate : Option String
  /-- The direction. -/
  order : Option String
  deriving DecidableEq, Repr

/-- The text of a term. -/
def IndexedTerm.render (t : IndexedTerm) : String :=
  " ".intercalate
    (t.text :: (t.collate.map ("COLLATE " ++ ·)).toList ++ t.order.toList)

/-- A statement that makes an index. -/
structure CreateIndex where
  /-- Whether no combination of values may occur twice. -/
  unique : Bool
  /-- Whether the index may be there already. -/
  ifNotExists : Bool
  /-- The name. -/
  name : String
  /-- The table. -/
  table : String
  /-- The terms, in order. -/
  terms : List IndexedTerm
  /-- The condition on the rows that are covered. -/
  condition : Option String
  deriving DecidableEq, Repr

/-- The text of the statement. -/
def CreateIndex.render (i : CreateIndex) : String :=
  "CREATE " ++ wordIf i.unique "UNIQUE" ++ "INDEX " ++ wordIf i.ifNotExists "IF NOT EXISTS" ++
    i.name ++ " ON " ++ i.table ++ " " ++ parenthesized (i.terms.map IndexedTerm.render) ++
    (match i.condition with
      | some text => " WHERE " ++ text
      | none => "")

/-! ## Triggers -/

/-- A statement that makes a trigger. -/
structure CreateTrigger where
  /-- Whether the trigger may be there already. -/
  ifNotExists : Bool
  /-- The name. -/
  name : String
  /-- When it runs. -/
  timing : String
  /-- What it reacts to. -/
  event : String
  /-- The columns whose change it reacts to; none for any. -/
  columns : Option (List String)
  /-- The table. -/
  table : String
  /-- The condition under which it runs. -/
  condition : Option String
  /-- What it does, each statement without its semicolon. -/
  body : List String
  deriving DecidableEq, Repr

/-- The statements of a trigger, each with its semicolon. -/
def CreateTrigger.bodyText (t : CreateTrigger) : String :=
  if t.body.isEmpty then "BEGIN END"
  else "BEGIN " ++ " ".intercalate (t.body.map (· ++ ";")) ++ " END"

/-- The text of the statement. -/
def CreateTrigger.render (t : CreateTrigger) : String :=
  "CREATE TRIGGER " ++ wordIf t.ifNotExists "IF NOT EXISTS" ++ t.name ++ " " ++ t.timing ++ " " ++
    t.event ++ " " ++
    (match t.columns with
      | some columns => "OF " ++ commas columns ++ " "
      | none => "") ++
    "ON " ++ t.table ++ " " ++
    (match t.condition with
      | some text => "WHEN " ++ text ++ " "
      | none => "") ++
    t.bodyText

/-! ## Views -/

/-- A statement that makes a view. -/
structure CreateView where
  /-- Whether the view goes away with the connection. -/
  temporary : Bool
  /-- Whether the view may be there already. -/
  ifNotExists : Bool
  /-- The name. -/
  name : String
  /-- The names of the columns, if they are given. -/
  columns : Option (List String)
  /-- The query. -/
  select : String
  deriving DecidableEq, Repr

/-- The text of the statement. -/
def CreateView.render (v : CreateView) : String :=
  "CREATE " ++ wordIf v.temporary "TEMPORARY" ++ "VIEW " ++ wordIf v.ifNotExists "IF NOT EXISTS" ++
    v.name ++
    (match v.columns with
      | some columns => " " ++ parenthesized columns
      | none => "") ++
    " AS " ++ v.select

/-! ## All of them -/

/-- A statement about the schema. -/
inductive SchemaStatement where
  | createTable (t : CreateTable)
  | createIndex (i : CreateIndex)
  | createTrigger (t : CreateTrigger)
  | createView (v : CreateView)
  | dropTable (name : String)
  | dropView (name : String)
  deriving DecidableEq, Repr

/-- The text of a statement. -/
def SchemaStatement.render : SchemaStatement → String
  | createTable t => t.render
  | createIndex i => i.render
  | createTrigger t => t.render
  | createView v => v.render
  | dropTable name => "DROP TABLE IF EXISTS " ++ name
  | dropView name => "DROP VIEW IF EXISTS " ++ name

end Tablewright
