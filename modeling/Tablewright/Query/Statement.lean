import Tablewright.Value.Basic

/-!
# Requests as statements

A request to read or write rows, as data: what is chosen, what is bound, and to which columns. Its
text has one question mark for every bound value, and the values are listed in the order of the
marks; no value ever enters the text.
-/

namespace Tablewright

/-- A column and the value bound for it. -/
structure Binding where
  /-- The column. -/
  column : String
  /-- The bound value. -/
  value : Value

/-- The condition that a column has the bound value, and the assignment of that value. -/
def Binding.equation (b : Binding) : String :=
  b.column ++ " = ?"

/-- The values of bindings, in order. -/
def boundValues (bs : List Binding) : List Value :=
  bs.map Binding.value

/-! ## Reading -/

/-- The direction of an ordering. -/
inductive Direction where
  | ascending
  | descending
  deriving DecidableEq, Repr

/-- The keyword of a direction. -/
def Direction.keyword : Direction → String
  | ascending => "ASC"
  | descending => "DESC"

/-- The direction with a keyword. -/
def Direction.ofKeyword? (s : String) : Option Direction :=
  [ascending, descending].find? fun d => d.keyword == s

/-- A column by which rows are ordered. -/
structure OrderTerm where
  /-- The column. -/
  column : String
  /-- The direction. -/
  direction : Direction
  deriving DecidableEq, Repr

/-- The text of an ordering term. -/
def OrderTerm.render (t : OrderTerm) : String :=
  t.column ++ " " ++ t.direction.keyword

/-- What a selection gives. -/
inductive Projection where
  /-- The rows themselves. -/
  | rows
  /-- The value of a function over a column, or over all of the row. -/
  | aggregate (function : String) (column? : Option String)
  deriving DecidableEq, Repr

/-- The text of a projection. -/
def Projection.render : Projection → String
  | rows => "*"
  | aggregate function column? => function ++ "(" ++ column?.getD "*" ++ ") AS result"

/-- A selection of rows. -/
structure Selection where
  /-- What it gives. -/
  projection : Projection
  /-- The table. -/
  table : String
  /-- The column that must be null for a row not to count as deleted, if that is asked for. -/
  undeleted : Option String := none
  /-- The values that columns must have. -/
  filters : List Binding := []
  /-- The ordering. -/
  order : List OrderTerm := []
  /-- The most rows. -/
  limit : Option Int := none
  /-- The rows left out at the start. -/
  offset : Option Int := none

namespace Selection

/-- The conditions on a row, in order. -/
def conditions (s : Selection) : List String :=
  (s.undeleted.map (· ++ " IS NULL")).toList ++ s.filters.map Binding.equation

/-- The text of a selection. -/
def render (s : Selection) : String :=
  "SELECT " ++ s.projection.render ++ " FROM " ++ s.table ++
    (if s.conditions.isEmpty then "" else " WHERE " ++ " AND ".intercalate s.conditions) ++
    (if s.order.isEmpty then ""
      else " ORDER BY " ++ ", ".intercalate (s.order.map OrderTerm.render)) ++
    (match s.limit with
      | some n => " LIMIT " ++ toString n
      | none => "") ++
    (match s.offset with
      | some n => " OFFSET " ++ toString n
      | none => "")

end Selection

/-! ## Writing -/

/-- What happens when a new row conflicts with one that is there. -/
structure ConflictRule where
  /-- The columns whose values conflict. -/
  targets : List String
  /-- The columns that the row there takes over from the new one. -/
  updates : List String
  deriving DecidableEq, Repr

/-- The text of a conflict rule. -/
def ConflictRule.render (r : ConflictRule) : String :=
  "ON CONFLICT(" ++ ", ".intercalate r.targets ++ ") " ++
    if r.updates.isEmpty then "DO NOTHING"
    else
      "DO UPDATE SET " ++ ", ".intercalate (r.updates.map fun c => c ++ " = excluded." ++ c)

/-- The insertion of one row. -/
structure Insertion where
  /-- Whether a row that breaks a constraint is passed over. -/
  orIgnore : Bool := false
  /-- The table. -/
  table : String
  /-- The values of the row; without any, all columns take their defaults. -/
  values : List Binding
  /-- What happens on a conflict. -/
  conflict : Option ConflictRule := none

/-- The text of an insertion. -/
def Insertion.render (i : Insertion) : String :=
  (if i.orIgnore then "INSERT OR IGNORE INTO " else "INSERT INTO ") ++ i.table ++
    (if i.values.isEmpty then " DEFAULT VALUES"
      else
        " (" ++ ", ".intercalate (i.values.map Binding.column) ++ ") VALUES (" ++
          ", ".intercalate (i.values.map fun _ => "?") ++ ")") ++
    (match i.conflict with
      | some rule => " " ++ rule.render
      | none => "")

/-- The change of one column. -/
inductive Assignment where
  /-- The column takes the bound value. -/
  | set (b : Binding)
  /-- The bound value is added to the column. -/
  | add (b : Binding)
  /-- The column takes the value of an expression. -/
  | compute (column expression : String)

namespace Assignment

/-- The column that changes. -/
def column : Assignment → String
  | set b => b.column
  | add b => b.column
  | compute column _ => column

/-- The text of a change. -/
def render : Assignment → String
  | set b => b.equation
  | add b => b.column ++ " = " ++ b.column ++ " + ?"
  | compute column expression => column ++ " = " ++ expression

/-- The value that is bound, if one is. -/
def bound? : Assignment → Option Value
  | set b => some b.value
  | add b => some b.value
  | compute .. => none

end Assignment

/-- A change of all rows that meet the filters. -/
structure Change where
  /-- The table. -/
  table : String
  /-- The changes. -/
  assignments : List Assignment
  /-- The values that columns must have. -/
  filters : List Binding

/-- The text of a change of rows. -/
def Change.render (c : Change) : String :=
  "UPDATE " ++ c.table ++ " SET " ++ ", ".intercalate (c.assignments.map Assignment.render) ++
    " WHERE " ++ " AND ".intercalate (c.filters.map Binding.equation)

/-- The removal of all rows that meet the filters; without filters, of every row. -/
structure Removal where
  /-- The table. -/
  table : String
  /-- The values that columns must have. -/
  filters : List Binding

/-- The text of a removal. -/
def Removal.render (r : Removal) : String :=
  "DELETE FROM " ++ r.table ++
    if r.filters.isEmpty then ""
    else " WHERE " ++ " AND ".intercalate (r.filters.map Binding.equation)

/-! ## All of them -/

/-- A statement about rows. -/
inductive RowStatement where
  | select (s : Selection)
  | insert (i : Insertion)
  | update (c : Change)
  | delete (r : Removal)

namespace RowStatement

/-- The text of a statement. -/
def sql : RowStatement → String
  | select s => s.render
  | insert i => i.render
  | update c => c.render
  | delete r => r.render

/-- The bound values, in the order of the question marks. -/
def params : RowStatement → List Value
  | select s => boundValues s.filters
  | insert i => boundValues i.values
  | update c => c.assignments.filterMap Assignment.bound? ++ boundValues c.filters
  | delete r => boundValues r.filters

end RowStatement

end Tablewright
