import Tablewright.Validation.Rule

/-!
# Checking rows

A value is checked against its column before it is written, and a row against all its columns; what
is wrong is collected, not just the first fault. A null is only a question of whether the column
allows it.
-/

namespace Tablewright

/-- The messages of the rules that are given, in the order of application. -/
def checkRules (v : Value) (number : Option Binary) (given : Named Value) :
    List Rule → Except Fault (List Value)
  | [] => pure []
  | rule :: rest => do
    let message? ← match given.get? rule.name with
      | some g => rule.apply v number g
      | none => pure none
    let others ← checkRules v number given rest
    pure (message?.toList ++ others)

/-- What is wrong with a value in a column. Its shape is checked before the number is taken that it
stands for. -/
def checkValue (v : Value) (c : Column) : Except Fault (List Value) := do
  if v.isNull then
    if ← c.allowNull.truth then pure []
    else if ← c.primaryKey.truth then pure []
    else pure [.str "Value cannot be null"]
  else
    let given ← c.rules
    let misshapen ← checkRules v none given Rule.shapes
    let number ← v.measure?
    let others ← checkRules v number given Rule.afterMeasure
    pure (misshapen ++ others)

/-- What is wrong with one entry of a row, if anything is; what is no column is not checked. -/
def checkEntry (columns : Named Column) (entry : Value × Value) :
    Except Fault (Option (String × List String)) := do
  match entry.1.text?.bind columns.get? with
  | none => pure none
  | some column =>
    let problems ← checkValue entry.2 column
    if problems.isEmpty then pure none
    else
      let texts ← problems.mapM Value.asText
      pure (some (entry.1.display, texts))

/-- Refuses a row in which anything is wrong. -/
def validateRow (model : String) (columns : Named Column) (row : Value) : Except Fault Unit := do
  let problems ← (← row.entries).mapM (checkEntry columns)
  let problems := problems.filterMap id
  if problems.isEmpty then pure () else refuse (.rowRejected model problems row)

end Tablewright
