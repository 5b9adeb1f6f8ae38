import Tablewright.ResolvedModel
import Tablewright.Schema.Table
import Tablewright.Text.Word

/-!
# Indexes

The statements that make the indexes of a model: those it declares, then one for each column that
is flagged as indexed. An index without a name gets one made of the table and its terms.
-/

namespace Tablewright

/-- The attribute or expression of a term. -/
def IndexTerm.name : IndexTerm → Except Fault Value
  | column name => pure (.str name)
  | field f => pure f.name
  | other (.member _ name _) => pure (.str name)
  | other (.record _ fields) =>
    match Named.get? fields "name" with
    | some v => pure v
    | none => noAttribute
  | other _ => noAttribute

/-- The most characters of its terms that a made-up name shows. -/
def shownNameLength : Nat := 50

/-- The characters of a name with everything but letters, digits and underscores replaced, cut to
a length that a name may have. -/
def nameable (s : String) : List Char :=
  (s.toList.map fun c => if Text.isWord c then c else '_').take shownNameLength

namespace Index

/-- The name that is made up for an index. -/
def madeUpName (table : String) (i : Index) : Except Fault String := do
  let names ← (← i.terms).mapM IndexTerm.name
  let names ← names.mapM Value.asText
  let shown := String.ofList (nameable ("_".intercalate names))
  let opening := if ← i.unique.truth then "unique" else "idx"
  pure (Text.lower (opening ++ "_" ++ table ++ "_" ++ shown))

/-- The text of a term before its collating sequence and direction. -/
def termText (m : ResolvedModel) (f : IndexField) : Except Fault Value := do
  if ← f.expression.truth then pure f.name else m.columnFor f.name

/-- Whether a text can be added at the end of a value: to a text, but also to a list, which takes
its characters. -/
def isExtensible : Value → Bool
  | .list _ => true
  | v => v.text?.isSome

/-- A term that has no text is refused once the parts behind it are known. -/
def term (m : ResolvedModel) : IndexTerm → Except Fault (Value × Option String × Option String)
  | .column name => pure (.str (m.columnOf name), none, none)
  | .field f => do
    let text ← termText m f
    let collate ← given? f.collate
    if collate.isSome && !isExtensible text then wrongType
    let order ← action? f.order
    if order.isSome && !isExtensible text then wrongType
    pure (text, collate, order)
  | .other _ => noAttribute

/-- The statement that makes an index. -/
def create (m : ResolvedModel) (i : Index) : Except Fault CreateIndex := do
  let unique ← i.unique.truth
  let ifNotExists ← i.ifNotExists.truth
  let name ← if ← i.name.truth then pure i.name.display else i.madeUpName m.tableName
  let terms ← (← i.terms).mapM (term m)
  let terms ← terms.mapM fun (text, collate, order) => do
    pure { text := ← text.asText, collate, order : IndexedTerm }
  let condition ← given? i.condition
  pure { unique, ifNotExists, name, table := m.tableName, terms, condition }

end Index

/-- The index of a column that is flagged as indexed; a text names it. -/
def Column.flaggedIndex? (name : String) (c : Column) : Except Fault (Option Index) := do
  if ← c.indexed.truth then
    pure (some
      { fields := .list [(IndexField.toValue { name := .str name })]
        name := if c.indexed.text?.isSome then c.indexed else .null
        ifNotExists := .bool true })
  else pure none

/-- The indexes of a model: the declared ones that have terms, then those of flagged columns. -/
def ResolvedModel.allIndexes (m : ResolvedModel) : Except Fault (List Index) := do
  let declared ← m.definition.indexes.filterM fun i => i.fields.truth
  let flagged ← m.columns.filterMapM fun (name, c) => c.flaggedIndex? name
  pure (declared ++ flagged)

/-- The statements that make the indexes of a model. -/
def ResolvedModel.createIndexes (m : ResolvedModel) : Except Fault (List CreateIndex) := do
  (← m.allIndexes).mapM (Index.create m)

end Tablewright
