import Tablewright.Definition.Column

/-!
# Relationship definitions

How the rows of one model belong to those of another. Only a `belongs_to` puts a foreign key into
the table; the other kinds are metadata.
-/

namespace Tablewright

/-- The kinds of relationships. -/
inductive RelationshipKind where
  | belongsTo
  | hasOne
  | hasMany
  | belongsToMany
  deriving DecidableEq, Repr

namespace RelationshipKind

/-- The written form of a kind. -/
def name : RelationshipKind → String
  | belongsTo => "belongs_to"
  | hasOne => "has_one"
  | hasMany => "has_many"
  | belongsToMany => "belongs_to_many"

/-- Every kind. -/
def all : List RelationshipKind :=
  [belongsTo, hasOne, hasMany, belongsToMany]

/-- The kind with a written form. -/
def ofName? (s : String) : Option RelationshipKind :=
  all.find? fun k => k.name == s

/-- The kind that a value names. -/
def ofValue (v : Value) : Except Fault RelationshipKind :=
  match v.text?.bind ofName? with
  | some k => pure k
  | none => refuse (.relationshipKind v)

end RelationshipKind

/-- The declaration of a relationship. -/
structure Relationship where
  /-- Its kind. -/
  kind : RelationshipKind
  /-- The model it leads to. -/
  target : Value
  /-- The attribute that refers to the target. -/
  foreignKey : Value := .null
  /-- The column that is referred to. -/
  sourceKey : Value := .str "id"
  /-- The model that joins the two sides. -/
  through : Value := .null
  /-- The other attribute of the joining model. -/
  otherKey : Value := .null
  /-- The name under which the target is reached. -/
  targetAlias : Value := .null
  /-- What happens when the row referred to is deleted. -/
  onDelete : Value := .null
  /-- What happens when the row referred to changes. -/
  onUpdate : Value := .null

namespace Relationship

/-- All the parts of a relationship under their names. -/
def toFields (r : Relationship) : Named Value :=
  [("kind", .str r.kind.name), ("target", r.target), ("foreign_key", r.foreignKey),
   ("source_key", r.sourceKey), ("through", r.through), ("other_key", r.otherKey),
   ("alias", r.targetAlias), ("on_delete", r.onDelete), ("on_update", r.onUpdate)]

/-- The relationship as a value. -/
def toValue (r : Relationship) : Value :=
  .record .relationship r.toFields

/-- The names of the parts of a relationship. -/
def fieldNames : List String :=
  (toFields ⟨.belongsTo, .null, .null, .null, .null, .null, .null, .null, .null⟩).names

/-- The relationship with the given parts; what names no part of one is left aside. -/
def ofFields (f : Named Value) : Except Fault Relationship := do
  let kind ← required f "kind"
  let target ← required f "target"
  let kind ← RelationshipKind.ofValue kind
  let d : Relationship := { kind, target }
  pure
    { kind
      target
      foreignKey := f.getOr "foreign_key" d.foreignKey
      sourceKey := f.getOr "source_key" d.sourceKey
      through := f.getOr "through" d.through
      otherKey := f.getOr "other_key" d.otherKey
      targetAlias := f.getOr "alias" d.targetAlias
      onDelete := f.getOr "on_delete" d.onDelete
      onUpdate := f.getOr "on_update" d.onUpdate }

/-- The parts under their own names: `type` may stand for the kind, `target_model` for the target,
and `as` is the alias. The kind of a literal may be written in camel case. -/
def canonical (f : Named Value) : Named Value :=
  let f := (f.rename "type" "kind").rename "target_model" "target"
  let f := match f.get? "as" with
    | some v => (f.erase "as").put "alias" v
    | none => f
  match (f.get? "kind").bind Value.text? with
  | some s => f.put "kind" (.str (snakeCase s))
  | none => f

/-- The relationship that a value declares. -/
def ofValue (v : Value) : Except Fault Relationship :=
  match v with
  | .record .relationship fields => ofFields fields
  | _ => do ofFields (canonical (← snakeKeys v))

end Relationship

end Tablewright
