import Tablewright.Definition.Column
import Tablewright.Validation.Pattern
import Tablewright.Value.Numeric
import Tablewright.Value.Text

/-!
# Rules for values

The rules that a column may put on its values, in the order in which they are applied. A rule is
given with its argument, or with a mapping that holds the argument and a message of its own.
-/

namespace Tablewright

/-- The rules for values. -/
inductive Rule where
  | shape (s : TextShape)
  | isNumeric
  | isInt
  | isFloat
  | min
  | max
  | length
  | isIn
  | notIn
  deriving DecidableEq, Repr

namespace Rule

/-- The rules for the shape of a text, in the order of application. -/
def shapes : List Rule :=
  TextShape.all.map shape

/-- The rules that are applied once the number is known that a value stands for. -/
def afterMeasure : List Rule :=
  [isNumeric, isInt, isFloat, min, max, length, isIn, notIn]

/-- Every rule, in the order of application. -/
def all : List Rule :=
  shapes ++ afterMeasure

/-- The written form of a rule. -/
def name : Rule → String
  | shape .email => "is_email"
  | shape .url => "is_url"
  | shape .address => "is_ip"
  | shape .letters => "is_alpha"
  | shape .lettersAndDigits => "is_alphanumeric"
  | isNumeric => "is_numeric"
  | isInt => "is_int"
  | isFloat => "is_float"
  | min => "min"
  | max => "max"
  | length => "len"
  | isIn => "is_in"
  | notIn => "not_in"

/-- The argument of a rule as it is given; a rule with nothing but a message is simply on. -/
def argument : Value → Value
  | .dict m => (Mapping.field? m "args").getD (.bool true)
  | v => v

/-- The message of a rule as it is given: its own if it has one, or else the usual one. -/
def message (given : Value) (usual : String) : Except Fault Value :=
  match given with
  | .dict m => ((Mapping.field? m "msg").getD .null).orElse (.str usual)
  | _ => pure (.str usual)

/-- The bounds of a length: a pair, or none at all. -/
def lengthBounds : Value → Except Fault (Value × Value)
  | .list [low, high] => pure (low, high)
  | .tuple [low, high] => pure (low, high)
  | .list _ => wrongValue
  | .tuple _ => wrongValue
  | _ => pure (.int 0, .float (.infinity false))

/-- The length of a value: of a text, a sequence or bytes its own, of anything else that of its
text. -/
def lengthOf : Value → Nat
  | .list items => items.length
  | .tuple items => items.length
  | .bytes .fixed data => data.length
  | .scalar (.binary data) => data.length
  | v => v.text.length

/-- Whether one text occurs in another. -/
def occursIn (part : List Char) : List Char → Bool
  | [] => part.isEmpty
  | c :: rest => part.isPrefixOf (c :: rest) || occursIn part rest

/-- Whether one sequence of bytes occurs in another. -/
def bytesOccurIn (part : List UInt8) : List UInt8 → Bool
  | [] => part.isEmpty
  | b :: rest => part.isPrefixOf (b :: rest) || bytesOccurIn part rest

/-- Whether bytes hold a value: a byte, or a sequence of bytes. -/
def bytesHold (data : List UInt8) (v : Value) : Except Fault Bool :=
  match v.bytes? with
  | some part => pure (bytesOccurIn part data)
  | none =>
    match v with
    | .int n => if 0 ≤ n && n < 256 then pure (data.any fun b => b.toNat == n.toNat) else wrongValue
    | .bool b => pure (data.any fun c => c.toNat == b.toNat)
    | _ => wrongType

/-- The elements of a value that holds others in order, however deep; any other value alone. -/
def leaves : Value → List Value
  | .tensor t => t.items.map .scalar
  | .list items => itemLeaves items
  | .tuple items => itemLeaves items
  | v => [v]
where
  /-- The elements of several values. -/
  itemLeaves : List Value → List Value
    | [] => []
    | v :: rest => leaves v ++ itemLeaves rest

/-- Whether a collection holds a value. A text holds its parts; a mapping its keys; an array
whatever has an element in common with it. -/
def holds (collection v : Value) : Except Fault Bool :=
  match collection with
  | .list items => v.isAmong items
  | .tuple items => v.isAmong items
  | .set _ items => do
    let key ← v.memberKey
    pure (items.any (key.same ·))
  | .dict m => do
    let key ← v.asKey
    pure (Mapping.hasKey m key)
  | .bytes .view data => v.isAmong (data.map fun b => .int b.toNat)
  | .bytes _ data => bytesHold data v
  | .scalar (.binary data) => bytesHold data v
  | .tensor t => pure (t.items.any fun s => (leaves v).any fun x => x.same (.scalar s))
  | c =>
    match c.text? with
    | none => wrongType
    | some s =>
      match v.text? with
      | none => wrongType
      | some part => pure (occursIn part.toList s.toList)

/-- What a failed comparison or membership says, if it failed. -/
def messageUnless (passed : Bool) (text : String) : Option String :=
  if passed then none else some text

/-- Checks a value against a rule: the usual message if it fails. The number that the value stands
for is given, if it stands for one. -/
def check (v : Value) (number : Option Binary) (argument : Value) :
    Rule → Except Fault (Option String)
  | shape s => pure (messageUnless (s.matchesValue v) (shapeMessage s))
  | isNumeric => pure (messageUnless number.isSome "Must be a number")
  | isInt => pure (messageUnless (number.any Binary.isInteger) "Must be an integer")
  | isFloat => pure (messageUnless (number.any fun n => !n.isInteger) "Must be a float")
  | min => do
    let below ← match number with
      | some n => (Value.float n).less argument
      | none => pure true
    pure (messageUnless (!below) ("Must be at least " ++ argument.display))
  | max => do
    let above ← match number with
      | some n => argument.less (.float n)
      | none => pure true
    pure (messageUnless (!above) ("Must be at most " ++ argument.display))
  | length => do
    let (low, high) ← lengthBounds argument
    let n := Value.int (lengthOf v)
    let passed ← if ← low.atMost n then n.atMost high else pure false
    pure (messageUnless passed
      ("Length must be between " ++ low.display ++ " and " ++ high.display))
  | isIn => do
    let found ← holds (← argument.orEmptyList) v
    pure (messageUnless found "Value is not in allowed list")
  | notIn => do
    let found ← holds (← argument.orEmptyList) v
    pure (messageUnless (!found) "Value is not allowed")
where
  /-- What a text without the shape is told. -/
  shapeMessage : TextShape → String
    | .email => "Must be a valid email"
    | .url => "Must be a valid URL"
    | .address => "Must be a valid IP address"
    | .letters => "Must contain only letters"
    | .lettersAndDigits => "Must contain only letters and numbers"

/-- Whether a rule as it is given is to be applied. -/
def isActive : Value → Bool
  | .null => false
  | .bool b => b
  | _ => true

/-- Checks a value against a rule as it is given; the message is the rule's own if it has one. -/
def apply (v : Value) (number : Option Binary) (given : Value) (rule : Rule) :
    Except Fault (Option Value) := do
  match ← rule.check v number (argument given) with
  | some usual => some <$> message given usual
  | none => pure none

end Rule

/-- The active rules of a column under their names in snake case. -/
def Column.rules (c : Column) : Except Fault (Named Value) := do
  let entries ← (← c.validate.orEmptyMapping).entries
  let pairs ← (entries.filter fun e => Rule.isActive e.2).mapM fun (k, v) => do
    pure (snakeCase (← k.asText), v)
  pure (Named.ofPairs pairs)

end Tablewright
