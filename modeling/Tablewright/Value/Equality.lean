import Tablewright.Instant
import Tablewright.Value.Basic

/-!
# Equality of values

Numbers are equal when they stand for the same quantity, whatever their kind, so that `1`, `1.0`
and `true` are one key of a mapping. Texts are equal by their characters, bytes by their content,
collections by their members. What is no number equals nothing, not even itself.
-/

namespace Tablewright

/-- The quantity a number stands for. -/
inductive Quantity where
  | undefined
  | infinity (negative : Bool)
  | exact (q : Rat)
  deriving DecidableEq

namespace Quantity

/-- The quantity of a binary number. -/
def ofBinary (x : Binary) : Quantity :=
  match x with
  | .nan => undefined
  | .infinity negative => infinity negative
  | .finite .. => match x.toRat? with
    | some q => exact q
    | none => undefined

/-- The quantity of a decimal number. -/
def ofDecimal (d : Decimal) : Quantity :=
  match d with
  | .nan .. => undefined
  | .infinity negative => infinity negative
  | .finite .. => match d.toRat? with
    | some q => exact q
    | none => undefined

/-- Whether two quantities are equal; an undefined one equals nothing. -/
def same : Quantity → Quantity → Bool
  | exact p, exact q => p == q
  | infinity a, infinity b => a == b
  | _, _ => false

/-- Whether the first quantity is below the second; an undefined one is below nothing. -/
def less : Quantity → Quantity → Bool
  | exact p, exact q => p < q
  | infinity true, exact _ => true
  | exact _, infinity false => true
  | infinity true, infinity false => true
  | _, _ => false

/-- Whether the first quantity is below the second or equal to it. -/
def atMost (a b : Quantity) : Bool :=
  a.less b || a.same b

end Quantity

/-- The format to which a number is rounded before it is compared with another one: a plain number
beside a sized floating-point number takes the format of the latter, and a long sized integer
beside a floating-point number becomes one itself. -/
def comparisonFormat? (v other : Value) : Option BinaryFormat :=
  match v, other with
  | .float _, .scalar (.float bits _) => some (floatFormat bits)
  | .int _, .scalar (.float bits _) => some (floatFormat bits)
  | .scalar (.int _ 64 _), .float _ => some .double
  | _, _ => none

/-- Whether a condition given as a scalar holds. A text of null characters counts as empty. -/
def Scalar.truthy : Scalar → Bool
  | bool b => b
  | int _ _ n => n != 0
  | float _ x => !x.isZero
  | text s => s.toList.any (· != Char.ofNat 0)
  | binary data => data.any (· != 0)

namespace Value

/-- The quantity of a number of any kind. -/
def quantity? : Value → Option Quantity
  | bool b => some (.exact (if b then 1 else 0))
  | int n => some (.exact n)
  | float x => some (.ofBinary x)
  | scalar (.bool b) => some (.exact (if b then 1 else 0))
  | scalar (.int _ _ n) => some (.exact n)
  | scalar (.float _ x) => some (.ofBinary x)
  | decimal d => some (.ofDecimal d)
  | _ => none

/-- A quantity rounded to a format, if one is given. -/
def inFormat (f? : Option BinaryFormat) (q : Quantity) : Quantity :=
  match f?, q with
  | some f, .exact q => .ofBinary (f.round q)
  | _, q => q

/-- The quantities of two numbers that are compared with each other. -/
def quantities? (a b : Value) : Option (Quantity × Quantity) := do
  let p ← a.quantity?
  let q ← b.quantity?
  some (inFormat (comparisonFormat? a b) p, inFormat (comparisonFormat? b a) q)

/-- The content of a sequence of bytes of any kind. -/
def bytes? : Value → Option (List UInt8)
  | bytes _ data => some data
  | scalar (.binary data) => some data
  | _ => none

/-- Equality of two values that are no collections. -/
def sameAtom (a b : Value) : Bool :=
  match quantities? a b with
  | some (p, q) => p.same q
  | none =>
    match a.text?, b.text? with
    | some s, some t => s == t
    | _, _ =>
      match a.bytes?, b.bytes? with
      | some s, some t => s == t
      | _, _ =>
        match a, b with
        | null, null => true
        | date d, date e => d == e
        | moment m, moment n => m.same n
        | time s, time t => s.same t
        | instant s _, instant t _ => Instant.same s t
        | instant s unit, date d => Instant.isDate s unit d
        | date d, instant s unit => Instant.isDate s unit d
        | instant s unit, moment m => Instant.isMoment s unit m
        | moment m, instant s unit => Instant.isMoment s unit m
        | tensor s, tensor t => s == t
        | uuid s, uuid t => s == t
        | producer i _, producer j _ => i == j
        | hook g, hook h => g.name == h.name
        | _, _ => false

mutual

/-- Whether two values are equal. -/
def same : Value → Value → Bool
  | list xs, b => match b with
    | list ys => sameItems xs ys
    | _ => false
  | tuple xs, b => match b with
    | tuple ys => sameItems xs ys
    | _ => false
  | set _ xs, b => match b with
    | set _ ys => xs.length == ys.length && allWithin xs ys
    | _ => false
  | dict xs, b => match b with
    | dict ys => xs.length == ys.length && entriesWithin xs ys
    | _ => false
  | member type name v, b => match b with
    | member type' name' v' => type == type' && name == name' && same v v'
    | _ => false
  | record kind xs, b => match b with
    | record kind' ys => kind == kind' && sameFields xs ys
    | _ => false
  | a, b => sameAtom a b

/-- Equality item by item. -/
def sameItems : List Value → List Value → Bool
  | [], ys => ys.isEmpty
  | x :: xs, ys => match ys with
    | [] => false
    | y :: ys => same x y && sameItems xs ys

/-- Whether every value of the first list equals one of the second. -/
def allWithin : List Value → List Value → Bool
  | [], _ => true
  | x :: xs, ys => ys.any (same x) && allWithin xs ys

/-- Whether every entry of the first mapping is one of the second. -/
def entriesWithin : List (Value × Value) → List (Value × Value) → Bool
  | [], _ => true
  | (k, v) :: xs, ys =>
    (ys.any fun (k', v') => same k k' && same v v') && entriesWithin xs ys

/-- Equality field by field. -/
def sameFields : List (String × Value) → List (String × Value) → Bool
  | [], ys => ys.isEmpty
  | (name, v) :: xs, ys => match ys with
    | [] => false
    | (name', v') :: ys => name == name' && same v v' && sameFields xs ys

end

mutual

/-- Whether a value may be a key of a mapping or a member of a set. -/
def isHashable : Value → Bool
  | list _ => false
  | dict _ => false
  | set frozen _ => frozen
  | bytes .mutable _ => false
  | tensor _ => false
  | tuple items => allHashable items
  | decimal (.nan _ true _) => false
  | record .model _ => false
  | record .hooks _ => false
  | record _ fields => fieldsHashable fields
  | _ => true

/-- Whether every value of a list may be a key. -/
def allHashable : List Value → Bool
  | [] => true
  | v :: rest => isHashable v && allHashable rest

/-- Whether every field of an object may be a key. -/
def fieldsHashable : List (String × Value) → Bool
  | [] => true
  | (_, v) :: rest => isHashable v && fieldsHashable rest

end

/-- Whether a condition given as a value holds: what is empty, zero or null does not, nor does the
time stamp at which counting begins. An array speaks for its only element. -/
def truthy : Value → Bool
  | null => false
  | bool b => b
  | int n => n != 0
  | float x => !x.isZero
  | str s => s != ""
  | bytes _ data => !data.isEmpty
  | list items => !items.isEmpty
  | tuple items => !items.isEmpty
  | set _ items => !items.isEmpty
  | dict entries => !entries.isEmpty
  | scalar s => s.truthy
  | tensor ⟨_, _, [s]⟩ => s.truthy
  | instant text _ => !Instant.isEpoch text
  | decimal d => !d.isZero
  | _ => true

end Value

/-! ## Mappings -/

/-- The entries of a mapping in the order of first insertion. -/
abbrev Mapping := List (Value × Value)

namespace Mapping

/-- The value under a key. -/
def get? (m : Mapping) (key : Value) : Option Value :=
  (m.find? fun e => key.same e.1).map (·.2)

/-- The value under a key that is a text. -/
def field? (m : Mapping) (name : String) : Option Value :=
  m.get? (.str name)

/-- Whether there is a value under a key. -/
def hasKey (m : Mapping) (key : Value) : Bool :=
  m.any fun e => key.same e.1

/-- Stores a value under a key. A key that is there keeps its place and its spelling. -/
def put : Mapping → Value → Value → Mapping
  | [], key, value => [(key, value)]
  | (k, v) :: rest, key, value =>
    if key.same k then (k, value) :: rest else (k, v) :: put rest key value

/-- Removes a key. -/
def remove (m : Mapping) (key : Value) : Mapping :=
  m.filter fun e => !key.same e.1

/-- The mapping that arises from storing pairs one after the other. -/
def ofPairs (pairs : List (Value × Value)) : Mapping :=
  pairs.foldl (fun m e => m.put e.1 e.2) []

/-- The entries of one mapping stored over another. -/
def union (m n : Mapping) : Mapping :=
  n.foldl (fun acc e => acc.put e.1 e.2) m

end Mapping

end Tablewright
