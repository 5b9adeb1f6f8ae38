import Tablewright.Fault
import Tablewright.Text.Casing
import Tablewright.Value.Equality

/-!
# Taking values apart

A definition or a request arrives as a plain value, and its parts are taken from it here: the items
of a sequence, the entries of a mapping, the halves of a pair, the texts of a list. Each of these
fails with the misuse that fits when the value is of another kind.
-/

namespace Tablewright

namespace Value

/-- The entries of a mapping. -/
def entries : Value → Except Fault Mapping
  | dict m => pure m
  | _ => noAttribute

/-- The rows of an array, each an array of one axis less or a scalar. -/
def tensorItems (t : Tensor) : Except Fault (List Value) :=
  match t.shape with
  | [] => wrongType
  | [_] => pure (t.items.map fun s => scalar s.unpadded)
  | n :: shape =>
    let size := shape.foldl (· * ·) 1
    pure ((List.range n).map fun i =>
      tensor ⟨t.element, shape, (t.items.drop (i * size)).take size⟩)

/-- The items that a value holds, in order: the members of a collection, the keys of a mapping, the
characters of a text, the numbers of a sequence of bytes. -/
def items : Value → Except Fault (List Value)
  | list xs => pure xs
  | tuple xs => pure xs
  | set _ xs => pure xs
  | dict m => pure (m.map (·.1))
  | str s => pure (s.toList.map fun c => str (String.ofList [c]))
  | scalar (.text s) => pure (s.toList.map fun c => str (String.ofList [c]))
  | bytes _ data => pure (data.map fun b => int b.toNat)
  | scalar (.binary data) => pure (data.map fun b => int b.toNat)
  | tensor t => tensorItems t
  | _ => wrongType

/-- The two halves of a pair. -/
def pair (v : Value) : Except Fault (Value × Value) := do
  match ← v.items with
  | [a, b] => pure (a, b)
  | _ => wrongValue

/-- A key, which must be hashable. -/
def asKey (v : Value) : Except Fault Value :=
  if v.isHashable then pure v else wrongType

/-- What a value is looked up by in a set, where a set is taken as if it could not change. -/
def memberKey : Value → Except Fault Value
  | set _ items => pure (set true items)
  | v => v.asKey

/-- The mapping that a value describes: a mapping as it is, or a sequence of pairs, a later one
replacing an earlier one under the same key. -/
def toMapping : Value → Except Fault Mapping
  | dict m => pure m
  | v => do
    let pairs ← (← v.items).mapM fun item => do
      let (k, x) ← item.pair
      pure (← k.asKey, x)
    pure (Mapping.ofPairs pairs)

/-- Whether a value answers for a condition: every value does but an array that does not hold
exactly one element. -/
def hasTruth : Value → Bool
  | tensor ⟨_, _, [_]⟩ => true
  | tensor _ => false
  | _ => true

/-- Whether a condition given as a value holds. -/
def truth (v : Value) : Except Fault Bool :=
  if v.hasTruth then pure v.truthy else wrongValue

/-- The only element of an array, however deep, or of nested lists; a value that holds no elements
stands for itself. -/
def soleElement? : Value → Option Value
  | tensor ⟨_, _, [s]⟩ => some (scalar s.unpadded)
  | tensor _ => none
  | list [v] => soleElement? v
  | list _ => none
  | tuple [v] => soleElement? v
  | tuple _ => none
  | v => some v

/-- Equality where one side is an array: it holds or fails element by element, and only a single
element gives a condition. -/
def equalElements (a b : Value) : Except Fault Bool :=
  match a.soleElement?, b.soleElement? with
  | some x, some y => pure (x.same y)
  | _, _ => wrongValue

/-- Whether a value is an array. -/
def isTensor : Value → Bool
  | tensor _ => true
  | _ => false

mutual

/-- Whether two values are equal, given that every comparison with an array on the way has to give
a condition. -/
def equals : Value → Value → Except Fault Bool
  | list xs, b => match b with
    | list ys => if xs.length = ys.length then equalItems xs ys else pure false
    | _ => if b.isTensor then equalElements (list xs) b else pure false
  | tuple xs, b => match b with
    | tuple ys => if xs.length = ys.length then equalItems xs ys else pure false
    | _ => if b.isTensor then equalElements (tuple xs) b else pure false
  | dict xs, b => match b with
    | dict ys => if xs.length = ys.length then equalEntries xs ys else pure false
    | _ => if b.isTensor then equalElements (dict xs) b else pure false
  | a, b => if a.isTensor || b.isTensor then equalElements a b else pure (a.same b)

/-- Equality item by item, up to the first difference. -/
def equalItems : List Value → List Value → Except Fault Bool
  | [], _ => pure true
  | x :: xs, ys => match ys with
    | [] => pure true
    | y :: ys => do if ← equals x y then equalItems xs ys else pure false

/-- Whether the entries of the first mapping are those of the second, up to the first difference. -/
def equalEntries : List (Value × Value) → List (Value × Value) → Except Fault Bool
  | [], _ => pure true
  | (k, v) :: xs, ys =>
    match ys.find? fun e => k.same e.1 with
    | none => pure false
    | some e => do if ← equals v e.2 then equalEntries xs ys else pure false

end

/-- Whether one of some values equals a value. -/
def isAmong (v : Value) : List Value → Except Fault Bool
  | [] => pure false
  | x :: rest => do if ← equals x v then pure true else isAmong v rest

/-- The first of two values if its condition holds, else the second. -/
def orElse (a b : Value) : Except Fault Value := do
  pure (if ← a.truth then a else b)

/-- The value, or an empty mapping in place of one whose condition does not hold. -/
def orEmptyMapping (v : Value) : Except Fault Value :=
  v.orElse (dict [])

/-- The value, or an empty list in place of one whose condition does not hold. -/
def orEmptyList (v : Value) : Except Fault Value :=
  v.orElse (list [])

/-- The text of a value that must be a text. -/
def asText (v : Value) : Except Fault String :=
  match v.text? with
  | some s => pure s
  | none => wrongType

/-- The texts of a sequence that must hold nothing else. -/
def texts (v : Value) : Except Fault (List String) := do
  (← v.items).mapM asText

/-- The texts of a sequence, separated by commas. -/
def joined (v : Value) : Except Fault String := do
  pure (", ".intercalate (← v.texts))

/-- The value with its letters in upper case; for bytes, the letters of ASCII. -/
def upperCase : Value → Except Fault Value
  | str s => pure (str (Text.upper s))
  | scalar (.text s) => pure (str (Text.upper s))
  | bytes .view _ => noAttribute
  | bytes kind data => pure (bytes kind (data.map upperByte))
  | scalar (.binary data) => pure (bytes .fixed (data.map upperByte))
  | _ => noAttribute
where
  /-- The upper case of a byte that is a letter of ASCII. -/
  upperByte (b : UInt8) : UInt8 :=
    if 97 ≤ b.toNat && b.toNat ≤ 122 then b - 32 else b

/-- The text of a value that must be a text and is asked for one of a text's abilities, one that
bytes have as well but with bytes for arguments. -/
def abilityText (v : Value) : Except Fault String :=
  match v.text? with
  | some s => pure s
  | none =>
    match v with
    | bytes .view _ => noAttribute
    | bytes _ _ => wrongType
    | scalar (.binary _) => wrongType
    | _ => noAttribute

end Value

end Tablewright
