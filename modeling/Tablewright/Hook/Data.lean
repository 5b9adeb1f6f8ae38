import Tablewright.Value.Access
import Tablewright.Value.Numeric
import Tablewright.Value.Text
import Tablewright.Fault

/-!
# What hooks do to their data

A hook reads, stores, removes and changes parts of the data it is called with, which may be a
mapping, a list or anything else. What the data does not allow is a failure with a text of its own.
-/

namespace Tablewright

/-! ## Failures -/

/-- The name of a type as failures give it: a type that is not built in goes by its home as well. -/
def Value.qualifiedTypeName : Value → String
  | .date d => "datetime." ++ (Value.date d).typeName
  | .moment m => "datetime." ++ (Value.moment m).typeName
  | .time t => "datetime." ++ (Value.time t).typeName
  | .decimal d => "decimal." ++ (Value.decimal d).typeName
  | .instant text unit => "numpy." ++ (Value.instant text unit).typeName
  | .scalar s => "numpy." ++ s.typeName
  | .tensor t => "numpy." ++ (Value.tensor t).typeName
  | v => v.typeName

/-- The failure of an operation that values of a type do not have. -/
def unsupported (v : Value) (what : String) : HookCause :=
  .misuse .wrongType ("'" ++ v.qualifiedTypeName ++ "' object " ++ what)

/-- The failure of looking for a part that values of a type do not have. -/
def lacking (v : Value) (part : String) : HookCause :=
  .misuse .noAttribute ("'" ++ v.qualifiedTypeName ++ "' object has no attribute '" ++ part ++ "'")

/-! ## Keys of mappings -/

mutual

/-- Why a value cannot be a key of a mapping, if it cannot: the part of it that could change. -/
def keyObstacle? : Value → Option String
  | .tuple items => keyObstacleAmong? items
  | .record .model _ => some "unhashable type: 'ModelDefinition'"
  | .record .hooks _ => some "unhashable type: 'ModelHooks'"
  | .record _ fields => keyObstacleIn? fields
  | .decimal (.nan _ true _) => some "Cannot hash a signaling NaN value"
  | v => if v.isHashable then none else some ("unhashable type: '" ++ v.qualifiedTypeName ++ "'")

/-- The obstacle in the first of some values that has one. -/
def keyObstacleAmong? : List Value → Option String
  | [] => none
  | v :: rest => match keyObstacle? v with
    | some text => some text
    | none => keyObstacleAmong? rest

/-- The obstacle in the first of some fields that has one. -/
def keyObstacleIn? : List (String × Value) → Option String
  | [] => none
  | (_, v) :: rest => match keyObstacle? v with
    | some text => some text
    | none => keyObstacleIn? rest

end

/-- A key of a mapping, which must be hashable. -/
def hookKey (key : Value) : Except HookCause Value :=
  match keyObstacle? key with
  | none => pure key
  | some text => .error (.misuse .wrongType text)

/-! ## Places in sequences -/

/-- The integer that a value is when it points to a place. -/
def placeNumber? : Value → Option Int
  | .int n => some n
  | .bool b => some (if b then 1 else 0)
  | .scalar (.int _ _ n) => some n
  | .tensor ⟨_, [], [.int _ _ n]⟩ => some n
  | _ => none

/-- Refuses an integer of more than sixty-four bits, which can point to no place at all. -/
def checkPlaceNumber (key : Value) : Except HookCause Unit :=
  match placeNumber? key with
  | some n =>
    if n.bmod (Nat.pow 2 64) = n then pure ()
    else
      .error (.misuse .indexOutOfRange
        ("cannot fit '" ++ key.qualifiedTypeName ++ "' into an index-sized integer"))
  | none => pure ()

/-- The place that a key points to among so many, counted from the end if it is negative. Given are
the failures of a key that is no integer and of one that points nowhere. -/
def placeAmong (count : Nat) (key : Value) (noInteger outside : HookCause) :
    Except HookCause Nat := do
  checkPlaceNumber key
  match placeNumber? key with
  | none => .error noInteger
  | some n =>
    let n := if n < 0 then n + count else n
    if 0 ≤ n && n < count then pure n.toNat else .error outside

/-- The failure of pointing into a sequence with a key that is no integer. -/
def badIndex (sequence : String) (key : Value) : HookCause :=
  .misuse .wrongType
    (sequence ++ " indices must be integers or slices, not " ++ key.qualifiedTypeName)

/-- The failure of pointing to no place of a sequence. -/
def outside (text : String) : HookCause :=
  .misuse .indexOutOfRange text

/-- The failure of pointing into a text with a key that is no integer. -/
def badTextIndex (key : Value) : HookCause :=
  .misuse .wrongType
    ("string indices must be integers, not '" ++ key.qualifiedTypeName ++ "'")

/-- The failure of pointing into an array with what is no place of one. -/
def badArrayIndex : HookCause :=
  outside ("only integers, slices (`:`), ellipsis (`...`), numpy.newaxis (`None`) and " ++
    "integer or boolean arrays are valid indices")

/-- The failure of pointing into an array without axes. -/
def tooManyIndices : HookCause :=
  outside "too many indices for array: array is 0-dimensional, but 1 were indexed"

/-- The failure of pointing beyond the first axis of an array. -/
def beyondAxis (n : Int) (count : Nat) : HookCause :=
  outside ("index " ++ toString n ++ " is out of bounds for axis 0 with size " ++ toString count)

/-- The item at a place. -/
def itemAt (items : List Value) (place : Nat) : Value :=
  (items[place]?).getD .null

/-! ## Reading -/

/-- The byte at the place that a key points to. -/
def readByte (data : List UInt8) (key : Value) (noInteger nowhere : HookCause) :
    Except HookCause Value := do
  let place ← placeAmong data.length key noInteger nowhere
  pure (.int ((data[place]?).getD 0).toNat)

/-- The character at the place that a key points to. -/
def readChar (s : String) (key : Value) : Except HookCause Value := do
  let place ← placeAmong s.length key (badTextIndex key) (outside "string index out of range")
  pure (.str (String.ofList ((s.toList.drop place).take 1)))

/-- The part of an array that a key points to; a key that selects many leaves an array. -/
def readTensor (t : Tensor) (key : Value) : Except HookCause Value :=
  match placeNumber? key, t.shape with
  | some _, [] => .error tooManyIndices
  | some n, count :: _ => do
    let place ← placeAmong count key badArrayIndex (beyondAxis n count)
    match Value.tensorItems t with
    | .ok items => pure (itemAt items place)
    | .error _ => pure .null
  | none, _ =>
    match key with
    | .null | .list _ | .tuple _ | .tensor _ => pure (.tensor t)
    | _ => .error badArrayIndex

/-- The value under a key. -/
def readKey (data key : Value) : Except HookCause Value :=
  match data with
  | .dict m => do
    let key ← hookKey key
    match Mapping.get? m key with
    | some v => pure v
    | none => .error (.misuse .missingKey key.repr)
  | .list items => do
    pure (itemAt items
      (← placeAmong items.length key (badIndex "list" key) (outside "list index out of range")))
  | .tuple items => do
    pure (itemAt items
      (← placeAmong items.length key (badIndex "tuple" key) (outside "tuple index out of range")))
  | .str s => readChar s key
  | .scalar (.text s) => readChar s key
  | .bytes .fixed data => readByte data key (badIndex "byte" key) (outside "index out of range")
  | .scalar (.binary data) =>
    readByte data key (badIndex "byte" key) (outside "index out of range")
  | .bytes .mutable data =>
    readByte data key (badIndex "bytearray" key) (outside "bytearray index out of range")
  | .bytes .view data =>
    readByte data key (.misuse .wrongType "memoryview: invalid slice key")
      (outside "index out of bounds on dimension 1")
  | .scalar _ | .instant .. => .error (outside "invalid index to scalar variable.")
  | .tensor t => readTensor t key
  | v => .error (unsupported v "is not subscriptable")

/-! ## Storing and removing -/

/-- The byte that a value stands for. -/
def byteOf (v : Value) : Except HookCause UInt8 :=
  match placeNumber? v with
  | none => .error (unsupported v "cannot be interpreted as an integer")
  | some n =>
    if 0 ≤ n && n < 256 then pure (UInt8.ofNat n.toNat)
    else .error (.misuse .wrongValue "byte must be in range(0, 256)")

/-- An array with every element of the part that a key points to replaced by a value; a key that
selects many points to all of it. -/
def writeTensor (t : Tensor) (key value : Value) : Except HookCause Value := do
  let noAssignment := unsupported (.tensor t) "does not support item assignment"
  let (start, count) ← match placeNumber? key, t.shape with
    | some _, [] => .error tooManyIndices
    | some n, count :: rest => do
      let place ← placeAmong count key badArrayIndex (beyondAxis n count)
      let size := rest.foldl (· * ·) 1
      pure (place * size, size)
    | none, _ =>
      match key with
      | .null | .list _ | .tuple _ | .tensor _ => pure (0, t.items.length)
      | _ => .error badArrayIndex
  match value.sized t.element with
  | .ok element =>
    pure (.tensor { t with
      items := t.items.take start ++ List.replicate count element ++ t.items.drop (start + count) })
  | .error _ => .error noAssignment

/-- The data with a value under a key. -/
def writeKey (data key value : Value) : Except HookCause Value :=
  match data with
  | .dict m => do
    let key ← hookKey key
    pure (.dict (Mapping.put m key value))
  | .list items => do
    let place ← placeAmong items.length key (badIndex "list" key)
      (outside "list assignment index out of range")
    pure (.list (items.set place value))
  | .bytes .mutable data => do
    if (placeNumber? key).isNone then .error (badIndex "bytearray" key)
    checkPlaceNumber key
    let byte ← byteOf value
    let place ← placeAmong data.length key (badIndex "bytearray" key)
      (outside "bytearray index out of range")
    pure (.bytes .mutable (data.set place byte))
  | .bytes .view _ => .error (.misuse .wrongType "cannot modify read-only memory")
  | .tensor t => writeTensor t key value
  | .str _ | .scalar (.text _) | .tuple _ | .set .. | .bytes .fixed _ | .uuid _ | .record .. => do
    checkPlaceNumber key
    .error (unsupported data "does not support item assignment")
  | v => .error (unsupported v "does not support item assignment")

/-- The data without a key. An empty mapping has none to look for. -/
def removeKey (data key : Value) : Except HookCause Value :=
  match data with
  | .dict [] => pure data
  | .dict m => do
    let key ← hookKey key
    pure (.dict (Mapping.remove m key))
  | .list _ | .bytes .mutable _ =>
    .error (.misuse .wrongType "pop expected at most 1 argument, got 2")
  | .set false _ => .error (.misuse .wrongType "set.pop() takes no arguments (2 given)")
  | v => .error (lacking v "pop")

/-! ## Changing parts -/

/-- A part with a value added at its end. -/
def appended (part value : Value) : Except HookCause Value :=
  match part with
  | .list items => pure (.list (items ++ [value]))
  | .bytes .mutable data => do pure (.bytes .mutable (data ++ [← byteOf value]))
  | v => .error (lacking v "append")

/-- The data with a part changed in its place, which even a sequence of fixed parts lets happen. -/
def changePart (data key part : Value) : Except HookCause Value :=
  match data with
  | .tuple items => do
    let place ← placeAmong items.length key (badIndex "tuple" key)
      (outside "tuple index out of range")
    pure (.tuple (items.set place part))
  | _ => writeKey data key part

/-- The small form of a byte that is a letter of ASCII. -/
def lowerByte (b : UInt8) : UInt8 :=
  if 65 ≤ b.toNat && b.toNat ≤ 90 then b + 32 else b

/-- A part with its letters in lower case; for bytes, the letters of ASCII. -/
def lowered (part : Value) : Except HookCause Value :=
  match part with
  | .str s => pure (.str (Text.lower s))
  | .scalar (.text s) => pure (.str (Text.lower s))
  | .scalar (.binary data) => pure (.bytes .fixed (data.map lowerByte))
  | .bytes .view _ => .error (lacking part "lower")
  | .bytes kind data => pure (.bytes kind (data.map lowerByte))
  | v => .error (lacking v "lower")

/-! ## Actions -/

/-- The most arguments of a validation failure: its message, the value and what is allowed. -/
def validationArguments : Nat := 3

/-- The text of a failure that a hook raises with some arguments. -/
def raisedText : FailureKind → List Value → String
  | _, [] => ""
  | .missingKey, [v] => v.repr
  | .validation, v :: _ => v.text
  | _, [v] => v.text
  | _, vs => (Value.tuple vs).repr

/-- The failure that a hook raises. A validation failure needs a message, and takes the value and
what is allowed, which must be a collection. -/
def raise : FailureKind → List Value → HookCause
  | .validation, [] =>
    .misuse .wrongType
      "ValidationError.__init__() missing 1 required positional argument: 'message'"
  | .validation, arguments =>
    if validationArguments < arguments.length then
      .misuse .wrongType
        ("ValidationError.__init__() takes from 2 to 4 positional arguments but " ++
          toString (arguments.length + 1) ++ " were given")
    else
      match arguments with
      | [_, _, allowed] =>
        match allowed.items with
        | .ok _ => .raised .validation (raisedText .validation arguments)
        | .error _ => unsupported allowed "is not iterable"
      | _ => .raised .validation (raisedText .validation arguments)
  | kind, arguments => .raised kind (raisedText kind arguments)

/-- Does one action to the data. -/
def performAction (data : Value) : HookAction Value → Except HookCause Value
  | .set key value => writeKey data key value
  | .remove key => removeKey data key
  | .append key value => do changePart data key (← appended (← readKey data key) value)
  | .lower key => do writeKey data key (← lowered (← readKey data key))
  | .fail kind arguments => .error (raise kind arguments)

/-- Does actions in order until one fails; the data stays as the last one left it. -/
def performActions (data : Value) : List (HookAction Value) → Value × Option HookCause
  | [] => (data, none)
  | action :: rest =>
    match performAction data action with
    | .ok data => performActions data rest
    | .error cause => (data, some cause)

end Tablewright
