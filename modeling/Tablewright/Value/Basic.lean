import Tablewright.Calendar
import Tablewright.Number.Decimal

/-!
# Values

Definitions, rows and requests are made of dynamically typed values. `Value` lists every kind the
library tells apart: the plain kinds, the collections, dates and times, sized numbers and arrays,
exact decimals, members of enumerations, and the three kinds that stand for behaviour: producers of
default values, hooks, and foreign objects.

A mapping keeps its entries in the order of first insertion. The order of a set carries no meaning;
it is the order in which its members were given.
-/

namespace Tablewright

/-- How a sequence of bytes is held. -/
inductive BytesKind where
  | fixed
  | mutable
  | view
  deriving DecidableEq, Repr

/-- The element type of a sized number or an array. -/
inductive ElementType where
  | bool
  | int (signed : Bool) (bits : Nat)
  | float (bits : Nat)
  | text
  | binary
  deriving DecidableEq, Repr

/-- A single element of a sized type. -/
inductive Scalar where
  | bool (b : Bool)
  | int (signed : Bool) (bits : Nat) (n : Int)
  | float (bits : Nat) (x : Binary)
  | text (s : String)
  | binary (data : List UInt8)
  deriving DecidableEq, Repr

/-- An array of sized elements, listed with the last index running fastest. -/
structure Tensor where
  /-- The type of every element. -/
  element : ElementType
  /-- The extent along each axis. -/
  shape : List Nat
  /-- The elements, last index fastest. -/
  items : List Scalar
  deriving DecidableEq, Repr

/-- The binary format of a sized floating-point number. -/
def floatFormat (bits : Nat) : BinaryFormat :=
  if bits = 16 then .half else if bits = 32 then .single else .double

/-- The kinds of failure a hook may raise by itself. -/
inductive FailureKind where
  | missingKey
  | validation
  | other (name : String)
  deriving DecidableEq, Repr

/-- One thing a hook does to the data it is called with. -/
inductive HookAction (α : Type) where
  /-- Stores a value under a key. -/
  | set (key value : α)
  /-- Removes a key, which need not be there. -/
  | remove (key : α)
  /-- Adds a value to the end of the list under a key. -/
  | append (key value : α)
  /-- Turns the text under a key to lower case. -/
  | lower (key : α)
  /-- Raises a failure. -/
  | fail (kind : FailureKind) (arguments : List α)

/-- A lifecycle hook: what it is called, and what it does when it is called. -/
structure HookSpec (α : Type) where
  /-- The name it is known by. -/
  name : String
  /-- What it does, in order, until one action fails. -/
  actions : List (HookAction α)
  /-- Whether it finishes only when awaited. -/
  awaited : Bool
  /-- Whether it is an object that can be called rather than a function. -/
  isObject : Bool

/-- The kinds of definition objects. -/
inductive RecordKind where
  | column
  | relationship
  | trigger
  | indexField
  | index
  | constraint
  | view
  | hooks
  | model
  | options
  deriving DecidableEq, Repr

/-- A dynamically typed value. -/
inductive Value where
  | null
  | bool (b : Bool)
  | int (n : Int)
  | float (x : Binary)
  | str (s : String)
  | bytes (kind : BytesKind) (data : List UInt8)
  | list (items : List Value)
  | tuple (items : List Value)
  | set (frozen : Bool) (items : List Value)
  | dict (entries : List (Value × Value))
  | date (d : Date)
  | moment (m : Moment)
  | time (t : TimeOfDay)
  /-- A time stamp of a fixed unit, by its text. -/
  | instant (text unit : String)
  | scalar (s : Scalar)
  | tensor (t : Tensor)
  | decimal (d : Decimal)
  /-- A universally unique identifier, by its canonical text. -/
  | uuid (text : String)
  /-- A member of an enumeration. -/
  | member (type name : String) (value : Value)
  /-- A source of default values that hands out its values in turn and starts over; the number
  tells one source from another. -/
  | producer (id : Nat) (values : List Value)
  | hook (h : HookSpec Value)
  /-- A definition object with all its fields. -/
  | record (kind : RecordKind) (fields : List (String × Value))
  /-- Any other object, of which only the type is known. -/
  | foreign (type : String)
  deriving Inhabited

/-- A lifecycle hook over values. -/
abbrev Hook := HookSpec Value

namespace Value

/-- The text of a value that is a text of either kind. -/
def text? : Value → Option String
  | str s => some s
  | scalar (.text s) => some s
  | _ => none

/-- Whether the value is null. -/
def isNull : Value → Bool
  | null => true
  | _ => false

/-- A list of texts as a value. -/
def ofTexts (texts : List String) : Value :=
  list (texts.map str)

/-- An optional text as a value; null stands for none. -/
def ofText? : Option String → Value
  | none => null
  | some s => str s

end Value

end Tablewright
