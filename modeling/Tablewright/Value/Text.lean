import Tablewright.Value.SizedText

/-!
# Values as text

Three texts of a value: `repr`, the form in which it could be written down; `text`, its plain form,
which differs for texts, dates and the like; and `display`, the form it takes inside a message,
which differs from `text` only in that sized floating-point numbers are widened first.
-/

namespace Tablewright

open Text (quoted quotedBytes)

/-! ## Dates and times -/

/-- A duration of some seconds as it could be written down. -/
def durationRepr (seconds : Int) : String :=
  if seconds = 0 then "datetime.timedelta(0)"
  else
    let days := seconds.fdiv 86400
    let rest := seconds.fmod 86400
    let parts := (if days = 0 then [] else ["days=" ++ toString days]) ++
      (if rest = 0 then [] else ["seconds=" ++ toString rest])
    "datetime.timedelta(" ++ ", ".intercalate parts ++ ")"

/-- The offset of a time as the last argument of its written form. -/
def offsetArgument : Option Int → List String
  | none => []
  | some 0 => ["tzinfo=datetime.timezone.utc"]
  | some seconds => ["tzinfo=datetime.timezone(" ++ durationRepr seconds ++ ")"]

/-- Seconds and microseconds as arguments; those that end in zeros are left out. -/
def secondArguments (t : TimeOfDay) : List String :=
  if t.microsecond != 0 then [toString t.second, toString t.microsecond]
  else if t.second != 0 then [toString t.second]
  else []

/-- A date as arguments. -/
def dateArguments (d : Date) : List String :=
  [toString d.year, toString d.month, toString d.day]

/-- A time of day as arguments. -/
def timeArguments (t : TimeOfDay) : List String :=
  [toString t.hour, toString t.minute] ++ secondArguments t ++ offsetArgument t.offset

/-- The text of a time stamp: its year has at least four characters, a sign included. -/
def instantText (s : String) : String :=
  match s.toList with
  | '-' :: rest =>
    let year := rest.takeWhile Char.isDigit
    "-" ++ Text.zeroPadded 3 (digitsValue year) ++ String.ofList (rest.dropWhile Char.isDigit)
  | _ => s

/-! ## All values -/

namespace RecordKind

/-- The type name of a kind of definition object. -/
def typeName : RecordKind → String
  | column => "ColumnDefinition"
  | relationship => "RelationshipDefinition"
  | trigger => "TriggerDefinition"
  | indexField => "IndexField"
  | index => "IndexDefinition"
  | constraint => "ConstraintDefinition"
  | view => "ViewDefinition"
  | hooks => "ModelHooks"
  | model => "ModelDefinition"
  | options => "DatabaseOptions"

end RecordKind

/-- The type name of a hook. -/
def HookSpec.typeName {α : Type} (h : HookSpec α) : String :=
  if h.isObject then "CallableHook" else "function"

/-- The name a hook is listed by: a function by its own, if it has one, anything else by its
type. -/
def HookSpec.displayName {α : Type} (h : HookSpec α) : String :=
  if h.isObject || h.name == "" then h.typeName else h.name

namespace Value

/-- The name of the type of a value. -/
def typeName : Value → String
  | null => "NoneType"
  | bool _ => "bool"
  | int _ => "int"
  | float _ => "float"
  | str _ => "str"
  | bytes .fixed _ => "bytes"
  | bytes .mutable _ => "bytearray"
  | bytes .view _ => "memoryview"
  | list _ => "list"
  | tuple _ => "tuple"
  | set false _ => "set"
  | set true _ => "frozenset"
  | dict _ => "dict"
  | date _ => "date"
  | moment _ => "datetime"
  | time _ => "time"
  | instant _ _ => "datetime64"
  | scalar s => s.typeName
  | tensor _ => "ndarray"
  | decimal _ => "Decimal"
  | uuid _ => "UUID"
  | member type _ _ => type
  | producer _ _ => "function"
  | hook h => h.typeName
  | record kind _ => kind.typeName
  | foreign type => type

/-- Items between brackets, separated by commas. -/
def enclosed (opening closing : String) (items : List String) : String :=
  opening ++ ", ".intercalate items ++ closing

/-- The kind of a relationship as it could be written down. -/
def relationshipKindRepr (kind : String) : String :=
  "<RelationshipKind." ++ String.ofList (kind.toList.map Char.toUpper) ++ ": " ++ quoted kind ++ ">"

mutual

/-- A value as it could be written down. -/
def repr : Value → String
  | null => "None"
  | bool b => if b then "True" else "False"
  | int n => toString n
  | float x => x.toText
  | str s => quoted s
  | bytes .fixed data => quotedBytes data
  | bytes .mutable data => "bytearray(" ++ quotedBytes data ++ ")"
  | bytes .view _ => "<memory>"
  | list items => enclosed "[" "]" (reprItems items)
  | tuple [item] => "(" ++ repr item ++ ",)"
  | tuple items => enclosed "(" ")" (reprItems items)
  | set false [] => "set()"
  | set false items => enclosed "\x7b" "\x7d" (reprItems items)
  | set true [] => "frozenset()"
  | set true items => enclosed "frozenset(\x7b" "\x7d)" (reprItems items)
  | dict entries => enclosed "\x7b" "\x7d" (reprEntries entries)
  | date d => enclosed "datetime.date(" ")" (dateArguments d)
  | moment m => enclosed "datetime.datetime(" ")" (dateArguments m.date ++ timeArguments m.time)
  | time t => enclosed "datetime.time(" ")" (timeArguments t)
  | instant text _ => "np.datetime64(" ++ quoted (instantText text) ++ ")"
  | scalar s => s.repr
  | tensor t => t.repr
  | decimal d => "Decimal(" ++ quoted d.toText ++ ")"
  | uuid text => "UUID(" ++ quoted text ++ ")"
  | member type name value => "<" ++ type ++ "." ++ name ++ ": " ++ repr value ++ ">"
  | producer _ _ => "<function>"
  | hook h => "<function " ++ h.name ++ ">"
  | record kind fields => enclosed (kind.typeName ++ "(") ")" (reprFields kind fields)
  | foreign "NoDefault" => "NO_DEFAULT"
  | foreign type => "<" ++ type ++ " object>"

/-- The written forms of a list of values. -/
def reprItems : List Value → List String
  | [] => []
  | v :: rest => repr v :: reprItems rest

/-- The written forms of the entries of a mapping. -/
def reprEntries : List (Value × Value) → List String
  | [] => []
  | (k, v) :: rest => (repr k ++ ": " ++ repr v) :: reprEntries rest

/-- The written forms of the fields of a definition object. -/
def reprFields (kind : RecordKind) : List (String × Value) → List String
  | [] => []
  | (name, v) :: rest =>
    let s := match kind, name, v with
      | .relationship, "kind", str s => relationshipKindRepr s
      | _, _, _ => repr v
    (name ++ "=" ++ s) :: reprFields kind rest

end

/-- The plain text of a value. -/
def text : Value → String
  | str s => s
  | date d => d.iso
  | moment m => m.text " "
  | time t => t.iso
  | instant text _ => instantText text
  | scalar s => s.plain
  | tensor t => t.plain
  | decimal d => d.toText
  | uuid text => text
  | member type name _ => type ++ "." ++ name
  | v => repr v

/-- The text a value takes inside a message. -/
def display : Value → String
  | scalar (.float _ x) => (x.convert .double).toText
  | tensor ⟨_, [], [.float _ x]⟩ => (x.convert .double).toText
  | v => text v

end Value

end Tablewright
