import Tablewright.Value.Equality
import Tablewright.Value.Json.Token

/-!
# Reading values from JSON

The reader takes in one token after the other. It keeps the arrays and objects that are still open,
innermost first, and what it expects next. Of two members of one name the later counts, at the
place of the first.
-/

namespace Tablewright

namespace Json

/-- An array or an object that is still open. -/
inductive Frame where
  /-- An array and its items so far. -/
  | array (items : List Value)
  /-- An object, its members so far, and the name whose value comes next. -/
  | object (members : Mapping) (name : String)

/-- What comes next. -/
inductive Expectation where
  /-- A value. -/
  | value
  /-- A value, or the end of an array that has just begun. -/
  | firstItem
  /-- A name, or the end of an object that has just begun. -/
  | firstName
  /-- A name. -/
  | name
  /-- A colon. -/
  | colon
  /-- A comma, or the end of the innermost array or object. -/
  | more
  /-- Nothing: the value is complete. -/
  | nothing (v : Value)

/-- How far a text has been read. -/
structure Reader where
  /-- The arrays and objects that are open, innermost first. -/
  frames : List Frame := []
  /-- What comes next. -/
  expects : Expectation := .value

namespace Reader

/-- Takes in a complete value. -/
def complete (frames : List Frame) (v : Value) : Reader :=
  match frames with
  | [] => { expects := .nothing v }
  | .array items :: rest => { frames := .array (items ++ [v]) :: rest, expects := .more }
  | .object members name :: rest =>
    { frames := .object (Mapping.put members (.str name) v) name :: rest, expects := .more }

/-- Takes in a token where a value is expected. -/
def takeValue (frames : List Frame) : TokenKind → Option Reader
  | .openArray => some { frames := .array [] :: frames, expects := .firstItem }
  | .openObject => some { frames := .object [] "" :: frames, expects := .firstName }
  | .text s => some (complete frames (.str s))
  | .scalar v => some (complete frames v)
  | _ => none

/-- Takes in a token where a name is expected. -/
def takeName (frames : List Frame) : TokenKind → Option Reader
  | .text s =>
    match frames with
    | .object members _ :: rest =>
      some { frames := .object members s :: rest, expects := .colon }
    | _ => none
  | _ => none

/-- Takes in a token behind a complete item or member. -/
def takeMore (frames : List Frame) (kind : TokenKind) : Option Reader :=
  match kind, frames with
  | .comma, .array _ :: _ => some { frames, expects := .value }
  | .comma, .object .. :: _ => some { frames, expects := .name }
  | .closeArray, .array items :: rest => some (complete rest (.list items))
  | .closeObject, .object members _ :: rest => some (complete rest (.dict members))
  | _, _ => none

/-- Takes in a token, if it fits. -/
def take? (r : Reader) (kind : TokenKind) : Option Reader :=
  match r.expects with
  | .value => takeValue r.frames kind
  | .firstItem =>
    match kind with
    | .closeArray => takeMore r.frames kind
    | _ => takeValue r.frames kind
  | .firstName =>
    match kind with
    | .closeObject => takeMore r.frames kind
    | _ => takeName r.frames kind
  | .name => takeName r.frames kind
  | .colon =>
    match kind with
    | .colon => some { r with expects := .value }
    | _ => none
  | .more => takeMore r.frames kind
  | .nothing _ => none

/-- What is missing where nothing fits. -/
def problem (r : Reader) : JsonProblem :=
  match r.expects with
  | .value => .noValue
  | .firstItem => .noValue
  | .firstName => .noName
  | .name => .noName
  | .colon => .noColon
  | .more => .noComma
  | .nothing _ => .extraData

/-- Whether a string may come next. -/
def expectsText (r : Reader) : Bool :=
  match r.expects with
  | .value => true
  | .firstItem => true
  | .firstName => true
  | .name => true
  | _ => false

/-- Whether a number may come next. -/
def expectsNumber (r : Reader) : Bool :=
  match r.expects with
  | .value => true
  | .firstItem => true
  | _ => false

/-- The most arrays and objects that may be open at once. -/
def maxDepth : Nat := 989

/-- Takes in a token of a text. What is wrong inside a string or a number counts only where one may
come. -/
def take (text : List Char) (r : Reader) (token : Token) : Except Fault Reader :=
  match r.take? token.kind with
  | some next =>
    if maxDepth < next.frames.length then .error (.misuse .tooDeep) else pure next
  | none =>
    match token.kind with
    | .broken problem offset =>
      if r.expectsText then .error (.malformed problem (.ofOffset text offset))
      else .error (.malformed r.problem (.ofOffset text token.offset))
    | .oversized =>
      if r.expectsNumber then wrongValue
      else .error (.malformed r.problem (.ofOffset text token.offset))
    | _ => .error (.malformed r.problem (.ofOffset text token.offset))

/-- The value, if it is complete. -/
def finish (text : List Char) (r : Reader) : Except Fault Value :=
  match r.expects with
  | .nothing v => pure v
  | _ => .error (.malformed r.problem (.ofOffset text text.length))

end Reader

/-- Reads a JSON text. It must not begin with a byte order mark. -/
def read (s : String) : Except Fault Value := do
  let text := s.toList
  if text.head? == some '\ufeff' then
    .error (.malformed .byteOrderMark (.ofOffset text 0))
  let reader ← (tokens text).foldlM (Reader.take text) {}
  reader.finish text

end Json

end Tablewright
