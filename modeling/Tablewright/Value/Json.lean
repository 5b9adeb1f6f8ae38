import Tablewright.Fault
import Tablewright.Value.Text

/-!
# Values as JSON

The JSON text of a value, in ASCII, with one space behind every comma and colon. What JSON has no
form for is written as its plain text. A key of a mapping becomes a text; only texts, numbers,
booleans and null may be keys.
-/

namespace Tablewright

namespace Json

/-- One half of a surrogate pair, or any other number below 65536, as an escape. -/
def unitEscape (n : Nat) : List Char :=
  '\\' :: 'u' :: Text.hexPadded 4 n

/-- A character inside a JSON text. -/
def escaped (c : Char) : List Char :=
  let n := Text.codePoint c
  if c == '"' then ['\\', '"']
  else if c == '\\' then ['\\', '\\']
  else if c == '\n' then ['\\', 'n']
  else if c == '\r' then ['\\', 'r']
  else if c == '\t' then ['\\', 't']
  else if n = 8 then ['\\', 'b']
  else if n = 12 then ['\\', 'f']
  else if 32 ≤ n && n < 127 then [c]
  else if n < 65536 then unitEscape n
  else unitEscape (55296 + (n - 65536) / 1024) ++ unitEscape (56320 + (n - 65536) % 1024)

/-- A text between double quotes. -/
def quoted (s : String) : String :=
  String.ofList ('"' :: s.toList.flatMap escaped ++ ['"'])

/-- A floating-point number. -/
def number (x : Binary) : String :=
  x.text .double jsonNotation

/-- A truth value. -/
def boolean (b : Bool) : String :=
  if b then "true" else "false"

/-- The text of a key. -/
def keyText : Value → Except Fault String
  | .str s => pure s
  | .scalar (.text s) => pure s
  | .float x => pure (number x)
  | .scalar (.float 64 x) => pure (number x)
  | .bool b => pure (boolean b)
  | .null => pure "null"
  | .int n => pure (toString n)
  | _ => wrongType

mutual

/-- The JSON text of a value. -/
def write : Value → Except Fault String
  | .null => pure "null"
  | .bool b => pure (boolean b)
  | .int n => pure (toString n)
  | .float x => pure (number x)
  | .str s => pure (quoted s)
  | .scalar (.float 64 x) => pure (number x)
  | .scalar (.text s) => pure (quoted s)
  | .list items => do pure (Value.enclosed "[" "]" (← writeItems items))
  | .tuple items => do pure (Value.enclosed "[" "]" (← writeItems items))
  | .dict entries => do pure (Value.enclosed "\x7b" "\x7d" (← writeEntries entries))
  | v => pure (quoted v.text)

/-- The JSON texts of a list of values. -/
def writeItems : List Value → Except Fault (List String)
  | [] => pure []
  | v :: rest => do
    let s ← write v
    pure (s :: (← writeItems rest))

/-- The JSON texts of the entries of a mapping. -/
def writeEntries : List (Value × Value) → Except Fault (List String)
  | [] => pure []
  | (k, v) :: rest => do
    let key ← keyText k
    let s ← write v
    pure ((quoted key ++ ": " ++ s) :: (← writeEntries rest))

end

end Json

end Tablewright
