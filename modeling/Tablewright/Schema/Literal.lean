import Tablewright.Value.Storable

/-!
# Literals

A stored value as it is written in a statement: null, a number, a text between single quotes, or
the bytes of a blob.
-/

namespace Tablewright

/-- The body of a text literal: every quote is written twice. -/
def doubleQuotes : List Char → List Char
  | [] => []
  | c :: rest => if c = '\'' then '\'' :: '\'' :: doubleQuotes rest else c :: doubleQuotes rest

/-- A text as a literal. -/
def textLiteral (s : String) : String :=
  String.ofList ('\'' :: doubleQuotes s.toList ++ ['\''])

/-- A sequence of bytes as a literal. -/
def blobLiteral (data : List UInt8) : String :=
  String.ofList ('X' :: '\'' :: Text.hexDigits data ++ ['\''])

/-- The literal of a stored value. -/
def storedLiteral (stored : Value) : String :=
  match stored with
  | .null => "NULL"
  | .str s => textLiteral s
  | .bytes _ data => blobLiteral data
  | v => v.text

/-- The literal of a value, as it is stored. -/
def literal (v : Value) : Except Fault String :=
  storedLiteral <$> v.storable

end Tablewright
