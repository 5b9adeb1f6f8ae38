import Tablewright.Text.Hex
import Tablewright.Text.Printable
import Tablewright.Text.Surrogate

/-!
# Quoted texts

A text or a sequence of bytes as it is shown in messages: between quotes, with escapes for the
quote, the backslash and whatever cannot be printed. Single quotes are preferred; a text that holds
single quotes and no double ones stands between double quotes.
-/

namespace Tablewright.Text

/-- The quote that a text with these characters is put between. -/
def quoteFor (cs : List Char) : Char :=
  if cs.contains '\'' && !cs.contains '"' then '"' else '\''

/-- The escapes that have a letter of their own. -/
def letterEscape? : Char → Option Char
  | '\n' => some 'n'
  | '\r' => some 'r'
  | '\t' => some 't'
  | '\\' => some '\\'
  | _ => none

/-- A character that is written by its code point, in the narrowest of three widths. -/
def codePointEscape (n : Nat) : List Char :=
  if n < 256 then '\\' :: 'x' :: hexPadded 2 n
  else if n < 65536 then '\\' :: 'u' :: hexPadded 4 n
  else '\\' :: 'U' :: hexPadded 8 n

/-- A character inside a quoted text. -/
def quoteChar (quote c : Char) : List Char :=
  if c == quote then ['\\', c]
  else
    match letterEscape? c with
    | some letter => ['\\', letter]
    | none => if isPrintable c then [c] else codePointEscape (codePoint c)

/-- A text between quotes. -/
def quoted (s : String) : String :=
  let cs := s.toList
  let quote := quoteFor cs
  String.ofList (quote :: cs.flatMap (quoteChar quote) ++ [quote])

/-- A byte inside a quoted sequence; only ASCII stands for itself. -/
def quoteByte (quote : Char) (b : UInt8) : List Char :=
  let c := Char.ofNat b.toNat
  if c == quote then ['\\', c]
  else
    match letterEscape? c with
    | some letter => ['\\', letter]
    | none => if 32 ≤ b.toNat && b.toNat < 127 then [c] else codePointEscape b.toNat

/-- A sequence of bytes between quotes, marked by a letter. -/
def quotedBytes (bytes : List UInt8) : String :=
  let quote := quoteFor (bytes.map fun b => Char.ofNat b.toNat)
  String.ofList ('b' :: quote :: bytes.flatMap (quoteByte quote) ++ [quote])

end Tablewright.Text
