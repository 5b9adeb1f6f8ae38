import Tablewright.Fault
import Tablewright.Number.Reading
import Tablewright.Text.Hex
import Tablewright.Text.Surrogate

/-!
# The tokens of a JSON text

A JSON text falls into brackets, commas, colons and scalars, with blanks between them. Every token
knows its offset. Where no token begins, or a string or a number goes wrong, the list of tokens
ends with one that says so: what the reader makes of it depends on what it was looking for.
-/

namespace Tablewright

namespace Json

/-- What a token is. -/
inductive TokenKind where
  | openArray
  | closeArray
  | openObject
  | closeObject
  | comma
  | colon
  | text (s : String)
  /-- Any scalar but a text. -/
  | scalar (v : Value)
  /-- A string that goes wrong at an offset. -/
  | broken (problem : JsonProblem) (offset : Nat)
  /-- An integer with too many digits. -/
  | oversized
  /-- A character that begins no token. -/
  | other

/-- A token and its offset. -/
structure Token where
  /-- The number of characters before the token. -/
  offset : Nat
  /-- What it is. -/
  kind : TokenKind

/-- Whether nothing that follows a token can be read. -/
def TokenKind.isLast : TokenKind → Bool
  | broken .. => true
  | oversized => true
  | other => true
  | _ => false

/-- A blank between tokens. -/
def isBlank (c : Char) : Bool :=
  c == ' ' || c == '\t' || c == '\n' || c == '\r'

/-! ## Strings -/

/-- The character that a single letter behind a backslash stands for. -/
def escapedChar? : Char → Option Char
  | '"' => some '"'
  | '\\' => some '\\'
  | '/' => some '/'
  | 'b' => some '\x08'
  | 'f' => some '\x0c'
  | 'n' => some '\n'
  | 'r' => some '\r'
  | 't' => some '\t'
  | _ => none

/-- The number that four hexadecimal digits write. -/
def hexUnit? (a b c d : Char) : Option Nat :=
  match Text.hexValue? a, Text.hexValue? b, Text.hexValue? c, Text.hexValue? d with
  | some w, some x, some y, some z => some (((w * 16 + x) * 16 + y) * 16 + z)
  | _, _, _, _ => none

/-- The character of a surrogate pair. -/
def charOfPair (high low : Nat) : Char :=
  Char.ofNat (65536 + (high - 55296) * 1024 + (low - 56320))

/-- The number that an escape of four digits writes, if a text begins with one and goes on after
it; nothing inside if the digits are bad. -/
def secondUnit? : List Char → Option (Option Nat)
  | '\\' :: 'u' :: a :: b :: c :: d :: _ :: _ => some (hexUnit? a b c d)
  | _ => none

/-- What a string holds, and how many characters it takes up with its quotes; or what goes wrong at
which offset from the opening quote. -/
abbrev StringScan := Except (JsonProblem × Nat) (List Char × Nat)

/-- Adds a character in front of what a string holds. -/
def StringScan.push (c : Char) (rest : StringScan) : StringScan :=
  rest.map fun (cs, length) => (c :: cs, length)

/-- Scans a string from an offset behind its opening quote. An escape of four digits must not end
the text. -/
def scanString (offset : Nat) : List Char → StringScan
  | [] => .error (.unterminatedString, 0)
  | '"' :: _ => .ok ([], offset + 1)
  | '\\' :: 'u' :: a :: b :: c :: d :: e :: rest =>
    match hexUnit? a b c d with
    | none => .error (.badUnicodeEscape, offset + 1)
    | some high =>
      match if Text.isHighSurrogate high then secondUnit? (e :: rest) else none with
      | some none => .error (.badUnicodeEscape, offset + 7)
      | some (some low) =>
        if Text.isLowSurrogate low then
          (scanString (offset + 12) (rest.drop 5)).push (charOfPair high low)
        else (scanString (offset + 6) (e :: rest)).push (Text.charOfCodePoint high)
      | none => (scanString (offset + 6) (e :: rest)).push (Text.charOfCodePoint high)
  | '\\' :: 'u' :: _ => .error (.badUnicodeEscape, offset + 1)
  | '\\' :: [] => .error (.unterminatedString, 0)
  | '\\' :: c :: rest =>
    match escapedChar? c with
    | some escaped => (scanString (offset + 2) rest).push escaped
    | none => .error (.badEscape, offset)
  | c :: rest =>
    if c.toNat < 32 then .error (.controlCharacter, offset)
    else (scanString (offset + 1) rest).push c
termination_by cs => cs.length

/-! ## Numbers -/

/-- The digits at the start of a text, and what follows. -/
def spanDigits (cs : List Char) : List Char × List Char :=
  (cs.takeWhile Char.isDigit, cs.dropWhile Char.isDigit)

/-- The digits of a whole number: a single zero, or digits that do not begin with one. -/
def scanWhole : List Char → List Char
  | '0' :: _ => ['0']
  | cs => (spanDigits cs).1

/-- The point of a number and the digits behind it, if there are any. -/
def scanFraction : List Char → List Char
  | '.' :: rest => if (spanDigits rest).1.isEmpty then [] else '.' :: (spanDigits rest).1
  | _ => []

/-- The exponent of a number, if it has digits. -/
def scanExponent : List Char → List Char
  | [] => []
  | e :: rest =>
    if e == 'e' || e == 'E' then
      let (sign, digits) := match rest with
        | '+' :: more => (['+'], (spanDigits more).1)
        | '-' :: more => (['-'], (spanDigits more).1)
        | more => ([], (spanDigits more).1)
      if digits.isEmpty then [] else e :: sign ++ digits
    else []

/-- A number, and how many characters it takes up; nothing if no number begins here. -/
def scanNumber (cs : List Char) : TokenKind × Nat :=
  let (sign, unsigned) := match cs with
    | '-' :: rest => (['-'], rest)
    | _ => ([], cs)
  let whole := scanWhole unsigned
  let rest := unsigned.drop whole.length
  let fraction := scanFraction rest
  let rest := rest.drop fraction.length
  let exponent := scanExponent rest
  let numeral := sign ++ whole ++ fraction ++ exponent
  if whole.isEmpty then (.other, 1)
  else if fraction.isEmpty && exponent.isEmpty then
    match integerOfNumeral? numeral with
    | some n => (.scalar (.int n), numeral.length)
    | none => (.oversized, numeral.length)
  else
    match binaryOfNumeral? numeral with
    | some x => (.scalar (.float x), numeral.length)
    | none => (.other, 1)

/-! ## Tokens -/

/-- The scalars that are written as words. -/
def words : List (String × Value) :=
  [("null", .null), ("true", .bool true), ("false", .bool false), ("NaN", .float .nan),
   ("Infinity", .float (.infinity false)), ("-Infinity", .float (.infinity true))]

/-- The word that begins a text. -/
def wordAt? (cs : List Char) : Option (String × Value) :=
  words.find? fun w => w.1.toList.isPrefixOf cs

/-- The token that begins with a character at an offset, and how many characters it takes up. -/
def scanToken (offset : Nat) (c : Char) (rest : List Char) : TokenKind × Nat :=
  match c with
  | '[' => (.openArray, 1)
  | ']' => (.closeArray, 1)
  | '\x7b' => (.openObject, 1)
  | '\x7d' => (.closeObject, 1)
  | ',' => (.comma, 1)
  | ':' => (.colon, 1)
  | '"' =>
    match scanString 1 rest with
    | .ok (cs, length) => (.text (String.ofList cs), length)
    | .error (problem, at_) => (.broken problem (offset + at_), 1)
  | _ =>
    match wordAt? (c :: rest) with
    | some (word, v) => (.scalar v, word.length)
    | none => scanNumber (c :: rest)

/-- The tokens of a text from an offset, when a number of characters belong to a token that was
scanned already. -/
def tokensFrom (offset skip : Nat) : List Char → List Token
  | [] => []
  | c :: rest =>
    if 0 < skip then tokensFrom (offset + 1) (skip - 1) rest
    else if isBlank c then tokensFrom (offset + 1) 0 rest
    else
      let (kind, length) := scanToken offset c rest
      if kind.isLast then [⟨offset, kind⟩]
      else ⟨offset, kind⟩ :: tokensFrom (offset + 1) (length - 1) rest

/-- The tokens of a text. -/
def tokens (text : List Char) : List Token :=
  tokensFrom 0 0 text

end Json

end Tablewright
