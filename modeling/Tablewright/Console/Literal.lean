import Tablewright.Number.Reading
import Tablewright.Text.Casing
import Tablewright.Text.Hex
import Tablewright.Text.Surrogate
import Tablewright.Text.Word

/-!
# Literals

The parameters of an action are literals: numbers, texts and sequences of bytes between quotes, the
three constants, an ellipsis, tuples, sets and mappings. Only whether a text is a literal is of
interest, not its value. Members of sets and keys of mappings must be hashable, and a sign stands
before a number only.
-/

namespace Tablewright

namespace Literal

/-! ## Tokens -/

/-- A token of a literal. -/
inductive Token where
  /-- A number, which may be imaginary. -/
  | number (isImaginary : Bool)
  /-- A text or a sequence of bytes. -/
  | quoted (isBytes : Bool)
  | word (s : String)
  /-- A sign, a bracket, a comma or a colon. -/
  | mark (c : Char)
  | ellipsis
  | lineEnd
  deriving DecidableEq, Repr

/-- The characters that are tokens of their own. -/
def marks : List Char :=
  ['(', ')', '\x7b', '\x7d', ',', ':', '+', '-']

/-- The digits of a base, which single underscores may group. -/
def areDigits (isDigit : Char → Bool) (cs : List Char) : Bool :=
  (Text.splitAtChar '_' cs).all fun run => !run.isEmpty && run.all isDigit

/-- Whether a text is a whole number to the base ten. It begins with a zero only if it has no other
digit. -/
def isWhole (cs : List Char) : Bool :=
  areDigits Char.isDigit cs && (cs.head? != some '0' || cs.all fun c => c == '0' || c == '_') &&
    (cs.filter Char.isDigit).length ≤ maxIntegerDigits

/-- Whether a text is a number with a point or an exponent, or digits alone. -/
def isFractional (cs : List Char) : Bool :=
  ((dropGrouping false cs).bind decimalNumeral?).isSome

/-- Whether a text is a whole number to another base than ten. -/
def isBased : List Char → Bool
  | '0' :: base :: digits =>
    let digits := match digits with
      | '_' :: rest => rest
      | digits => digits
    match base.toLower with
    | 'x' => areDigits (fun c => (Text.hexValue? c).isSome) digits
    | 'o' => areDigits (fun c => '0' ≤ c && c ≤ '7') digits
    | 'b' => areDigits (fun c => c == '0' || c == '1') digits
    | _ => false
  | _ => false

/-- The token of a numeral. -/
def numberToken? (cs : List Char) : Option Token :=
  if isBased cs then some (.number false)
  else
    match cs.getLast? with
    | some last =>
      if last == 'j' || last == 'J' then
        if isFractional cs.dropLast then some (.number true) else none
      else if isWhole cs then some (.number false)
      else if cs.all (fun c => c.isDigit || c == '_') then none
      else if isFractional cs then some (.number false)
      else none
    | none => none

/-- The characters of a numeral, when a sign may follow an exponent's letter. -/
def spanNumeral (mayBeSigned : Bool) (last : Char) : List Char → List Char
  | [] => []
  | c :: rest =>
    let isSign := (c == '+' || c == '-') && mayBeSigned && (last == 'e' || last == 'E')
    if Text.isWord c || c == '.' || isSign then c :: spanNumeral mayBeSigned c rest else []

/-- The marks before the quote that a text or a sequence of bytes may have. -/
def quoteMarks : List String :=
  ["", "r", "u", "b", "br", "rb"]

/-- Whether a name between braces follows, made of the letters, digits, blanks and hyphens that the
names of characters are made of. -/
def hasCharacterName (rest : List Char) : Bool :=
  match rest with
  | '\x7b' :: rest =>
    let name := rest.takeWhile (· != '\x7d')
    name.length < rest.length && !name.isEmpty &&
      name.all fun c => c.isAlphanum || c == ' ' || c == '-'
  | _ => false

/-- Whether the digits of an escape follow its letter. -/
def hasEscape (isBytes : Bool) (letter : Char) (rest : List Char) : Bool :=
  let hasDigits (n : Nat) : Bool :=
    (rest.take n).length = n && (rest.take n).all fun c => (Text.hexValue? c).isSome
  match letter with
  | 'x' => hasDigits 2
  | 'u' => isBytes || hasDigits 4
  | 'U' =>
    isBytes || (hasDigits 8 &&
      (rest.take 8).foldl (fun n c => 16 * n + (Text.hexValue? c).getD 0) 0 ≤ 1114111)
  | 'N' => isBytes || hasCharacterName rest
  | _ => true

/-- How the body of a quoted literal is read. -/
structure QuoteStyle where
  /-- The quote. -/
  quote : Char
  /-- Whether the quote is written three times. -/
  isTriple : Bool
  /-- Whether backslashes escape nothing. -/
  isRaw : Bool
  /-- Whether it is a sequence of bytes, all of whose characters are ASCII. -/
  isBytes : Bool

/-- Whether a character may stand in the body of a quoted literal. -/
def QuoteStyle.allows (q : QuoteStyle) (c : Char) : Bool :=
  !(q.isBytes && 128 ≤ c.toNat)

/-- The number of characters up to the end of a quoted literal, the closing quote included. -/
def QuoteStyle.bodyLength? (q : QuoteStyle) : List Char → Option Nat
  | [] => none
  | '\\' :: c :: rest =>
    if q.allows c && (q.isRaw || hasEscape q.isBytes c rest) then (q.bodyLength? rest).map (· + 2)
    else none
  | c :: rest =>
    if c == q.quote && !q.isTriple then some 1
    else if c == q.quote && [c, c].isPrefixOf rest then some 3
    else if (!q.isTriple && c == '\n') || !q.allows c then none
    else (q.bodyLength? rest).map (· + 1)

/-- The quoted literal at a quote, behind its marks, and how many characters it takes up. -/
def quotedAt? (mark : String) (cs : List Char) : Option (Token × Nat) :=
  let mark := Text.lower mark
  match cs with
  | c :: rest =>
    if quoteMarks.contains mark then
      let isTriple := [c, c].isPrefixOf rest
      let isBytes := mark.toList.contains 'b'
      let q : QuoteStyle := { quote := c, isTriple, isRaw := mark.toList.contains 'r', isBytes }
      let opening := if isTriple then 3 else 1
      (q.bodyLength? (cs.drop opening)).map fun n => (.quoted isBytes, opening + n)
    else none
  | [] => none

/-- Whether a character is a quote. -/
def isQuote (c : Char) : Bool :=
  c == '\'' || c == '"'

/-- Whether a character begins a numeral. -/
def beginsNumeral (c : Char) (rest : List Char) : Bool :=
  c.isDigit || (c == '.' && (rest.head?.map Char.isDigit).getD false)

/-- The token that begins with a character, and how many characters it takes up. -/
def scanToken? (c : Char) (rest : List Char) : Option (Token × Nat) :=
  if beginsNumeral c rest then
    let mayBeSigned := c != '0' || !(rest.head?.map (·.toLower == 'x')).getD false
    let numeral := c :: spanNumeral mayBeSigned c rest
    (numberToken? numeral).map fun token => (token, numeral.length)
  else if Text.isWord c then
    let word := c :: rest.takeWhile Text.isWord
    let after := rest.drop (word.length - 1)
    if (after.head?.map isQuote).getD false then
      (quotedAt? (String.ofList word) after).map fun (token, n) => (token, word.length + n)
    else some (.word (String.ofList word), word.length)
  else if isQuote c then quotedAt? "" (c :: rest)
  else if marks.contains c then some (.mark c, 1)
  else if "...".toList.isPrefixOf (c :: rest) then some (.ellipsis, 3)
  else none

/-- The most brackets that may be open at once. -/
def maxDepth : Nat := 200

/-- How many brackets are open behind a token; none if too many are. -/
def depthBehind? (depth : Nat) : Token → Option Nat
  | .mark c =>
    if c == '(' || c == '\x7b' then if depth < maxDepth then some (depth + 1) else none
    else if c == ')' || c == '\x7d' then some (depth - 1)
    else some depth
  | _ => some depth

/-- The tokens of a text, when a number of characters belong to a token that was scanned already
and a number of brackets are open. Line ends count outside brackets only. -/
def tokensFrom? (skip depth : Nat) : List Char → Option (List Token)
  | [] => some []
  | c :: rest =>
    if 0 < skip then tokensFrom? (skip - 1) depth rest
    else if c == ' ' || c == '\t' || c == '\x0c' then tokensFrom? 0 depth rest
    else if c == '\n' then do
      let ts ← tokensFrom? 0 depth rest
      some (if depth = 0 then .lineEnd :: ts else ts)
    else if c == '#' then tokensFrom? (rest.takeWhile (· != '\n')).length depth rest
    else if c == '\\' && rest.head? = some '\n' then tokensFrom? 1 depth rest
    else do
      let (token, length) ← scanToken? c rest
      let depth ← depthBehind? depth token
      some (token :: (← tokensFrom? (length - 1) depth rest))

/-- The tokens of a text. -/
def tokens? (cs : List Char) : Option (List Token) :=
  if cs.any fun c => c == '\x00' || Text.isSurrogate c then none
  else tokensFrom? 0 0 (Text.normalizeLineEnds cs)

/-! ## Grammar -/

/-- What matters of a literal to what is around it. -/
inductive Kind where
  /-- A number without a sign. -/
  | number (isImaginary : Bool)
  /-- A number with a sign. -/
  | signed (isImaginary : Bool)
  /-- Any other literal. -/
  | other (isHashable : Bool)
  deriving DecidableEq, Repr

/-- Whether a literal may be a member of a set. -/
def Kind.isHashable : Kind → Bool
  | .other h => h
  | _ => true

/-- Whether a literal may be the real part of a complex number. -/
def Kind.isReal : Kind → Bool
  | .number im => !im
  | .signed im => !im
  | .other _ => false

/-- The tokens behind quoted literals that are of the same kind as one before them. -/
def dropQuoted (isBytes : Bool) : List Token → List Token
  | .quoted b :: rest => if b = isBytes then dropQuoted isBytes rest else .quoted b :: rest
  | ts => ts

/-- Whether a mark is a sign. -/
def isSign (c : Char) : Bool :=
  c == '+' || c == '-'

mutual

/-- Reads a literal: an atom, a number with a sign, or the sum of a real and an imaginary number. -/
def readSum? : Nat → List Token → Option (Kind × List Token)
  | 0, _ => none
  | fuel + 1, ts => do
    let (kind, rest) ← readTerm? fuel ts
    match rest with
    | .mark c :: after =>
      if isSign c then
        match ← readAtom? fuel after with
        | (.number true, rest) => if kind.isReal then some (.other true, rest) else none
        | _ => none
      else some (kind, rest)
    | _ => some (kind, rest)

/-- Reads an atom or a number with a sign. -/
def readTerm? : Nat → List Token → Option (Kind × List Token)
  | 0, _ => none
  | fuel + 1, ts =>
    match ts with
    | .mark c :: after =>
      if isSign c then do
        match ← readAtom? fuel after with
        | (.number im, rest) => some (.signed im, rest)
        | _ => none
      else readAtom? fuel ts
    | _ => readAtom? fuel ts

/-- Reads a literal that neither a sign nor a sum surrounds. -/
def readAtom? : Nat → List Token → Option (Kind × List Token)
  | 0, _ => none
  | fuel + 1, ts =>
    match ts with
    | .number im :: rest => some (.number im, rest)
    | .quoted isBytes :: rest => some (.other true, dropQuoted isBytes rest)
    | .ellipsis :: rest => some (.other true, rest)
    | .word w :: rest =>
      if w == "None" || w == "True" || w == "False" then some (.other true, rest)
      else if w == "set" && [.mark '(', .mark ')'].isPrefixOf rest then
        some (.other false, rest.drop 2)
      else none
    | .mark '(' :: .mark ')' :: rest => some (.other true, rest)
    | .mark '(' :: rest => do
      let (kind, rest) ← readSum? fuel rest
      match rest with
      | .mark ')' :: rest => some (kind, rest)
      | .mark ',' :: rest =>
        let (h, rest) ← readItems? ')' fuel rest
        some (.other (kind.isHashable && h), rest)
      | _ => none
    | .mark '\x7b' :: .mark '\x7d' :: rest => some (.other false, rest)
    | .mark '\x7b' :: rest => do
      let (kind, rest) ← readSum? fuel rest
      if !kind.isHashable then none
      else
        match rest with
        | .mark '\x7d' :: rest => some (.other false, rest)
        | .mark ',' :: rest =>
          let (h, rest) ← readItems? '\x7d' fuel rest
          if h then some (.other false, rest) else none
        | .mark ':' :: rest =>
          let (_, rest) ← readSum? fuel rest
          readEntries? fuel rest
        | _ => none
    | _ => none

/-- Reads the items behind a comma, up to a closing bracket. Tells whether all of them are
hashable. -/
def readItems? (closing : Char) : Nat → List Token → Option (Bool × List Token)
  | 0, _ => none
  | fuel + 1, ts =>
    match ts with
    | .mark c :: rest =>
      if c == closing then some (true, rest) else readItem? closing fuel ts
    | _ => readItem? closing fuel ts

/-- Reads an item and those behind it, up to a closing bracket. -/
def readItem? (closing : Char) : Nat → List Token → Option (Bool × List Token)
  | 0, _ => none
  | fuel + 1, ts => do
    let (kind, rest) ← readSum? fuel ts
    match rest with
    | .mark c :: rest =>
      if c == closing then some (kind.isHashable, rest)
      else if c == ',' then
        let (h, rest) ← readItems? closing fuel rest
        some (kind.isHashable && h, rest)
      else none
    | _ => none

/-- Reads the rest of a mapping behind an entry. -/
def readEntries? : Nat → List Token → Option (Kind × List Token)
  | 0, _ => none
  | fuel + 1, ts =>
    match ts with
    | .mark '\x7d' :: rest => some (.other false, rest)
    | .mark ',' :: .mark '\x7d' :: rest => some (.other false, rest)
    | .mark ',' :: rest => do
      let (key, rest) ← readSum? fuel rest
      match rest with
      | .mark ':' :: rest =>
        if key.isHashable then
          let (_, rest) ← readSum? fuel rest
          readEntries? fuel rest
        else none
      | _ => none
    | _ => none

end

/-- Whether nothing but line ends is left. -/
def isEnd (ts : List Token) : Bool :=
  ts.all (· == .lineEnd)

/-- Reads the items of a tuple that no brackets surround, behind its first. -/
def endsTuple (fuel : Nat) : Nat → List Token → Bool
  | 0, _ => false
  | count + 1, ts =>
    isEnd ts ||
      match ts with
      | .mark ',' :: rest =>
        isEnd rest ||
          match readSum? fuel rest with
          | some (_, rest) => endsTuple fuel count rest
          | none => false
      | _ => false

end Literal

/-- Whether a text is a literal. -/
def isLiteral (cs : List Char) : Bool :=
  match Literal.tokens? cs with
  | none => false
  | some ts =>
    let ts := ts.dropWhile (· == .lineEnd)
    let fuel := 4 * ts.length + 4
    match Literal.readSum? fuel ts with
    | some (_, rest) => Literal.endsTuple fuel (ts.length + 1) rest
    | none => false

end Tablewright
