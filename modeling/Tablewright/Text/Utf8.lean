/-!
# Strict UTF-8

Decoding refuses overlong forms, surrogates, values above the last code point, and sequences that
stop early.
-/

namespace Tablewright.Text

/-- The payload of a continuation byte. -/
def continuation? (b : UInt8) : Option Nat :=
  if 128 ≤ b.toNat ∧ b.toNat < 192 then some (b.toNat - 128) else none

/-- The character of a code point that lies in a range and is no surrogate. -/
def scalarIn? (low high n : Nat) : Option Char :=
  if low ≤ n ∧ n ≤ high ∧ ¬ (55296 ≤ n ∧ n ≤ 57343) then some (Char.ofNat n) else none

/-- The characters that a sequence of bytes encodes. -/
def decodeUtf8? : List UInt8 → Option (List Char)
  | [] => some []
  | a :: rest =>
    let n := a.toNat
    if n < 128 then (decodeUtf8? rest).map (Char.ofNat n :: ·)
    else
      match rest with
      | [] => none
      | b :: rest₁ =>
        if 192 ≤ n && n < 224 then do
          let c ← scalarIn? 128 2047 (64 * (n - 192) + (← continuation? b))
          (decodeUtf8? rest₁).map (c :: ·)
        else
          match rest₁ with
          | [] => none
          | d :: rest₂ =>
            if 224 ≤ n && n < 240 then do
              let c ← scalarIn? 2048 65535
                (64 * (64 * (n - 224) + (← continuation? b)) + (← continuation? d))
              (decodeUtf8? rest₂).map (c :: ·)
            else
              match rest₂ with
              | [] => none
              | e :: rest₃ =>
                if 240 ≤ n && n < 248 then do
                  let c ← scalarIn? 65536 1114111
                    (64 * (64 * (64 * (n - 240) + (← continuation? b)) + (← continuation? d))
                      + (← continuation? e))
                  (decodeUtf8? rest₃).map (c :: ·)
                else none

end Tablewright.Text
