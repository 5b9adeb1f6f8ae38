import Tablewright.Text.Hex
import Mathlib.Data.List.Basic

/-!
# Reading hexadecimal digits back

Bytes are written with two lower-case digits each, and what is written reads back as the same bytes
(`readHex_hexDigits`).
-/

namespace Tablewright.Text

/-- A hexadecimal digit in lower case. -/
def isLowerHex (c : Char) : Bool :=
  48 ≤ c.toNat && c.toNat ≤ 57 || 97 ≤ c.toNat && c.toNat ≤ 102

theorem hexValue?_hexDigit {n : Nat} (h : n < 16) : hexValue? (hexDigit n) = some n := by
  revert n
  decide

theorem isLowerHex_hexDigit {n : Nat} (h : n < 16) : isLowerHex (hexDigit n) = true := by
  revert n
  decide

theorem isLowerHex_digitChar {n : Nat} (h : n < 16) : isLowerHex n.digitChar = true := by
  revert n
  decide

/-- **Bytes are written with digits in lower case.** -/
theorem isLowerHex_of_mem_hexDigits {data : List UInt8} {c : Char} (h : c ∈ hexDigits data) :
    isLowerHex c = true := by
  obtain ⟨b, -, hb⟩ := List.mem_flatMap.1 h
  have hbyte := b.toNat_lt
  rcases List.mem_cons.1 hb with rfl | hb
  · exact isLowerHex_hexDigit (by omega)
  · exact List.mem_singleton.1 hb ▸ isLowerHex_hexDigit (by omega)

/-- **What is written of bytes reads back as them.** -/
theorem readHex_hexDigits (data : List UInt8) : readHex (hexDigits data) = some data := by
  induction data with
  | nil => rfl
  | cons b rest ih =>
    have hbyte := b.toNat_lt
    have hhigh : hexValue? (hexDigit (b.toNat / 16)) = some (b.toNat / 16) :=
      hexValue?_hexDigit (by omega)
    have hlow : hexValue? (hexDigit (b.toNat % 16)) = some (b.toNat % 16) :=
      hexValue?_hexDigit (by omega)
    have hhalves : 16 * (b.toNat / 16) + b.toNat % 16 = b.toNat := Nat.div_add_mod _ 16
    rw [hexDigits, List.flatMap_cons, hexByte, List.cons_append, List.cons_append,
      List.nil_append, readHex, hhigh, hlow, ← hexDigits, ih]
    simp only [Option.bind_eq_bind, Option.bind_some, hhalves, UInt8.ofNat_toNat]

theorem isLowerHex_of_mem_toDigits {n : Nat} {c : Char} (h : c ∈ Nat.toDigits 16 n) :
    isLowerHex c = true := by
  induction n using Nat.strongRecOn with
  | ind n ih =>
    rw [Nat.toDigits_eq_if (by decide)] at h
    split at h
    · rename_i hlt
      exact List.mem_singleton.1 h ▸ isLowerHex_digitChar hlt
    · rcases List.mem_append.1 h with h | h
      · exact ih (n / 16) (by omega) h
      · exact List.mem_singleton.1 h ▸ isLowerHex_digitChar (Nat.mod_lt n (by decide))

theorem isLowerHex_of_mem_hexPadded {width n : Nat} {c : Char} (h : c ∈ hexPadded width n) :
    isLowerHex c = true := by
  rcases List.mem_append.1 h with h | h
  · exact List.eq_of_mem_replicate h ▸ rfl
  · exact isLowerHex_of_mem_toDigits h

end Tablewright.Text
