import Tablewright.Text.Padded
import Tablewright.Number.Reading
import Tablewright.Proofs.Number.Text
import Mathlib.Data.List.Forall2
import Mathlib.Data.String.Basic

/-!
# The order of texts

Texts are ordered by the first character in which they differ. So texts that begin with pieces of
one length are ordered by these pieces, and by what follows only where the pieces are equal
(`append_lt_append_iff`); numerals that are filled up to one width are ordered as the numbers they
stand for (`zeroPadded_lt_iff`); and rows of such numerals are ordered as the rows of numbers
(`numerals_lt_iff`).
-/

namespace Tablewright.Text

/-! ## Piece by piece -/

/-- Lists that begin with pieces of one length are ordered by these, then by what follows. -/
theorem list_append_lt_append_iff {α : Type} [LT α] {xs ys us vs : List α}
    (h : xs.length = ys.length) : xs ++ us < ys ++ vs ↔ xs < ys ∨ xs = ys ∧ us < vs := by
  induction xs generalizing ys with
  | nil =>
    obtain rfl := List.length_eq_zero_iff.1 h.symm
    simp
  | cons x xs ih =>
    cases ys with
    | nil => cases h
    | cons y ys =>
      rw [List.length_cons, List.length_cons, Nat.add_right_cancel_iff] at h
      rw [List.cons_append, List.cons_append, List.cons_lt_cons_iff, List.cons_lt_cons_iff, ih h,
        List.cons.injEq]
      tauto

/-- **So are texts.** -/
theorem append_lt_append_iff {a b u v : String} (h : a.length = b.length) :
    a ++ u < b ++ v ↔ a < b ∨ a = b ∧ u < v := by
  have hlist : a.toList.length = b.toList.length := by
    rwa [String.length_toList, String.length_toList]
  rw [String.lt_iff_toList_lt, String.lt_iff_toList_lt, String.lt_iff_toList_lt,
    String.toList_append, String.toList_append, list_append_lt_append_iff hlist, String.toList_inj]

/-- What two texts begin with does not tell them apart. -/
theorem append_lt_append_left_iff (a u v : String) : a ++ u < a ++ v ↔ u < v := by
  rw [append_lt_append_iff rfl]
  exact ⟨fun h => h.elim (fun h => absurd h (lt_irrefl a)) And.right, fun h => Or.inr ⟨rfl, h⟩⟩

/-! ## Numerals of one width -/

/-- A digit stands for a number below ten, which tells the digit. -/
theorem digit_bounds {c : Char} (h : c.isDigit = true) : 48 ≤ c.toNat ∧ c.toNat ≤ 57 := by
  have hbounds : '0'.val ≤ c.val ∧ c.val ≤ '9'.val := by simpa [Char.isDigit] using h
  exact ⟨UInt32.le_iff_toNat_le.1 hbounds.1, UInt32.le_iff_toNat_le.1 hbounds.2⟩

/-- **Runs of digits of one length are ordered as their numbers**, whatever digits came before. -/
theorem foldl_digits_lt_iff {xs ys : List Char} (hxs : ∀ c ∈ xs, c.isDigit = true)
    (hys : ∀ c ∈ ys, c.isDigit = true) (h : xs.length = ys.length) (a b : ℕ) :
    xs.foldl (fun n c => 10 * n + (c.toNat - 48)) a <
        ys.foldl (fun n c => 10 * n + (c.toNat - 48)) b ↔ a < b ∨ a = b ∧ xs < ys := by
  induction xs generalizing ys a b with
  | nil =>
    obtain rfl := List.length_eq_zero_iff.1 h.symm
    simp
  | cons x xs ih =>
    cases ys with
    | nil => cases h
    | cons y ys =>
      rw [List.length_cons, List.length_cons, Nat.add_right_cancel_iff] at h
      rw [List.forall_mem_cons] at hxs hys
      have hx := digit_bounds hxs.1
      have hy := digit_bounds hys.1
      have hlt : x < y ↔ x.toNat < y.toNat := Char.lt_def.trans UInt32.lt_iff_toNat_lt
      have heq : x = y ↔ x.toNat = y.toNat := Char.toNat_inj.symm
      rw [List.foldl_cons, List.foldl_cons, ih hxs.2 hys.2 h, List.cons_lt_cons_iff, hlt, heq]
      -- one digit more or less cannot make up for a difference before it
      by_cases hrest : xs < ys <;> simp only [hrest, and_true, and_false, or_false] <;> omega

/-- The number that a numeral stands for is not changed by zeros in front of it. -/
theorem digitsValue_zeroPadded (width n : ℕ) : digitsValue (zeroPadded width n).toList = n := by
  have hzeros : ∀ k : ℕ, digitsValue (List.replicate k '0') = 0 := by
    intro k
    induction k with
    | zero => rfl
    | succ k ih => exact ih
  have hsplit : digitsValue (zeroPadded width n).toList =
      (natDigits n).foldl (fun n c => 10 * n + (c.toNat - 48))
        (digitsValue (List.replicate (width - (natDigits n).length) '0')) := by
    rw [zeroPadded, String.toList_ofList, digitsValue, List.foldl_append]
    rfl
  rw [hsplit, hzeros, natDigits_eq_toDigits]
  exact Nat.ofDigitChars_toDigits (by decide) (by decide)

theorem isDigit_of_mem_zeroPadded {width n : ℕ} {c : Char} (h : c ∈ (zeroPadded width n).toList) :
    c.isDigit = true := by
  rw [zeroPadded, String.toList_ofList, List.mem_append] at h
  rcases h with h | h
  · rw [List.eq_of_mem_replicate h]
    rfl
  · exact isDigit_of_mem_natDigits h

/-- A number that has room in a width is written in that width. -/
theorem length_zeroPadded {width n : ℕ} (hwidth : 0 < width) (h : n < 10 ^ width) :
    (zeroPadded width n).length = width := by
  have hle : (natDigits n).length ≤ width := by
    rw [natDigits_eq_toDigits]
    exact (Nat.length_toDigits_le_iff (by decide) hwidth).2 h
  rw [zeroPadded, String.length_ofList, List.length_append, List.length_replicate]
  omega

/-- **Numerals of one width are ordered as their numbers.** -/
theorem zeroPadded_lt_iff {width m n : ℕ}
    (h : (zeroPadded width m).length = (zeroPadded width n).length) :
    zeroPadded width m < zeroPadded width n ↔ m < n := by
  rw [← String.length_toList, ← String.length_toList] at h
  have hvalues : digitsValue (zeroPadded width m).toList <
      digitsValue (zeroPadded width n).toList ↔ 0 < 0 ∨ 0 = 0 ∧
        (zeroPadded width m).toList < (zeroPadded width n).toList :=
    foldl_digits_lt_iff (fun _ => isDigit_of_mem_zeroPadded) (fun _ => isDigit_of_mem_zeroPadded)
      h 0 0
  rw [digitsValue_zeroPadded, digitsValue_zeroPadded] at hvalues
  rw [String.lt_iff_toList_lt, hvalues]
  simp

/-- A numeral tells its number. -/
theorem zeroPadded_inj {width m n : ℕ} : zeroPadded width m = zeroPadded width n ↔ m = n := by
  refine ⟨fun h => ?_, fun h => h ▸ rfl⟩
  rw [← digitsValue_zeroPadded width m, h, digitsValue_zeroPadded]

/-! ## Rows of numerals -/

/-- Numbers written one after the other, each in its width and with what ends it. -/
def numerals : List (ℕ × String) → List ℕ → String
  | (width, ending) :: layout, n :: numbers =>
    zeroPadded width n ++ (ending ++ numerals layout numbers)
  | _, _ => ""

/-- Every number has room in its width. -/
def HasRoom : List (ℕ × String) → List ℕ → Prop :=
  List.Forall₂ fun field n => 0 < field.1 ∧ n < 10 ^ field.1

/-- **Rows of numerals are ordered as the rows of numbers** that they show. -/
theorem numerals_lt_iff {layout : List (ℕ × String)} {ms ns : List ℕ} (hms : HasRoom layout ms)
    (hns : HasRoom layout ns) : numerals layout ms < numerals layout ns ↔ ms < ns := by
  induction hms generalizing ns with
  | nil =>
    cases hns
    simp [numerals]
  | @cons field m layout ms hm _ ih =>
    obtain ⟨n, ns, hn, hrest, rfl⟩ := List.forall₂_cons_left_iff.1 hns
    have hlength : (zeroPadded field.1 m).length = (zeroPadded field.1 n).length := by
      rw [length_zeroPadded hm.1 hm.2, length_zeroPadded hn.1 hn.2]
    rw [numerals, numerals, append_lt_append_iff hlength, append_lt_append_left_iff,
      zeroPadded_lt_iff hlength, zeroPadded_inj, ih hrest, List.cons_lt_cons_iff]

end Tablewright.Text
