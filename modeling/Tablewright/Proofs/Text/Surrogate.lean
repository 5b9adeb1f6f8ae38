import Tablewright.Text.Surrogate
import Mathlib.Data.List.Lex

/-!
# The order of texts

Texts are ordered by the numbers that their characters stand for. No two characters stand for the
same number, so the order is total: of two texts one comes first, and only a text that is the same
comes both before and behind another (`precedes_antisymm`).
-/

namespace Tablewright.Text

variable {c : Char} {s t u : String}

/-- No character stands for half a surrogate pair as itself. -/
theorem not_isSurrogate_toNat (c : Char) : ¬(55296 ≤ c.toNat ∧ c.toNat ≤ 57343) := by
  have hvalid := c.valid
  simp only [UInt32.isValidChar, Nat.isValidChar] at hvalid
  rw [Char.toNat]
  omega

theorem isSurrogate_iff : isSurrogate c = true ↔
    surrogateDistance + 55296 ≤ c.toNat ∧ c.toNat ≤ surrogateDistance + 57343 := by
  unfold isSurrogate
  rw [Bool.and_eq_true, decide_eq_true_eq, decide_eq_true_eq]

/-- A character stands for its own number, or for a half at a fixed distance from it. -/
theorem codePoint_eq (c : Char) :
    codePoint c = c.toNat ∨
      55296 ≤ codePoint c ∧ codePoint c ≤ 57343 ∧ codePoint c + surrogateDistance = c.toNat := by
  by_cases h : isSurrogate c = true
  · obtain ⟨hlow, hhigh⟩ := isSurrogate_iff.1 h
    rw [codePoint, if_pos h]
    refine .inr ⟨?_, ?_, ?_⟩ <;> omega
  · rw [codePoint, if_neg h]
    exact .inl rfl

/-- **The number tells the character.** -/
theorem codePoint_injective : Function.Injective codePoint := by
  intro c d h
  have hc := not_isSurrogate_toNat c
  have hd := not_isSurrogate_toNat d
  have hc' := codePoint_eq c
  have hd' := codePoint_eq d
  apply Char.toNat_inj.1
  omega

theorem precedes_iff :
    precedes s t = true ↔ s.toList.map codePoint ≤ t.toList.map codePoint := by
  rw [precedes, Bool.not_eq_true', Bool.eq_false_iff, ne_eq, List.lex_eq_true_iff_lt]
  exact not_lt

theorem precedes_total (s t : String) : (precedes s t || precedes t s) = true := by
  rw [Bool.or_eq_true, precedes_iff, precedes_iff]
  exact le_total _ _

theorem precedes_trans (hst : precedes s t = true) (htu : precedes t u = true) :
    precedes s u = true :=
  precedes_iff.2 ((precedes_iff.1 hst).trans (precedes_iff.1 htu))

/-- **No two texts come before each other.** -/
theorem precedes_antisymm (hst : precedes s t = true) (hts : precedes t s = true) : s = t := by
  have h := le_antisymm (precedes_iff.1 hst) (precedes_iff.1 hts)
  exact String.toList_inj.1 (List.map_injective_iff.2 codePoint_injective h)

end Tablewright.Text
