import Tablewright.Number.Shortest

/-!
# The texts of numbers

Whole numbers are written with digits and a sign, and no two of them alike. The text of a
floating-point number is one of the names of the special values, or made of digits, signs, points
and the letter of an exponent (`mem_text`).
-/

namespace Tablewright

/-! ## Whole numbers -/

/-- The text of a whole number is its digits, with a sign in front of a negative one. -/
theorem toList_toString (n : Int) :
    (toString n).toList = (if n < 0 then ['-'] else []) ++ Nat.toDigits 10 n.natAbs := by
  rw [Int.toString_eq_repr]
  cases n with
  | ofNat k =>
    have hsign : ¬ Int.ofNat k < 0 := Int.not_lt.2 (Int.natCast_nonneg k)
    rw [if_neg hsign, Int.repr, Nat.repr_eq_ofList_toDigits, String.toList_ofList]
    rfl
  | negSucc k =>
    have hdigits : (k + 1).repr.toList = Nat.toDigits 10 (k + 1) := by
      rw [Nat.repr_eq_ofList_toDigits, String.toList_ofList]
    rw [if_pos (Int.negSucc_lt_zero k), Int.repr, String.toList_append, hdigits]
    rfl

theorem isDigit_of_mem_toDigits {c : Char} {k : Nat} (h : c ∈ Nat.toDigits 10 k) :
    c.isDigit = true :=
  Nat.isDigit_of_mem_toDigits (show 0 < 10 by decide) (by decide) h

/-- A whole number is written with digits and a sign. -/
theorem isDigit_of_mem_toString {n : Int} {c : Char} (h : c ∈ (toString n).toList) :
    c = '-' ∨ c.isDigit = true := by
  rw [toList_toString, List.mem_append] at h
  refine h.imp (fun h => ?_) isDigit_of_mem_toDigits
  split at h
  · exact List.mem_singleton.1 h
  · cases h

/-- **Whole numbers have different texts.** -/
theorem toString_injective {n n' : Int} (h : toString n = toString n') : n = n' := by
  have hdigits : ∀ {k k' : Nat}, Nat.toDigits 10 k = Nat.toDigits 10 k' → k = k' := by
    intro k k' h
    rw [← Nat.ofDigitChars_toDigits (b := 10) (n := k) (by decide) (by decide), h,
      Nat.ofDigitChars_toDigits (by decide) (by decide)]
  have hsign : ∀ k : Nat, '-' ∉ Nat.toDigits 10 k := fun k hmem =>
    absurd (isDigit_of_mem_toDigits hmem) (by decide)
  have htext := congrArg String.toList h
  rw [toList_toString, toList_toString] at htext
  by_cases hn : n < 0 <;> by_cases hn' : n' < 0 <;>
    simp only [hn, hn', if_true, if_false, List.cons_append, List.nil_append] at htext
  · have := hdigits (List.cons.inj htext).2
    omega
  · exact absurd (htext ▸ List.mem_cons_self) (hsign n'.natAbs)
  · exact absurd (htext ▸ List.mem_cons_self) (hsign n.natAbs)
  · have := hdigits htext
    omega

/-! ## Floating-point numbers -/

/-- A character of a numeral. -/
def IsNumeral (c : Char) : Prop :=
  c.isDigit = true ∨ c ∈ ['-', '+', '.', 'e']

theorem natDigits_eq_toDigits (n : Nat) : natDigits n = Nat.toDigits 10 n := by
  have htext : toString n = String.ofList (Nat.toDigits 10 n) := Nat.repr_eq_ofList_toDigits
  rw [natDigits, htext, String.toList_ofList]

theorem isDigit_of_mem_natDigits {c : Char} {n : Nat} (h : c ∈ natDigits n) :
    c.isDigit = true := by
  rw [natDigits_eq_toDigits] at h
  exact isDigit_of_mem_toDigits h

theorem mem_of_mem_dropTrailingZeros {c : Char} {cs : List Char}
    (h : c ∈ dropTrailingZeros cs) : c ∈ cs :=
  List.mem_reverse.1 ((List.dropWhile_sublist _).subset (List.mem_reverse.1 h))

/-- The shortest decimal has digits only. -/
theorem isDigit_of_mem_shortestDecimals {f : BinaryFormat} {m : Nat} {e : Int} {c : Char}
    (h : c ∈ (shortestDecimals f m e).digits) : c.isDigit = true := by
  unfold shortestDecimals at h
  dsimp only at h
  split at h
  · exact absurd h List.not_mem_nil
  · exact isDigit_of_mem_natDigits (mem_of_mem_dropTrailingZeros h)

theorem isNumeral_of_mem_exponentText {x : Int} {c : Char} (h : c ∈ exponentText x) :
    IsNumeral c := by
  have hdigits : ∀ c ∈ natDigits x.natAbs, IsNumeral c := fun c hc =>
    .inl (isDigit_of_mem_natDigits hc)
  unfold exponentText at h
  dsimp only at h
  rcases List.mem_cons.1 h with rfl | h
  · split <;> exact .inr (by decide)
  · split at h
    · rcases List.mem_cons.1 h with rfl | h
      · exact .inl (by decide)
      · exact hdigits c h
    · exact hdigits c h

/-- However digits are laid out, what comes of it is a numeral. -/
theorem isNumeral_of_mem_layout {d : Decimals} (h : ∀ c ∈ d.digits, c.isDigit = true)
    (style : FloatNotation) : ∀ c ∈ d.layout style, IsNumeral c := by
  have hdigits : ∀ c ∈ d.digits, IsNumeral c := fun c hc => .inl (h c hc)
  have hzeros : ∀ k, ∀ c ∈ List.replicate k '0', IsNumeral c := fun k c hc =>
    .inl (List.eq_of_mem_replicate hc ▸ rfl)
  have hzero : IsNumeral '0' := .inl rfl
  have hpoint : IsNumeral '.' := .inr (by decide)
  have hletter : IsNumeral 'e' := .inr (by decide)
  unfold Decimals.layout
  dsimp only
  split
  · split
    · simp only [List.forall_mem_append, List.forall_mem_cons]
      exact ⟨⟨hzero, hpoint, hzeros _⟩, hdigits⟩
    · split
      · simp only [List.forall_mem_append, List.forall_mem_cons]
        exact ⟨⟨hdigits, hzeros _⟩, hpoint, hzero, nofun⟩
      · simp only [List.forall_mem_append, List.forall_mem_cons]
        exact ⟨fun c hc => hdigits c (List.mem_of_mem_take hc), hpoint,
          fun c hc => hdigits c (List.mem_of_mem_drop hc)⟩
  · split
    · exact nofun
    · rename_i c hc
      rw [hc, List.forall_mem_singleton] at hdigits
      simp only [List.forall_mem_cons]
      exact ⟨hdigits, hletter, fun c => isNumeral_of_mem_exponentText⟩
    · rename_i c cs _ hcs
      rw [hcs, List.forall_mem_cons] at hdigits
      simp only [List.forall_mem_append, List.forall_mem_cons]
      exact ⟨⟨hdigits.1, hpoint, hdigits.2⟩, hletter, fun c => isNumeral_of_mem_exponentText⟩

/-- **A floating-point number is written as a numeral, or by the name of a special value.** -/
theorem mem_text {f : BinaryFormat} {style : FloatNotation} {x : Binary} {c : Char}
    (h : c ∈ (x.text f style).toList) :
    c ∈ style.nan.toList ∨ c ∈ style.infinity.toList ∨ IsNumeral c := by
  have hsign : ∀ negative : Bool, c ∈ (if negative then "-" else "").toList → IsNumeral c := by
    rintro (_ | _) hc
    · exact absurd hc List.not_mem_nil
    · exact .inr (List.mem_singleton.1 hc ▸ by decide)
  cases x with
  | nan => exact .inl h
  | infinity negative =>
    rw [Binary.text, String.toList_append] at h
    exact .inr ((List.mem_append.1 h).symm.imp_right (hsign negative))
  | finite negative m e =>
    rw [Binary.text, String.toList_append] at h
    refine .inr (.inr ((List.mem_append.1 h).elim (hsign negative) fun h => ?_))
    split at h
    · have hzero : "0.0".toList = ['0', '.', '0'] := by decide
      have hnumeral : ∀ c ∈ ['0', '.', '0'], IsNumeral c := by
        simp only [List.forall_mem_cons]
        exact ⟨.inl rfl, .inr (by decide), .inl rfl, nofun⟩
      exact hnumeral c (hzero ▸ h)
    · rw [String.toList_ofList] at h
      exact isNumeral_of_mem_layout (fun _ => isDigit_of_mem_shortestDecimals) style c h

end Tablewright
