import Tablewright.Text.Casing
import Mathlib.Data.List.Basic

/-!
# What lower case leaves

No capital letter of ASCII is left in a text put into lower case, and a text of ASCII without
capital letters is left as it is. Both are read off the table of spans: it moves every letter past
the capitals of ASCII, and those are the only characters of ASCII it moves. Lower case looks at the
neighbours of a letter, but not past an underscore (`lower_append_underscore`).
-/

namespace Tablewright.Text

variable {c d : Char} {cs : List Char}

theorem isUpper_iff : c.isUpper = true ↔ 65 ≤ c.toNat ∧ c.toNat ≤ 90 := by
  change decide (c.val ≥ 'A'.val ∧ c.val ≤ 'Z'.val) = true ↔ _
  rw [decide_eq_true_iff, ge_iff_le, UInt32.le_iff_toNat_le, UInt32.le_iff_toNat_le]
  exact Iff.rfl

/-- Every span leads past the capital letters of ASCII. -/
theorem lt_target_of_mem_lowerSpans : ∀ s ∈ lowerSpans, 90 < (s.first : Int) + s.shift := by
  decide +kernel

/-- Only the capital letters of ASCII have a span that begins within ASCII. -/
theorem first_of_mem_lowerSpans :
    ∀ s ∈ lowerSpans, s.first = 65 ∧ s.last = 90 ∨ 128 ≤ s.first := by
  decide +kernel

/-- The capital letters of ASCII have a span. -/
theorem exists_shiftCase_of_isUpper (h : c.isUpper = true) :
    ∃ n, shiftCase lowerSpans c.toNat = some n := by
  obtain ⟨hlow, hhigh⟩ := isUpper_iff.1 h
  have hfind : (lowerSpans.find? fun s =>
      s.first ≤ c.toNat && c.toNat ≤ s.last && (c.toNat - s.first) % s.stride == 0).isSome := by
    rw [List.find?_isSome]
    exact ⟨⟨65, 90, 1, 32⟩, List.mem_cons_self, by simp [hlow, hhigh, Nat.mod_one]⟩
  obtain ⟨s, hs⟩ := Option.isSome_iff_exists.1 hfind
  exact ⟨_, by rw [shiftCase, hs, Option.map_some]⟩

/-- A letter that is moved lands past the capital letters of ASCII. -/
theorem lt_of_shiftCase {n k : Nat} (h : shiftCase lowerSpans n = some k) : 90 < k := by
  rw [shiftCase, Option.map_eq_some_iff] at h
  obtain ⟨s, hs, rfl⟩ := h
  have hspan := lt_target_of_mem_lowerSpans s (List.mem_of_find?_eq_some hs)
  have hfirst : s.first ≤ n := by
    have := List.find?_some hs
    simp only [Bool.and_eq_true, decide_eq_true_eq] at this
    exact this.1.1
  omega

/-- Nothing else in ASCII is moved. -/
theorem shiftCase_eq_none (hascii : c.toNat < 128) (h : c.isUpper = false) :
    shiftCase lowerSpans c.toNat = none := by
  rw [shiftCase, Option.map_eq_none_iff, List.find?_eq_none]
  intro s hs hin
  simp only [Bool.and_eq_true, decide_eq_true_eq] at hin
  rcases first_of_mem_lowerSpans s hs with ⟨hfirst, hlast⟩ | hfirst
  · have hupper : c.isUpper = true := isUpper_iff.2 (by omega)
    rw [h] at hupper
    cases hupper
  · omega

/-- A code point past the capital letters of ASCII is none of them, nor is what stands for a code
point that there is not. -/
theorem isUpper_ofNat {k : Nat} (h : 90 < k) : (Char.ofNat k).isUpper = false := by
  rw [Bool.eq_false_iff, Ne, isUpper_iff, Char.ofNat]
  by_cases hk : k.isValidChar
  · have hval : (Char.ofNatAux k hk).toNat = k := rfl
    rw [dif_pos hk, hval]
    omega
  · rw [dif_neg hk]
    decide

/-- **The lower case of a character holds no capital letter of ASCII.** -/
theorem isUpper_of_mem_lowerChar (h : d ∈ lowerChar c) : d.isUpper = false := by
  rw [lowerChar] at h
  split at h
  · have hd : d = 'i' ∨ d = Char.ofNat 775 := by simpa using h
    rcases hd with rfl | rfl
    · decide
    · exact isUpper_ofNat (by omega)
  · rw [List.mem_singleton] at h
    subst h
    cases hshift : shiftCase lowerSpans c.toNat with
    | some k => exact isUpper_ofNat (lt_of_shiftCase hshift)
    | none =>
      rw [Option.map_none, Option.getD_none, Bool.eq_false_iff]
      intro hupper
      obtain ⟨k, hk⟩ := exists_shiftCase_of_isUpper hupper
      rw [hshift] at hk
      cases hk

/-- A character of ASCII that is no capital letter is its own lower case. -/
theorem lowerChar_eq_self (hascii : c.toNat < 128) (h : c.isUpper = false) : lowerChar c = [c] := by
  rw [lowerChar, if_neg (by omega), shiftCase_eq_none hascii h]
  rfl

/-! ## Texts -/

/-- What is put into lower case character by character holds no capital letter of ASCII, whatever
came before. -/
theorem isUpper_of_mem_lowerFrom {before : List Char} (h : c ∈ lowerFrom before cs) :
    c.isUpper = false := by
  induction cs generalizing before with
  | nil => exact absurd h List.not_mem_nil
  | cons d cs ih =>
    rw [lowerFrom, List.mem_append] at h
    rcases h with h | h
    · split at h
      · -- a sigma at the end of a word has a form of its own
        rw [List.mem_singleton.1 h]
        exact isUpper_ofNat (by omega)
      · exact isUpper_of_mem_lowerChar h
    · exact ih h

/-- **No capital letter of ASCII is left in lower case.** -/
theorem isUpper_of_mem_lower {s : String} (h : c ∈ (lower s).toList) : c.isUpper = false := by
  rw [lower, String.toList_ofList] at h
  exact isUpper_of_mem_lowerFrom h

/-- Characters of ASCII that are no capital letters stay, whatever came before. -/
theorem lowerFrom_eq_self {before : List Char} (hascii : ∀ c ∈ cs, c.toNat < 128)
    (h : ∀ c ∈ cs, c.isUpper = false) : lowerFrom before cs = cs := by
  induction cs generalizing before with
  | nil => rfl
  | cons d cs ih =>
    have hd : d.toNat < 128 := hascii d List.mem_cons_self
    have hsigma : (d == capitalSigma) = false := by
      rw [beq_eq_false_iff_ne]
      rintro rfl
      exact absurd hd (by decide)
    have hrest : ∀ before, lowerFrom before cs = cs := fun before =>
      ih (fun c hc => hascii c (List.mem_cons_of_mem _ hc))
        (fun c hc => h c (List.mem_cons_of_mem _ hc))
    rw [lowerFrom, hsigma, Bool.false_and, Bool.false_and, if_neg Bool.false_ne_true,
      lowerChar_eq_self hd (h d List.mem_cons_self), hrest]
    rfl

/-- **A text of ASCII without capital letters is its own lower case.** -/
theorem lower_eq_self {s : String} (hascii : ∀ c ∈ s.toList, c.toNat < 128)
    (h : ∀ c ∈ s.toList, c.isUpper = false) : lower s = s := by
  rw [lower, lowerFrom_eq_self hascii h, String.ofList_toList]

/-! ## Words and pieces -/

/-- A character that ends a word, whatever case it stands beside: it has none, and case does not
look through it. -/
structure EndsWord (d : Char) : Prop where
  /-- It has no case. -/
  uncased : inRanges casedRanges d = false
  /-- Case does not look through it. -/
  seen : inRanges caseIgnorableRanges d = false

theorem endsWord_underscore : EndsWord '_' :=
  ⟨by decide +kernel, by decide +kernel⟩

/-- What stands behind the end of a word has no influence on it. -/
theorem EndsWord.nearestIsCased (hd : EndsWord d) (xs ys : List Char) :
    nearestIsCased (xs ++ d :: ys) = nearestIsCased xs := by
  unfold Text.nearestIsCased
  rw [List.dropWhile_append]
  cases hxs : xs.dropWhile (inRanges caseIgnorableRanges) with
  | nil =>
    rw [List.isEmpty_nil, if_pos rfl, List.dropWhile_cons_of_neg (Bool.eq_false_iff.1 hd.seen)]
    exact hd.uncased
  | cons c cs => rfl

/-- Nor does what stands before it. -/
theorem EndsWord.lowerFrom_before (hd : EndsWord d) (xs ys cs : List Char) :
    lowerFrom (xs ++ d :: ys) cs = lowerFrom xs cs := by
  induction cs generalizing xs with
  | nil => rfl
  | cons c cs ih => rw [lowerFrom, lowerFrom, hd.nearestIsCased, ← List.cons_append, ih]

/-- The lower case up to the end of a word. -/
theorem EndsWord.lowerFrom_append (hd : EndsWord d) (before xs cs : List Char) :
    lowerFrom before (xs ++ d :: cs) =
      lowerFrom before xs ++ lowerFrom (xs.reverse ++ before) (d :: cs) := by
  induction xs generalizing before with
  | nil => rfl
  | cons x xs ih =>
    rw [List.cons_append, lowerFrom, lowerFrom, hd.nearestIsCased, ih, List.reverse_cons,
      List.append_assoc, List.append_assoc, List.singleton_append]

/-- **Lower case goes piece by piece** between underscores. -/
theorem lower_append_underscore (a b : String) :
    lower (a ++ "_" ++ b) = lower a ++ "_" ++ lower b := by
  have hunderscore : ("_" : String).toList = ['_'] := rfl
  apply String.toList_inj.1
  simp only [lower, String.toList_append, String.toList_ofList, hunderscore, List.append_assoc,
    List.singleton_append]
  have hsigma : ('_' == capitalSigma) = false := by decide
  rw [endsWord_underscore.lowerFrom_append, lowerFrom, hsigma, Bool.false_and, Bool.false_and,
    if_neg Bool.false_ne_true, lowerChar_eq_self (by decide) (by decide), List.append_nil,
    ← List.nil_append ('_' :: a.toList.reverse), endsWord_underscore.lowerFrom_before]
  rfl

theorem lower_intercalate_underscore (texts : List String) :
    lower ("_".intercalate texts) = "_".intercalate (texts.map lower) := by
  induction texts with
  | nil => rfl
  | cons text texts ih =>
    cases texts with
    | nil => rfl
    | cons next texts =>
      rw [String.intercalate_cons_cons, lower_append_underscore, ih]
      exact String.intercalate_cons_cons.symm

/-! ## ASCII -/

/-- In ASCII lower case goes character by character. -/
theorem lowerChar_eq_toLower (hascii : c.toNat < 128) : lowerChar c = [c.toLower] := by
  have htable : ∀ n < 128, lowerChar (Char.ofNat n) = [(Char.ofNat n).toLower] := by
    decide +kernel
  have hc := htable c.toNat hascii
  rwa [Char.ofNat_toNat] at hc

theorem lowerFrom_eq_map {before : List Char} (hascii : ∀ c ∈ cs, c.toNat < 128) :
    lowerFrom before cs = cs.map Char.toLower := by
  induction cs generalizing before with
  | nil => rfl
  | cons d cs ih =>
    have hd : d.toNat < 128 := hascii d List.mem_cons_self
    have hsigma : (d == capitalSigma) = false := by
      rw [beq_eq_false_iff_ne]
      rintro rfl
      exact absurd hd (by decide)
    rw [lowerFrom, hsigma, Bool.false_and, Bool.false_and, if_neg Bool.false_ne_true,
      lowerChar_eq_toLower hd, ih fun c hc => hascii c (List.mem_cons_of_mem _ hc)]
    rfl

/-- **The lower case of a text of ASCII.** -/
theorem toList_lower {s : String} (hascii : ∀ c ∈ s.toList, c.toNat < 128) :
    (lower s).toList = s.toList.map Char.toLower := by
  rw [lower, String.toList_ofList, lowerFrom_eq_map hascii]

end Tablewright.Text
