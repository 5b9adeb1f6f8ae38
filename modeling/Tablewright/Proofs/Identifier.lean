import Tablewright.Identifier
import Tablewright.Proofs.Text.Casing

/-!
# The characters of names

What an identifier is made of, and what follows for the snake case: every character of an identifier
is in ASCII, so that nothing but its capital letters is changed by putting it into snake case, and
a name that is there already stays as it is.
-/

namespace Tablewright

variable {s : String} {c : Char} {cs : List Char}

/-! ## Identifiers -/

/-- All that is dropped is one line feed. -/
theorem mem_dropFinalNewline (h : c ∈ cs) : c ∈ dropFinalNewline cs ∨ c = '\n' := by
  unfold dropFinalNewline
  split
  · rename_i hlast
    rw [List.getLast?_eq_some_iff] at hlast
    obtain ⟨before, rfl⟩ := hlast
    rw [List.dropLast_concat]
    exact (List.mem_append.1 h).imp id List.mem_singleton.1
  · exact Or.inl h

/-- A character of an identifier is a letter, a digit or an underscore, or the line feed that is let
through. -/
theorem continues_of_mem_identifier (h : isIdentifier s = true) (hc : c ∈ s.toList) :
    continuesIdentifier c = true ∨ c = '\n' := by
  refine (mem_dropFinalNewline hc).imp (fun hc => ?_) id
  unfold isIdentifier at h
  split at h
  · cases h
  · rename_i d rest hd
    rw [Bool.and_eq_true, List.all_eq_true] at h
    rw [hd] at hc
    -- what may begin an identifier may continue it too
    rcases List.mem_cons.1 hc with rfl | hc
    · have hbegins : c.isAlpha = true ∨ (c == '_') = true := by
        simpa only [beginsIdentifier, Bool.or_eq_true] using h.1
      rcases hbegins with hc | hc <;> simp [continuesIdentifier, Char.isAlphanum, hc]
    · exact h.2 c hc

/-- Letters, digits and underscores are in ASCII. -/
theorem toNat_lt_of_continues (h : continuesIdentifier c = true) : c.toNat < 128 := by
  change (((c.isUpper || (decide (c.val ≥ 'a'.val) && decide (c.val ≤ 'z'.val))) ||
    (decide (c.val ≥ '0'.val) && decide (c.val ≤ '9'.val))) || c == '_') = true at h
  simp only [Bool.or_eq_true, Bool.and_eq_true, decide_eq_true_eq, beq_iff_eq, ge_iff_le,
    UInt32.le_iff_toNat_le, Text.isUpper_iff] at h
  rcases h with ((h | h) | h) | rfl
  · omega
  · have : c.toNat ≤ 122 := h.2
    omega
  · have : c.toNat ≤ 57 := h.2
    omega
  · decide

/-- **Identifiers are texts of ASCII.** -/
theorem toNat_lt_of_mem_identifier (h : isIdentifier s = true) (hc : c ∈ s.toList) :
    c.toNat < 128 := by
  rcases continues_of_mem_identifier h hc with hc | rfl
  · exact toNat_lt_of_continues hc
  · decide

/-- What may not continue an identifier is not in one, unless it is the line feed. -/
theorem not_mem_identifier (hc : continuesIdentifier c = false) (hline : c ≠ '\n')
    (h : isIdentifier s = true) : c ∉ s.toList := by
  intro hmem
  rcases continues_of_mem_identifier h hmem with hcontinues | heq
  · rw [hc] at hcontinues
    cases hcontinues
  · exact hline heq

/-- **There is no parenthesis in an identifier.** -/
theorem parenthesis_not_mem_identifier (h : isIdentifier s = true) : '(' ∉ s.toList :=
  not_mem_identifier (by decide) (by decide) h

/-- **There is no question mark in an identifier.** -/
theorem questionMark_not_mem_identifier (h : isIdentifier s = true) : '?' ∉ s.toList :=
  not_mem_identifier (by decide) (by decide) h

/-- **There is no space in an identifier.** -/
theorem space_not_mem_identifier (h : isIdentifier s = true) : ' ' ∉ s.toList :=
  not_mem_identifier (by decide) (by decide) h

/-- An identifier begins with a letter or an underscore. -/
theorem exists_begins_of_isIdentifier (h : isIdentifier s = true) :
    ∃ c cs, s.toList = c :: cs ∧ beginsIdentifier c = true := by
  unfold isIdentifier at h
  split at h
  · cases h
  · rename_i c rest hdrop
    rw [Bool.and_eq_true] at h
    have hprefix : dropFinalNewline s.toList <+: s.toList := by
      unfold dropFinalNewline
      split
      · exact List.dropLast_prefix _
      · exact List.prefix_rfl
    rw [hdrop] at hprefix
    obtain ⟨tail, htail⟩ := hprefix
    exact ⟨c, rest ++ tail, htail.symm, h.1⟩

/-- One line feed is dropped, or nothing. -/
theorem eq_dropFinalNewline_or (cs : List Char) :
    cs = dropFinalNewline cs ∨ cs = dropFinalNewline cs ++ ['\n'] := by
  unfold dropFinalNewline
  split
  · rename_i hlast
    obtain ⟨before, rfl⟩ := List.getLast?_eq_some_iff.1 hlast
    exact Or.inr (by rw [List.dropLast_concat])
  · exact Or.inl rfl

/-- A text without line feeds stays as it is. -/
theorem dropFinalNewline_eq_self (h : '\n' ∉ cs) : dropFinalNewline cs = cs := by
  rcases eq_dropFinalNewline_or cs with heq | heq
  · exact heq.symm
  · rw [heq] at h
    exact absurd (List.mem_append_right _ (List.mem_singleton.2 rfl)) h

/-- A bare identifier: letters of ASCII, digits and underscores, at least one of them, and no digit
first. -/
structure IsBareIdentifier (s : String) : Prop where
  /-- There is something. -/
  nonempty : s.toList ≠ []
  /-- What it is made of. -/
  characters : ∀ c ∈ s.toList, c.isAlpha = true ∨ c.isDigit = true ∨ c = '_'
  /-- It begins with no digit. -/
  start : ∀ c ∈ s.toList.head?, c.isDigit = false

-- the tests are in `Bool`: for a quantifier over characters an instance may be found that goes
-- through all characters there are, instead of the members of the list
instance (s : String) : Decidable (IsBareIdentifier s) :=
  decidable_of_iff
    ((!s.toList.isEmpty && s.toList.all (fun c => c.isAlpha || c.isDigit || c == '_') &&
      s.toList.head?.all (fun c => !c.isDigit)) = true)
    (by
      simp only [Bool.and_eq_true, Bool.or_eq_true, Bool.not_eq_true', List.isEmpty_eq_false_iff,
        List.all_eq_true, Option.all_eq_true, beq_iff_eq, or_assoc]
      exact ⟨fun h => ⟨h.1.1, h.1.2, h.2⟩, fun h => ⟨⟨h.nonempty, h.characters⟩, h.start⟩⟩)

/-- There is no line feed in a bare identifier. -/
theorem IsBareIdentifier.newline_not_mem (h : IsBareIdentifier s) : '\n' ∉ s.toList := by
  intro hmem
  have hchar := h.characters '\n' hmem
  revert hchar
  decide

/-- A letter is no digit. -/
theorem isDigit_eq_false_of_isAlpha (h : c.isAlpha = true) : c.isDigit = false := by
  change (c.isUpper || (decide (c.val ≥ 'a'.val) && decide (c.val ≤ 'z'.val))) = true at h
  change (decide (c.val ≥ '0'.val) && decide (c.val ≤ '9'.val)) = false
  simp only [Bool.or_eq_true, Bool.and_eq_true, decide_eq_true_eq, ge_iff_le,
    UInt32.le_iff_toNat_le, Text.isUpper_iff] at h
  rw [Bool.and_eq_false_iff, decide_eq_false_iff_not, decide_eq_false_iff_not,
    UInt32.le_iff_toNat_le]
  -- the digits end where neither the capital nor the small letters begin yet
  refine Or.inr fun hdigit => ?_
  have hdigit : c.toNat ≤ 57 := hdigit
  rcases h with h | h
  · omega
  · have : 97 ≤ c.toNat := h.1
    omega

/-- The characters that are tested are those of a bare identifier. -/
theorem isBareIdentifier_ofList_iff :
    IsBareIdentifier (String.ofList (c :: cs)) ↔
      (beginsIdentifier c && cs.all continuesIdentifier) = true := by
  have hcontinues : ∀ d, continuesIdentifier d = true ↔
      d.isAlpha = true ∨ d.isDigit = true ∨ d = '_' := by
    intro d
    simp [continuesIdentifier, Char.isAlphanum, or_assoc]
  have hbegins : beginsIdentifier c = true ↔ c.isAlpha = true ∨ c = '_' := by
    simp [beginsIdentifier]
  rw [Bool.and_eq_true, List.all_eq_true, hbegins]
  simp only [hcontinues]
  constructor
  · intro h
    have hfirst := h.characters c (by simp)
    have hdigit : c.isDigit = false := h.start c (by simp)
    rw [hdigit] at hfirst
    exact ⟨by simpa using hfirst, fun d hd => h.characters d (by simp [hd])⟩
  · rintro ⟨hfirst, hrest⟩
    have hdigit : c.isDigit = false := by
      rcases hfirst with hletter | rfl
      · exact isDigit_eq_false_of_isAlpha hletter
      · decide
    refine ⟨by simp, ?_, by simpa using hdigit⟩
    rw [String.toList_ofList, List.forall_mem_cons]
    exact ⟨hfirst.imp id Or.inr, hrest⟩

/-- **What the test for identifiers lets through**: bare identifiers, and these with a line feed
behind them. -/
theorem isIdentifier_iff :
    isIdentifier s = true ↔ ∃ b, IsBareIdentifier b ∧ (s = b ∨ s = b ++ "\n") := by
  constructor
  · intro h
    unfold isIdentifier at h
    split at h
    · cases h
    · rename_i c rest hdrop
      refine ⟨String.ofList (c :: rest), isBareIdentifier_ofList_iff.2 h, ?_⟩
      -- what is tested is the text, or all of it but the line feed
      rcases eq_dropFinalNewline_or s.toList with heq | heq
      · exact Or.inl (String.toList_injective (by rw [String.toList_ofList, ← hdrop, ← heq]))
      · refine Or.inr (String.toList_injective ?_)
        rw [String.toList_append, String.toList_ofList, ← hdrop]
        exact heq
  · rintro ⟨b, hb, hs⟩
    have hdrop : dropFinalNewline s.toList = b.toList := by
      rcases hs with rfl | rfl
      · exact dropFinalNewline_eq_self hb.newline_not_mem
      · rw [String.toList_append]
        unfold dropFinalNewline
        simp
    obtain ⟨c, cs, hchars⟩ := List.exists_cons_of_ne_nil hb.nonempty
    rw [isIdentifier, hdrop, hchars]
    refine isBareIdentifier_ofList_iff.1 ?_
    rwa [← hchars, String.ofList_toList]

/-- A value taken for an identifier is a text, and that text is one. -/
theorem checkIdentifier_eq_ok {what : String} {v : Value} (h : checkIdentifier what v = .ok s) :
    v.text? = some s ∧ isIdentifier s = true := by
  unfold checkIdentifier at h
  split at h
  · rename_i t ht
    split at h
    · rename_i hid
      cases h
      exact ⟨ht, hid⟩
    · cases h
  · cases h

/-! ## Snake case -/

/-- Words are broken at capital letters only. -/
theorem breakWords_eq_self (h : ∀ c ∈ cs, c.isUpper = false) : breakWords cs = cs := by
  induction cs with
  | nil => rfl
  | cons c cs ih =>
    cases cs with
    | nil => rfl
    | cons d rest =>
      have hd : d.isUpper = false := h d (List.mem_cons_of_mem _ List.mem_cons_self)
      rw [breakWords, hd, Bool.and_false, if_neg Bool.false_ne_true,
        ih fun c hc => h c (List.mem_cons_of_mem _ hc)]

/-- An identifier without capital letters is in snake case already. -/
theorem snakeCase_eq_self (hid : isIdentifier s = true) (h : ∀ c ∈ s.toList, c.isUpper = false) :
    snakeCase s = s := by
  rw [snakeCase, breakWords_eq_self h, String.ofList_toList]
  exact Text.lower_eq_self (fun c hc => toNat_lt_of_mem_identifier hid hc) h

/-- **What is put into snake case stays there**, if it makes an identifier. -/
theorem snakeCase_snakeCase (h : isIdentifier (snakeCase s) = true) :
    snakeCase (snakeCase s) = snakeCase s :=
  snakeCase_eq_self h fun _ hc => Text.isUpper_of_mem_lower hc

end Tablewright
