import Mathlib.Computability.Language
import Tablewright.Proofs.Identifier
import Tablewright.Proofs.Text.Lines
import Tablewright.Proofs.Validation.Measure

/-!
# Patterns of texts

The shape of a text is a pattern, one regular language for each (`TextShape.language`), and the test
for it takes the texts of the pattern, with or without a line feed behind them
(`TextShape.matchesValue_iff`). The texts of a pattern are what the shape is to ask for, but for the
second character of a host, which may be blank. So a text that passes is what the rule says exactly
if it has neither (`whole_iff_of_checkValue`).
-/

namespace Tablewright

open Computability

namespace TextShape

variable {p : Char → Bool} {cs : List Char} {l : Language Char} {s : String}

/-! ## Patterns -/

/-- One character of a class. -/
def one (p : Char → Bool) : Language Char :=
  {cs | ∃ c, p c = true ∧ cs = [c]}

/-- A text, word for word. -/
def literal (s : String) : Language Char :=
  {s.toList}

/-- At least one character, all of one class. -/
def many (p : Char → Bool) : Language Char :=
  one p * (one p)∗

/-- One to three digits of any script. -/
def digits : Language Char :=
  one Text.isDigit + one Text.isDigit ^ 2 + one Text.isDigit ^ 3

/-- The pattern of a shape. -/
def language : TextShape → Language Char
  | email => many isEmailChar * (one (· == '@') * (many isEmailChar * (one (· == '.') *
      many isEmailChar)))
  | url => literal "http" * ((1 + literal "s") * (literal "://" * (one beginsHost *
      (one (· != '\n') * (one fun c => !Text.isBlank c)∗))))
  | address => (digits * one (· == '.')) ^ 3 * digits
  | letters => many Char.isAlpha
  | lettersAndDigits => many Char.isAlphanum

/-! ## What is in a pattern -/

theorem mem_one_mul : cs ∈ one p * l ↔ ∃ c rest, p c = true ∧ rest ∈ l ∧ cs = c :: rest := by
  rw [Language.mem_mul]
  constructor
  · rintro ⟨_, ⟨c, hc, rfl⟩, rest, hrest, rfl⟩
    exact ⟨c, rest, hc, hrest, rfl⟩
  · rintro ⟨c, rest, hc, hrest, rfl⟩
    exact ⟨[c], ⟨c, hc, rfl⟩, rest, hrest, rfl⟩

theorem mem_char_mul {c : Char} : cs ∈ one (· == c) * l ↔ ∃ rest ∈ l, cs = c :: rest := by
  rw [mem_one_mul]
  constructor
  · rintro ⟨d, rest, hd, hrest, rfl⟩
    exact ⟨rest, hrest, by rw [beq_iff_eq.1 hd]⟩
  · rintro ⟨rest, hrest, rfl⟩
    exact ⟨c, rest, beq_self_eq_true c, hrest, rfl⟩

theorem mem_literal_mul : cs ∈ literal s * l ↔ ∃ rest ∈ l, cs = s.toList ++ rest := by
  rw [Language.mem_mul]
  constructor
  · rintro ⟨_, rfl, rest, hrest, rfl⟩
    exact ⟨rest, hrest, rfl⟩
  · rintro ⟨rest, hrest, rfl⟩
    exact ⟨s.toList, rfl, rest, hrest, rfl⟩

theorem mem_kstar_one : cs ∈ (one p)∗ ↔ ∀ c ∈ cs, p c = true := by
  rw [Language.mem_kstar]
  constructor
  · rintro ⟨pieces, rfl, hpieces⟩ c hc
    obtain ⟨piece, hpiece, hc⟩ := List.mem_flatten.1 hc
    obtain ⟨d, hd, rfl⟩ := hpieces piece hpiece
    rwa [List.mem_singleton.1 hc]
  · intro h
    have hcs : cs = (cs.map fun c => [c]).flatten := by
      rw [← List.flatMap_def, List.flatMap_singleton']
    refine ⟨cs.map fun c => [c], hcs, fun piece hpiece => ?_⟩
    obtain ⟨c, hc, rfl⟩ := List.mem_map.1 hpiece
    exact ⟨c, h c hc, rfl⟩

theorem mem_many : cs ∈ many p ↔ cs ≠ [] ∧ ∀ c ∈ cs, p c = true := by
  rw [many, mem_one_mul]
  constructor
  · rintro ⟨c, rest, hc, hrest, rfl⟩
    exact ⟨List.cons_ne_nil _ _, List.forall_mem_cons.2 ⟨hc, mem_kstar_one.1 hrest⟩⟩
  · rintro ⟨hne, hall⟩
    obtain ⟨c, rest, rfl⟩ := List.exists_cons_of_ne_nil hne
    rw [List.forall_mem_cons] at hall
    exact ⟨c, rest, hall.1, mem_kstar_one.2 hall.2, rfl⟩

/-- A number of characters of one class. -/
theorem mem_one_pow {n : ℕ} : cs ∈ one p ^ n ↔ cs.length = n ∧ ∀ c ∈ cs, p c = true := by
  induction n generalizing cs with
  | zero =>
    rw [pow_zero, Language.mem_one, List.length_eq_zero_iff]
    exact ⟨fun h => ⟨h, by simp [h]⟩, And.left⟩
  | succ n ih =>
    rw [pow_succ', mem_one_mul]
    constructor
    · rintro ⟨c, rest, hc, hrest, rfl⟩
      obtain ⟨hlength, hall⟩ := ih.1 hrest
      exact ⟨by rw [List.length_cons, hlength], List.forall_mem_cons.2 ⟨hc, hall⟩⟩
    · rintro ⟨hlength, hall⟩
      obtain ⟨c, rest, rfl⟩ := List.exists_cons_of_length_eq_add_one hlength
      rw [List.forall_mem_cons] at hall
      exact ⟨c, rest, hall.1, ih.2 ⟨Nat.succ_inj.1 hlength, hall.2⟩, rfl⟩

theorem mem_digits : cs ∈ digits ↔ isShortNumber cs = true := by
  unfold digits isShortNumber
  rw [Language.mem_add, Language.mem_add, ← pow_one (one Text.isDigit), ← pow_mul, ← pow_mul]
  simp only [mem_one_pow, Bool.and_eq_true, Bool.not_eq_true', List.isEmpty_eq_false_iff,
    decide_eq_true_eq, List.all_eq_true, ← List.length_pos_iff]
  constructor
  · rintro ((⟨h, hall⟩ | ⟨h, hall⟩) | ⟨h, hall⟩)
    all_goals exact ⟨⟨by omega, by omega⟩, hall⟩
  · rintro ⟨⟨hpos, hle⟩, hall⟩
    rcases (by omega : cs.length = 1 ∨ cs.length = 2 ∨ cs.length = 3) with h | h | h
    · exact Or.inl (Or.inl ⟨h, hall⟩)
    · exact Or.inl (Or.inr ⟨h, hall⟩)
    · exact Or.inr ⟨h, hall⟩

/-- The words of the pattern of an email address, part by part. -/
theorem mem_language_email : cs ∈ email.language ↔ ∃ name ∈ many isEmailChar,
    ∃ before ∈ many isEmailChar, ∃ after ∈ many isEmailChar,
      cs = name ++ '@' :: (before ++ '.' :: after) := by
  simp only [language, Language.mem_mul (l := many _), mem_char_mul]
  constructor
  · rintro ⟨name, hname, _, ⟨_, ⟨before, hbefore, _, ⟨after, hafter, rfl⟩, rfl⟩, rfl⟩, rfl⟩
    exact ⟨name, hname, before, hbefore, after, hafter, rfl⟩
  · rintro ⟨name, hname, before, hbefore, after, hafter, rfl⟩
    exact ⟨name, hname, _, ⟨_, ⟨before, hbefore, _, ⟨after, hafter, rfl⟩, rfl⟩, rfl⟩, rfl⟩

/-- What stands behind one of the two openings. -/
theorem afterScheme_eq_some {rest : List Char} : afterScheme cs = some rest ↔
    cs = "http://".toList ++ rest ∨ cs = "https://".toList ++ rest := by
  have hapart : ¬ "https://".toList <+: "http://".toList ++ rest := by
    rintro ⟨back, hback⟩
    simp at hback
  unfold afterScheme
  simp only [List.isPrefixOf_iff_prefix]
  constructor
  · intro h
    split at h
    · rename_i hprefix
      obtain ⟨back, rfl⟩ := hprefix
      exact Or.inr (congrArg _ (Option.some_inj.1 h))
    · split at h
      · rename_i hprefix
        obtain ⟨back, rfl⟩ := hprefix
        exact Or.inl (congrArg _ (Option.some_inj.1 h))
      · cases h
  · rintro (rfl | rfl)
    · rw [if_neg hapart, if_pos (List.prefix_append _ _)]
      rfl
    · rw [if_pos (List.prefix_append _ _)]
      rfl

/-- An opening is not blank. -/
theorem exists_scheme {rest : List Char} (h : afterScheme cs = some rest) :
    ∃ scheme, cs = scheme ++ rest ∧ ∀ c ∈ scheme, Text.isBlank c = false := by
  rcases afterScheme_eq_some.1 h with rfl | rfl
  · exact ⟨_, rfl, Text.forall_eq_false_of_any (by decide)⟩
  · exact ⟨_, rfl, Text.forall_eq_false_of_any (by decide)⟩

/-- The two openings as a pattern. -/
theorem mem_scheme_mul : cs ∈ literal "http" * ((1 + literal "s") * (literal "://" * l)) ↔
    ∃ rest, afterScheme cs = some rest ∧ rest ∈ l := by
  rw [add_mul, one_mul, mul_add, Language.mem_add]
  simp only [mem_literal_mul, afterScheme_eq_some]
  constructor
  · rintro (⟨_, ⟨rest, hrest, rfl⟩, rfl⟩ | ⟨_, ⟨_, ⟨rest, hrest, rfl⟩, rfl⟩, rfl⟩)
    · exact ⟨rest, Or.inl rfl, hrest⟩
    · exact ⟨rest, Or.inr rfl, hrest⟩
  · rintro ⟨rest, rfl | rfl, hrest⟩
    · exact Or.inl ⟨_, ⟨rest, hrest, rfl⟩, rfl⟩
    · exact Or.inr ⟨_, ⟨_, ⟨rest, hrest, rfl⟩, rfl⟩, rfl⟩

/-- The words of the pattern of a URL: what is asked of the host. -/
theorem mem_language_url : cs ∈ url.language ↔ ∃ c d rest,
    afterScheme cs = some (c :: d :: rest) ∧ beginsHost c = true ∧ d ≠ '\n' ∧
      ∀ e ∈ rest, Text.isBlank e = false := by
  simp only [language, mem_scheme_mul, mem_one_mul, mem_kstar_one, bne_iff_ne, Bool.not_eq_true']
  constructor
  · rintro ⟨_, hrest, c, _, hc, ⟨d, rest, hd, hall, rfl⟩, rfl⟩
    exact ⟨c, d, rest, hrest, hc, hd, hall⟩
  · rintro ⟨c, d, rest, hrest, hc, hd, hall⟩
    exact ⟨_, hrest, c, _, hc, ⟨d, rest, hd, hall, rfl⟩, rfl⟩

/-- The words of the pattern of an address, group by group. -/
theorem mem_language_address : cs ∈ address.language ↔ ∃ a b c d,
    (∀ group ∈ [a, b, c, d], isShortNumber group = true) ∧
      cs = ['.'].intercalate [a, b, c, d] := by
  simp only [language, pow_succ, pow_zero, one_mul, mul_assoc, Language.mem_mul (l := digits),
    mem_char_mul, mem_digits]
  constructor
  · rintro ⟨a, ha, _, ⟨_, ⟨b, hb, _, ⟨_, ⟨c, hc, _, ⟨d, hd, rfl⟩, rfl⟩, rfl⟩, rfl⟩, rfl⟩, rfl⟩
    exact ⟨a, b, c, d, by simp [ha, hb, hc, hd], by simp⟩
  · rintro ⟨a, b, c, d, hall, rfl⟩
    simp only [List.forall_mem_cons, List.not_mem_nil, false_imp_iff, implies_true,
      and_true] at hall
    obtain ⟨ha, hb, hc, hd⟩ := hall
    exact ⟨a, ha, _, ⟨_, ⟨b, hb, _, ⟨_, ⟨c, hc, _, ⟨d, hd, rfl⟩, rfl⟩, rfl⟩, rfl⟩, rfl⟩, by simp⟩

/-! ## Tests for patterns -/

theorem hasInnerPoint_iff : hasInnerPoint cs = true ↔
    ∃ before after, before ≠ [] ∧ after ≠ [] ∧ cs = before ++ '.' :: after := by
  unfold hasInnerPoint
  rw [List.contains_iff_mem]
  constructor
  · intro h
    obtain ⟨front, back, hinner⟩ := List.append_of_mem h
    -- there is a first character, and a last one behind it
    cases cs with
    | nil => cases h
    | cons c rest =>
      have hne : rest ≠ [] := by
        rintro rfl
        cases h
      rw [List.drop_one, List.tail_cons] at hinner
      refine ⟨c :: front, back ++ [rest.getLast hne], by simp, by simp, ?_⟩
      calc c :: rest = c :: (rest.dropLast ++ [rest.getLast hne]) := by
            rw [List.dropLast_append_getLast]
        _ = c :: front ++ '.' :: (back ++ [rest.getLast hne]) := by
            rw [hinner]
            simp
  · rintro ⟨before, after, hbefore, hafter, rfl⟩
    obtain ⟨c, front, rfl⟩ := List.exists_cons_of_ne_nil hbefore
    rw [List.drop_one, List.cons_append, List.tail_cons, List.dropLast_append_of_ne_nil (by simp),
      List.dropLast_cons_of_ne_nil hafter]
    simp

/-- A part of an email address holds nothing else. -/
theorem not_mem_of_mem_many {c : Char} (h : cs ∈ many p) (hc : p c = false) : c ∉ cs := by
  intro hmem
  rw [(mem_many.1 h).2 c hmem] at hc
  cases hc

theorem isEmail_iff : isEmail cs = true ↔ cs ∈ email.language := by
  rw [mem_language_email]
  unfold isEmail
  constructor
  · intro h
    split at h
    · rename_i name domain hsplit
      obtain ⟨-, -, rfl⟩ := Text.splitAtChar_eq_iff.1 hsplit
      simp only [Bool.and_eq_true, Bool.not_eq_true', List.isEmpty_eq_false_iff,
        List.all_eq_true] at h
      obtain ⟨⟨⟨hne, hname⟩, hdomain⟩, hinner⟩ := h
      obtain ⟨before, after, hbefore, hafter, rfl⟩ := hasInnerPoint_iff.1 hinner
      rw [List.forall_mem_append, List.forall_mem_cons] at hdomain
      exact ⟨name, mem_many.2 ⟨hne, hname⟩, before, mem_many.2 ⟨hbefore, hdomain.1⟩, after,
        mem_many.2 ⟨hafter, hdomain.2.2⟩, by simp⟩
    · cases h
  · rintro ⟨name, hname, before, hbefore, after, hafter, rfl⟩
    have hdomain : before ++ '.' :: after ∈ many isEmailChar := by
      refine mem_many.2 ⟨by simp, List.forall_mem_append.2 ⟨(mem_many.1 hbefore).2, ?_⟩⟩
      exact List.forall_mem_cons.2 ⟨by decide, (mem_many.1 hafter).2⟩
    have hsplit : Text.splitAtChar '@' (name ++ '@' :: (before ++ '.' :: after)) =
        [name, before ++ '.' :: after] := by
      refine Text.splitAtChar_eq_iff.2 ⟨by simp, ?_, by simp⟩
      simp only [List.forall_mem_cons, List.not_mem_nil, false_imp_iff, implies_true, and_true]
      exact ⟨not_mem_of_mem_many hname (by decide), not_mem_of_mem_many hdomain (by decide)⟩
    rw [hsplit]
    simp only [Bool.and_eq_true, Bool.not_eq_true', List.isEmpty_eq_false_iff, List.all_eq_true]
    exact ⟨⟨mem_many.1 hname, (mem_many.1 hdomain).2⟩, hasInnerPoint_iff.2 ⟨before, after,
      (mem_many.1 hbefore).1, (mem_many.1 hafter).1, rfl⟩⟩

theorem isUrl_iff : isUrl cs = true ↔ cs ∈ url.language := by
  rw [mem_language_url]
  unfold isUrl
  constructor
  · intro h
    split at h
    · rename_i c d rest hrest
      simp only [Bool.and_eq_true, List.all_eq_true, Bool.not_eq_true', bne_iff_ne] at h
      exact ⟨c, d, rest, hrest, h.1.1, h.1.2, h.2⟩
    · cases h
  · rintro ⟨c, d, rest, hrest, hc, hd, hall⟩
    rw [hrest]
    simp only [Bool.and_eq_true, List.all_eq_true, Bool.not_eq_true', bne_iff_ne]
    exact ⟨⟨hc, hd⟩, hall⟩

/-- A group of digits holds nothing else. -/
theorem not_mem_of_isShortNumber {c : Char} (h : isShortNumber cs = true)
    (hc : Text.isDigit c = false) : c ∉ cs := by
  intro hmem
  simp only [isShortNumber, Bool.and_eq_true, List.all_eq_true] at h
  rw [h.2 c hmem] at hc
  cases hc

theorem isAddress_iff : isAddress cs = true ↔ cs ∈ address.language := by
  rw [mem_language_address, isAddress]
  simp only [Bool.and_eq_true, beq_iff_eq, List.all_eq_true]
  constructor
  · rintro ⟨hlength, hall⟩
    obtain ⟨a, b, c, d, hgroups⟩ := List.length_eq_four.1 hlength
    rw [hgroups] at hall
    exact ⟨a, b, c, d, hall, (Text.splitAtChar_eq_iff.1 hgroups).2.2⟩
  · rintro ⟨a, b, c, d, hall, rfl⟩
    have hgroups : Text.splitAtChar '.' (['.'].intercalate [a, b, c, d]) = [a, b, c, d] :=
      Text.splitAtChar_eq_iff.2 ⟨by simp,
        fun group h => not_mem_of_isShortNumber (hall group h) (by decide), rfl⟩
    rw [hgroups]
    exact ⟨rfl, hall⟩

/-- **What a shape admits is its pattern.** -/
theorem admits_iff {shape : TextShape} : shape.admits cs = true ↔ cs ∈ shape.language := by
  cases shape with
  | email => exact isEmail_iff
  | url => exact isUrl_iff
  | address => exact isAddress_iff
  | letters =>
    rw [language, mem_many]
    simp [admits]
  | lettersAndDigits =>
    rw [language, mem_many]
    simp [admits]

/-! ## Whole texts -/

/-- What the rules ask for of the whole of a text. -/
def Whole : TextShape → List Char → Prop
  | email, cs => ∀ c ∈ cs, Text.isBlank c = false
  | url, cs => ∀ c ∈ cs, Text.isBlank c = false
  | address, cs => ∃ a b c d, (∀ group ∈ [a, b, c, d], isShortNumber group = true) ∧
      cs = ['.'].intercalate [a, b, c, d]
  | letters, cs => cs ≠ [] ∧ ∀ c ∈ cs, c.isAlpha = true
  | lettersAndDigits, cs => cs ≠ [] ∧ ∀ c ∈ cs, c.isAlphanum = true

/-- The character of a text at which its shape does not look: the second one of a host. -/
def unseen? : TextShape → List Char → Option Char
  | url, cs => (afterScheme cs).bind fun host => host[1]?
  | _, _ => none

/-- A character of an email address is not blank. -/
theorem not_isBlank_of_isEmailChar {c : Char} (h : isEmailChar c = true) :
    Text.isBlank c = false := by
  simp only [isEmailChar, Bool.and_eq_true, Bool.not_eq_true'] at h
  exact h.1

theorem whole_email_of_mem (h : cs ∈ email.language) : Whole email cs := by
  obtain ⟨name, hname, before, hbefore, after, hafter, rfl⟩ := mem_language_email.1 h
  have hpart : ∀ part ∈ many isEmailChar, ∀ c ∈ part, Text.isBlank c = false :=
    fun part hmem c hc => not_isBlank_of_isEmailChar ((mem_many.1 hmem).2 c hc)
  simp only [Whole, List.forall_mem_append, List.forall_mem_cons]
  exact ⟨hpart name hname, by decide, hpart before hbefore, by decide, hpart after hafter⟩

/-- **A shape is one of the whole text**, up to a character at which it does not look. -/
theorem whole_iff_of_mem {shape : TextShape} (h : cs ∈ shape.language) :
    shape.Whole cs ↔ ∀ c ∈ shape.unseen? cs, Text.isBlank c = false := by
  cases shape with
  | email => exact iff_of_true (whole_email_of_mem h) nofun
  | url =>
    obtain ⟨c, d, rest, hrest, hc, -, hall⟩ := mem_language_url.1 h
    have hunseen : url.unseen? cs = some d := by
      rw [unseen?, hrest]
      rfl
    have hc : Text.isBlank c = false := by
      simp only [beginsHost, Bool.and_eq_true, Bool.not_eq_true'] at hc
      exact hc.1
    obtain ⟨scheme, rfl, hscheme⟩ := exists_scheme hrest
    rw [hunseen]
    simp only [Whole, Option.mem_some_iff, forall_eq', List.forall_mem_append, List.forall_mem_cons]
    exact ⟨fun hwhole => hwhole.2.2.1, fun hd => ⟨hscheme, hc, hd, hall⟩⟩
  | address => exact iff_of_true (mem_language_address.1 h) nofun
  | letters => exact iff_of_true (mem_many.1 h) nofun
  | lettersAndDigits => exact iff_of_true (mem_many.1 h) nofun

/-- A whole text of a shape has no line feed. -/
theorem Whole.newline_not_mem {shape : TextShape} (h : shape.Whole cs) : '\n' ∉ cs := by
  intro hmem
  cases shape with
  | email => exact absurd (h '\n' hmem) (by decide)
  | url => exact absurd (h '\n' hmem) (by decide)
  | address =>
    obtain ⟨a, b, c, d, hall, rfl⟩ := h
    have hfree : ∀ group ∈ [a, b, c, d], '\n' ∉ group := fun group hgroup =>
      not_mem_of_isShortNumber (hall group hgroup) (by decide)
    simp only [List.forall_mem_cons] at hfree
    simp [hfree] at hmem
  | letters => exact absurd (h.2 '\n' hmem) (by decide)
  | lettersAndDigits => exact absurd (h.2 '\n' hmem) (by decide)

/-- So has no word of a pattern. -/
theorem newline_not_mem {shape : TextShape} (h : cs ∈ shape.language) : '\n' ∉ cs := by
  cases shape with
  -- the unseen character is no line feed either, but it may be blank: its word need not be whole
  | url =>
    obtain ⟨c, d, rest, hrest, hc, hd, hall⟩ := mem_language_url.1 h
    have hc : c ≠ '\n' := by
      rintro rfl
      exact absurd hc (by decide)
    have hrestfree : '\n' ∉ rest := fun hmem => absurd (hall '\n' hmem) (by decide)
    obtain ⟨scheme, rfl, hscheme⟩ := exists_scheme hrest
    have hschemefree : '\n' ∉ scheme := fun hmem => absurd (hscheme '\n' hmem) (by decide)
    simp [hschemefree, hc.symm, hd.symm, hrestfree]
  | _ => exact ((whole_iff_of_mem h).2 nofun).newline_not_mem

/-- The values that a shape lets through: texts of its pattern, with or without a line feed behind
them. -/
def LetsThrough (shape : TextShape) (v : Value) : Prop :=
  ∃ text cs, v.text? = some text ∧ cs ∈ shape.language ∧
    (text.toList = cs ∨ text.toList = cs ++ ['\n'])

/-- **What has a shape.** -/
theorem matchesValue_iff {shape : TextShape} {v : Value} :
    shape.matchesValue v = true ↔ shape.LetsThrough v := by
  unfold matchesValue LetsThrough
  cases v.text? with
  | none => simp
  | some text =>
    simp only [admits_iff, Option.some.injEq, exists_and_left, exists_eq_left']
    constructor
    · intro h
      exact ⟨_, h, eq_dropFinalNewline_or text.toList⟩
    · rintro ⟨cs, hcs, heq | heq⟩
      · rwa [heq, dropFinalNewline_eq_self (newline_not_mem hcs)]
      · rw [heq]
        unfold dropFinalNewline
        simpa using hcs

/-- What is let through is as a whole what is asked for, up to a line feed and an unseen
character. -/
theorem LetsThrough.whole_iff {shape : TextShape} {v : Value} {text : String}
    (h : shape.LetsThrough v) (htext : v.text? = some text) :
    shape.Whole text.toList ↔ '\n' ∉ text.toList ∧
      ∀ d ∈ shape.unseen? text.toList, Text.isBlank d = false := by
  obtain ⟨s, cs, hs, hcs, hends⟩ := h
  obtain rfl : text = s := Option.some_inj.1 (htext.symm.trans hs)
  rcases hends with hends | hends
  · rw [hends, whole_iff_of_mem hcs]
    exact (and_iff_right (newline_not_mem hcs)).symm
  · have hline : '\n' ∈ text.toList := by
      rw [hends]
      exact List.mem_append_right _ (List.mem_singleton.2 rfl)
    exact iff_of_false (fun hwhole => hwhole.newline_not_mem hline) fun hfree => hfree.1 hline

end TextShape

/-! ## Columns -/

open Fallible

variable {c : Column} {shape : TextShape} {given : Named Value} {g v : Value}
  {number : Option Binary}

/-- A rule for a shape has nothing to say exactly of what the shape lets through. -/
theorem ruleMessages_shape_eq_nil (hg : given.get? (Rule.shape shape).name = some g) :
    ruleMessages v number given (.shape shape) = .ok [] ↔ shape.LetsThrough v := by
  rw [← TextShape.matchesValue_iff, ruleMessages, hg]
  simp only [Rule.apply, Rule.check, Rule.messageUnless]
  cases shape.matchesValue v with
  | true => exact iff_of_true rfl rfl
  | false =>
    refine iff_of_false (fun h => ?_) Bool.false_ne_true
    obtain ⟨message?, h, hnil⟩ := map_eq_ok.1 h
    obtain ⟨message, -, rfl⟩ : ∃ message, _ = _ ∧ some message = message? := map_eq_ok.1 h
    cases hnil

/-- What a shape lets through is a text, and a text can be measured. -/
theorem measure?_of_letsThrough (h : shape.LetsThrough v) : ∃ number, v.measure? = .ok number := by
  obtain ⟨text, -, htext, -⟩ := h
  refine exists_measure?_iff.2 ?_
  cases v with
  | int n => cases htext
  | _ => exact not_false

/-- **Only what a shape lets through passes** a column that asks for the shape, whatever else the
column asks for. -/
theorem letsThrough_of_checkValue (hv : v.isNull = false) (hgiven : c.rules = .ok given)
    (hg : given.get? (Rule.shape shape).name = some g) (h : checkValue v c = .ok []) :
    shape.LetsThrough v := by
  obtain ⟨number, -, hcheck⟩ := (checkValue_eq_ok hv hgiven).1 h
  rw [checkRules_eq_flatten, map_eq_ok] at hcheck
  obtain ⟨parts, hparts, hflat⟩ := hcheck
  obtain ⟨messages, hmem, hmessages⟩ := mem_mapM_of_mem hparts (Rule.mem_all (.shape shape))
  rw [List.flatten_eq_nil_iff.1 hflat messages hmem] at hmessages
  exact (ruleMessages_shape_eq_nil hg).1 hmessages

/-- All of it passes a column that asks for nothing else. -/
theorem checkValue_of_letsThrough (hv : v.isNull = false) (hgiven : c.rules = .ok given)
    (hg : given.get? (Rule.shape shape).name = some g)
    (honly : ∀ rule : Rule, rule ≠ .shape shape → given.get? rule.name = none)
    (h : shape.LetsThrough v) : checkValue v c = .ok [] := by
  obtain ⟨number, hnumber⟩ := measure?_of_letsThrough h
  refine (checkValue_eq_ok hv hgiven).2 ⟨number, hnumber, ?_⟩
  rw [checkRules_of_only (Rule.mem_all _) Rule.nodup_all fun rule _ hne => honly rule hne]
  exact (ruleMessages_shape_eq_nil hg).2 h

/-- **What a shape says of the texts that pass.** Whatever else a column asks for, only what its
shape lets through passes, nulls apart, and all of that does if it asks for nothing else. Such a
text is as a whole what the rule says exactly if it has no line feed and, behind its scheme, no
blank as second character of its host. -/
theorem whole_iff_of_checkValue (hgiven : c.rules = .ok given)
    (hg : given.get? (Rule.shape shape).name = some g) :
    (∀ v, checkValue v c = .ok [] → v.isNull = true ∨ shape.LetsThrough v) ∧
      ((∀ rule : Rule, rule ≠ .shape shape → given.get? rule.name = none) →
        ∀ v, v.isNull = false → (checkValue v c = .ok [] ↔ shape.LetsThrough v)) ∧
      ∀ v text, v.text? = some text → shape.LetsThrough v →
        (shape.Whole text.toList ↔ '\n' ∉ text.toList ∧
          ∀ d ∈ shape.unseen? text.toList, Text.isBlank d = false) := by
  refine ⟨fun v h => ?_, fun honly v hv => ⟨fun h => ?_, fun h => ?_⟩, fun v text htext h => ?_⟩
  · cases hv : v.isNull with
    | true => exact Or.inl rfl
    | false => exact Or.inr (letsThrough_of_checkValue hv hgiven hg h)
  · exact letsThrough_of_checkValue hv hgiven hg h
  · exact checkValue_of_letsThrough hv hgiven hg honly h
  · exact h.whole_iff htext

/-- A column that asks for one shape and nothing else. -/
def asking (shape : TextShape) : Column :=
  { validate := .dict [(.str (Rule.shape shape).name, .bool true)] }

theorem rules_asking (shape : TextShape) :
    (asking shape).rules = .ok [((Rule.shape shape).name, .bool true)] := by
  refine (rules_eq_ok orEmptyMapping_dict).2 ⟨by simp [HasTextKeys, Value.text?], ?_⟩
  cases shape <;> rfl

/-- **Letters with a line feed behind them pass, and a host with a blank in it**; letters alone are
letters as a whole. -/
theorem whole_iff_of_looseTexts :
    (checkValue (.str "ab\n") (asking .letters) = .ok [] ∧
        ¬ TextShape.letters.Whole "ab\n".toList) ∧
      (checkValue (.str "http://a b") (asking .url) = .ok [] ∧
        ¬ TextShape.url.Whole "http://a b".toList) ∧
      checkValue (.str "ab") (asking .letters) = .ok [] ∧
        TextShape.letters.Whole "ab".toList := by
  have hone : ∀ (shape : TextShape) (text : String), shape.matchesValue (.str text) = true →
      checkValue (.str text) (asking shape) = .ok [] ∧
        (shape.Whole text.toList ↔ '\n' ∉ text.toList ∧
          ∀ d ∈ shape.unseen? text.toList, Text.isBlank d = false) := by
    intro shape text hmatches
    have hlets := TextShape.matchesValue_iff.1 hmatches
    have hnone : ∀ rule : Rule, rule ≠ .shape shape →
        Named.get? [((Rule.shape shape).name, Value.bool true)] rule.name = none := by
      intro rule hne
      rw [Named.get?_cons, if_neg fun he => hne (Rule.name_injective he.symm)]
      rfl
    have hlaw := whole_iff_of_checkValue (rules_asking shape) (by rw [Named.get?_cons, if_pos rfl])
    exact ⟨(hlaw.2.1 hnone _ rfl).2 hlets, hlaw.2.2 _ text rfl hlets⟩
  have hline := hone .letters "ab\n" (by decide +kernel)
  have hblank := hone .url "http://a b" (by decide +kernel)
  have hplain := hone .letters "ab" (by decide +kernel)
  refine ⟨⟨hline.1, fun h => ?_⟩, ⟨hblank.1, fun h => ?_⟩, hplain.1, hplain.2.2 ⟨?_, nofun⟩⟩
  · exact absurd (hline.2.1 h).1 (by decide)
  · exact absurd ((hblank.2.1 h).2 ' ' (by decide +kernel)) (by decide)
  · decide

end Tablewright
