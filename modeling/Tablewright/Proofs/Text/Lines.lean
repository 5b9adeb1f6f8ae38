import Tablewright.Text.Blank
import Mathlib.Data.List.DropRight

/-!
# Pieces and lines of texts

A text that is split at a character is put together again from its pieces, and these are the only
ones without the character of which that is so (`splitAtChar_eq_iff`). The lines of a text are its
pieces between line ends (`exists_splitOnP_eq`), of which the line feed is only one: put together
with line feeds, they give a text in which every line ends in one (`intercalate_splitOnP`).
-/

namespace Tablewright

namespace Text

variable {sep : Char} {cs piece : List Char} {pieces : List (List Char)}

/-! ## Splitting -/

/-- The pieces are those of the library. -/
theorem splitAtChar_eq_splitOn (sep : Char) (cs : List Char) :
    splitAtChar sep cs = cs.splitOn sep := by
  induction cs with
  | nil => rfl
  | cons c cs ih =>
    rw [splitAtChar, ih, List.splitOn_cons_eq_if_modifyHead]
    cases h : cs.splitOn sep with
    | nil => exact absurd h (List.splitOn_ne_nil sep cs)
    | cons piece pieces => rfl

/-- A piece does not hold what it is split at. -/
theorem not_mem_of_mem_splitAtChar (h : piece ∈ splitAtChar sep cs) : sep ∉ piece := by
  induction cs generalizing piece with
  | nil =>
    rw [List.mem_singleton.1 h]
    exact List.not_mem_nil
  | cons c cs ih =>
    rw [splitAtChar] at h
    split at h
    · rename_i hnil
      rw [splitAtChar_eq_splitOn] at hnil
      exact absurd hnil (List.splitOn_ne_nil sep cs)
    · rename_i first pieces hcs
      rw [hcs] at ih
      split at h
      · rcases List.mem_cons.1 h with rfl | h
        · exact List.not_mem_nil
        · exact ih h
      · rename_i hc
        rcases List.mem_cons.1 h with rfl | h
        · exact List.not_mem_cons_of_ne_of_not_mem (fun he => hc (beq_iff_eq.2 he.symm))
            (ih List.mem_cons_self)
        · exact ih (List.mem_cons_of_mem _ h)

/-- **The pieces of a text** are those without the separator that give the text when they are put
together again. -/
theorem splitAtChar_eq_iff : splitAtChar sep cs = pieces ↔
    pieces ≠ [] ∧ (∀ piece ∈ pieces, sep ∉ piece) ∧ cs = [sep].intercalate pieces := by
  constructor
  · rintro rfl
    refine ⟨?_, fun piece hpiece => not_mem_of_mem_splitAtChar hpiece, ?_⟩
    · rw [splitAtChar_eq_splitOn]
      exact List.splitOn_ne_nil sep cs
    · rw [splitAtChar_eq_splitOn, List.intercalate_splitOn]
  · rintro ⟨hne, hfree, rfl⟩
    rw [splitAtChar_eq_splitOn, List.splitOn_intercalate sep hfree hne]

/-! ## Putting together -/

/-- Texts without the separator can be told from what they are put together to. -/
theorem intercalate_inj {texts texts' : List String} (hne : texts ≠ []) (hne' : texts' ≠ [])
    (h : ∀ text ∈ texts, sep ∉ text.toList) (h' : ∀ text ∈ texts', sep ∉ text.toList) :
    (String.singleton sep).intercalate texts = (String.singleton sep).intercalate texts' ↔
      texts = texts' := by
  refine ⟨fun heq => ?_, congrArg _⟩
  have hlists := congrArg String.toList heq
  rw [String.toList_intercalate, String.toList_intercalate, String.toList_singleton] at hlists
  have hsplit := congrArg (List.splitOn sep) hlists
  rw [List.splitOn_intercalate sep (List.forall_mem_map.2 h) (by simpa using hne),
    List.splitOn_intercalate sep (List.forall_mem_map.2 h') (by simpa using hne')] at hsplit
  exact List.map_injective_iff.2 (fun _ _ => String.toList_injective) hsplit

theorem intercalate_append {pieces' : List (List Char)} (hne : pieces ≠ []) (hne' : pieces' ≠ []) :
    [sep].intercalate (pieces ++ pieces') =
      [sep].intercalate pieces ++ [sep] ++ [sep].intercalate pieces' := by
  induction pieces with
  | nil => exact absurd rfl hne
  | cons piece pieces ih =>
    cases pieces with
    | nil =>
      obtain ⟨next, rest, rfl⟩ := List.exists_cons_of_ne_nil hne'
      rw [List.singleton_append, List.intercalate_cons_cons, List.intercalate_singleton]
    | cons next pieces =>
      rw [List.cons_append, List.cons_append, List.intercalate_cons_cons,
        List.intercalate_cons_cons, ← List.cons_append, ih (List.cons_ne_nil _ _)]
      simp only [List.append_assoc]

/-- What holds of the characters of all pieces and of those between them holds throughout. -/
theorem forall_mem_intercalate {between : String} {texts : List String} {P : Char → Prop}
    (hbetween : ∀ c ∈ between.toList, P c) (h : ∀ text ∈ texts, ∀ c ∈ text.toList, P c) :
    ∀ c ∈ (between.intercalate texts).toList, P c := by
  induction texts with
  | nil => exact nofun
  | cons text texts ih =>
    rw [List.forall_mem_cons] at h
    cases texts with
    | nil => exact h.1
    | cons next texts =>
      rw [String.intercalate_cons_cons, String.toList_append, String.toList_append]
      simp only [List.forall_mem_append]
      exact ⟨⟨h.1, hbetween⟩, ih h.2⟩

/-! ## Trimming -/

/-- Where none of the characters of a text has a property. -/
theorem forall_eq_false_of_any {p : Char → Bool} (h : cs.any p = false) : ∀ c ∈ cs, p c = false :=
  fun c hc => Bool.eq_false_iff.2 (List.any_eq_false.1 h c hc)

/-- Characters at the beginning that go anyway make no difference. -/
theorem trimWhile_append_left {p : Char → Bool} {before : List Char} (cs : List Char)
    (h : ∀ c ∈ before, p c = true) : trimWhile p (before ++ cs) = trimWhile p cs := by
  rw [trimWhile, List.dropWhile_append_of_pos h, trimWhile]

theorem trimEndWhile_append {p : Char → Bool} {after : List Char} (cs : List Char)
    (h : ∀ c ∈ after, p c = true) : trimEndWhile p (cs ++ after) = trimEndWhile p cs := by
  rw [trimEndWhile, List.reverse_append,
    List.dropWhile_append_of_pos fun c hc => h c (List.mem_reverse.1 hc), trimEndWhile]

/-- Nor do such characters at the end. -/
theorem trimWhile_append_right {p : Char → Bool} {after : List Char} (cs : List Char)
    (h : ∀ c ∈ after, p c = true) : trimWhile p (cs ++ after) = trimWhile p cs := by
  rw [trimWhile, trimWhile, List.dropWhile_append]
  split
  · rename_i hnil
    rw [List.isEmpty_iff.1 hnil, List.dropWhile_eq_nil_iff.2 h]
  · exact trimEndWhile_append _ h

/-- Characters that stay at the beginning have nothing to do with the end. -/
theorem trimEndWhile_append_left {p : Char → Bool} {before : List Char} (cs : List Char)
    (h : ∀ c ∈ before, p c = false) :
    trimEndWhile p (before ++ cs) = before ++ trimEndWhile p cs := by
  have hstays : before.reverse.dropWhile p = before.reverse := by
    cases hrev : before.reverse with
    | nil => rfl
    | cons c rest =>
      have hc : c ∈ before := List.mem_reverse.1 (hrev ▸ List.mem_cons_self)
      rw [List.dropWhile_cons_of_neg (Bool.eq_false_iff.1 (h c hc))]
  rw [trimEndWhile, trimEndWhile, List.reverse_append, List.dropWhile_append]
  split
  · rename_i hnil
    rw [List.isEmpty_iff.1 hnil, hstays, List.reverse_reverse, List.reverse_nil, List.append_nil]
  · rw [List.reverse_append, List.reverse_reverse]

/-- Nor with the beginning. -/
theorem trimWhile_append {p : Char → Bool} {before : List Char} (cs : List Char)
    (hne : before ≠ []) (h : ∀ c ∈ before, p c = false) :
    trimWhile p (before ++ cs) = before ++ trimEndWhile p cs := by
  have hfirst : (before ++ cs).dropWhile p = before ++ cs := by
    obtain ⟨c, rest, rfl⟩ := List.exists_cons_of_ne_nil hne
    exact List.dropWhile_cons_of_neg (Bool.eq_false_iff.1 (h c List.mem_cons_self))
  rw [trimWhile, hfirst, trimEndWhile_append_left cs h]

/-- What is trimmed stays as it is, and so does its end behind other characters. -/
theorem trimEndWhile_append_of_trimmed {p : Char → Bool} (before : List Char) (hne : cs ≠ [])
    (h : trimWhile p cs = cs) : trimEndWhile p (before ++ cs) = before ++ cs := by
  have htrimmed : cs.rdropWhile p = cs := by
    rw [← h]
    exact List.rdropWhile_idempotent p (cs.dropWhile p)
  refine List.rdropWhile_eq_self_iff.2 fun hall => ?_
  rw [List.getLast_append_of_ne_nil _ hne]
  exact List.rdropWhile_eq_self_iff.1 htrimmed hne

/-- What is trimmed does not begin with a character that goes. -/
theorem not_of_trimWhile_cons {p : Char → Bool} {c : Char} (h : trimWhile p (c :: cs) = c :: cs) :
    p c = false := by
  by_contra hc
  have hlength := congrArg List.length h
  rw [trimWhile, List.dropWhile_cons_of_pos (by simpa using hc)] at hlength
  have hle : (trimEndWhile p (cs.dropWhile p)).length ≤ cs.length :=
    (List.rdropWhile_prefix p _).length_le.trans (List.dropWhile_suffix p).length_le
  rw [hlength, List.length_cons] at hle
  omega

/-- Trimming at the end first makes no difference. -/
theorem trimWhile_trimEndWhile (p : Char → Bool) (cs : List Char) :
    trimWhile p (trimEndWhile p cs) = trimWhile p cs := by
  nth_rewrite 2 [← List.rdropWhile_append_rtakeWhile (p := p) (l := cs)]
  exact (trimWhile_append_right _ fun c hc => List.mem_rtakeWhile_imp hc).symm

/-- Trimming does not see what changes no character that goes into one that stays, or back. -/
theorem trimWhile_map {p : Char → Bool} {f : Char → Char} (h : ∀ c, p (f c) = p c)
    (cs : List Char) : trimWhile p (cs.map f) = (trimWhile p cs).map f := by
  have hp : p ∘ f = p := funext h
  simp only [trimWhile, trimEndWhile, List.dropWhile_map, ← List.map_reverse, hp]

/-- What is trimmed away is not counted among what stays. -/
theorem filter_trimWhile (p : Char → Bool) (cs : List Char) :
    (trimWhile p cs).filter (fun c => !p c) = cs.filter fun c => !p c := by
  have hdrop : ∀ cs : List Char,
      (cs.dropWhile p).filter (fun c => !p c) = cs.filter fun c => !p c := by
    intro cs
    have htaken : (cs.takeWhile p).filter (fun c => !p c) = [] := by
      refine List.filter_eq_nil_iff.2 fun c hc => ?_
      simpa using List.mem_takeWhile_imp hc
    nth_rewrite 2 [← List.takeWhile_append_dropWhile (p := p) (l := cs)]
    rw [List.filter_append, htaken, List.nil_append]
  rw [trimWhile, trimEndWhile, List.filter_reverse, hdrop, List.filter_reverse,
    List.reverse_reverse, hdrop]

/-! ## Lines -/

theorem isLineEnd_newline : isLineEnd '\n' = true := by
  decide

theorem isBlank_of_isLineEnd {c : Char} (h : isLineEnd c = true) : isBlank c = true := by
  simp only [isLineEnd, isBlank, inRanges, blankRanges, List.any_cons, List.any_nil, Bool.or_false,
    Bool.or_eq_true, Bool.and_eq_true, decide_eq_true_eq] at h ⊢
  rcases h with h | h | h | h <;> omega

/-- Every carriage return becomes a line feed. -/
theorem not_mem_normalizeLineEnds (cs : List Char) : '\r' ∉ normalizeLineEnds cs := by
  induction cs using normalizeLineEnds.induct with
  | case1 => exact List.not_mem_nil
  | case2 rest ih =>
    rw [normalizeLineEnds]
    exact List.not_mem_cons_of_ne_of_not_mem (by decide) ih
  | case3 c rest hnot ih =>
    rw [normalizeLineEnds]
    · refine List.not_mem_cons_of_ne_of_not_mem (fun heq => ?_) ih
      split at heq
      · exact absurd heq (by decide)
      · rename_i hne
        exact hne (beq_iff_eq.2 heq.symm)
    · exact hnot

/-- The line feed for any end of a line. -/
def unifyChar (c : Char) : Char :=
  if isLineEnd c then '\n' else c

/-- The text in which every line ends in a line feed. -/
def unify (cs : List Char) : List Char :=
  cs.map unifyChar

theorem unifyChar_of_isLineEnd {c : Char} (h : isLineEnd c = true) : unifyChar c = '\n' :=
  if_pos h

theorem unifyChar_of_not {c : Char} (h : ¬ isLineEnd c = true) : unifyChar c = c :=
  if_neg h

theorem isBlank_unifyChar (c : Char) : isBlank (unifyChar c) = isBlank c := by
  by_cases hend : isLineEnd c = true
  · rw [unifyChar_of_isLineEnd hend, isBlank_of_isLineEnd hend,
      isBlank_of_isLineEnd isLineEnd_newline]
  · rw [unifyChar_of_not hend]

theorem unify_cons (c : Char) (cs : List Char) : unify (c :: cs) = unifyChar c :: unify cs :=
  rfl

/-- A text in which every line ends in a line feed is left as it is. -/
theorem unify_eq_self_iff : unify cs = cs ↔ ∀ c ∈ cs, isLineEnd c = true → c = '\n' := by
  have hchar : ∀ c, unifyChar c = c ↔ (isLineEnd c = true → c = '\n') := by
    intro c
    by_cases hend : isLineEnd c = true
    · rw [unifyChar_of_isLineEnd hend]
      exact ⟨fun heq _ => heq.symm, fun heq => (heq hend).symm⟩
    · exact iff_of_true (unifyChar_of_not hend) fun h => absurd h hend
  induction cs with
  | nil => exact iff_of_true rfl nofun
  | cons c cs ih =>
    rw [List.forall_mem_cons, unify_cons, List.cons.injEq]
    exact and_congr (hchar c) ih

theorem forall_isLineEnd_iff : (∀ c ∈ cs, isLineEnd c = true → c = '\n') ↔
    (cs.all fun c => !isLineEnd c || c == '\n') = true := by
  simp [List.all_eq_true, imp_iff_not_or]

theorem trimWhile_unify (cs : List Char) :
    trimWhile isBlank (unify cs) = unify (trimWhile isBlank cs) :=
  trimWhile_map isBlank_unifyChar cs

/-- Line ends are blank, so they are no part of what stays of a text without its blanks. -/
theorem filter_unify (cs : List Char) :
    (unify cs).filter (fun c => !isBlank c) = cs.filter fun c => !isBlank c := by
  induction cs with
  | nil => rfl
  | cons c cs ih =>
    rw [unify_cons, List.filter_cons, List.filter_cons, isBlank_unifyChar, ih]
    split
    · rename_i hstays
      have hend : ¬ isLineEnd c = true := fun hend => by
        rw [isBlank_of_isLineEnd hend] at hstays
        cases hstays
      rw [unifyChar_of_not hend]
    · rfl

/-- The pieces between line ends, put together with line feeds. -/
theorem intercalate_splitOnP (cs : List Char) :
    ['\n'].intercalate (cs.splitOnP isLineEnd) = unify cs := by
  induction cs with
  | nil => rfl
  | cons c cs ih =>
    obtain ⟨piece, pieces, hpieces⟩ :=
      List.exists_cons_of_ne_nil (List.splitOnP_ne_nil isLineEnd cs)
    rw [List.splitOnP_cons_eq_if_modifyHead, unify_cons, ← ih, hpieces]
    split
    · rename_i hend
      rw [unifyChar_of_isLineEnd hend, List.intercalate_cons_cons]
      rfl
    · rename_i hend
      rw [unifyChar_of_not hend, List.modifyHead_cons]
      cases pieces with
      | nil => rfl
      | cons next pieces =>
        rw [List.intercalate_cons_cons, List.intercalate_cons_cons]
        rfl

/-- A text that is put together from lines with line feeds has the pieces of its lines. -/
theorem splitOnP_intercalate (hne : pieces ≠ []) :
    (['\n'].intercalate pieces).splitOnP isLineEnd = pieces.flatMap (·.splitOnP isLineEnd) := by
  induction pieces with
  | nil => exact absurd rfl hne
  | cons piece pieces ih =>
    cases pieces with
    | nil => simp
    | cons next pieces =>
      rw [List.intercalate_cons_cons, List.append_assoc, List.singleton_append,
        List.splitOnP_append_cons _ _ isLineEnd_newline, ih (List.cons_ne_nil _ _)]
      rfl

/-- Lines that are put one behind the other, each with its end, are the first pieces of what they
begin. -/
theorem splitOnP_lines {p : Char → Bool} {lines : List (List Char × Char)}
    (h : ∀ e ∈ lines, (∀ c ∈ e.1, p c = false) ∧ p e.2 = true) (cs : List Char) :
    (lines.flatMap (fun e => e.1 ++ [e.2]) ++ cs).splitOnP p =
      lines.map Prod.fst ++ cs.splitOnP p := by
  induction lines with
  | nil => rfl
  | cons e lines ih =>
    rw [List.forall_mem_cons] at h
    rw [List.flatMap_cons, List.append_assoc, List.append_assoc, List.singleton_append,
      List.splitOnP_append_cons_of_forall_mem h.1.1 _ h.1.2, ih h.2, List.map_cons,
      List.cons_append]

/-- The lines behind a line under way are the pieces between line ends, the first of them its
end. -/
theorem exists_modifyHead_splitOnP_eq (h : '\r' ∉ cs) (line : List Char) :
    ∃ rest, (rest = [] ∨ rest = [[]]) ∧
      (cs.splitOnP isLineEnd).modifyHead (line.reverse ++ ·) = linesFrom cs line ++ rest := by
  induction cs generalizing line with
  | nil =>
    cases line with
    | nil => exact ⟨[[]], Or.inr rfl, rfl⟩
    | cons c line => exact ⟨[], Or.inl rfl, by simp [linesFrom]⟩
  | cons c cs ih =>
    obtain ⟨hc, hcs⟩ := not_or.1 (mt List.mem_cons.2 h)
    rw [List.splitOnP_cons_eq_if_modifyHead, linesFrom.eq_4 _ _ _ fun _ hcr _ => hc hcr.symm]
    split
    · obtain ⟨rest, hrest, heq⟩ := ih hcs []
      refine ⟨rest, hrest, ?_⟩
      rw [List.modifyHead_cons, List.append_nil, List.cons_append, ← heq]
      cases cs.splitOnP isLineEnd <;> rfl
    · obtain ⟨rest, hrest, heq⟩ := ih hcs (c :: line)
      refine ⟨rest, hrest, ?_⟩
      rw [← heq, List.modifyHead_modifyHead]
      congr 1
      funext piece
      simp

/-- **The lines of a text are the pieces between line ends**, but for an empty one at the end. -/
theorem exists_splitOnP_eq (h : '\r' ∉ cs) :
    ∃ rest, (rest = [] ∨ rest = [[]]) ∧ cs.splitOnP isLineEnd = linesFrom cs [] ++ rest := by
  obtain ⟨rest, hrest, heq⟩ := exists_modifyHead_splitOnP_eq h []
  refine ⟨rest, hrest, ?_⟩
  rw [← heq]
  cases cs.splitOnP isLineEnd <;> rfl

end Text

end Tablewright
