import Tablewright.Text.Blank
import Mathlib.Data.List.DropRight

/-!
# How statements end

A statement is made bare in three passes from its end: blanks go, then semicolons, then blanks. That
takes away all blanks and semicolons at its end unless blanks stand between semicolons there
(`Text.bareEnd_eq_iff`); then a semicolon is left.
-/

namespace Tablewright

namespace Text

variable {p r : Char → Bool} {cs before blanks after : List Char} {c : Char}

/-! ## Dropping from the end -/

/-- Dropping less first makes no difference. -/
theorem rdropWhile_rdropWhile (h : ∀ c, p c = true → r c = true) (cs : List Char) :
    (cs.rdropWhile p).rdropWhile r = cs.rdropWhile r := by
  induction cs using List.reverseRecOn with
  | nil => rfl
  | append_singleton cs c ih =>
    by_cases hc : p c = true
    · rw [List.rdropWhile_concat_pos _ _ _ hc, List.rdropWhile_concat_pos _ _ _ (h c hc), ih]
    · rw [List.rdropWhile_concat_neg _ _ _ hc]

/-- What is left does not end in a character of those dropped. -/
theorem not_of_getLast?_rdropWhile (h : (cs.rdropWhile p).getLast? = some c) : ¬ p c = true := by
  have hne : cs.rdropWhile p ≠ [] := by
    intro hnil
    rw [hnil] at h
    cases h
  have hlast := List.rdropWhile_last_not p cs hne
  rw [List.getLast?_eq_some_getLast hne] at h
  rwa [Option.some_inj.1 h] at hlast

/-! ## Fillers -/

/-- A character that says nothing at the end of a statement. -/
def isFiller (c : Char) : Bool :=
  isBlank c || c == ';'

theorem isFiller_of_isBlank (h : isBlank c = true) : isFiller c = true := by
  simp [isFiller, h]

theorem isFiller_semicolon : isFiller ';' = true := by
  simp [isFiller]

theorem eq_semicolon_of_isFiller (h : isFiller c = true) (hblank : ¬ isBlank c = true) :
    c = ';' := by
  simpa [isFiller, hblank] using h

/-- Blanks stand between two semicolons at the end, and only blanks and semicolons are behind. -/
def SplitEnd (cs : List Char) : Prop :=
  ∃ before blanks after, cs = before ++ ';' :: (blanks ++ ';' :: after) ∧ blanks ≠ [] ∧
    (∀ c ∈ blanks, isBlank c = true) ∧ ∀ c ∈ after, isFiller c = true

/-- A filler behind such an end leaves it one. -/
theorem SplitEnd.concat (h : SplitEnd cs) (hc : isFiller c = true) : SplitEnd (cs ++ [c]) := by
  obtain ⟨before, blanks, after, rfl, hne, hblanks, hafter⟩ := h
  refine ⟨before, blanks, after ++ [c], by simp, hne, hblanks, ?_⟩
  intro d hd
  rcases List.mem_append.1 hd with hd | hd
  · exact hafter d hd
  · rwa [List.mem_singleton.1 hd]

/-- A blank at the end is behind such an end. -/
theorem SplitEnd.of_concat (h : SplitEnd (cs ++ [c])) (hc : c ≠ ';') :
    isBlank c = true ∧ SplitEnd cs := by
  obtain ⟨before, blanks, after, hcs, hne, hblanks, hafter⟩ := h
  rcases List.eq_nil_or_concat' after with rfl | ⟨after, d, rfl⟩
  · have hmove : before ++ ';' :: (blanks ++ [';']) = (before ++ ';' :: blanks) ++ [';'] := by simp
    rw [hmove] at hcs
    exact absurd (List.singleton_inj.1 (List.append_inj' hcs rfl).2) hc
  · have hmove : before ++ ';' :: (blanks ++ ';' :: (after ++ [d])) =
        (before ++ ';' :: (blanks ++ ';' :: after)) ++ [d] := by simp
    rw [hmove] at hcs
    obtain ⟨rfl, hlast⟩ := List.append_inj' hcs rfl
    obtain rfl := List.singleton_inj.1 hlast
    refine ⟨?_, before, blanks, after, rfl, hne, hblanks, fun e he => hafter e (by simp [he])⟩
    by_contra hblank
    exact hc (eq_semicolon_of_isFiller (hafter c (by simp)) hblank)

/-- Blanks at the beginning have nothing to do with the end. -/
theorem splitEnd_dropWhile_iff : SplitEnd (cs.dropWhile isBlank) ↔ SplitEnd cs := by
  constructor
  · rintro ⟨before, blanks, after, hcs, hrest⟩
    refine ⟨cs.takeWhile isBlank ++ before, blanks, after, ?_, hrest⟩
    rw [List.append_assoc, ← hcs, List.takeWhile_append_dropWhile]
  · rintro ⟨before, blanks, after, rfl, hrest⟩
    induction before with
    | nil => exact ⟨[], blanks, after, rfl, hrest⟩
    | cons c before ih =>
      rw [List.cons_append, List.dropWhile_cons]
      split
      · exact ih
      · exact ⟨c :: before, blanks, after, rfl, hrest⟩

/-! ## The passes -/

/-- The last two passes: semicolons go, then blanks. -/
def dropSemicolons (cs : List Char) : List Char :=
  (cs.rdropWhile (· == ';')).rdropWhile isBlank

/-- All three passes. -/
def bareEnd (cs : List Char) : List Char :=
  dropSemicolons (cs.rdropWhile isBlank)

/-- The characters up to the fillers at the end. -/
def dropFillers (cs : List Char) : List Char :=
  cs.rdropWhile isFiller

theorem bareEnd_concat_of_isBlank (hc : isBlank c = true) : bareEnd (cs ++ [c]) = bareEnd cs := by
  unfold bareEnd
  rw [List.rdropWhile_concat_pos _ _ _ hc]

theorem bareEnd_concat_semicolon : bareEnd (cs ++ [';']) = dropSemicolons cs := by
  have hkept : ¬ isBlank ';' = true := by decide
  unfold bareEnd dropSemicolons
  rw [List.rdropWhile_concat_neg _ _ _ hkept, List.rdropWhile_concat_pos _ _ _ (by decide)]

theorem dropSemicolons_concat_semicolon : dropSemicolons (cs ++ [';']) = dropSemicolons cs := by
  unfold dropSemicolons
  rw [List.rdropWhile_concat_pos _ _ _ (by decide)]

theorem dropSemicolons_concat (hc : c ≠ ';') :
    dropSemicolons (cs ++ [c]) = (cs ++ [c]).rdropWhile isBlank := by
  unfold dropSemicolons
  rw [List.rdropWhile_concat_neg _ _ _ (by simpa using hc)]

/-- What two passes leave ends in a semicolon only if blanks stood between semicolons. -/
theorem splitEnd_of_dropSemicolons (h : (dropSemicolons cs).getLast? = some ';') :
    SplitEnd (cs ++ [';']) := by
  induction cs using List.reverseRecOn with
  | nil => cases h
  | append_singleton cs c ih =>
    by_cases hc : c = ';'
    · subst hc
      rw [dropSemicolons_concat_semicolon] at h
      exact (ih h).concat isFiller_semicolon
    · rw [dropSemicolons_concat hc] at h
      by_cases hblank : isBlank c = true
      · -- the blanks that go stand behind the semicolon that is left
        rw [List.rdropWhile_concat_pos _ _ _ hblank] at h
        obtain ⟨before, hbefore⟩ := List.getLast?_eq_some_iff.1 h
        refine ⟨before, cs.rtakeWhile isBlank ++ [c], [], ?_, by simp, ?_, nofun⟩
        · have hcs := List.rdropWhile_append_rtakeWhile (p := isBlank) (l := cs)
          rw [hbefore] at hcs
          nth_rewrite 1 [← hcs]
          simp
        · intro d hd
          rcases List.mem_append.1 hd with hd | hd
          · exact List.mem_rtakeWhile_imp hd
          · rwa [List.mem_singleton.1 hd]
      · rw [List.rdropWhile_concat_neg _ _ _ hblank, List.getLast?_concat] at h
        exact absurd (Option.some_inj.1 h) hc

/-- So does what all three leave. -/
theorem splitEnd_of_bareEnd (h : (bareEnd cs).getLast? = some ';') : SplitEnd cs := by
  induction cs using List.reverseRecOn with
  | nil => cases h
  | append_singleton cs c ih =>
    by_cases hblank : isBlank c = true
    · rw [bareEnd_concat_of_isBlank hblank] at h
      exact (ih h).concat (isFiller_of_isBlank hblank)
    · by_cases hc : c = ';'
      · subst hc
        rw [bareEnd_concat_semicolon] at h
        exact splitEnd_of_dropSemicolons h
      · -- nothing goes
        unfold bareEnd at h
        rw [List.rdropWhile_concat_neg _ _ _ hblank, dropSemicolons_concat hc,
          List.rdropWhile_concat_neg _ _ _ hblank, List.getLast?_concat] at h
        exact absurd (Option.some_inj.1 h) hc

/-- Fillers with a semicolon before them: when the blanks are gone, they end in a semicolon. -/
theorem getLast?_rdropWhile_of_fillers (before : List Char) (h : ∀ c ∈ after, isFiller c = true) :
    ((before ++ ';' :: after).rdropWhile isBlank).getLast? = some ';' := by
  induction after using List.reverseRecOn with
  | nil => rw [List.rdropWhile_concat_neg _ _ _ (by decide), List.getLast?_concat]
  | append_singleton after c ih =>
    have hmove : before ++ ';' :: (after ++ [c]) = (before ++ ';' :: after) ++ [c] := by simp
    rw [hmove]
    by_cases hblank : isBlank c = true
    · rw [List.rdropWhile_concat_pos _ _ _ hblank]
      exact ih fun d hd => h d (List.mem_append_left _ hd)
    · rw [List.rdropWhile_concat_neg _ _ _ hblank, List.getLast?_concat]
      exact congrArg some (eq_semicolon_of_isFiller (h c (by simp)) hblank)

/-- Blanks between semicolons end the second pass, and the first of these semicolons is left. -/
theorem getLast?_dropSemicolons_of_splitEnd (h : SplitEnd cs) :
    (dropSemicolons cs).getLast? = some ';' := by
  obtain ⟨before, blanks, after, rfl, hne, hblanks, hafter⟩ := h
  induction after using List.reverseRecOn with
  | nil =>
    have hmove : before ++ ';' :: (blanks ++ [';']) = (before ++ ';' :: blanks) ++ [';'] := by simp
    rw [hmove, dropSemicolons_concat_semicolon]
    obtain ⟨first, b, rfl⟩ := List.eq_nil_or_concat' blanks |>.resolve_left hne
    have hb : b ≠ ';' := by
      rintro rfl
      exact absurd (hblanks ';' (by simp)) (by decide)
    have hmove' : before ++ ';' :: (first ++ [b]) = (before ++ ';' :: first) ++ [b] := by simp
    rw [hmove', dropSemicolons_concat hb, ← hmove']
    exact getLast?_rdropWhile_of_fillers before fun c hc => isFiller_of_isBlank (hblanks c hc)
  | append_singleton after c ih =>
    have hmove : before ++ ';' :: (blanks ++ ';' :: (after ++ [c])) =
        (before ++ ';' :: (blanks ++ ';' :: after)) ++ [c] := by simp
    rw [hmove]
    by_cases hc : c = ';'
    · subst hc
      rw [dropSemicolons_concat_semicolon]
      exact ih fun d hd => hafter d (List.mem_append_left _ hd)
    · rw [dropSemicolons_concat hc, ← hmove]
      refine getLast?_rdropWhile_of_fillers before fun d hd => ?_
      rcases List.mem_append.1 hd with hd | hd
      · exact isFiller_of_isBlank (hblanks d hd)
      · rcases List.mem_cons.1 hd with rfl | hd
        · exact isFiller_semicolon
        · exact hafter d hd

/-- **All three passes leave a semicolon at the end exactly if blanks stood between semicolons
there.** -/
theorem getLast?_bareEnd_iff : (bareEnd cs).getLast? = some ';' ↔ SplitEnd cs := by
  refine ⟨splitEnd_of_bareEnd, fun h => ?_⟩
  induction cs using List.reverseRecOn with
  | nil =>
    obtain ⟨before, blanks, after, hcs, -⟩ := h
    simp at hcs
  | append_singleton cs c ih =>
    by_cases hc : c = ';'
    · -- the first pass changes nothing, the second takes away this semicolon
      subst hc
      have hsame : bareEnd (cs ++ [';']) = dropSemicolons (cs ++ [';']) :=
        bareEnd_concat_semicolon.trans dropSemicolons_concat_semicolon.symm
      rw [hsame]
      exact getLast?_dropSemicolons_of_splitEnd h
    · obtain ⟨hblank, hrest⟩ := h.of_concat hc
      rw [bareEnd_concat_of_isBlank hblank]
      exact ih hrest

/-! ## What is left -/

/-- The passes drop fillers only. -/
theorem dropFillers_bareEnd : dropFillers (bareEnd cs) = dropFillers cs := by
  have hsemicolon : ∀ c, (c == ';') = true → isFiller c = true := by
    intro c hc
    rw [beq_iff_eq.1 hc]
    exact isFiller_semicolon
  unfold dropFillers bareEnd dropSemicolons
  rw [rdropWhile_rdropWhile fun _ => isFiller_of_isBlank, rdropWhile_rdropWhile hsemicolon,
    rdropWhile_rdropWhile fun _ => isFiller_of_isBlank]

/-- What the passes leave does not end in a blank. -/
theorem not_isBlank_of_bareEnd (h : (bareEnd cs).getLast? = some c) : ¬ isBlank c = true :=
  not_of_getLast?_rdropWhile h

/-- **The passes leave no filler at the end** exactly if no blanks stood between semicolons there. -/
theorem bareEnd_eq_iff : bareEnd cs = dropFillers cs ↔ ¬ SplitEnd cs := by
  rw [← getLast?_bareEnd_iff]
  constructor
  · intro h hlast
    rw [h] at hlast
    exact not_of_getLast?_rdropWhile hlast isFiller_semicolon
  · intro hlast
    rw [← dropFillers_bareEnd]
    refine (List.rdropWhile_eq_self_iff.2 fun hne hfiller => hlast ?_).symm
    have hend := List.getLast?_eq_some_getLast hne
    rw [eq_semicolon_of_isFiller hfiller (not_isBlank_of_bareEnd hend)] at hend
    exact hend

/-- The passes leave at least what is before the fillers, and more where they leave a semicolon. -/
theorem length_dropFillers_le : (dropFillers cs).length ≤ (bareEnd cs).length := by
  rw [← dropFillers_bareEnd]
  exact (List.rdropWhile_prefix _ _).length_le

theorem length_dropFillers_lt (h : SplitEnd cs) :
    (dropFillers cs).length < (bareEnd cs).length := by
  refine lt_of_le_of_ne length_dropFillers_le fun heq => ?_
  rw [← dropFillers_bareEnd] at heq
  have hsame : dropFillers (bareEnd cs) = bareEnd cs := (List.rdropWhile_prefix _ _).eq_of_length heq
  rw [dropFillers_bareEnd] at hsame
  exact bareEnd_eq_iff.1 hsame.symm h

/-- Nothing is before the fillers exactly if there is nothing else. -/
theorem dropFillers_eq_nil_iff : dropFillers cs = [] ↔ ∀ c ∈ cs, isFiller c = true :=
  List.rdropWhile_eq_nil_iff

end Text

end Tablewright
