import Tablewright.Value.Access
import Tablewright.Value.Membership
import Tablewright.Proofs.Fallible

/-!
# Texts as keys, values as conditions

A text equals the texts of the same characters and nothing else, whichever kind of text it is, so a
text that is looked up is found exactly where it was put. What else a mapping or a set holds makes
no difference. A value that answers for a condition gives the same answer each time.
-/

namespace Tablewright

namespace Value

variable {v w k : Value} {s : String} {vs : List Value}

/-- There are two kinds of texts. -/
theorem eq_str_or_eq_scalar_of_text? (h : v.text? = some s) :
    v = .str s ∨ v = .scalar (.text s) := by
  cases v with
  | str t => exact Or.inl (by simpa [text?] using h)
  | scalar c =>
    cases c with
    | text t => exact Or.inr (by simpa [text?] using h)
    | _ => simp [text?] at h
  | _ => simp [text?] at h

/-- A text shows as it is. -/
theorem display_of_text? (h : v.text? = some s) : v.display = s := by
  rcases eq_str_or_eq_scalar_of_text? h with rfl | rfl <;> rfl

/-- **A text equals the texts of the same characters and nothing else.** -/
theorem same_iff_of_text? (h : v.text? = some s) : v.same w = true ↔ w.text? = some s := by
  have hsame : v.same w = w.text?.any (s == ·) := by
    rcases eq_str_or_eq_scalar_of_text? h with rfl | rfl <;>
      simp only [same, sameAtom, quantities?, quantity?, Option.bind_eq_bind, Option.bind_none,
        text?, bytes?]
    · cases w with
      | scalar c => cases c <;> rfl
      | _ => rfl
    · cases w with
      | scalar c => cases c <;> rfl
      | _ => rfl
  rw [hsame]
  cases w.text? with
  | some t => rw [Option.any_some, beq_iff_eq, Option.some_inj, eq_comm]
  | none => simp

/-- The same with the text on the other side. -/
theorem same_str_iff (v : Value) : v.same (.str s) = true ↔ v.text? = some s := by
  cases htext : v.text? with
  | some t => rw [same_iff_of_text? htext, text?, Option.some_inj, Option.some_inj, eq_comm]
  | none =>
    -- a number or a text of bytes equals no text
    have hquantities : quantities? v (.str s) = none := by
      cases v.quantity? <;> simp [quantities?, quantity?]
    have hatom : sameAtom v (.str s) = false := by
      simp only [sameAtom, hquantities, htext]
      cases v <;> simp [bytes?]
    cases v <;> simp [same, hatom]

/-- A text is equalled by the texts of the same characters and by nothing else. -/
theorem same_iff_of_text?_right (h : w.text? = some s) : v.same w = true ↔ v.text? = some s := by
  rcases eq_str_or_eq_scalar_of_text? h with rfl | rfl
  · exact same_str_iff v
  · cases htext : v.text? with
    | some t => rw [same_iff_of_text? htext, text?, Option.some_inj, Option.some_inj, eq_comm]
    | none =>
      have hquantities : quantities? v (.scalar (.text s)) = none := by
        cases v.quantity? <;> simp [quantities?, quantity?]
      have hatom : sameAtom v (.scalar (.text s)) = false := by
        simp only [sameAtom, hquantities, htext]
        cases v <;> simp [bytes?]
      cases v <;> simp [same, hatom]

/-- A text may be a key. -/
theorem isHashable_of_text? (h : v.text? = some s) : v.isHashable = true := by
  rcases eq_str_or_eq_scalar_of_text? h with rfl | rfl <;> simp only [isHashable]

theorem asKey_of_text? (h : v.text? = some s) : v.asKey = .ok v := by
  rw [asKey, if_pos (isHashable_of_text? h)]
  rfl

/-- A key is the value it was made of. -/
theorem eq_of_asKey (h : v.asKey = .ok k) : k = v := by
  rw [asKey] at h
  split at h
  · exact (Except.ok.inj h).symm
  · cases h

theorem memberKey_of_text? (h : v.text? = some s) : v.memberKey = .ok v := by
  rcases eq_str_or_eq_scalar_of_text? h with rfl | rfl <;> exact asKey_of_text? rfl

/-- What is looked up in a set is a text exactly when the value is one. -/
theorem text?_of_memberKey (h : v.memberKey = .ok k) : k.text? = v.text? := by
  cases v with
  | set frozen items =>
    rw [memberKey] at h
    rw [← Except.ok.inj h]
    rfl
  | _ => rw [eq_of_asKey h]

theorem asText_eq_ok : v.asText = .ok s ↔ v.text? = some s := by
  rw [asText]
  cases v.text? with
  | some t => exact Fallible.pure_eq_ok.trans Option.some_inj.symm
  | none => exact ⟨nofun, nofun⟩

/-- What has the abilities of a text is one. -/
theorem text?_of_abilityText (h : v.abilityText = .ok s) : v.text? = some s := by
  unfold abilityText at h
  split at h
  · rename_i t ht
    rw [ht, Fallible.pure_eq_ok.1 h]
  · split at h <;> cases h

/-- A text has the abilities of one. -/
theorem abilityText_of_text? (h : v.text? = some s) : v.abilityText = .ok s := by
  unfold abilityText
  split
  · rename_i t ht
    rw [Option.some_inj.1 (ht.symm.trans h)]
    rfl
  · rename_i ht
    exact absurd (ht.symm.trans h) nofun

/-- The answer a value gives for a condition, if it gives one. -/
theorem truth_eq_ok {b : Bool} : v.truth = .ok b ↔ v.hasTruth = true ∧ v.truthy = b := by
  rw [truth]
  by_cases h : v.hasTruth = true
  · rw [if_pos h, Fallible.pure_eq_ok]
    exact ⟨fun hb => ⟨h, hb⟩, And.right⟩
  · rw [if_neg h]
    exact ⟨nofun, fun hb => absurd hb.1 h⟩

theorem truth_of_hasTruth (h : v.hasTruth = true) : v.truth = .ok v.truthy :=
  truth_eq_ok.2 ⟨h, rfl⟩

/-! ## Values without repetitions -/

/-- The values kept so far, and one more unless it equals one of them. -/
def keepNew (seen : List Value) (v : Value) : List Value :=
  if seen.any (v.same ·) then seen else seen ++ [v]

/-- What is kept was kept before or is the new value. -/
theorem mem_of_mem_keepNew {seen : List Value} (h : v ∈ keepNew seen w) : v ∈ seen ∨ v = w := by
  rw [keepNew] at h
  split at h
  · exact Or.inl h
  · exact (List.mem_append.1 h).imp id List.mem_singleton.1

/-- What was kept stays. -/
theorem subset_keepNew (seen : List Value) (v : Value) : seen ⊆ keepNew seen v := by
  rw [keepNew]
  split
  · exact fun _ h => h
  · exact List.subset_append_left seen [v]

/-- A text is kept, unless one that equals it is kept already. -/
theorem exists_text?_mem_keepNew (seen : List Value) (h : v.text? = some s) :
    ∃ w ∈ keepNew seen v, w.text? = some s := by
  by_cases hany : seen.any (v.same ·) = true
  · obtain ⟨w, hw, hsame⟩ := List.any_eq_true.1 hany
    exact ⟨w, subset_keepNew seen v hw, (same_iff_of_text? h).1 hsame⟩
  · refine ⟨v, ?_, h⟩
    rw [keepNew, if_neg hany]
    exact List.mem_append_right _ (List.mem_singleton.2 rfl)

/-- Where no kept value equals one before it, none does after one more. -/
theorem pairwise_keepNew {seen : List Value} (h : seen.Pairwise fun v w => w.same v = false)
    (v : Value) : (keepNew seen v).Pairwise fun v w => w.same v = false := by
  rw [keepNew]
  split
  · exact h
  · rename_i hnew
    refine List.pairwise_append.2 ⟨h, List.pairwise_singleton _ _, fun w hw u hu => ?_⟩
    obtain rfl := List.mem_singleton.1 hu
    exact Bool.eq_false_iff.2 fun hsame => hnew (List.any_eq_true.2 ⟨w, hw, hsame⟩)

/-- After a run over some values, what is kept was kept before or is one of them. -/
theorem mem_of_mem_foldl_keepNew {seen : List Value} (h : v ∈ vs.foldl keepNew seen) :
    v ∈ seen ∨ v ∈ vs := by
  induction vs generalizing seen with
  | nil => exact Or.inl h
  | cons w vs ih =>
    rcases ih h with h | h
    · rcases mem_of_mem_keepNew h with h | rfl
      · exact Or.inl h
      · exact Or.inr List.mem_cons_self
    · exact Or.inr (List.mem_cons_of_mem _ h)

/-- After a run over some values, every text among them is kept, and so is every text that was kept
before. -/
theorem exists_text?_mem_foldl_keepNew {seen : List Value}
    (h : (∃ v ∈ seen, v.text? = some s) ∨ ∃ v ∈ vs, v.text? = some s) :
    ∃ v ∈ vs.foldl keepNew seen, v.text? = some s := by
  induction vs generalizing seen with
  | nil => exact h.resolve_right fun ⟨v, hv, _⟩ => List.not_mem_nil hv
  | cons w vs ih =>
    apply ih
    rcases h with ⟨v, hv, hs⟩ | ⟨v, hv, hs⟩
    · exact Or.inl ⟨v, subset_keepNew seen w hv, hs⟩
    · rcases List.mem_cons.1 hv with rfl | hv
      · exact Or.inl (exists_text?_mem_keepNew seen hs)
      · exact Or.inr ⟨v, hv, hs⟩

/-- A run over some values keeps what was kept before. -/
theorem subset_foldl_keepNew (vs seen : List Value) : seen ⊆ vs.foldl keepNew seen := by
  induction vs generalizing seen with
  | nil => exact fun _ h => h
  | cons w vs ih => exact fun _ h => ih _ (subset_keepNew seen w h)

/-- After a run over some values, each of them is kept or equals what is. -/
theorem mem_or_same_foldl_keepNew {seen : List Value} (h : v ∈ vs) :
    v ∈ vs.foldl keepNew seen ∨ ∃ w ∈ vs.foldl keepNew seen, v.same w = true := by
  induction vs generalizing seen with
  | nil => cases h
  | cons w vs ih =>
    rcases List.mem_cons.1 h with rfl | h
    · by_cases hany : seen.any (v.same ·) = true
      · obtain ⟨w, hw, hsame⟩ := List.any_eq_true.1 hany
        exact Or.inr ⟨w, subset_foldl_keepNew vs _ (subset_keepNew seen v hw), hsame⟩
      · refine Or.inl (subset_foldl_keepNew vs _ ?_)
        rw [keepNew, if_neg hany]
        exact List.mem_append_right _ (List.mem_singleton_self v)
    · exact ih h

/-- No distinct value equals one before it. -/
theorem pairwise_distinct (vs : List Value) :
    (distinct vs).Pairwise fun v w => w.same v = false := by
  have hrun : ∀ seen : List Value, seen.Pairwise (fun v w => w.same v = false) →
      (vs.foldl keepNew seen).Pairwise fun v w => w.same v = false := by
    induction vs with
    | nil => exact fun _ h => h
    | cons v vs ih => exact fun _ h => ih _ (pairwise_keepNew h v)
  exact hrun [] List.Pairwise.nil

/-- What is among the distinct values was among the values. -/
theorem mem_of_mem_distinct (h : v ∈ distinct vs) : v ∈ vs := by
  have hkept : v ∈ vs.foldl keepNew [] := h
  exact (mem_of_mem_foldl_keepNew hkept).resolve_left List.not_mem_nil

/-- What is left out equals what is kept. -/
theorem mem_distinct_or_same (h : v ∈ vs) :
    v ∈ distinct vs ∨ ∃ w ∈ distinct vs, v.same w = true :=
  mem_or_same_foldl_keepNew h

/-- **No text is lost** when repetitions are left out. -/
theorem exists_text?_mem_distinct :
    (∃ v ∈ distinct vs, v.text? = some s) ↔ ∃ v ∈ vs, v.text? = some s := by
  constructor
  · rintro ⟨v, hv, hs⟩
    exact ⟨v, mem_of_mem_distinct hv, hs⟩
  · intro h
    exact exists_text?_mem_foldl_keepNew (Or.inr h)

end Value

/-- What a mapping holds after a value is stored under a text: what it held, and that value under
the same text. -/
theorem Mapping.mem_put {m : Mapping} {s : String} {v : Value} {e : Value × Value}
    (h : e ∈ m.put (.str s) v) : e ∈ m ∨ e.1.text? = some s ∧ e.2 = v := by
  induction m with
  | nil =>
    obtain rfl := List.mem_singleton.1 h
    exact .inr ⟨rfl, rfl⟩
  | cons first rest ih =>
    unfold put at h
    split at h
    case isTrue hsame =>
      rcases List.mem_cons.1 h with rfl | h
      · exact .inr ⟨(Value.same_iff_of_text? rfl).1 hsame, rfl⟩
      · exact .inl (List.mem_cons_of_mem _ h)
    case isFalse =>
      rcases List.mem_cons.1 h with rfl | h
      · exact .inl List.mem_cons_self
      · exact (ih h).imp_left (List.mem_cons_of_mem _)

end Tablewright
