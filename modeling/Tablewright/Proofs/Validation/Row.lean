import Tablewright.Proofs.Fallible
import Tablewright.Validation.Row

/-!
# What a checked row holds

A row is let through exactly if nothing is wrong with any value in a column
(`validateRow_eq_ok`). Keys that name no column are not looked at.
-/

namespace Tablewright

open Fallible

variable {columns : Named Column} {e : Value × Value} {row : Mapping} {model : String}

/-- Nothing is wrong with the value of an entry, if its key names a column. -/
def PassesCheck (columns : Named Column) (e : Value × Value) : Prop :=
  ∀ c, e.1.text?.bind columns.get? = some c → checkValue e.2 c = .ok []

theorem checkEntry_eq_none : checkEntry columns e = .ok none ↔ PassesCheck columns e := by
  unfold checkEntry PassesCheck
  cases e.1.text?.bind columns.get? with
  | none => exact iff_of_true rfl nofun
  | some c =>
    simp only [Option.some.injEq, forall_eq', bind_eq_ok]
    constructor
    · rintro ⟨problems, hproblems, h⟩
      split at h
      · rename_i hempty
        rw [hproblems, List.isEmpty_iff.1 hempty]
      · obtain ⟨texts, -, h⟩ := bind_eq_ok.1 h
        cases pure_eq_ok.1 h
    · intro hnone
      exact ⟨[], hnone, rfl⟩

/-- **A row is let through exactly if nothing is wrong with any of its entries.** -/
theorem validateRow_eq_ok {u : Unit} :
    validateRow model columns (.dict row) = .ok u ↔ ∀ e ∈ row, PassesCheck columns e := by
  have hvalidate : validateRow model columns (.dict row) = .ok u ↔
      ∃ found, row.mapM (checkEntry columns) = .ok found ∧ found.filterMap id = [] := by
    change (row.mapM (checkEntry columns) >>= fun found => _) = _ ↔ _
    rw [bind_eq_ok]
    refine exists_congr fun found => and_congr_right fun _ => ?_
    rw [← List.isEmpty_iff]
    split
    · rename_i hempty
      exact ⟨fun _ => hempty, fun _ => rfl⟩
    · rename_i hsome
      exact ⟨nofun, fun hempty => absurd hempty hsome⟩
  rw [hvalidate]
  constructor
  · rintro ⟨found, hfound, hnone⟩ e he
    obtain ⟨entry, hentry, hcheck⟩ := mem_mapM_of_mem hfound he
    obtain rfl : entry = none := List.filterMap_eq_nil_iff.1 hnone entry hentry
    exact checkEntry_eq_none.1 hcheck
  · intro hall
    refine ⟨row.map fun _ => none, mapM_eq_ok.2 ?_, ?_⟩
    · rw [List.forall₂_map_right_iff, List.forall₂_same]
      exact fun e he => checkEntry_eq_none.2 (hall e he)
    · rw [List.filterMap_map]
      exact List.filterMap_eq_nil_iff.2 fun _ _ => rfl

end Tablewright
