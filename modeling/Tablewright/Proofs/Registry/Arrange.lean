import Tablewright.Registry
import Mathlib.Data.Fintype.Card
import Mathlib.Data.List.Nodup
import Mathlib.Data.Set.Finite.List
import Mathlib.Logic.Relation
import Mathlib.Order.WellFounded

/-!
# Arranging names by pairs

`arrange` takes one ready name after the other until none is pending. One step takes a name that
nothing pending must precede (`isReady_iff`); so a whole run gives the pending names in an order
that respects the pairs (`perm_of_arrange`, `respects_of_arrange`). It stops early only where every
name that is left waits for another one that is left (`exists_stuck_of_arrange`), and among finitely
many names that is a cycle (`exists_cycle_of_stuck`). Hence a run is complete exactly when the pairs
have no cycle (`arrange_isSome_iff`).
-/

namespace Tablewright

namespace Registry

open Relation

variable {pairs : List (String × String)} {pending order : List String} {name : String}

/-- One name must come before another. -/
def Precedes (pairs : List (String × String)) (target name : String) : Prop :=
  (target, name) ∈ pairs

/-- **An order respects the pairs**: of two names in it, the one that must come first does. -/
def Respects (pairs : List (String × String)) (order : List String) : Prop :=
  ∀ target name, Precedes pairs target name → target ∈ order → name ∈ order →
    order.idxOf target < order.idxOf name

/-! ## One step -/

/-- A name is ready when nothing that must precede it is pending. -/
theorem isReady_iff :
    isReady pairs pending name = true ↔
      ∀ target, Precedes pairs target name → target ∉ pending := by
  rw [isReady, Bool.not_eq_true', List.any_eq_false]
  constructor
  · intro h target hpair hmem
    exact h (target, name) hpair (by simpa using hmem)
  · rintro h ⟨target, other⟩ hpair hboth
    simp only [Bool.and_eq_true, beq_iff_eq, List.contains_iff_mem] at hboth
    obtain ⟨rfl, hmem⟩ := hboth
    exact h target hpair hmem

/-- The name that is taken next is pending, and nothing pending must precede it. -/
theorem ready_of_find? (h : pending.find? (isReady pairs pending) = some name) :
    name ∈ pending ∧ ∀ target, Precedes pairs target name → target ∉ pending :=
  ⟨List.mem_of_find?_eq_some h, isReady_iff.1 (List.find?_some h)⟩

/-! ## A whole run -/

/-- **Nothing is lost and nothing is made up.** -/
theorem perm_of_arrange (h : arrange pairs pending = some order) : order.Perm pending := by
  fun_induction arrange pairs pending generalizing order with
  | case1 pending hempty =>
    rw [List.isEmpty_iff] at hempty
    rw [← Option.some.inj h, hempty]
  | case2 pending _ _ => cases h
  | case3 pending _ name hnext ih =>
    obtain ⟨rest, hrest, rfl⟩ := Option.map_eq_some_iff.1 h
    exact ((ih hrest).cons name).trans (List.perm_cons_erase (ready_of_find? hnext).1).symm

/-- **A run respects the pairs.** The name taken first must come after nothing that is pending, and
what it must come before is taken later. -/
theorem respects_of_arrange (hnd : pending.Nodup) (h : arrange pairs pending = some order) :
    Respects pairs order := by
  fun_induction arrange pairs pending generalizing order with
  | case1 pending _ =>
    rw [← Option.some.inj h]
    exact fun _ _ _ ht _ => absurd ht List.not_mem_nil
  | case2 pending _ _ => cases h
  | case3 pending _ next hnext ih =>
    obtain ⟨rest, hrest, rfl⟩ := Option.map_eq_some_iff.1 h
    obtain ⟨hmem, hready⟩ := ready_of_find? hnext
    have hperm : rest.Perm (pending.erase next) := perm_of_arrange hrest
    intro target name hpair ht hn
    -- nothing pending must precede the next name, so it is not the second of a pair
    have hne : name ≠ next := by
      rintro rfl
      have htp : target ∈ name :: pending.erase name := (hperm.cons name).subset ht
      exact hready target hpair ((List.perm_cons_erase hmem).symm.subset htp)
    have hn' : name ∈ rest := (List.mem_cons.1 hn).resolve_left hne
    rcases List.mem_cons.1 ht with rfl | ht'
    · rw [List.idxOf_cons_self, List.idxOf_cons_ne _ hne.symm]
      exact Nat.succ_pos _
    · have hnt : target ≠ next := by
        rintro rfl
        exact hnd.not_mem_erase (hperm.subset ht')
      rw [List.idxOf_cons_ne _ hnt.symm, List.idxOf_cons_ne _ hne.symm]
      exact Nat.succ_lt_succ (ih (hnd.erase next) hrest target name hpair ht' hn')

/-- **A run that stops early leaves names that wait for each other.** -/
theorem exists_stuck_of_arrange (h : arrange pairs pending = none) :
    ∃ stuck, stuck ≠ [] ∧ stuck ⊆ pending ∧
      ∀ name ∈ stuck, ∃ target ∈ stuck, Precedes pairs target name := by
  fun_induction arrange pairs pending with
  | case1 pending _ => cases h
  | case2 pending hne hnone =>
    -- here the run stops, and it is the pending names that wait
    refine ⟨pending, by simpa [List.isEmpty_iff] using hne, List.Subset.refl _, fun name hn => ?_⟩
    have hnot : ¬ isReady pairs pending name = true := List.find?_eq_none.1 hnone name hn
    rw [isReady_iff] at hnot
    push Not at hnot
    obtain ⟨target, hpair, hmem⟩ := hnot
    exact ⟨target, hmem, hpair⟩
  | case3 pending _ next _ ih =>
    obtain ⟨stuck, hne, hsub, hwait⟩ := ih (Option.map_eq_none_iff.1 h)
    exact ⟨stuck, hne, fun name hn => List.mem_of_mem_erase (hsub hn), hwait⟩

/-! ## Cycles -/

/-- **Finitely many names that wait for each other hold a cycle**: without one, one of them would
come before all that lead to it. -/
theorem exists_cycle_of_stuck {stuck : List String} (hne : stuck ≠ [])
    (hwait : ∀ name ∈ stuck, ∃ target ∈ stuck, Precedes pairs target name) :
    ∃ name, TransGen (Precedes pairs) name name := by
  by_contra hacyclic
  push Not at hacyclic
  -- leading to is then a strict order on finitely many names, and one of them is least
  let before : {name // name ∈ stuck} → {name // name ∈ stuck} → Prop :=
    fun a b => TransGen (Precedes pairs) a.1 b.1
  have : Finite {name // name ∈ stuck} := List.finite_toSet stuck
  have : IsTrans _ before := ⟨fun _ _ _ hab hbc => hab.trans hbc⟩
  have : Std.Irrefl before := ⟨fun a h => hacyclic a.1 h⟩
  have hwf : WellFounded before := Finite.wellFounded_of_trans_of_irrefl before
  obtain ⟨first, hfirst⟩ := List.exists_mem_of_ne_nil stuck hne
  obtain ⟨least, -, hleast⟩ := hwf.has_min Set.univ ⟨⟨first, hfirst⟩, trivial⟩
  obtain ⟨target, ht, hpair⟩ := hwait least.1 least.2
  exact hleast ⟨target, ht⟩ trivial (TransGen.single hpair)

/-- In an order that respects the pairs a way along them only leads forward. -/
theorem Respects.idxOf_lt (h : Respects pairs order)
    (hmem : ∀ target name, Precedes pairs target name → target ∈ order ∧ name ∈ order)
    {a b : String} (hab : TransGen (Precedes pairs) a b) : order.idxOf a < order.idxOf b := by
  induction hab with
  | single hpair => exact h _ _ hpair (hmem _ _ hpair).1 (hmem _ _ hpair).2
  | tail _ hpair ih => exact lt_trans ih (h _ _ hpair (hmem _ _ hpair).1 (hmem _ _ hpair).2)

/-- **A run is complete exactly when the pairs have no cycle.** -/
theorem arrange_isSome_iff (hnd : pending.Nodup)
    (hmem : ∀ target name, Precedes pairs target name → target ∈ pending ∧ name ∈ pending) :
    (arrange pairs pending).isSome ↔ ∀ name, ¬ TransGen (Precedes pairs) name name := by
  constructor
  · intro hsome name hcycle
    obtain ⟨order, horder⟩ := Option.isSome_iff_exists.1 hsome
    have hperm : order.Perm pending := perm_of_arrange horder
    have hsub : pending ⊆ order := hperm.symm.subset
    have hlt := (respects_of_arrange hnd horder).idxOf_lt
      (fun t n hpair => (hmem t n hpair).imp (fun ht => hsub ht) fun hn => hsub hn) hcycle
    exact absurd hlt (lt_irrefl _)
  · intro hacyclic
    by_contra hnone
    rw [Option.not_isSome_iff_eq_none] at hnone
    obtain ⟨stuck, hne, -, hwait⟩ := exists_stuck_of_arrange hnone
    obtain ⟨name, hcycle⟩ := exists_cycle_of_stuck hne hwait
    exact hacyclic name hcycle

end Registry

end Tablewright
