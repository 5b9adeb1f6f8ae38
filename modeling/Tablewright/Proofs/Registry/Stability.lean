import Tablewright.Proofs.Registry.CreationOrder
import Mathlib.Data.List.Lex

/-!
# The order of creation is stable

Where the waiting has no cycle, many orders put every model behind those it belongs to. The order of
creation is the one among them that stays closest to the given order: read as the places that its
models have in the given order, it is lexicographically least (`least_of_creationOrder`). The reason
is that a run always takes the first name that is ready, while any other order also begins with a
name that is ready, and so with that one or a later one (`eq_or_lt_of_arrange`). An order that is
good as it is given is not changed at all.
-/

namespace Tablewright

namespace Registry

open Relation

variable {pairs : List (String × String)} {pending order other names : List String} {name : String}

/-! ## Orders that respect the pairs -/

/-- Behind its first name an order respects the pairs. -/
theorem Respects.tail (hnd : (name :: order).Nodup) (h : Respects pairs (name :: order)) :
    Respects pairs order := by
  intro target other hpair ht ho
  have hfirst : ∀ behind ∈ order, name ≠ behind := by
    rintro behind hbehind rfl
    exact (List.nodup_cons.1 hnd).1 hbehind
  have hlt := h target other hpair (List.mem_cons_of_mem _ ht) (List.mem_cons_of_mem _ ho)
  rw [List.idxOf_cons_ne _ (hfirst target ht), List.idxOf_cons_ne _ (hfirst other ho)] at hlt
  exact Nat.lt_of_succ_lt_succ hlt

/-- **An order that respects the pairs begins with a name that is ready.** -/
theorem Respects.isReady_head (h : Respects pairs (name :: order))
    (hperm : (name :: order).Perm pending) : isReady pairs pending name = true := by
  rw [isReady_iff]
  intro target hpair hpending
  have hlt := h target name hpair (hperm.symm.subset hpending) List.mem_cons_self
  rw [List.idxOf_cons_self] at hlt
  exact Nat.not_lt_zero _ hlt

/-- The name that is taken next comes before all others that are ready. -/
theorem rank_lt_of_find? {rank : String → Nat}
    (hrank : pending.Pairwise fun a b => rank a < rank b)
    (hnext : pending.find? (isReady pairs pending) = some name) {later : String}
    (hlater : later ∈ pending) (hready : isReady pairs pending later = true)
    (hne : later ≠ name) : rank name < rank later := by
  obtain ⟨-, before, behind, hsplit, hunready⟩ := List.find?_eq_some_iff_append.1 hnext
  have hnot : later ∉ before := by
    intro hmem
    have hfalse := hunready later hmem
    rw [hready] at hfalse
    cases hfalse
  rw [hsplit] at hlater hrank
  have hbehind : later ∈ behind :=
    (List.mem_cons.1 ((List.mem_append.1 hlater).resolve_left hnot)).resolve_left hne
  exact (List.pairwise_cons.1 (List.pairwise_append.1 hrank).2.1).1 later hbehind

/-- **A run gives the least of all orders that respect the pairs**, by any ranks that rise along the
pending names. -/
theorem eq_or_lt_of_arrange {rank : String → Nat}
    (hrank : pending.Pairwise fun a b => rank a < rank b)
    (h : arrange pairs pending = some order) (hperm : other.Perm pending)
    (hother : Respects pairs other) : other = order ∨ order.map rank < other.map rank := by
  have hnd : pending.Nodup := hrank.imp fun {a b} hlt heq => by
    rw [heq] at hlt
    exact lt_irrefl _ hlt
  fun_induction arrange pairs pending generalizing order other with
  | case1 pending hempty =>
    rw [List.isEmpty_iff] at hempty
    subst hempty
    rw [← Option.some.inj h, hperm.eq_nil]
    exact .inl rfl
  | case2 pending _ _ => cases h
  | case3 pending _ next hnext ih =>
    obtain ⟨rest, hrest, rfl⟩ := Option.map_eq_some_iff.1 h
    cases other with
    | nil => exact absurd (hperm.symm.subset (ready_of_find? hnext).1) List.not_mem_nil
    | cons first others =>
      by_cases hfirst : first = next
      · -- both begin with the same name, and what follows decides
        subst hfirst
        have hothers : others.Perm (pending.erase first) :=
          (List.cons_perm_iff_perm_erase.1 hperm).2
        have hrespects := hother.tail (hperm.nodup_iff.2 hnd)
        rcases ih (hrank.sublist List.erase_sublist) hrest hothers hrespects
          (hnd.erase first) with rfl | hlt
        · exact .inl rfl
        · exact .inr (List.Lex.cons hlt)
      · exact .inr (List.Lex.rel (rank_lt_of_find? hrank hnext (hperm.subset List.mem_cons_self)
          (hother.isReady_head hperm) hfirst))

/-- **An order that respects the pairs is left as it is.** -/
theorem arrange_of_respects (hnd : pending.Nodup) (h : Respects pairs pending) :
    arrange pairs pending = some pending := by
  induction pending with
  | nil => simp [arrange]
  | cons name rest ih =>
    have hnext : (name :: rest).find? (isReady pairs (name :: rest)) = some name :=
      List.find?_cons_of_pos (h.isReady_head (List.Perm.refl _))
    have hsome : (name :: rest).isEmpty ≠ true := Bool.false_ne_true
    rw [arrange, if_neg hsome]
    split
    · rename_i hnone
      rw [hnext] at hnone
      cases hnone
    · rename_i found hfound
      obtain rfl := Option.some.inj (hnext.symm.trans hfound)
      rw [List.erase_cons_head, ih (List.nodup_cons.1 hnd).2 (h.tail hnd), Option.map_some]

/-! ## The order after a history -/

variable {history : List (String × List Relationship)}

/-- An order of the given models with every model behind those of them that it belongs to. -/
structure Arranges (history : List (String × List Relationship)) (names order : List String) :
    Prop where
  /-- It holds the given models. -/
  perm : order.Perm names
  /-- The first of every dependent pair comes before the second. -/
  behind : ∀ target name, Dependent history names target name →
    order.idxOf target < order.idxOf name

/-- The places that the models of an order have among the given ones. -/
def places (names order : List String) : List Nat :=
  order.map names.idxOf

/-- Distinct names have rising places. -/
theorem pairwise_idxOf (hnd : names.Nodup) :
    names.Pairwise fun a b => names.idxOf a < names.idxOf b := by
  rw [List.pairwise_iff_getElem]
  intro i j hi hj hij
  rw [hnd.idxOf_getElem, hnd.idxOf_getElem]
  exact hij

/-- An order with every model behind what it waits for respects the pairs of the waiting. -/
theorem Arranges.respects (h : Arranges history names order)
    (hpairs : Precedes pairs = (ofHistory history).Awaits names) : Respects pairs order := by
  intro target name hpair _ _
  rw [hpairs, awaits_ofHistory] at hpair
  exact h.behind target name hpair

/-- **The order of creation is stable**, after any history of registrations and for any distinct
names. It is found exactly when whatever the given models belong to can be looked for, so always
when that is a name. If no chain of dependent pairs leads back to where it began, it puts the first
of every dependent pair before the second, and every other order that does so comes after it, each
read as the places of its models among the given ones; names that are given in such an order stay
as they are. -/
theorem least_of_creationOrder (history : List (String × List Relationship))
    {names : List String} (hnd : names.Nodup)
    (hacyclic : ∀ name, ¬ TransGen (Dependent history names) name name) :
    ((∃ order, (ofHistory history).creationOrder names = .ok order) ↔
      (ofHistory history).Searchable names) ∧
    (LeadsToNames history → (ofHistory history).Searchable names) ∧
    ∀ order, (ofHistory history).creationOrder names = .ok order →
      Arranges history names order ∧
      (∀ other, Arranges history names other →
        other = order ∨ places names order < places names other) ∧
      (Arranges history names names → order = names) := by
  refine ⟨exists_creationOrder_iff, fun h => searchable_of_leadsToNames h names, ?_⟩
  intro order horder
  obtain ⟨pairs, hpairs, hfound⟩ := exists_pairs_of_creationOrder hnd horder
  have hrun : ∃ found, arrange pairs names = some found := by
    rw [← Option.isSome_iff_exists, arrange_isSome_iff hnd (mem_of_precedes hpairs), hpairs,
      awaits_ofHistory]
    exact hacyclic
  obtain ⟨found, hrun⟩ := hrun
  obtain rfl : found = order := by rw [← hfound, hrun, Option.getD_some]
  refine ⟨?_, fun other hother => ?_, fun hgiven => ?_⟩
  · obtain ⟨hperm, hbehind⟩ :=
      (creationOrder_spec hnd horder).1 (by rw [awaits_ofHistory]; exact hacyclic)
    rw [awaits_ofHistory] at hbehind
    exact ⟨hperm, hbehind⟩
  · exact eq_or_lt_of_arrange (pairwise_idxOf hnd) hrun hother.perm (hother.respects hpairs)
  · rw [arrange_of_respects hnd (hgiven.respects hpairs)] at hrun
    exact (Option.some.inj hrun).symm

/-- Registrations under which comments belong to posts and posts to users, while tags belong to
nothing. -/
def blogHistory : List (String × List Relationship) :=
  [("Comment", [{ kind := .belongsTo, target := .str "Post" }]),
   ("Post", [{ kind := .belongsTo, target := .str "User" },
    { kind := .hasMany, target := .str "Comment" }])]

/-- Of the four orders that are possible, the one in which the tags stay last is the least. -/
theorem least_of_blogHistory :
    ["Comment", "Post", "User", "Tag"].Nodup ∧
      (∀ name, ¬ TransGen (Dependent blogHistory ["Comment", "Post", "User", "Tag"]) name name) ∧
      (ofHistory blogHistory).creationOrder ["Comment", "Post", "User", "Tag"] =
        .ok ["User", "Post", "Comment", "Tag"] ∧
      ∀ other, Arranges blogHistory ["Comment", "Post", "User", "Tag"] other →
        other = ["User", "Post", "Comment", "Tag"] ∨
          [2, 1, 0, 3] < places ["Comment", "Post", "User", "Tag"] other := by
  have hnd : ["Comment", "Post", "User", "Tag"].Nodup := by decide
  have hacyclic : ∀ name, ¬ TransGen
      (Dependent blogHistory ["Comment", "Post", "User", "Tag"]) name name := by
    refine not_transGen_of_rank (["User", "Post", "Comment"].idxOf ·) ?_
    rintro target name ⟨-, -, -, call, hcall, rfl, rel, hrel, hkind, htarget⟩
    simp only [blogHistory, List.mem_cons, List.not_mem_nil, or_false] at hcall
    rcases hcall with rfl | rfl <;> simp at hrel
    · obtain rfl := hrel
      obtain rfl := Option.some.inj htarget
      decide
    · rcases hrel with rfl | rfl
      · obtain rfl := Option.some.inj htarget
        decide
      · cases hkind
  have horder : (ofHistory blogHistory).creationOrder ["Comment", "Post", "User", "Tag"] =
      .ok ["User", "Post", "Comment", "Tag"] := Fallible.eq_ok_of_toOption (by decide +kernel)
  exact ⟨hnd, hacyclic, horder,
    ((least_of_creationOrder blogHistory hnd hacyclic).2.2 _ horder).2.1⟩

end Registry

end Tablewright
