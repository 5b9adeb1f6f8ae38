import Tablewright.Named
import Mathlib.Data.List.Forall2
import Mathlib.Data.List.Induction
import Mathlib.Data.List.Nodup

/-!
# The laws of entries under names

Storing an entry touches its own name and no other; it adds a name at the end or none at all, so
names that were distinct stay distinct. Where names are distinct an entry is found exactly when it
is there. Two maps with related entries stay so when the same is done to both.
-/

namespace Tablewright

namespace Named

variable {α : Type} {m : Named α} {n k : String} {a b : α}

/-! ## Looking up -/

@[simp] theorem names_nil : names ([] : Named α) = [] := rfl

@[simp] theorem names_cons (e : String × α) (m : Named α) : names (e :: m) = e.1 :: names m := rfl

@[simp] theorem names_append (m m' : Named α) : names (m ++ m') = names m ++ names m' :=
  List.map_append

/-- The first entry is found under its own name, any other behind it. -/
theorem get?_cons (e : String × α) (m : Named α) :
    get? (e :: m) k = if e.1 = k then some e.2 else get? m k := by
  by_cases h : e.1 = k <;> simp [get?, h]

theorem has_iff_mem_names : m.has k = true ↔ k ∈ m.names := by
  simp [has, names]

theorem has_eq_false : m.has k = false ↔ k ∉ m.names := by
  rw [← has_iff_mem_names, Bool.not_eq_true]

/-- What is found under a name is an entry of that name. -/
theorem mem_of_get? (h : m.get? k = some a) : (k, a) ∈ m := by
  rw [get?, Option.map_eq_some_iff] at h
  obtain ⟨e, he, rfl⟩ := h
  have hk : e.1 = k := by simpa using List.find?_some he
  exact hk ▸ List.mem_of_find?_eq_some he

/-- What has an entry is a name. -/
theorem mem_names_of_get? (h : m.get? k = some a) : k ∈ m.names :=
  List.mem_map_of_mem (f := Prod.fst) (mem_of_get? h)

/-- A name has an entry. -/
theorem exists_get?_of_mem (h : k ∈ m.names) : ∃ a, m.get? k = some a := by
  obtain ⟨e, he, hk⟩ := List.mem_map.1 h
  rw [get?]
  cases hfound : m.find? fun e => e.1 == k with
  | none => exact absurd (List.find?_eq_none.1 hfound e he) (by simp [hk])
  | some found => exact ⟨found.2, rfl⟩

/-- Nothing is found under what is no name. -/
theorem get?_of_not_mem (h : k ∉ m.names) : m.get? k = none :=
  Option.eq_none_iff_forall_ne_some.2 fun _ ha => h (mem_names_of_get? ha)

/-- **Where names are distinct, every entry is found.** -/
theorem get?_of_mem (hnd : m.names.Nodup) (h : (k, a) ∈ m) : m.get? k = some a := by
  induction m with
  | nil => exact absurd h List.not_mem_nil
  | cons e m ih =>
    rw [names_cons, List.nodup_cons] at hnd
    rw [get?_cons]
    rcases List.mem_cons.1 h with rfl | h
    · rw [if_pos rfl]
    · have hne : e.1 ≠ k := fun he => hnd.1 (he ▸ List.mem_map_of_mem (f := Prod.fst) h)
      rw [if_neg hne, ih hnd.2 h]

/-- Looking up all names gives all entries, if no name is there twice. -/
theorem filterMap_get?_names (hnd : m.names.Nodup) :
    m.names.filterMap m.get? = m.map (·.2) := by
  rw [names, List.filterMap_map, ← List.filterMap_eq_map]
  refine List.filterMap_congr fun e he => ?_
  exact get?_of_mem hnd he

/-- In maps joined end to end the first is looked through first. -/
theorem get?_append (m m' : Named α) (k : String) :
    (m ++ m' : Named α).get? k = (m.get? k).or (m'.get? k) := by
  induction m with
  | nil => rfl
  | cons e m ih =>
    rw [List.cons_append, get?_cons, get?_cons, ih]
    by_cases h : e.1 = k
    · rw [if_pos h, if_pos h, Option.some_or]
    · rw [if_neg h, if_neg h]

/-- What is found among values that were all changed is the changed value. -/
theorem get?_map {β : Type} (f : α → β) (m : Named α) (k : String) :
    Named.get? (m.map fun e => (e.1, f e.2)) k = (m.get? k).map f := by
  induction m with
  | nil => rfl
  | cons e m ih =>
    rw [List.map_cons, get?_cons, get?_cons, ih]
    split <;> rfl

/-! ## Storing -/

/-- Storing under a new name adds an entry at the end. -/
theorem put_of_not_mem (h : n ∉ m.names) : m.put n a = m ++ [(n, a)] := by
  induction m with
  | nil => rfl
  | cons e m ih =>
    obtain ⟨k, b⟩ := e
    rw [names_cons, List.mem_cons, not_or] at h
    have hne : (k == n) = false := beq_eq_false_iff_ne.2 (Ne.symm h.1)
    simp only [put, hne, Bool.false_eq_true, if_false, List.cons_append, ih h.2]

/-- Storing under a name that is there changes no name. -/
theorem names_put_of_mem (h : n ∈ m.names) : (m.put n a).names = m.names := by
  induction m with
  | nil => exact absurd h List.not_mem_nil
  | cons e m ih =>
    obtain ⟨k, b⟩ := e
    by_cases hk : k = n
    · simp [put, hk]
    · have hn : n ∈ names m := (List.mem_cons.1 h).resolve_left (Ne.symm hk)
      simp [put, hk, ih hn]

/-- The names after storing: those from before, and the new one at the end. -/
theorem names_put (m : Named α) (n : String) (a : α) :
    (m.put n a).names = if n ∈ m.names then m.names else m.names ++ [n] := by
  by_cases h : n ∈ m.names
  · rw [if_pos h, names_put_of_mem h]
  · rw [if_neg h, put_of_not_mem h, names_append, names_cons, names_nil]

theorem mem_names_put : k ∈ (m.put n a).names ↔ k = n ∨ k ∈ m.names := by
  rw [names_put]
  by_cases h : n ∈ m.names
  · rw [if_pos h]
    exact ⟨Or.inr, fun hk => hk.elim (fun he => he ▸ h) id⟩
  · rw [if_neg h, List.mem_append, List.mem_singleton, or_comm]

/-- **Distinct names stay distinct.** -/
theorem nodup_names_put (h : m.names.Nodup) : (m.put n a).names.Nodup := by
  rw [names_put]
  by_cases hn : n ∈ m.names
  · rwa [if_pos hn]
  · rw [if_neg hn]
    exact List.nodup_append.2 ⟨h, List.nodup_singleton n, fun x hx y hy he =>
      hn (List.mem_singleton.1 hy ▸ he ▸ hx)⟩

/-- **Storing under a name touches that name only.** -/
theorem get?_put (m : Named α) (n k : String) (a : α) :
    (m.put n a).get? k = if n = k then some a else m.get? k := by
  induction m with
  | nil => rw [put, get?_cons]
  | cons e m ih =>
    obtain ⟨j, b⟩ := e
    by_cases hj : j = n
    · subst hj
      by_cases hk : j = k <;> simp [put, get?_cons, hk]
    · -- the first entry stays, so only the rest matters for other names
      rw [put, if_neg (by simpa using hj), get?_cons, get?_cons, ih]
      by_cases hk : j = k
      · subst hk; simp [Ne.symm hj]
      · simp [hk]

/-- An entry is the one that was stored or one from before. -/
theorem mem_put {e : String × α} (h : e ∈ m.put n a) : e = (n, a) ∨ e ∈ m := by
  induction m with
  | nil => exact Or.inl (List.mem_singleton.1 h)
  | cons d m ih =>
    obtain ⟨j, b⟩ := d
    by_cases hj : j = n
    · rw [put, if_pos (by simpa using hj), hj] at h
      exact (List.mem_cons.1 h).imp id (List.mem_cons_of_mem _)
    · rw [put, if_neg (by simpa using hj)] at h
      rcases List.mem_cons.1 h with rfl | h
      · exact Or.inr List.mem_cons_self
      · exact (ih h).imp id (List.mem_cons_of_mem _)

/-- Storing under a name that has an entry already, if only new names are stored, does nothing. -/
theorem putNew_of_mem (h : k ∈ m.names) : m.putNew k a = m := by
  rw [putNew, if_pos (has_iff_mem_names.2 h)]

theorem putNew_of_not_mem (h : k ∉ m.names) : m.putNew k a = m.put k a := by
  rw [putNew, has_eq_false.2 h, if_neg Bool.false_ne_true]

/-- Storing new names only leaves what is there as it is. -/
theorem get?_putNew (h : m.get? k = some b) : (m.putNew n a).get? k = some b := by
  by_cases hn : n ∈ m.names
  · rw [putNew_of_mem hn, h]
  · have hne : n ≠ k := fun he => hn (he ▸ mem_names_of_get? h)
    rw [putNew_of_not_mem hn, get?_put, if_neg hne, h]

/-- **Of pairs stored one after the other the last one of a name counts.** -/
theorem get?_union (m m' : Named α) (k : String) :
    (m.union m').get? k = (get? m'.reverse k).or (m.get? k) := by
  induction m' generalizing m with
  | nil => rfl
  | cons e m' ih =>
    have hstep : (m.put e.1 e.2).get? k = (get? [e] k).or (m.get? k) := by
      rw [get?_put, get?_cons]
      by_cases he : e.1 = k
      · rw [if_pos he, if_pos he, Option.some_or]
      · rw [if_neg he, if_neg he]
        rfl
    calc (m.union (e :: m')).get? k
        = (get? m'.reverse k).or ((m.put e.1 e.2).get? k) := ih (m.put e.1 e.2)
      _ = ((get? m'.reverse k).or (get? [e] k)).or (m.get? k) := by
          rw [hstep, Option.or_assoc]
      _ = (get? (e :: m').reverse k).or (m.get? k) := by
          rw [List.reverse_cons, get?_append]

/-- **Maps without a common name are joined end to end.** -/
theorem union_eq_append {m' : Named α} (h : (m ++ m').names.Nodup) : m.union m' = m ++ m' := by
  induction m' generalizing m with
  | nil => exact (List.append_nil m).symm
  | cons e m' ih =>
    have hnew : e.1 ∉ m.names := by
      rw [names_append, names_cons] at h
      exact fun he => (List.nodup_append.1 h).2.2 _ he _ List.mem_cons_self rfl
    have hput : m.put e.1 e.2 = m ++ [e] := put_of_not_mem hnew
    have hrest : ((m ++ [e]) ++ m').names.Nodup := by rwa [List.append_assoc, List.singleton_append]
    rw [union, List.foldl_cons, hput, ← union, ih hrest, List.append_assoc, List.singleton_append]

/-- Joining keeps distinct names distinct. -/
theorem nodup_names_union {m' : Named α} (h : m.names.Nodup) : (m.union m').names.Nodup := by
  induction m' generalizing m with
  | nil => exact h
  | cons e m' ih => exact ih (nodup_names_put h)

/-- Where names are distinct, the entries are what is found. -/
theorem mem_iff_get? (h : m.names.Nodup) : (k, a) ∈ m ↔ m.get? k = some a :=
  ⟨get?_of_mem h, mem_of_get?⟩

/-! ## Pairs stored one after the other -/

/-- **The names are those of the pairs**, each where it first came. -/
theorem names_ofPairs (pairs : List (String × α)) :
    (ofPairs pairs).names = (names pairs).eraseDups := by
  induction pairs using List.reverseRecOn with
  | nil => rfl
  | append_singleton pairs e ih =>
    have hput : ofPairs (pairs ++ [e]) = (ofPairs pairs).put e.1 e.2 := List.foldl_append
    rw [hput, names_put, ih, names_append, List.eraseDups_append]
    by_cases hthere : e.1 ∈ names pairs
    · have hnone : [e.1].removeAll (names pairs) = [] := by simp [List.removeAll, hthere]
      rw [if_pos (List.mem_eraseDups.2 hthere), names_cons, names_nil, hnone, List.eraseDups_nil,
        List.append_nil]
    · have hone : [e.1].removeAll (names pairs) = [e.1] := by simp [List.removeAll, hthere]
      rw [if_neg (mt List.mem_eraseDups.1 hthere), names_cons, names_nil, hone]
      rfl

theorem mem_names_ofPairs {pairs : List (String × α)} :
    k ∈ (ofPairs pairs).names ↔ k ∈ names pairs := by
  rw [names_ofPairs, List.mem_eraseDups]

/-- Where names are distinct, the pairs are the map. -/
theorem ofPairs_eq_self (h : m.names.Nodup) : ofPairs m = m :=
  (union_eq_append (m := []) h).trans (List.nil_append m)

/-- **The last pair of a name counts.** -/
theorem get?_ofPairs (pairs : List (String × α)) (k : String) :
    (ofPairs pairs).get? k = get? pairs.reverse k :=
  (get?_union [] pairs k).trans Option.or_none

/-! ## Removing -/

theorem names_erase (m : Named α) (n : String) :
    (m.erase n).names = m.names.filter fun k => !(k == n) := by
  rw [names, names, List.filter_map]
  rfl

/-- Removing what is no name does nothing. -/
theorem erase_of_not_mem (h : n ∉ m.names) : m.erase n = m :=
  List.filter_eq_self.2 fun e he => by
    have hne : e.1 ≠ n := fun heq => h (heq ▸ List.mem_map_of_mem (f := Prod.fst) he)
    simp [hne]

/-- Nothing is moved from what is no name. -/
theorem rename_of_not_mem (h : n ∉ m.names) : m.rename n k = m := by
  rw [rename, get?_of_not_mem h]

/-- Removing a name touches that name only. -/
theorem get?_erase (h : n ≠ k) : (m.erase n).get? k = m.get? k := by
  induction m with
  | nil => rfl
  | cons e m ih =>
    rw [get?_cons, ← ih, erase, erase, List.filter_cons]
    by_cases he : e.1 = n
    · rw [if_neg (by simp [he]), if_neg (he ▸ h)]
    · rw [if_pos (by simp [he]), get?_cons]

/-! ## Maps side by side -/

/-- Two maps have entries under the same names in the same order, each related to the other in the
way of its name. -/
def Related (R : String → α → α → Prop) : Named α → Named α → Prop :=
  List.Forall₂ fun e e' => e.1 = e'.1 ∧ R e.1 e.2 e'.2

section

variable {R : String → α → α → Prop} {m' : Named α}

theorem Related.refl (hR : ∀ k a, R k a a) (m : Named α) : Related R m m :=
  List.forall₂_same.2 fun e _ => ⟨rfl, hR e.1 e.2⟩

/-- Maps whose entries are equal are equal. -/
theorem Related.eq (h : Related (fun _ => Eq) m m') : m = m' := by
  refine List.forall₂_eq_eq_eq ▸ h.imp fun e e' he => ?_
  exact Prod.ext he.1 he.2

/-- **What is found is related.** -/
theorem Related.get? (h : Related R m m') (k : String) :
    (m.get? k = none ∧ m'.get? k = none) ∨
      ∃ a b, m.get? k = some a ∧ m'.get? k = some b ∧ R k a b := by
  induction h with
  | nil => exact Or.inl ⟨rfl, rfl⟩
  | cons he _ ih =>
    rw [get?_cons, get?_cons, ← he.1]
    split
    · rename_i hk
      exact Or.inr ⟨_, _, rfl, rfl, hk ▸ he.2⟩
    · exact ih

theorem Related.getOr (h : Related R m m') (hother : R k a a) :
    R k (m.getOr k a) (m'.getOr k a) := by
  rw [Named.getOr, Named.getOr]
  obtain ⟨hm, hm'⟩ | ⟨_, _, hm, hm', hab⟩ := h.get? k
  · rwa [hm, hm']
  · rwa [hm, hm']

/-- What is looked up by names whose entries are equal is equal. -/
theorem Related.get?_eq (h : Related R m m') (hk : R k = Eq) : m.get? k = m'.get? k := by
  obtain ⟨hm, hm'⟩ | ⟨_, _, hm, hm', hab⟩ := h.get? k
  · rw [hm, hm']
  · rw [hk] at hab
    rw [hm, hm', hab]

theorem Related.names_eq (h : Related R m m') : m.names = m'.names := by
  induction h with
  | nil => rfl
  | cons he _ ih => rw [names_cons, names_cons, he.1, ih]

theorem Related.put (h : Related R m m') (hab : R k a b) : Related R (m.put k a) (m'.put k b) := by
  induction h with
  | nil => exact .cons ⟨rfl, hab⟩ .nil
  | cons he hrest ih =>
    rw [Named.put, Named.put, ← he.1]
    split
    · rename_i hk
      exact .cons ⟨rfl, by rwa [eq_of_beq hk]⟩ hrest
    · exact .cons ⟨rfl, he.2⟩ ih

/-- **Related pairs stored over related maps.** -/
theorem Related.union {n n' : Named α} (h : Related R m m') (hn : Related R n n') :
    Related R (m.union n) (m'.union n') := by
  induction hn generalizing m m' with
  | nil => exact h
  | @cons e e' _ _ he _ ih =>
    obtain ⟨k, a⟩ := e
    obtain ⟨_, b⟩ := e'
    obtain ⟨rfl, hab⟩ := he
    exact ih (h.put hab)

theorem Related.ofPairs (h : Related R m m') : Related R (ofPairs m) (ofPairs m') :=
  Related.union .nil h

/-- Without a name, it does not matter how its entries were related. -/
theorem Related.erase {S : String → α → α → Prop} (h : Related R m m')
    (hRS : ∀ k a b, k ≠ n → R k a b → S k a b) : Related S (m.erase n) (m'.erase n) := by
  induction h with
  | nil => exact .nil
  | @cons e e' _ _ he _ ih =>
    rw [Named.erase, Named.erase, List.filter_cons, List.filter_cons, ← he.1]
    by_cases hn : e.1 = n
    · rw [if_neg (by simp [hn]), if_neg (by simp [hn])]
      exact ih
    · rw [if_pos (by simp [hn]), if_pos (by simp [hn])]
      exact .cons ⟨he.1, hRS _ _ _ hn he.2⟩ ih

/-- **An entry may be moved** to a name whose entries are related in the same way. -/
theorem Related.rename (h : Related R m m') (hR : ∀ a b, R n a b → R k a b) :
    Related R (m.rename n k) (m'.rename n k) := by
  have hhas : m.has k = m'.has k := by
    rw [Bool.eq_iff_iff, has_iff_mem_names, has_iff_mem_names, h.names_eq]
  rw [Named.rename, Named.rename, hhas]
  obtain ⟨hm, hm'⟩ | ⟨a, b, hm, hm', hab⟩ := h.get? n
  · rwa [hm, hm']
  · rw [hm, hm']
    cases m'.has k with
    | true => exact h
    | false => exact (h.erase fun _ _ _ _ h => h).put (hR a b hab)

end

/-! ## The last of every name -/

/-- The entries whose name no later one has. -/
def latest : Named α → Named α
  | [] => []
  | e :: m => if e.1 ∈ names m then latest m else e :: latest m

theorem latest_sublist (m : Named α) : (latest m).Sublist m := by
  induction m with
  | nil => exact .slnil
  | cons e m ih =>
    rw [latest]
    split
    · exact ih.cons e
    · exact ih.cons_cons e

/-- No name is left twice. -/
theorem nodup_names_latest (m : Named α) : (latest m).names.Nodup := by
  induction m with
  | nil => exact List.nodup_nil
  | cons e m ih =>
    rw [latest]
    split
    · exact ih
    · rename_i hlast
      rw [names_cons, List.nodup_cons]
      exact ⟨fun hthere => hlast (((latest_sublist m).map Prod.fst).subset hthere), ih⟩

/-- **All entries are left exactly if no name is there twice.** -/
theorem latest_eq_self_iff : latest m = m ↔ m.names.Nodup := by
  refine ⟨fun h => h ▸ nodup_names_latest m, fun hnd => ?_⟩
  induction m with
  | nil => rfl
  | cons e m ih =>
    rw [names_cons, List.nodup_cons] at hnd
    rw [latest, if_neg hnd.1, ih hnd.2]

/-- What is left under a name is what is found first from the end. -/
theorem get?_latest (m : Named α) (k : String) : (latest m).get? k = get? m.reverse k := by
  induction m with
  | nil => rfl
  | cons e m ih =>
    rw [List.reverse_cons, get?_append, latest, get?_cons]
    split
    · rename_i hthere
      rw [ih]
      -- the name of the first entry is found behind it
      by_cases hk : e.1 = k
      · have hlater : k ∈ names m.reverse := by
          rw [names, List.map_reverse, List.mem_reverse]
          exact hk ▸ hthere
        obtain ⟨a, ha⟩ := exists_get?_of_mem hlater
        rw [ha, Option.some_or]
      · rw [if_neg hk]
        exact Option.or_none.symm
    · rename_i hnew
      rw [get?_cons, ih]
      by_cases hk : e.1 = k
      · have hnone : get? m.reverse k = none := by
          rw [← ih]
          by_contra hsome
          obtain ⟨a, ha⟩ := Option.ne_none_iff_exists'.1 hsome
          exact hnew (hk ▸ ((latest_sublist m).map Prod.fst).subset (mem_names_of_get? ha))
        rw [if_pos hk, if_pos hk, hnone, Option.none_or]
      · rw [if_neg hk, if_neg hk]
        exact Option.or_none.symm

/-- **Of pairs stored one after the other the last of every name is left**, in some order. -/
theorem perm_latest (m : Named α) : (union [] m).Perm (latest m) := by
  have hnd : (union [] m).names.Nodup := nodup_names_union List.nodup_nil
  have hlatest : (latest m).names.Nodup := nodup_names_latest m
  rw [List.perm_ext_iff_of_nodup (.of_map _ hnd) (.of_map _ hlatest)]
  rintro ⟨k, a⟩
  rw [mem_iff_get? hnd, mem_iff_get? hlatest, get?_latest, get?_union]
  exact Iff.of_eq (congrArg (· = some a) Option.or_none)

end Named

end Tablewright
