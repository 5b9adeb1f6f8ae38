import Tablewright.Proofs.Session.Rows

/-!
# Keys as columns

The keys of a row or a condition are attributes or columns, and before a request is made of it each
key is exchanged for the column that it stands for (`ResolvedModel.columnValues`). Two keys may
stand for one column; then the entries meet in one, in the place of the first and with the value of
the last. This loses an entry whenever it happens, and only then (`Mapping.length_ofPairs_eq_iff`).
-/

namespace Tablewright

open Fallible

/-! ## Mappings made of pairs -/

namespace Mapping

variable {m : Mapping} {key value : Value} {pairs : List (Value × Value)}

/-- No key equals one before it. -/
def Unrepeated (pairs : List (Value × Value)) : Prop :=
  pairs.Pairwise fun e e' => e'.1.same e.1 = false

/-- A new key is put behind the others. -/
theorem put_of_new (h : m.hasKey key = false) : m.put key value = m ++ [(key, value)] := by
  induction m with
  | nil => rfl
  | cons first rest ih =>
    obtain ⟨hfirst, hrest⟩ := Bool.or_eq_false_iff.1 h
    rw [put, if_neg (Bool.eq_false_iff.1 hfirst), ih hrest, List.cons_append]

/-- A key that is there stays what it is. -/
theorem keys_put_of_hasKey (h : m.hasKey key = true) :
    (m.put key value).map Prod.fst = m.map Prod.fst := by
  induction m with
  | nil => cases h
  | cons first rest ih =>
    unfold put
    split
    · rfl
    · rename_i hfirst
      rw [hasKey, List.any_cons, Bool.eq_false_iff.2 hfirst, Bool.false_or] at h
      rw [List.map_cons, ih h, List.map_cons]

/-- **The key of a stored value is kept** unless an equal one is there. -/
theorem keys_put (m : Mapping) (key value : Value) :
    (m.put key value).map Prod.fst = Value.keepNew (m.map Prod.fst) key := by
  have hany : (m.map Prod.fst).any (key.same ·) = m.hasKey key := List.any_map
  rw [Value.keepNew, hany]
  cases h : m.hasKey key with
  | false => rw [put_of_new h, List.map_append, if_neg Bool.false_ne_true, List.map_singleton]
  | true => rw [keys_put_of_hasKey h, if_pos rfl]

/-- **The keys of a mapping made of pairs are theirs**, without repetitions. -/
theorem keys_ofPairs (pairs : List (Value × Value)) :
    (ofPairs pairs).map Prod.fst = Value.distinct (pairs.map Prod.fst) := by
  have hrun : ∀ m : Mapping, (pairs.foldl (fun m e => m.put e.1 e.2) m).map Prod.fst =
      (pairs.map Prod.fst).foldl Value.keepNew (m.map Prod.fst) := by
    induction pairs with
    | nil => exact fun _ => rfl
    | cons e pairs ih =>
      intro m
      rw [List.foldl_cons, ih, keys_put]
      rfl
  exact hrun []

theorem keys_ofPairs_subset (pairs : List (Value × Value)) :
    (ofPairs pairs).map Prod.fst ⊆ pairs.map Prod.fst := by
  rw [keys_ofPairs]
  exact fun _ hk => Value.mem_of_mem_distinct hk

/-- Whether keys are repeated does not depend on the values. -/
theorem unrepeated_iff_keys :
    Unrepeated m ↔ (m.map Prod.fst).Pairwise fun k k' => k'.same k = false := by
  rw [List.pairwise_map]
  rfl

/-- Storing a value repeats no key. -/
theorem unrepeated_put (h : Unrepeated m) (key value : Value) : Unrepeated (m.put key value) := by
  rw [unrepeated_iff_keys, keys_put]
  exact Value.pairwise_keepNew (unrepeated_iff_keys.1 h) key

theorem unrepeated_ofPairs (pairs : List (Value × Value)) : Unrepeated (ofPairs pairs) := by
  rw [unrepeated_iff_keys, keys_ofPairs]
  exact Value.pairwise_distinct _

/-- What holds of a key and its value, and of every equal key with it, holds of the entries of a
mapping made of such pairs. -/
theorem forall_mem_ofPairs {P : Value → Value → Prop}
    (hP : ∀ k k' v, k.same k' = true → P k v → P k' v) (h : ∀ e ∈ pairs, P e.1 e.2) :
    ∀ e ∈ ofPairs pairs, P e.1 e.2 := by
  have hput : ∀ (m : Mapping) (key value : Value), (∀ e ∈ m, P e.1 e.2) → P key value →
      ∀ e ∈ m.put key value, P e.1 e.2 := by
    intro m key value hm hkey
    induction m with
    | nil => exact List.forall_mem_singleton.2 hkey
    | cons first rest ih =>
      obtain ⟨hfirst, hrest⟩ := List.forall_mem_cons.1 hm
      unfold put
      split
      · rename_i hsame
        exact List.forall_mem_cons.2 ⟨hP _ _ _ hsame hkey, hrest⟩
      · exact List.forall_mem_cons.2 ⟨hfirst, ih hrest⟩
  have hrun : ∀ m : Mapping, (∀ e ∈ m, P e.1 e.2) →
      ∀ e ∈ pairs.foldl (fun m e => m.put e.1 e.2) m, P e.1 e.2 := by
    induction pairs with
    | nil => exact fun _ hm => hm
    | cons e pairs ih =>
      obtain ⟨hfirst, hrest⟩ := List.forall_mem_cons.1 h
      exact fun m hm => ih hrest _ (hput m e.1 e.2 hm hfirst)
  exact hrun [] (List.forall_mem_nil _)

/-- Pairs with new keys are put behind what is there, as they are. -/
theorem foldl_put_of_new (hnew : ∀ e ∈ pairs, m.hasKey e.1 = false) (h : Unrepeated pairs) :
    pairs.foldl (fun m e => m.put e.1 e.2) m = m ++ pairs := by
  induction pairs generalizing m with
  | nil => exact (List.append_nil m).symm
  | cons e pairs ih =>
    obtain ⟨hfirst, hrest⟩ := List.forall_mem_cons.1 hnew
    obtain ⟨happart, h⟩ := List.pairwise_cons.1 h
    have hnew' : ∀ e' ∈ pairs, Mapping.hasKey (m ++ [e]) e'.1 = false := by
      intro e' he'
      rw [hasKey, List.any_append, List.any_cons, List.any_nil, Bool.or_false]
      exact Bool.or_eq_false_iff.2 ⟨hrest e' he', happart e' he'⟩
    rw [List.foldl_cons, put_of_new hfirst, ih hnew' h, List.append_assoc, List.singleton_append]

/-- Stored pairs take a place each at most. -/
theorem length_foldl_put_le (m : Mapping) (pairs : List (Value × Value)) :
    (pairs.foldl (fun m e => m.put e.1 e.2) m).length ≤ m.length + pairs.length := by
  induction pairs generalizing m with
  | nil => exact Nat.le_refl _
  | cons e pairs ih =>
    have hput : (m.put e.1 e.2).length ≤ m.length + 1 := by
      cases h : m.hasKey e.1 with
      | false => rw [put_of_new h, List.length_append, List.length_singleton]
      | true =>
        rw [← List.length_map Prod.fst, keys_put_of_hasKey h, List.length_map]
        exact Nat.le_succ _
    have hrest := ih (m.put e.1 e.2)
    rw [List.foldl_cons, List.length_cons]
    omega

/-- Where each stored pair has taken a place, its key was new. -/
theorem new_of_length_foldl_put
    (h : m.length + pairs.length ≤ (pairs.foldl (fun m e => m.put e.1 e.2) m).length) :
    (∀ e ∈ pairs, m.hasKey e.1 = false) ∧ Unrepeated pairs := by
  induction pairs generalizing m with
  | nil => exact ⟨fun _ he => (nomatch he), List.Pairwise.nil⟩
  | cons e pairs ih =>
    rw [List.foldl_cons, List.length_cons] at h
    cases hkey : m.hasKey e.1 with
    | true =>
      -- the place of the pair was taken, so the others would need one too many
      have hput : (m.put e.1 e.2).length = m.length := by
        rw [← List.length_map Prod.fst, keys_put_of_hasKey hkey, List.length_map]
      have hrest := length_foldl_put_le (m.put e.1 e.2) pairs
      omega
    | false =>
      rw [put_of_new hkey] at h
      have hplaces : (m ++ [(e.1, e.2)]).length = m.length + 1 := List.length_append
      obtain ⟨hnew, hpairs⟩ := ih (m := m ++ [(e.1, e.2)]) (by omega)
      have happart : ∀ e' ∈ pairs, m.hasKey e'.1 = false ∧ e'.1.same e.1 = false := by
        intro e' he'
        have hany := hnew e' he'
        rw [hasKey, List.any_append, List.any_cons, List.any_nil, Bool.or_false] at hany
        exact Bool.or_eq_false_iff.1 hany
      exact ⟨List.forall_mem_cons.2 ⟨hkey, fun e' he' => (happart e' he').1⟩,
        List.pairwise_cons.2 ⟨fun e' he' => (happart e' he').2, hpairs⟩⟩

/-- **Where no key is repeated the pairs are the mapping.** -/
theorem ofPairs_of_unrepeated (h : Unrepeated pairs) : ofPairs pairs = pairs :=
  (foldl_put_of_new (fun _ _ => rfl) h).trans (List.nil_append pairs)

/-- **An entry is lost exactly if a key is repeated.** -/
theorem length_ofPairs_eq_iff : (ofPairs pairs).length = pairs.length ↔ Unrepeated pairs := by
  constructor
  · intro h
    have hplaces : ([] : Mapping).length + pairs.length ≤ (ofPairs pairs).length := by
      rw [h, List.length_nil, Nat.zero_add]
    exact (new_of_length_foldl_put hplaces).2
  · intro h
    rw [ofPairs_of_unrepeated h]

end Mapping

/-! ## Keys exchanged for columns -/

namespace ResolvedModel

variable {m : ResolvedModel} {values : Value} {columns entries : Mapping}

/-- A resolved model is well-formed, whatever hooks were added since. -/
theorem IsResolved.wellFormed (hm : m.IsResolved) : m.WellFormed := by
  obtain ⟨source, hooks, hsource⟩ := hm
  obtain ⟨d, name, table, -, hd⟩ := DefinitionSource.exists_resolveWith hsource
  have h := ModelDefinition.wellFormed_of_resolveWith hd
  exact ⟨h.nodup, h.identifiers, h.flagged, h.primaryKey, h.roles, h.mapped, h.fixed, h.idempotent⟩

/-- An entry under the column that its key stands for. -/
def Renames (m : ResolvedModel) (e e' : Value × Value) : Prop :=
  m.columnFor e.1 = .ok e'.1 ∧ e'.2 = e.2

/-- No two keys stand for one column. -/
def KeysApart (m : ResolvedModel) (entries : Mapping) : Prop :=
  entries.Pairwise fun e e' => ∀ column column', m.columnFor e.1 = .ok column →
    m.columnFor e'.1 = .ok column' → column'.same column = false

/-- **The entries are stored under their columns, one after the other.** -/
theorem columnValues_eq_ok (h : m.columnValues values = .ok columns) :
    ∃ renamed, List.Forall₂ m.Renames values.entryList renamed ∧
      columns = Mapping.ofPairs renamed := by
  obtain ⟨w, hw, h⟩ := bind_eq_ok.1 h
  obtain ⟨entries, hentries, h⟩ := bind_eq_ok.1 h
  obtain rfl := (Value.entries_of_orEmptyMapping hw hentries).1
  obtain ⟨renamed, hrenamed, h⟩ := bind_eq_ok.1 h
  refine ⟨renamed, (mapM_eq_ok.1 hrenamed).imp fun e e' he => ?_, (pure_eq_ok.1 h).symm⟩
  obtain ⟨column, hcolumn, he⟩ := bind_eq_ok.1 he
  obtain rfl := pure_eq_ok.1 he
  exact ⟨hcolumn, rfl⟩

/-- Each column is what some key stands for. -/
theorem exists_of_mem_columnValues (h : m.columnValues values = .ok columns) :
    ∀ v ∈ columns.map Prod.fst, ∃ e ∈ values.entryList, m.columnFor e.1 = .ok v := by
  obtain ⟨renamed, hrenamed, rfl⟩ := columnValues_eq_ok h
  intro v hv
  obtain ⟨e', he', rfl⟩ := List.mem_map.1 (Mapping.keys_ofPairs_subset renamed hv)
  obtain ⟨e, he, hcolumn, -⟩ := exists_of_mem_forall₂ hrenamed he'
  exact ⟨e, he, hcolumn⟩

/-- **Keys stand for different columns exactly if none is repeated once they are exchanged.** -/
theorem unrepeated_iff_keysApart {renamed : Mapping} (h : List.Forall₂ m.Renames entries renamed) :
    Mapping.Unrepeated renamed ↔ m.KeysApart entries := by
  induction h with
  | nil => exact ⟨fun _ => List.Pairwise.nil, fun _ => List.Pairwise.nil⟩
  | @cons e e' entries renamed hfirst hrest ih =>
    rw [Mapping.Unrepeated, KeysApart, List.pairwise_cons, List.pairwise_cons]
    refine and_congr ⟨fun happart f hf column column' hcolumn hcolumn' => ?_,
      fun happart f' hf' => ?_⟩ ih
    · obtain ⟨f', hf', hrenames⟩ := exists_of_mem_forall₂ hrest.flip hf
      obtain rfl : e'.1 = column := Except.ok.inj (hfirst.1.symm.trans hcolumn)
      obtain rfl : f'.1 = column' := Except.ok.inj (hrenames.1.symm.trans hcolumn')
      exact happart f' hf'
    · obtain ⟨f, hf, hrenames⟩ := exists_of_mem_forall₂ hrest hf'
      exact happart f hf _ _ hfirst.1 hrenames.1

end ResolvedModel

end Tablewright
