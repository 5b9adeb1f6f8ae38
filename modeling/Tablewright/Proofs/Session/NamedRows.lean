import Tablewright.Proofs.Session.Lookups

/-!
# Rows under the names of their columns

A row that can be written has texts for keys. Then it is a map from the names of columns to values
(`Mapping.named`), and what is done to the row is done to this map. So the row that the keys of some
values are exchanged for is the map that arises from storing the values under their columns, one
after the other (`ResolvedModel.named_columnValues`).
-/

namespace Tablewright

open Fallible

namespace Mapping

/-- All keys are texts. -/
def Textual (row : Mapping) : Prop :=
  ∀ e ∈ row, e.1.text? = some e.1.display

/-- The values under the texts of their keys. -/
def named (row : Mapping) : Named Value :=
  row.map fun e => (e.1.display, e.2)

variable {row pairs : Mapping} {key value : Value} {s : String}

theorem names_named (row : Mapping) : row.named.names = (row.map Prod.fst).map Value.display := by
  rw [Named.names, named, List.map_map, List.map_map]
  rfl

/-- Whether the keys are texts does not depend on the values. -/
theorem textual_iff_keys : Textual row ↔ ∀ k ∈ row.map Prod.fst, k.text? = some k.display := by
  rw [List.forall_mem_map]
  rfl

/-- The first key of a row is the text it is looked up by, or neither equals the other. -/
theorem same_iff_of_textual {e : Value × Value} (h : e.1.text? = some e.1.display)
    (hkey : key.text? = some s) : key.same e.1 = true ↔ e.1.display = s := by
  rw [Value.same_iff_of_text? hkey, h, Option.some_inj]

theorem hasKey_iff_of_textual (h : Textual row) (hkey : key.text? = some s) :
    row.hasKey key = true ↔ s ∈ row.named.names := by
  rw [hasKey, List.any_eq_true, names_named, List.map_map, List.mem_map]
  exact exists_congr fun e => and_congr_right fun he => same_iff_of_textual (h e he) hkey

/-- What is found under a text is found under the name. -/
theorem get?_named (h : Textual row) (hkey : key.text? = some s) :
    row.get? key = row.named.get? s := by
  induction row with
  | nil => rfl
  | cons e row ih =>
    obtain ⟨hfirst, hrest⟩ := List.forall_mem_cons.1 h
    have hcons : named (e :: row) = (e.1.display, e.2) :: named row := rfl
    rw [hcons, Named.get?_cons, ← ih hrest, get?, get?, List.find?_cons]
    by_cases hname : e.1.display = s
    · rw [(same_iff_of_textual hfirst hkey).2 hname, if_pos hname]
      rfl
    · rw [Bool.eq_false_iff.2 (mt (same_iff_of_textual hfirst hkey).1 hname), if_neg hname]

/-- **A value that is stored under a text is stored under the name.** -/
theorem named_put (h : Textual row) (hkey : key.text? = some s) (value : Value) :
    (row.put key value).named = row.named.put s value := by
  induction row with
  | nil => exact congrArg (fun k => [(k, value)]) (Value.display_of_text? hkey)
  | cons e row ih =>
    obtain ⟨hfirst, hrest⟩ := List.forall_mem_cons.1 h
    have hcons : named (e :: row) = (e.1.display, e.2) :: named row := rfl
    rw [hcons, put, Named.put]
    by_cases hname : e.1.display = s
    · rw [if_pos ((same_iff_of_textual hfirst hkey).2 hname), if_pos (beq_iff_eq.2 hname)]
      rfl
    · rw [if_neg (mt (same_iff_of_textual hfirst hkey).1 hname), if_neg (mt beq_iff_eq.1 hname),
        ← ih hrest]
      rfl

/-- **Storing a value takes no key away and adds no other key.** -/
theorem textual_put_iff (hkey : key.text? = some s) : Textual (row.put key value) ↔ Textual row := by
  rw [textual_iff_keys, textual_iff_keys, keys_put]
  refine ⟨fun h k hk => h k (Value.subset_keepNew _ _ hk), fun h k hk => ?_⟩
  rcases Value.mem_of_mem_keepNew hk with hk | rfl
  · exact h k hk
  · rw [hkey, Value.display_of_text? hkey]

/-- **A text that is removed is removed as a name.** -/
theorem named_remove (h : Textual row) (hkey : key.text? = some s) :
    (row.remove key).named = row.named.erase s := by
  rw [remove, named, named, Named.erase, List.filter_map]
  refine congrArg _ (List.filter_congr fun e he => congrArg _ ?_)
  rw [Bool.eq_iff_iff, same_iff_of_textual (h e he) hkey]
  exact beq_iff_eq.symm

/-- Only texts equal a text, so nothing else is removed with it. -/
theorem textual_remove_iff (hkey : key.text? = some s) :
    Textual (row.remove key) ↔ Textual row := by
  refine ⟨fun h e he => ?_, fun h e he => h e (List.mem_of_mem_filter he)⟩
  by_cases hsame : key.same e.1 = true
  · have htext := (Value.same_iff_of_text? hkey).1 hsame
    rw [htext, Value.display_of_text? htext]
  · exact h e (List.mem_filter.2 ⟨he, by rw [Bool.eq_false_iff.2 hsame]; rfl⟩)

/-- **Pairs that are stored one after the other are stored under their names.** -/
theorem named_ofPairs (h : Textual pairs) : (ofPairs pairs).named = Named.ofPairs (named pairs) := by
  -- pairs may be stored on top of others, so the row they are stored in varies
  have hrun : ∀ row : Mapping, Textual row →
      named (pairs.foldl (fun m e => m.put e.1 e.2) row) = row.named.union (named pairs) := by
    induction pairs with
    | nil => exact fun _ _ => rfl
    | cons e pairs ih =>
      intro row hrow
      obtain ⟨hfirst, hrest⟩ := List.forall_mem_cons.1 h
      rw [List.foldl_cons, ih hrest _ ((textual_put_iff hfirst).2 hrow), named_put hrow hfirst]
      rfl
  exact hrun [] fun _ he => nomatch he

/-- **Where the keys of a mapping made of pairs are texts, those of the pairs are.** -/
theorem textual_of_ofPairs (h : Textual (ofPairs pairs)) : Textual pairs := by
  rw [textual_iff_keys, keys_ofPairs] at h
  rw [textual_iff_keys]
  intro k hk
  rcases Value.mem_distinct_or_same hk with hkept | ⟨w, hw, hsame⟩
  · exact h k hkept
  · have htext := (Value.same_iff_of_text?_right (h w hw)).1 hsame
    rw [htext, Value.display_of_text? htext]

end Mapping

/-! ## Bound rows -/

namespace QueryTable

variable {t : QueryTable} {row : Mapping} {bound : List Binding}

/-- **The columns that are bound are the names of the row**, in order. -/
theorem columns_eq_names (h : List.Forall₂ t.Binds row bound) :
    bound.map Binding.column = row.named.names := by
  rw [columns_of_binds h, Mapping.names_named]

/-- **What is bound for a name is what is stored for its value.** -/
theorem exists_binding {c : String} {v : Value} (h : List.Forall₂ t.Binds row bound)
    (hv : row.named.get? c = some v) :
    ∃ w, v.storable = .ok w ∧ { column := c, value := w } ∈ bound := by
  obtain ⟨e, he, hsame⟩ := List.mem_map.1 (Named.mem_of_get? hv)
  obtain ⟨rfl, rfl⟩ := Prod.mk.inj hsame
  obtain ⟨b, hb, hbinds⟩ := exists_of_mem_forall₂ h.flip he
  exact ⟨b.value, hbinds.value, hbinds.column ▸ hb⟩

/-- **What is bound is what is stored for the value under the name of its column**, if no name is
there twice. -/
theorem exists_get?_of_binding {b : Binding} (hnd : row.named.names.Nodup)
    (h : List.Forall₂ t.Binds row bound) (hb : b ∈ bound) :
    ∃ v, row.named.get? b.column = some v ∧ v.storable = .ok b.value := by
  obtain ⟨e, he, hbinds⟩ := exists_of_mem_forall₂ h hb
  refine ⟨e.2, Named.get?_of_mem hnd ?_, hbinds.value⟩
  rw [hbinds.column]
  exact List.mem_map_of_mem (f := fun e : Value × Value => (e.1.display, e.2)) he

end QueryTable

/-! ## Values under the columns that their keys stand for -/

namespace ResolvedModel

variable {m : ResolvedModel} {values key column : Value} {row : Mapping}

/-- The values of a mapping under the columns that their keys stand for, in order. -/
def supplied (m : ResolvedModel) (values : Value) : Named Value :=
  values.entryList.map fun e => (m.columnOf e.1.display, e.2)

/-- A key that stands for a text is a text itself. -/
theorem display_of_columnFor {s : String} (h : m.columnFor key = .ok column)
    (hcolumn : column.text? = some s) : key.text? = some key.display ∧
      s = m.columnOf key.display := by
  unfold columnFor at h
  split at h
  · have hcolumn' := pure_eq_ok.1 h
    split at hcolumn'
    · rename_i name hname
      obtain ⟨t, htext, hname⟩ := Option.bind_eq_some_iff.1 hname
      have hdisplay := Value.display_of_text? htext
      obtain rfl : name = s := by
        rw [← hcolumn'] at hcolumn
        exact Option.some.inj hcolumn
      refine ⟨by rw [htext, hdisplay], ?_⟩
      rw [hdisplay, columnOf, Named.getOr, hname]
      rfl
    · rename_i hnone
      obtain rfl : key = column := hcolumn'
      rw [hcolumn] at hnone
      have hdisplay := Value.display_of_text? hcolumn
      refine ⟨by rw [hcolumn, hdisplay], ?_⟩
      rw [hdisplay, columnOf, Named.getOr, show m.fieldMap.get? s = none from hnone]
      rfl
  · cases h

/-- A text stands for a text. -/
theorem text?_of_columnFor (h : m.columnFor key = .ok column)
    (hkey : key.text? = some key.display) : column.text? = some column.display := by
  unfold columnFor at h
  split at h
  · have hcolumn := pure_eq_ok.1 h
    split at hcolumn
    · rw [← hcolumn]
      rfl
    · rw [← hcolumn]
      exact hkey
  · cases h

/-- **The row of some values** holds each under the column that its key stands for; of two keys for
one column the later counts. -/
theorem named_columnValues (h : m.columnValues values = .ok row) (hrow : Mapping.Textual row) :
    row.named = Named.ofPairs (m.supplied values) ∧ Mapping.Textual values.entryList := by
  obtain ⟨renamed, hrenamed, rfl⟩ := columnValues_eq_ok h
  have htextual := Mapping.textual_of_ofPairs hrow
  rw [Mapping.named_ofPairs htextual]
  clear hrow h
  suffices Mapping.named renamed = m.supplied values ∧ Mapping.Textual values.entryList by
    exact ⟨congrArg _ this.1, this.2⟩
  unfold supplied
  generalize values.entryList = entries at hrenamed
  induction hrenamed with
  | nil => exact ⟨rfl, fun _ he => nomatch he⟩
  | @cons e e' _ _ hfirst hrest ih =>
    obtain ⟨htext, htexts⟩ := List.forall_mem_cons.1 htextual
    obtain ⟨hkey, hname⟩ := display_of_columnFor hfirst.1 htext
    obtain ⟨hrest, hkeys⟩ := ih htexts
    refine ⟨?_, List.forall_mem_cons.2 ⟨hkey, hkeys⟩⟩
    rw [List.map_cons, ← hrest, ← hname, ← hfirst.2]
    rfl

/-- Texts stand for texts. -/
theorem textual_columnValues (h : m.columnValues values = .ok row)
    (hvalues : Mapping.Textual values.entryList) : Mapping.Textual row := by
  obtain ⟨renamed, hrenamed, rfl⟩ := columnValues_eq_ok h
  rw [Mapping.textual_iff_keys]
  intro k hk
  obtain ⟨e', he', rfl⟩ := List.mem_map.1 (Mapping.keys_ofPairs_subset _ hk)
  obtain ⟨e, he, hcolumn, -⟩ := exists_of_mem_forall₂ hrenamed he'
  exact text?_of_columnFor hcolumn (hvalues e he)

end ResolvedModel

end Tablewright
