import Tablewright.Query.Table
import Tablewright.Proofs.Schema.ForeignKey

/-!
# What requests to a table give

For every request, what its statement is made of when it gives one: the columns it names are known,
the values of its mappings are bound in their order (`QueryTable.Binds`), and the rest of it is read
off the other arguments. A change or a removal has at least one filter.
-/

namespace Tablewright

open Fallible

/-! ## Mappings as arguments -/

namespace Value

variable {v w : Value} {m : Mapping}

/-- The entries of a mapping; other values have none. -/
def entryList : Value → Mapping
  | dict m => m
  | _ => []

theorem entries_eq_ok (h : v.entries = .ok m) : v = .dict m := by
  cases v with
  | dict m' => rw [entries, pure_eq_ok] at h; rw [h]
  | _ => cases h

/-- A value that does not hold has no entries. -/
theorem entryList_of_not_truthy (h : v.truthy = false) : v.entryList = [] := by
  cases v with
  | dict m =>
    cases m with
    | nil => rfl
    | cons e m => cases h
  | _ => rfl

/-- What stands for a value where a mapping is asked for: its entries, and nothing unless it
holds. -/
theorem entries_of_orEmptyMapping (h : v.orEmptyMapping = .ok w) (hm : w.entries = .ok m) :
    m = v.entryList ∧ (v.truthy = true → m ≠ []) := by
  obtain ⟨b, hb, h⟩ := bind_eq_ok.1 h
  obtain ⟨-, htruthy⟩ := truth_eq_ok.1 hb
  have hw := pure_eq_ok.1 h
  cases b with
  | false =>
    rw [if_neg Bool.false_ne_true] at hw
    subst hw
    rw [htruthy, entryList_of_not_truthy htruthy]
    exact ⟨(pure_eq_ok.1 hm).symm, nofun⟩
  | true =>
    rw [if_pos rfl] at hw
    subst hw
    obtain rfl := entries_eq_ok hm
    refine ⟨rfl, fun htrue => ?_⟩
    rintro rfl
    cases htrue

end Value

namespace QueryTable

variable {t : QueryTable} {v w order limit offset withDeleted condition conflict values deltas
  expressions function column : Value}

/-! ## Columns and bound values -/

/-- The table knows what a value names, as far as it knows any column. -/
def Known (t : QueryTable) (v : Value) : Prop :=
  t.columns = [] ∨ ∃ key, v.memberKey = .ok key ∧ t.columns.any (key.same ·) = true

/-- A binding stores the value of an entry for the column that the entry names. -/
structure Binds (t : QueryTable) (entry : Value × Value) (b : Binding) : Prop where
  /-- The column is known. -/
  known : t.Known entry.1
  /-- It is the one that is named. -/
  column : b.column = entry.1.display
  /-- The value is what is stored. -/
  value : entry.2.storable = .ok b.value

theorem column_eq_ok : t.column v = .ok w ↔ w = v ∧ t.Known v := by
  unfold QueryTable.column Known
  by_cases hcolumns : t.columns = []
  · rw [if_pos (List.isEmpty_iff.2 hcolumns), pure_eq_ok, eq_comm]
    exact ⟨fun h => ⟨h, .inl hcolumns⟩, And.left⟩
  · rw [if_neg (mt List.isEmpty_iff.1 hcolumns), bind_eq_ok]
    constructor
    · rintro ⟨key, hkey, h⟩
      split at h
      · rename_i hany
        exact ⟨(pure_eq_ok.1 h).symm, .inr ⟨key, hkey, hany⟩⟩
      · cases h
    · rintro ⟨rfl, hempty | ⟨key, hkey, hany⟩⟩
      · exact absurd hempty hcolumns
      · exact ⟨key, hkey, by rw [if_pos hany]; rfl⟩

theorem columns_eq_ok {vs ws : List Value} (h : vs.mapM t.column = .ok ws) :
    ws = vs ∧ ∀ v ∈ vs, t.Known v := by
  induction vs generalizing ws with
  | nil => exact ⟨(pure_eq_ok.1 h).symm, fun _ hv => nomatch hv⟩
  | cons v vs ih =>
    rw [mapM_eq_ok, List.forall₂_cons_left_iff] at h
    obtain ⟨w, ws, hw, hws, rfl⟩ := h
    obtain ⟨rfl, hknown⟩ := column_eq_ok.1 hw
    obtain ⟨rfl, hrest⟩ := ih (mapM_eq_ok.2 hws)
    exact ⟨rfl, List.forall_mem_cons.2 ⟨hknown, hrest⟩⟩

theorem filter_eq_ok {e : Value × Value} {b : Binding} : t.filter e = .ok b ↔ t.Binds e b := by
  simp only [filter, bind_eq_ok, pure_eq_ok, column_eq_ok]
  constructor
  · rintro ⟨_, ⟨rfl, hknown⟩, value, hvalue, rfl⟩
    exact ⟨hknown, rfl, hvalue⟩
  · rintro ⟨hknown, hcolumn, hvalue⟩
    exact ⟨e.1, ⟨rfl, hknown⟩, b.value, hvalue, by rw [← hcolumn]⟩

/-- **The filters are the entries of the condition**, in order. -/
theorem filters_eq_ok {bs : List Binding} (h : t.filters condition = .ok bs) :
    List.Forall₂ t.Binds condition.entryList bs ∧ (condition.truthy = true → bs ≠ []) := by
  obtain ⟨w, hw, h⟩ := bind_eq_ok.1 h
  obtain ⟨m, hm, h⟩ := bind_eq_ok.1 h
  obtain ⟨rfl, hne⟩ := Value.entries_of_orEmptyMapping hw hm
  have hbinds : List.Forall₂ t.Binds condition.entryList bs :=
    (mapM_eq_ok.1 h).imp fun _ _ => filter_eq_ok.1
  refine ⟨hbinds, fun htruthy hnil => hne htruthy ?_⟩
  rw [hnil] at hbinds
  exact List.forall₂_nil_right_iff.1 hbinds

/-- Only a mapping has values to store. -/
theorem exists_of_storedValues {stored : List Value} (h : storedValues v = .ok stored) :
    ∃ m, v = .dict m := by
  obtain ⟨m, hm, -⟩ := bind_eq_ok.1 h
  exact ⟨m, Value.entries_eq_ok hm⟩

/-- Values bound to the columns that a mapping names. -/
theorem binds_bindAll {m : Mapping} {stored : List Value} (hknown : ∀ v ∈ m.map Prod.fst, t.Known v)
    (hstored : storedValues (.dict m) = .ok stored) :
    List.Forall₂ t.Binds m (bindAll ((m.map Prod.fst).map Value.display) stored) := by
  change m.mapM (fun e : Value × Value => e.2.storable) = .ok stored at hstored
  rw [mapM_eq_ok] at hstored
  induction hstored with
  | nil => exact .nil
  | cons hvalue hrest ih =>
    rw [List.map_cons, List.forall_mem_cons] at hknown
    exact .cons ⟨hknown.1, rfl, hvalue⟩ (ih hknown.2)

/-! ## Orderings -/

/-- The column that a term of an ordering names. -/
def orderColumn? (item : Value) : Option Value :=
  if item.text?.isSome then some item
  else
    match item.pair with
    | .ok (column, _) => some column
    | .error _ => none

/-- The columns that an ordering names. -/
def orderColumns (order : Value) : List Value :=
  if order.truthy then
    match order.items with
    | .ok items => items.filterMap orderColumn?
    | .error _ => []
  else []

/-- A term of an ordering orders by the column it names. -/
theorem orderTerm_eq_ok {item : Value} {o : OrderTerm} (h : t.orderTerm item = .ok o) :
    ∃ v, orderColumn? item = some v ∧ t.Known v ∧ o.column = v.display := by
  obtain ⟨⟨named, direction⟩, hpair, h⟩ := ite_bind_eq_ok.1 h
  have hnamed : orderColumn? item = some named := by
    unfold orderColumn?
    split at hpair
    · rename_i htext
      rw [if_pos htext, (Prod.mk.inj (pure_eq_ok.1 hpair)).1]
    · rename_i htext
      rw [if_neg htext, hpair]
  refine ⟨named, hnamed, ?_⟩
  dsimp only at h
  split at h
  · simp only [bind_eq_ok, pure_eq_ok, column_eq_ok] at h
    obtain ⟨_, ⟨rfl, hknown⟩, rfl⟩ := h
    exact ⟨hknown, rfl⟩
  · cases h

theorem orderTerms_eq_ok {items : List Value} {terms : List OrderTerm}
    (h : items.mapM t.orderTerm = .ok terms) :
    (∀ v ∈ items.filterMap orderColumn?, t.Known v) ∧
      terms.map OrderTerm.column = (items.filterMap orderColumn?).map Value.display := by
  rw [mapM_eq_ok] at h
  induction h with
  | nil => exact ⟨fun _ hv => (nomatch hv), rfl⟩
  | cons hterm _ ih =>
    obtain ⟨v, hv, hknown, hcolumn⟩ := orderTerm_eq_ok hterm
    simp only [List.filterMap_cons, hv, List.map_cons, hcolumn, ih.2]
    exact ⟨List.forall_mem_cons.2 ⟨hknown, ih.1⟩, trivial⟩

/-- The terms of an ordering are for the columns it names, in order. -/
theorem ordering_eq_ok {terms : List OrderTerm} (h : t.ordering order = .ok terms) :
    (∀ v ∈ orderColumns order, t.Known v) ∧
      terms.map OrderTerm.column = (orderColumns order).map Value.display := by
  obtain ⟨b, hb, h⟩ := bind_eq_ok.1 h
  obtain ⟨-, htruthy⟩ := Value.truth_eq_ok.1 hb
  rw [orderColumns, htruthy]
  cases b with
  | false =>
    rw [← pure_eq_ok.1 h]
    exact ⟨fun _ hv => (nomatch hv), rfl⟩
  | true =>
    obtain ⟨items, hitems, h⟩ := bind_eq_ok.1 h
    rw [if_pos rfl, hitems]
    exact orderTerms_eq_ok h

/-! ## Reading -/

theorem select_eq_ok {s : Selection}
    (h : t.select condition order limit offset withDeleted = .ok s) :
    ∃ undeleted filters terms most first,
      t.undeleted withDeleted = .ok undeleted ∧ t.filters condition = .ok filters ∧
      t.ordering order = .ok terms ∧ rowCount? limit = .ok most ∧ rowCount? offset = .ok first ∧
      s =
        { projection := .rows, table := t.name, undeleted, filters, order := terms, limit := most,
          offset := first } := by
  simp only [select, bind_eq_ok, pure_eq_ok] at h
  obtain ⟨undeleted, hundeleted, filters, hfilters, terms, hterms, most, hmost, first, hfirst,
    rfl⟩ := h
  exact ⟨undeleted, filters, terms, most, first, hundeleted, hfilters, hterms, hmost, hfirst, rfl⟩

theorem selectByKey_eq_ok {s : Selection} (h : t.selectByKey v withDeleted = .ok s) :
    ∃ undeleted value, t.undeleted withDeleted = .ok undeleted ∧ v.storable = .ok value ∧
      s =
        { projection := .rows, table := t.name, undeleted,
          filters := [{ column := t.primaryKey, value }], limit := some 1 } := by
  simp only [selectByKey, bind_eq_ok, pure_eq_ok] at h
  obtain ⟨undeleted, hundeleted, value, hvalue, rfl⟩ := h
  exact ⟨undeleted, value, hundeleted, hvalue, rfl⟩

/-- An aggregate is over every row or over a column that is known. -/
theorem aggregate_eq_ok {s : Selection}
    (h : t.aggregate function column condition withDeleted = .ok s) :
    ∃ upper name star undeleted filters,
      function.upperCase = .ok upper ∧ upper.text? = some name ∧ name ∈ aggregateNames ∧
      column.equals (.str "*") = .ok star ∧ (star = false → t.Known column) ∧
      t.undeleted withDeleted = .ok undeleted ∧ t.filters condition = .ok filters ∧
      s =
        { projection := .aggregate name (if star then none else some column.display)
          table := t.name, undeleted, filters } := by
  obtain ⟨upper, hupper, h⟩ := bind_eq_ok.1 h
  dsimp only at h
  split at h
  case h_2 => cases h
  case h_1 name hname =>
    by_cases hmem : name ∈ aggregateNames
    case neg =>
      rw [if_pos (by simpa using hmem)] at h
      obtain ⟨_, hrefused, _⟩ := bind_eq_ok.1 h
      cases hrefused
    case pos =>
      rw [if_neg (by simpa using hmem)] at h
      obtain ⟨star, hstar, h⟩ := bind_eq_ok.1 h
      obtain ⟨column?, hcolumn, h⟩ := ite_bind_eq_ok.1 h
      obtain ⟨undeleted, hundeleted, h⟩ := bind_eq_ok.1 h
      obtain ⟨filters, hfilters, h⟩ := bind_eq_ok.1 h
      -- a star is not looked up
      have hnamed : (star = false → t.Known column) ∧
          column? = if star then none else some column.display := by
        cases star with
        | true => exact ⟨nofun, (pure_eq_ok.1 hcolumn).symm⟩
        | false =>
          obtain ⟨v, hv, hname⟩ := map_eq_ok.1 hcolumn
          obtain ⟨hsame, hknown⟩ := column_eq_ok.1 hv
          exact ⟨fun _ => hknown, by rw [← hname, hsame]; rfl⟩
      refine ⟨upper, name, star, undeleted, filters, hupper, hname, hmem, hstar, hnamed.1,
        hundeleted, hfilters, ?_⟩
      rw [← hnamed.2]
      exact (pure_eq_ok.1 h).symm

/-! ## Writing -/

/-- The texts of values that are all texts. -/
theorem mapM_asText_eq_ok {vs : List Value} {names : List String}
    (h : vs.mapM Value.asText = .ok names) : names = vs.map Value.display := by
  rw [mapM_eq_ok] at h
  induction h with
  | nil => rfl
  | cons hname _ ih =>
    rw [List.map_cons, ← ih, Value.display_of_text? (Value.asText_eq_ok.1 hname)]

/-- Each of them is the text that it shows as. -/
theorem text?_of_mapM_asText {vs : List Value} {names : List String}
    (h : vs.mapM Value.asText = .ok names) : ∀ v ∈ vs, v.text? = some v.display := by
  intro v hv
  obtain ⟨name, -, hname⟩ := mem_mapM_of_mem h hv
  have htext := Value.asText_eq_ok.1 hname
  rw [htext, Value.display_of_text? htext]

/-- The values of a new row are the entries of a mapping. -/
theorem insert_eq_ok {i : Insertion} {orIgnore : Value} (h : t.insert values orIgnore = .ok i) :
    ∃ ignoring bound, orIgnore.truth = .ok ignoring ∧
      List.Forall₂ t.Binds values.entryList bound ∧
      (values.truthy = true → ∃ m, values = .dict m) ∧
      i = { orIgnore := ignoring, table := t.name, values := bound } := by
  obtain ⟨ignoring, hignoring, h⟩ := bind_eq_ok.1 h
  obtain ⟨b, hb, h⟩ := bind_eq_ok.1 h
  obtain ⟨-, htruthy⟩ := Value.truth_eq_ok.1 hb
  cases b with
  | false =>
    refine ⟨ignoring, [], hignoring, ?_, fun htrue => ?_, (pure_eq_ok.1 h).symm⟩
    · rw [Value.entryList_of_not_truthy htruthy]
      exact .nil
    · rw [htruthy] at htrue
      cases htrue
  | true =>
    simp only [if_pos, bind_eq_ok, pure_eq_ok] at h
    obtain ⟨items, hitems, columns, hcolumns, names, hnames, stored, hstored, rfl⟩ := h
    obtain ⟨m, rfl⟩ := exists_of_storedValues hstored
    obtain rfl := pure_eq_ok.1 hitems
    obtain ⟨rfl, hknown⟩ := columns_eq_ok hcolumns
    obtain rfl := mapM_asText_eq_ok hnames
    exact ⟨ignoring, _, hignoring, binds_bindAll hknown hstored, fun _ => ⟨m, rfl⟩, rfl⟩

/-- The conflict columns of an upsert are known, and it takes over the other columns. -/
theorem upsert_eq_ok {i : Insertion} (h : t.upsert values conflict = .ok i) :
    ∃ bound chosen targets updates,
      List.Forall₂ t.Binds values.entryList bound ∧
      conflict.orElse (.list [.str t.primaryKey]) = .ok chosen ∧ chosen.items = .ok targets ∧
      (∀ v ∈ targets, t.Known v) ∧
      (values.entryList.map Prod.fst).filterM (fun c => do pure !(← c.isAmong targets)) =
        .ok updates ∧
      i =
        { orIgnore := false, table := t.name, values := bound
          conflict := some
            { targets := targets.map Value.display, updates := updates.map Value.display } } := by
  obtain ⟨b, hb, h⟩ := bind_eq_ok.1 h
  cases b with
  | false =>
    obtain ⟨_, hrefused, _⟩ := bind_eq_ok.1 h
    cases hrefused
  | true =>
    obtain ⟨chosen, hchosen, h⟩ := bind_eq_ok.1 h
    obtain ⟨targets, htargets, h⟩ := bind_eq_ok.1 h
    obtain ⟨columns, hcolumns, h⟩ := bind_eq_ok.1 h
    obtain ⟨insertion, hinsertion, h⟩ := bind_eq_ok.1 h
    obtain ⟨items, hitems, h⟩ := bind_eq_ok.1 h
    obtain ⟨updates, hupdates, h⟩ := bind_eq_ok.1 h
    obtain ⟨names, hnames, h⟩ := bind_eq_ok.1 h
    have hi := pure_eq_ok.1 h
    clear h
    -- the insertion has shown the values to be a mapping, so their keys are what is taken over
    obtain ⟨rfl, hknown⟩ := columns_eq_ok hcolumns
    obtain ⟨_, bound, hignoring, hbound, hmapping, rfl⟩ := insert_eq_ok hinsertion
    obtain ⟨m, rfl⟩ := hmapping (Value.truth_eq_ok.1 hb).2
    obtain rfl := pure_eq_ok.1 hignoring
    obtain rfl := pure_eq_ok.1 hitems
    obtain rfl := mapM_asText_eq_ok hnames
    exact ⟨bound, chosen, _, updates, hbound, hchosen, htargets, hknown, hupdates, hi.symm⟩

/-- A condition that must not be empty holds. -/
theorem requireCondition_eq_ok {operation : String} {u : Unit}
    (h : t.requireCondition operation condition = .ok u) : condition.truthy = true := by
  obtain ⟨b, hb, h⟩ := bind_eq_ok.1 h
  cases b with
  | false => cases h
  | true => exact (Value.truth_eq_ok.1 hb).2

theorem computation_eq_ok {e : Value × Value} {a : Assignment} (h : t.computation e = .ok a) :
    t.Known e.1 ∧ a = .compute e.1.display e.2.display := by
  obtain ⟨_, hcolumn, h⟩ := bind_eq_ok.1 h
  obtain ⟨rfl, hknown⟩ := column_eq_ok.1 hcolumn
  exact ⟨hknown, (pure_eq_ok.1 h).symm⟩

/-- The computed columns are the entries of the expressions, in order. -/
theorem computations_eq_ok {w : Value} {m : Mapping} {computed : List Assignment}
    (hw : expressions.orEmptyMapping = .ok w) (hm : w.entries = .ok m)
    (h : m.mapM t.computation = .ok computed) :
    (∀ e ∈ expressions.entryList, t.Known e.1) ∧
      computed =
        expressions.entryList.map fun e => .compute e.1.display e.2.display := by
  rw [← (Value.entries_of_orEmptyMapping hw hm).1]
  clear hm
  rw [mapM_eq_ok] at h
  induction h with
  | nil => exact ⟨fun _ he => (nomatch he), rfl⟩
  | cons hcomputed _ ih =>
    obtain ⟨hknown, rfl⟩ := computation_eq_ok hcomputed
    exact ⟨List.forall_mem_cons.2 ⟨hknown, ih.1⟩, congrArg _ ih.2⟩

/-- **A change sets what its values say and meets at least one filter.** -/
theorem update_eq_ok {c : Change} (h : t.update values condition expressions = .ok c) :
    ∃ bound filters,
      List.Forall₂ t.Binds values.entryList bound ∧
      (∀ e ∈ expressions.entryList, t.Known e.1) ∧
      List.Forall₂ t.Binds condition.entryList filters ∧ filters ≠ [] ∧
      c =
        { table := t.name
          assignments := bound.map .set ++
            expressions.entryList.map fun e => .compute e.1.display e.2.display
          filters } := by
  obtain ⟨_, hcondition, h⟩ := bind_eq_ok.1 h
  obtain ⟨valued, -, h⟩ := bind_eq_ok.1 h
  obtain ⟨changes, -, h⟩ := ite_bind_eq_ok.1 h
  cases changes with
  | false =>
    obtain ⟨_, hrefused, _⟩ := bind_eq_ok.1 h
    cases hrefused
  | true =>
    simp only [Bool.not_true, if_neg Bool.false_ne_true, bind_eq_ok, pure_eq_ok] at h
    obtain ⟨items, hitems, columns, hcolumns, stored, hstored, w, hw, m, hm, computed, hcomputed,
      filters, hfilters, rfl⟩ := h
    obtain ⟨m, rfl⟩ := exists_of_storedValues hstored
    obtain rfl := pure_eq_ok.1 hitems
    obtain ⟨rfl, hknown⟩ := columns_eq_ok hcolumns
    obtain ⟨hexpressions, rfl⟩ := computations_eq_ok hw hm hcomputed
    obtain ⟨hbinds, hne⟩ := filters_eq_ok hfilters
    exact ⟨_, filters, binds_bindAll hknown hstored, hexpressions, hbinds,
      hne (requireCondition_eq_ok hcondition), rfl⟩

/-- **An increment adds what its amounts say and meets at least one filter.** -/
theorem increment_eq_ok {c : Change} (h : t.increment deltas condition = .ok c) :
    ∃ bound filters,
      List.Forall₂ t.Binds deltas.entryList bound ∧
      List.Forall₂ t.Binds condition.entryList filters ∧ filters ≠ [] ∧
      c = { table := t.name, assignments := bound.map .add, filters } := by
  obtain ⟨b, hb, h⟩ := bind_eq_ok.1 h
  cases b with
  | false =>
    obtain ⟨_, hrefused, _⟩ := bind_eq_ok.1 h
    cases hrefused
  | true =>
    simp only [Bool.not_true, if_neg Bool.false_ne_true, bind_eq_ok, pure_eq_ok] at h
    obtain ⟨_, hcondition, items, hitems, columns, hcolumns, filters, hfilters, stored, hstored,
      rfl⟩ := h
    obtain ⟨m, rfl⟩ := exists_of_storedValues hstored
    obtain rfl := pure_eq_ok.1 hitems
    obtain ⟨rfl, hknown⟩ := columns_eq_ok hcolumns
    obtain ⟨hbinds, hne⟩ := filters_eq_ok hfilters
    exact ⟨_, filters, binds_bindAll hknown hstored, hbinds,
      hne (requireCondition_eq_ok hcondition), rfl⟩

/-- **A removal that a condition is asked for meets at least one filter.** -/
theorem delete_eq_ok {r : Removal} (h : t.delete condition = .ok r) :
    ∃ filters, List.Forall₂ t.Binds condition.entryList filters ∧ filters ≠ [] ∧
      r = { table := t.name, filters } := by
  obtain ⟨_, hcondition, h⟩ := bind_eq_ok.1 h
  obtain ⟨filters, hfilters, h⟩ := bind_eq_ok.1 h
  obtain ⟨hbinds, hne⟩ := filters_eq_ok hfilters
  exact ⟨filters, hbinds, hne (requireCondition_eq_ok hcondition), (pure_eq_ok.1 h).symm⟩

end QueryTable

end Tablewright
