import Tablewright.Proofs.Session.Logging
import Tablewright.Proofs.Session.Rejected
import Mathlib.Algebra.BigOperators.Group.List.Basic

/-!
# Looking up what an upsert wrote

An upsert sends an insertion that gives way where there is a conflict, and then looks up the row
that it wrote, by the columns of the conflict. Which columns these are is settled before the
insertion is sent, and each of them must be in the row by then. But the time of making is taken out
of the row before it is written, and a null counts as a value until the engine compares something
with it. So the search is for the row that was written, unless the time of making is among the
columns of the conflict, or one of these columns was given a null
(`ResolvedModel.upserts_of_call`).
-/

namespace Tablewright

open Fallible

variable {α β : Type}

/-! ## What a value holds -/

namespace Value

/-- An array holds as many elements as its extents give. -/
def IsFull (v : Value) : Prop :=
  ∀ t, v = .tensor t → t.items.length = t.shape.prod

/-- **What holds as a condition and has items has some.** -/
theorem items_ne_nil {v : Value} {items : List Value} (hfull : v.IsFull)
    (htruth : v.truth = .ok true) (h : v.items = .ok items) : items ≠ [] := by
  obtain ⟨hanswers, htruthy⟩ := truth_eq_ok.1 htruth
  rintro rfl
  cases v with
  | list xs | tuple xs | set _ xs =>
    obtain rfl := pure_eq_ok.1 h
    cases htruthy
  | dict entries =>
    obtain rfl := List.map_eq_nil_iff.1 (pure_eq_ok.1 h)
    cases htruthy
  | str s =>
    have hchars := List.map_eq_nil_iff.1 (pure_eq_ok.1 h)
    obtain rfl := String.toList_eq_nil_iff.1 hchars
    cases htruthy
  | bytes _ data =>
    obtain rfl := List.map_eq_nil_iff.1 (pure_eq_ok.1 h)
    cases htruthy
  | scalar c =>
    cases c with
    | text s =>
      have hchars := List.map_eq_nil_iff.1 (pure_eq_ok.1 h)
      obtain rfl := String.toList_eq_nil_iff.1 hchars
      cases htruthy
    | binary data =>
      obtain rfl := List.map_eq_nil_iff.1 (pure_eq_ok.1 h)
      cases htruthy
    | _ => cases h
  | tensor t =>
    obtain ⟨element, shape, scalars⟩ := t
    have hsize := hfull _ rfl
    -- only an array of one element answers, so each of its extents is one
    match scalars with
    | [] | _ :: _ :: _ => cases hanswers
    | [s] =>
      match shape with
      | [] => cases h
      | [n] => cases pure_eq_ok.1 h
      | n :: k :: rest =>
        have hnone := List.map_eq_nil_iff.1 (pure_eq_ok.1 h)
        obtain rfl := List.range_eq_nil.1 hnone
        rw [List.prod_cons, Nat.zero_mul] at hsize
        cases hsize
  | _ => cases h

end Value

/-! ## Rows by their texts -/

namespace Mapping

variable {row : Mapping} {key k : Value} {s : String}

/-- Keys of one text find the same value. -/
theorem get?_congr (hkey : key.text? = some s) (hk : k.text? = some s) :
    row.get? key = row.get? k := by
  have hsame : (fun e : Value × Value => key.same e.1) = fun e => k.same e.1 := by
    funext e
    rw [Bool.eq_iff_iff, Value.same_iff_of_text? hkey, Value.same_iff_of_text? hk]
  rw [get?, get?, hsame]

/-- What is found under a text is the value of an entry of that text. -/
theorem exists_of_get? {v : Value} (hkey : key.text? = some s) (h : row.get? key = some v) :
    ∃ e ∈ row, e.1.text? = some s ∧ e.2 = v := by
  obtain ⟨e, hfound, rfl⟩ := Option.map_eq_some_iff.1 h
  have hsame := List.find?_some hfound
  exact ⟨e, List.mem_of_find?_eq_some hfound, (Value.same_iff_of_text? hkey).1 hsame, rfl⟩

/-- A key is there if something is found under it. -/
theorem hasKey_eq_isSome_get? (row : Mapping) (key : Value) :
    row.hasKey key = (row.get? key).isSome := by
  rw [get?, Option.isSome_map, Bool.eq_iff_iff, List.find?_isSome, hasKey, List.any_eq_true]

theorem hasKey_iff_of_text? (hkey : key.text? = some s) :
    row.hasKey key = true ↔ ∃ e ∈ row, e.1.text? = some s := by
  rw [hasKey, List.any_eq_true]
  exact exists_congr fun e => and_congr_right fun _ => Value.same_iff_of_text? hkey

end Mapping

namespace ResolvedModel

variable {m : ResolvedModel} {row : Mapping} {t : Value} {s : String}

/-- **The time of making goes, every other text stays.** -/
theorem hasKey_withoutCreatedAt (ht : t.text? = some s) :
    (m.withoutCreatedAt row).hasKey t = true ↔ row.hasKey t = true ∧ m.createdAt ≠ some s := by
  rw [Mapping.hasKey_iff_of_text? ht, Mapping.hasKey_iff_of_text? ht, withoutCreatedAt]
  cases m.createdAt with
  | none => simp
  | some c =>
    simp only [Mapping.remove, List.mem_filter, Bool.not_eq_true', ne_eq, Option.some_inj]
    constructor
    · rintro ⟨e, ⟨he, hkept⟩, htext⟩
      refine ⟨⟨e, he, htext⟩, ?_⟩
      rintro rfl
      rw [(Value.same_iff_of_text? rfl).2 htext] at hkept
      cases hkept
    · rintro ⟨⟨e, he, htext⟩, hne⟩
      refine ⟨e, ⟨he, Bool.eq_false_iff.2 fun hsame => hne ?_⟩, htext⟩
      exact Option.some.inj (((Value.same_iff_of_text? rfl).1 hsame).symm.trans htext)

/-! ## The row of an insertion -/

theorem unrepeated_withoutCreatedAt (h : Mapping.Unrepeated row) :
    Mapping.Unrepeated (m.withoutCreatedAt row) := by
  unfold withoutCreatedAt
  split
  · exact h.filter _
  · exact h

theorem unrepeated_fillTime (h : Mapping.Unrepeated row) (now : String) (column? : Option String) :
    Mapping.Unrepeated (fillTime now row column?) := by
  unfold fillTime
  split
  · split
    · exact Mapping.unrepeated_put h _ _
    · exact h
  · exact h

/-- Defaults are put into columns that have no value. -/
theorem unrepeated_fillDefaults {columns : Named Column} {filled : Mapping} {σ σ' : Session}
    (h : Mapping.Unrepeated row) (hs : σ.perform (fillDefaults row columns) = (.ok filled, σ')) :
    Mapping.Unrepeated filled := by
  induction columns generalizing row σ with
  | nil =>
    cases hs
    exact h
  | cons column columns ih =>
    unfold fillDefaults at hs
    split at hs
    · split at hs
      · exact ih h hs
      · obtain ⟨v, _, -, hs⟩ := Session.perform_bind_eq_ok.1 hs
        exact ih (Mapping.unrepeated_put h _ _) hs
    · exact ih h hs

/-- **No key of a row that is inserted is repeated.** -/
theorem unrepeated_insertValues {values : Value} {σ σ' : Session}
    (hs : σ.perform (m.insertValues values) = (.ok row, σ')) : Mapping.Unrepeated row := by
  obtain ⟨columns, hcolumns, hs⟩ := Session.perform_lift_bind_eq_ok.1 hs
  obtain ⟨renamed, -, rfl⟩ := columnValues_eq_ok hcolumns
  obtain ⟨filled, _, hfilled, hs⟩ := Session.perform_bind_eq_ok.1 hs
  obtain ⟨now, _, -, hs⟩ := Session.perform_bind_eq_ok.1 hs
  cases hs
  have h := unrepeated_fillDefaults (Mapping.unrepeated_ofPairs renamed) hfilled
  exact unrepeated_fillTime (unrepeated_fillTime h _ _) _ _

end ResolvedModel

/-! ## What an upsert compiles to -/

namespace QueryTable

variable {t : QueryTable} {row : Mapping} {targets : List Value} {i : Insertion}

/-- The columns that an insertion names are texts. -/
theorem text?_of_insert {orIgnore : Value} (h : t.insert (.dict row) orIgnore = .ok i) :
    ∀ e ∈ row, e.1.text? = some e.1.display := by
  obtain ⟨_, -, h⟩ := bind_eq_ok.1 h
  obtain ⟨b, hb, h⟩ := bind_eq_ok.1 h
  cases b with
  | false =>
    obtain rfl : row = [] := Value.entryList_of_not_truthy (Value.truth_eq_ok.1 hb).2
    exact nofun
  | true =>
    rw [if_pos rfl] at h
    obtain ⟨_, hitems, h⟩ := bind_eq_ok.1 h
    obtain rfl := pure_eq_ok.1 hitems
    obtain ⟨columns, hcolumns, h⟩ := bind_eq_ok.1 h
    obtain ⟨rfl, -⟩ := columns_eq_ok hcolumns
    obtain ⟨names, hnames, -⟩ := bind_eq_ok.1 h
    exact fun e he => text?_of_mapM_asText hnames e.1 (List.mem_map_of_mem he)

/-- **An upsert into columns that are named**: the row and the columns of the conflict are texts,
these are known, and the values of the row are bound in order. -/
theorem upsert_list_eq_ok (hsome : targets ≠ [])
    (h : t.upsert (.dict row) (.list targets) = .ok i) :
    (∀ e ∈ row, e.1.text? = some e.1.display) ∧
      (∀ v ∈ targets, v.text? = some v.display ∧ t.Known v) ∧
      List.Forall₂ t.Binds row i.values ∧ i.table = t.name ∧
      ∃ rule, i.conflict = some rule ∧ rule.targets = targets.map Value.display := by
  have hknown := known_of_upsert h
  obtain ⟨b, -, h⟩ := bind_eq_ok.1 h
  cases b with
  | false =>
    obtain ⟨_, hrefused, _⟩ := bind_eq_ok.1 h
    cases hrefused
  | true =>
    obtain ⟨chosen, hchosen, h⟩ := bind_eq_ok.1 h
    obtain ⟨named, hnamed, h⟩ := bind_eq_ok.1 h
    obtain ⟨columns, hcolumns, h⟩ := bind_eq_ok.1 h
    obtain ⟨insertion, hinsertion, h⟩ := bind_eq_ok.1 h
    obtain ⟨items, -, h⟩ := bind_eq_ok.1 h
    obtain ⟨updates, -, h⟩ := bind_eq_ok.1 h
    obtain ⟨names, hnames, h⟩ := bind_eq_ok.1 h
    obtain rfl := pure_eq_ok.1 h
    -- some columns are named, so the key is not taken in their place
    obtain ⟨first, rest, rfl⟩ := List.exists_cons_of_ne_nil hsome
    obtain rfl := pure_eq_ok.1 hchosen
    obtain rfl := pure_eq_ok.1 hnamed
    obtain ⟨rfl, -⟩ := columns_eq_ok hcolumns
    have htexts := text?_of_mapM_asText hnames
    have hrow := text?_of_insert hinsertion
    obtain ⟨_, bound, -, hbound, -, rfl⟩ := insert_eq_ok hinsertion
    exact ⟨hrow, fun v hv => ⟨htexts v hv, hknown v hv⟩, hbound, rfl, _, rfl,
      mapM_asText_eq_ok hnames⟩

/-- The columns of a row are different where its keys are. -/
theorem nodup_of_binds {bound : List Binding} (hrow : Mapping.Unrepeated row)
    (htexts : ∀ e ∈ row, e.1.text? = some e.1.display) (h : List.Forall₂ t.Binds row bound) :
    (bound.map Binding.column).Nodup := by
  rw [columns_of_binds h, List.map_map, List.Nodup, List.pairwise_map]
  refine hrow.imp_of_mem fun {e e'} he he' hne heq => ?_
  have hsame : e'.1.same e.1 = true := by
    rw [Value.same_iff_of_text? (htexts e' he'), htexts e he]
    exact congrArg some heq
  rw [hsame] at hne
  cases hne

/-- **Filters for some entries whose columns are known and whose values can be stored.** -/
theorem exists_selectOne {key : Mapping}
    (h : ∀ e ∈ key, t.Known e.1 ∧ ∃ v, e.2.storable = .ok v) :
    ∃ filters, List.Forall₂ t.Binds key filters ∧
      t.selectOne (.dict key) .null (.bool true) =
        .ok { projection := .rows, table := t.name, filters, limit := some 1 } := by
  have hfilter : ∀ e ∈ key, ∃ b, t.filter e = .ok b := by
    intro e he
    obtain ⟨hknown, v, hv⟩ := h e he
    exact ⟨{ column := e.1.display, value := v }, filter_eq_ok.2 ⟨hknown, rfl, hv⟩⟩
  obtain ⟨filters, hfilters⟩ := exists_mapM_eq_ok.2 hfilter
  refine ⟨filters, (mapM_eq_ok.1 hfilters).imp fun _ _ => filter_eq_ok.1, ?_⟩
  have hundeleted : t.undeleted (.bool true) = .ok none := by
    unfold undeleted
    split <;> rfl
  have hall : t.filters (.dict key) = .ok filters := by
    cases key with
    | nil => exact hfilters
    | cons e key => exact hfilters
  rw [selectOne, select, ok_bind hundeleted, ok_bind hall]
  rfl

end QueryTable

namespace ResolvedModel

open Action

variable {m : ResolvedModel} {row key : Mapping} {targets : List Value} {i : Insertion}

/-! ## The parts of an upsert -/

/-- The columns that conflicts are told by: those that are named, or else the primary key. -/
def conflictColumns (m : ResolvedModel) (conflict : Value) : Except Fault (List Value) := do
  let named ← (← conflict.orElse (.list [.str m.primaryKey])).items
  named.mapM m.columnFor

/-- What is settled before anything is sent: the columns of the conflict, and the insertion. -/
def upsertPlan (m : ResolvedModel) (conflict : Value) (row : Mapping) :
    Except Fault (List Value × Insertion) := do
  validateRow m.name m.columns (.dict row)
  let targets ← m.conflictColumns conflict
  let missing := targets.filter fun t => !Mapping.hasKey row t
  if !missing.isEmpty then
    let missing ← missing.mapM Value.asText
    refuse (.missingConflictValues m.tableName missing)
  let insertion ← m.queryTable.upsert (.dict (m.withoutCreatedAt row)) (.list targets)
  pure (targets, insertion)

/-- The selection that looks the row up. -/
def lookup (m : ResolvedModel) (row : Mapping) (targets : List Value) : Except Fault Selection := do
  let key ← conflictValues row targets
  let columns ← m.columnValues (.dict key)
  let order ← m.columnOrder .null
  m.queryTable.selectOne (.dict columns) order (.bool true)

/-- **An upsert writes between two computations** that touch nothing. -/
theorem upsertWork_eq (conflict values : Value) :
    m.upsertWork conflict values = (do
      let row ← m.insertValues values
      let (targets, insertion) ← m.upsertPlan conflict row
      let _ ← m.runWrite "upsert" (.insert insertion)
      let q ← m.lookup (m.withoutCreatedAt row) targets
      let result ← fetchFirst q
      pure (result, result)) := by
  simp only [upsertWork, upsertPlan, conflictColumns, lookup, validate, findOne, mapM_lift,
    liftM_bind, bind_assoc]
  refine bind_congr fun _ => bind_congr fun _ => bind_congr fun _ => bind_congr fun _ =>
    bind_congr fun _ => ?_
  split <;> simp only [liftM_bind, liftM_pure, bind_assoc, pure_bind]

/-- The insertion that an upsert sends: it binds a value for every column of the conflict but the
time of making, for which it binds none. -/
structure UpsertsBy (m : ResolvedModel) (conflict : Value) (i : Insertion) (rule : ConflictRule) :
    Prop where
  /-- It inserts a row of the model. -/
  table : i.table = m.tableName
  /-- It gives way where there is a conflict. -/
  yields : i.conflict = some rule
  /-- Conflicts are told by the columns that the call names. -/
  named : ∃ columns, m.conflictColumns conflict = .ok columns ∧
    rule.targets = columns.map Value.display
  /-- There are some. -/
  targeted : rule.targets ≠ []
  /-- No column is bound twice. -/
  nodup : (i.values.map Binding.column).Nodup
  /-- The columns of the conflict are bound, but for the time of making. -/
  bound : ∀ c ∈ rule.targets, c ∈ i.values.map Binding.column ↔ m.createdAt ≠ some c

/-- A selection looks up what an insertion writes: a row, deleted or not, with the values that the
insertion binds for the columns of the conflict. -/
structure LooksUp (m : ResolvedModel) (i : Insertion) (rule : ConflictRule) (q : Selection) :
    Prop where
  /-- It asks for one row, and for nothing but values. -/
  shape : q =
    { projection := .rows, table := m.tableName, filters := q.filters, limit := some 1 }
  /-- It asks for exactly the columns of the conflict. -/
  columns : ∀ c, c ∈ q.filters.map Binding.column ↔ c ∈ rule.targets
  /-- It asks for none of them twice. -/
  nodup : (q.filters.map Binding.column).Nodup
  /-- Each value is the one that the insertion binds for the column. -/
  written : ∀ b ∈ q.filters, b ∈ i.values

/-- A column of a conflict with its value in a row, which must have one. -/
def entryUnder (row : Mapping) (t : Value) : Except Fault (Value × Value) :=
  match Mapping.get? row t with
  | some v => pure (t, v)
  | none => .error (.misuse .missingKey)

theorem conflictValues_eq (row : Mapping) (targets : List Value) :
    conflictValues row targets = (do pure (Mapping.ofPairs (← targets.mapM (entryUnder row)))) :=
  rfl

theorem entryUnder_eq_ok {t : Value} {e : Value × Value} :
    entryUnder row t = .ok e ↔ e.1 = t ∧ row.get? t = some e.2 := by
  obtain ⟨k, v⟩ := e
  unfold entryUnder
  cases row.get? t with
  | none => exact iff_of_false nofun nofun
  | some w =>
    rw [pure_eq_ok, Prod.mk.injEq, Option.some_inj]
    exact and_congr_left fun _ => eq_comm

/-- What is looked up in a row by the texts of its columns. -/
theorem conflictValues_eq_ok (htexts : ∀ t ∈ targets, t.text? = some t.display)
    (h : conflictValues row targets = .ok key) :
    Mapping.Unrepeated key ∧ (∀ e ∈ key, e.1 ∈ targets ∧ row.get? e.1 = some e.2) ∧
      ∀ t ∈ targets, ∃ e ∈ key, e.1.text? = some t.display := by
  have hkeys := keys_conflictValues_subset h
  rw [conflictValues_eq] at h
  obtain ⟨pairs, hpairs, h⟩ := bind_eq_ok.1 h
  obtain rfl := pure_eq_ok.1 h
  have hfound : ∀ e ∈ pairs, e.1.text? = some e.1.display ∧ row.get? e.1 = some e.2 := by
    intro e he
    obtain ⟨t, ht, hmade⟩ := exists_of_mem_mapM hpairs he
    obtain ⟨rfl, hget⟩ := entryUnder_eq_ok.1 hmade
    exact ⟨htexts _ ht, hget⟩
  have hvalues : ∀ e ∈ Mapping.ofPairs pairs,
      e.1.text? = some e.1.display ∧ row.get? e.1 = some e.2 := by
    refine Mapping.forall_mem_ofPairs
      (P := fun k v => k.text? = some k.display ∧ row.get? k = some v) ?_ hfound
    rintro k k' v hsame ⟨htext, hget⟩
    have htext' := (Value.same_iff_of_text? htext).1 hsame
    rw [Value.display_of_text? htext', ← Mapping.get?_congr htext htext']
    exact ⟨htext', hget⟩
  refine ⟨Mapping.unrepeated_ofPairs pairs,
    fun e he => ⟨hkeys (List.mem_map_of_mem he), (hvalues e he).2⟩, fun t ht => ?_⟩
  obtain ⟨e, he, hmade⟩ := mem_mapM_of_mem hpairs ht
  have hkey : t ∈ pairs.map Prod.fst := (entryUnder_eq_ok.1 hmade).1 ▸ List.mem_map_of_mem he
  obtain ⟨k, hk, htext⟩ := Value.exists_text?_mem_distinct.2 ⟨t, hkey, htexts t ht⟩
  rw [← Mapping.keys_ofPairs] at hk
  obtain ⟨e', he', rfl⟩ := List.mem_map.1 hk
  exact ⟨e', he', htext⟩

/-- Keys that stand for themselves, none of them repeated, are exchanged for themselves. -/
theorem columnValues_of_fixed (hfixed : ∀ e ∈ key, m.columnFor e.1 = .ok e.1)
    (hkey : Mapping.Unrepeated key) : m.columnValues (.dict key) = .ok key := by
  have hentries : ((Value.dict key).orEmptyMapping >>= Value.entries) = .ok key := by
    cases key <;> rfl
  have heach : key.mapM (fun e : Value × Value => do pure (← m.columnFor e.1, e.2)) =
      .ok key := by
    refine mapM_eq_ok.2 (List.forall₂_same.2 fun e he => ?_)
    rw [hfixed e he]
    rfl
  rw [columnValues, ← bind_assoc, ok_bind hentries]
  show (key.mapM (fun e : Value × Value => do pure (← m.columnFor e.1, e.2)) >>= _) = _
  rw [ok_bind heach, Mapping.ofPairs_of_unrepeated hkey]
  rfl

/-- **The row is looked up by what was written**, where every column of the conflict has a value in
it. -/
theorem exists_lookup {rule : ConflictRule} (hfixed : ∀ t ∈ targets, m.columnFor t = .ok t)
    (hsome : targets ≠ [])
    (hthere : ∀ t ∈ targets, row.hasKey t = true)
    (h : m.queryTable.upsert (.dict row) (.list targets) = .ok i)
    (hrule : i.conflict = some rule) : ∃ q, m.lookup row targets = .ok q ∧ m.LooksUp i rule q := by
  obtain ⟨hrowTexts, htargets, hbound, -, _, hconflict, hnames⟩ :=
    QueryTable.upsert_list_eq_ok hsome h
  obtain rfl := Option.some.inj (hrule.symm.trans hconflict)
  have htexts := fun t ht => (htargets t ht).1
  have hvalue : ∀ t ∈ targets, ∃ e, entryUnder row t = .ok e := by
    intro t ht
    have hget := hthere t ht
    rw [Mapping.hasKey_eq_isSome_get?] at hget
    obtain ⟨v, hv⟩ := Option.isSome_iff_exists.1 hget
    exact ⟨(t, v), entryUnder_eq_ok.2 ⟨rfl, hv⟩⟩
  obtain ⟨pairs, hpairs⟩ := exists_mapM_eq_ok.2 hvalue
  have hkey : conflictValues row targets = .ok (Mapping.ofPairs pairs) := ok_bind hpairs _
  obtain ⟨hunrepeated, hentries, hall⟩ := conflictValues_eq_ok htexts hkey
  generalize Mapping.ofPairs pairs = key at hkey hunrepeated hentries hall
  -- what an entry of the key stores was stored before, for the same column
  have hwritten : ∀ e ∈ key, ∃ b ∈ i.values, b.column = e.1.display ∧
      e.2.storable = .ok b.value := by
    intro e he
    obtain ⟨ht, hget⟩ := hentries e he
    obtain ⟨e', he', htext, hsame⟩ := Mapping.exists_of_get? (htexts _ ht) hget
    obtain ⟨b, hb, hbinds⟩ := exists_of_mem_forall₂ hbound.flip he'
    refine ⟨b, hb, ?_, hsame ▸ hbinds.value⟩
    rw [hbinds.column, Value.display_of_text? htext]
  have hstorable : ∀ e ∈ key, m.queryTable.Known e.1 ∧ ∃ v, e.2.storable = .ok v := by
    intro e he
    obtain ⟨b, -, -, hstored⟩ := hwritten e he
    exact ⟨(htargets _ (hentries e he).1).2, b.value, hstored⟩
  obtain ⟨filters, hfilters, hselect⟩ := QueryTable.exists_selectOne hstorable
  have hcolumns := columnValues_of_fixed (fun e he => hfixed _ (hentries e he).1) hunrepeated
  have hlookup : m.lookup row targets =
      .ok { projection := .rows, table := m.tableName, filters, limit := some 1 } := by
    rw [lookup, ok_bind hkey, ok_bind hcolumns]
    exact hselect
  refine ⟨_, hlookup, rfl, fun c => ?_, ?_, fun b hb => ?_⟩
  · rw [hnames, QueryTable.columns_of_binds hfilters, List.map_map]
    constructor
    · intro hc
      obtain ⟨e, he, rfl⟩ := List.mem_map.1 hc
      exact List.mem_map_of_mem (hentries e he).1
    · intro hc
      obtain ⟨t, ht, rfl⟩ := List.mem_map.1 hc
      obtain ⟨e, he, htext⟩ := hall t ht
      exact List.mem_map.2 ⟨e, he, Value.display_of_text? htext⟩
  · exact QueryTable.nodup_of_binds hunrepeated (fun e he => htexts _ (hentries e he).1) hfilters
  · obtain ⟨e, he, hbinds⟩ := exists_of_mem_forall₂ hfilters hb
    obtain ⟨b', hb', hcolumn, hstored⟩ := hwritten e he
    obtain ⟨column, value⟩ := b
    obtain rfl : column = b'.column := hbinds.column.trans hcolumn.symm
    obtain rfl : value = b'.value := Except.ok.inj (hbinds.value.symm.trans hstored)
    exact hb'

/-- **Where a column of the conflict has no value left, nothing is looked up.** -/
theorem lookup_of_missing {t : Value} (ht : t ∈ targets) (hmissing : row.hasKey t = false) :
    m.lookup row targets = .error (.misuse .missingKey) := by
  have hfails : FailsWith (· = .misuse .missingKey) (conflictValues row targets) := by
    rw [conflictValues_eq]
    refine FailsWith.bind (FailsWith.mapM fun t _ => ?_) fun _ _ => FailsWith.pure
    unfold entryUnder
    split
    · exact FailsWith.pure
    · exact FailsWith.error rfl
  rw [lookup]
  cases hkey : conflictValues row targets with
  | error f =>
    rw [hfails f hkey]
    rfl
  | ok key =>
    rw [conflictValues_eq] at hkey
    obtain ⟨pairs, hpairs, -⟩ := bind_eq_ok.1 hkey
    obtain ⟨e, -, he⟩ := mem_mapM_of_mem hpairs ht
    rw [Mapping.hasKey_eq_isSome_get?, (entryUnder_eq_ok.1 he).2] at hmissing
    cases hmissing

/-- What is settled before an upsert is sent: nothing is wrong with the row, and it has every column of
the conflict. -/
theorem parts_of_upsertPlan {conflict : Value} (h : m.upsertPlan conflict row = .ok (targets, i)) :
    validateRow m.name m.columns (.dict row) = .ok () ∧ m.conflictColumns conflict = .ok targets ∧
      (∀ t ∈ targets, row.hasKey t = true) ∧
      m.queryTable.upsert (.dict (m.withoutCreatedAt row)) (.list targets) = .ok i := by
  obtain ⟨_, hvalid, h⟩ := bind_eq_ok.1 h
  obtain ⟨columns, hconflict, h⟩ := bind_eq_ok.1 h
  dsimp only at h
  split at h
  · obtain ⟨_, -, h⟩ := bind_eq_ok.1 h
    obtain ⟨_, hrefused, -⟩ := bind_eq_ok.1 h
    cases hrefused
  · rename_i hnone
    obtain ⟨insertion, hinsertion, h⟩ := bind_eq_ok.1 h
    obtain ⟨rfl, rfl⟩ := Prod.mk.inj (pure_eq_ok.1 h)
    refine ⟨hvalid, hconflict, fun t ht => ?_, hinsertion⟩
    by_contra hmissing
    refine hnone ?_
    rw [Bool.not_eq_true', List.isEmpty_eq_false_iff]
    refine List.ne_nil_of_mem (List.mem_filter.2 ⟨ht, ?_⟩)
    rw [Bool.not_eq_true', Bool.eq_false_iff]
    exact hmissing

/-- **There are columns of the conflict**, and each stands for itself. -/
theorem upsertPlan_eq_ok (hm : m.IsResolved) {conflict : Value} (hfull : conflict.IsFull)
    (h : m.upsertPlan conflict row = .ok (targets, i)) :
    m.conflictColumns conflict = .ok targets ∧ targets ≠ [] ∧
      (∀ t ∈ targets, m.columnFor t = .ok t) ∧ (∀ t ∈ targets, row.hasKey t = true) ∧
      m.queryTable.upsert (.dict (m.withoutCreatedAt row)) (.list targets) = .ok i := by
  obtain ⟨-, hconflict, hthere, hinsertion⟩ := parts_of_upsertPlan h
  obtain ⟨chosen, hchosen, hnames⟩ := bind_eq_ok.1 hconflict
  obtain ⟨named, hnamed, hcolumns⟩ := bind_eq_ok.1 hnames
  have hsome : named ≠ [] := by
    obtain ⟨b, hb, hchosen⟩ := bind_eq_ok.1 hchosen
    obtain rfl := pure_eq_ok.1 hchosen
    cases b with
    | true => exact Value.items_ne_nil hfull hb hnamed
    | false =>
      rw [← pure_eq_ok.1 hnamed]
      exact List.cons_ne_nil _ _
  refine ⟨hconflict, ?_, fun t ht => ?_, hthere, hinsertion⟩
  · rintro rfl
    exact hsome (List.forall₂_nil_right_iff.1 (mapM_eq_ok.1 hcolumns))
  · obtain ⟨c, -, hc⟩ := exists_of_mem_mapM hcolumns ht
    exact hm.wellFormed.idempotent c t hc

/-- The insertion of such an upsert. -/
theorem exists_upsertsBy {conflict : Value} (hnamed : m.conflictColumns conflict = .ok targets)
    (hrow : Mapping.Unrepeated row) (hsome : targets ≠ [])
    (hthere : ∀ t ∈ targets, row.hasKey t = true)
    (h : m.queryTable.upsert (.dict (m.withoutCreatedAt row)) (.list targets) = .ok i) :
    ∃ rule, m.UpsertsBy conflict i rule ∧ rule.targets = targets.map Value.display ∧
      ∀ t ∈ targets, t.text? = some t.display := by
  obtain ⟨hrowTexts, htargets, hbound, htable, rule, hrule, hnames⟩ :=
    QueryTable.upsert_list_eq_ok hsome h
  refine ⟨rule, ⟨htable, hrule, ⟨targets, hnamed, hnames⟩, ?_, ?_, fun c hc => ?_⟩, hnames,
    fun t ht => (htargets t ht).1⟩
  · rw [hnames]
    exact mt List.map_eq_nil_iff.1 hsome
  · exact QueryTable.nodup_of_binds (unrepeated_withoutCreatedAt hrow) hrowTexts hbound
  · rw [hnames] at hc
    obtain ⟨t, ht, rfl⟩ := List.mem_map.1 hc
    have htext := (htargets t ht).1
    have hkept : t.display ∈ i.values.map Binding.column ↔
        (m.withoutCreatedAt row).hasKey t = true := by
      rw [QueryTable.columns_of_binds hbound, List.map_map, List.mem_map,
        Mapping.hasKey_iff_of_text? htext]
      refine exists_congr fun e => and_congr_right fun he => ?_
      rw [hrowTexts e he, Option.some_inj]
      rfl
    rw [hkept, hasKey_withoutCreatedAt htext]
    exact and_iff_right (hthere t ht)

end ResolvedModel

/-! ## Writing and reading back -/

/-- What a computation fails with, if it fails. -/
def Fallible.failure? : Except Fault α → Option Fault
  | .error f => some f
  | .ok _ => none

namespace ResolvedModel

variable {m : ResolvedModel} {d : Database} {i : Insertion} {rule : ConflictRule}
  {lookups : List Event} {fault : Option Fault} {conflict : Value}

/-- What was written can be found: the setting for the log can be told, no column of the conflict is
the time of making, and none of them is given a null. -/
structure Findable (m : ResolvedModel) (d : Database) (i : Insertion) (rule : ConflictRule) :
    Prop where
  /-- The setting for the log answers for a condition. -/
  logged : d.options.logOps.hasTruth = true
  /-- Conflicts are not told by the time of making. -/
  kept : ∀ c ∈ rule.targets, m.createdAt ≠ some c
  /-- No null is written to a column of the conflict. -/
  given : ∀ b ∈ i.values, b.column ∈ rule.targets → b.value ≠ .null

/-- All that is sent is one selection, which looks up what an insertion writes and compares no
column with a null. -/
def FindsWritten (m : ResolvedModel) (i : Insertion) (rule : ConflictRule) (lookups : List Event) :
    Prop :=
  ∃ q, m.LooksUp i rule q ∧ lookups = [q.sent] ∧ ∀ b ∈ q.filters, b.value ≠ .null

/-- **What an upsert sends behind its insertion**, and what it fails with then. -/
structure Fetches (m : ResolvedModel) (d : Database) (i : Insertion) (rule : ConflictRule)
    (lookups : List Event) (fault : Option Fault) : Prop where
  /-- It looks up what was written by values exactly if this can be found. -/
  finds_iff : m.FindsWritten i rule lookups ↔ m.Findable d i rule
  /-- Unless conflicts are told by the time of making, it looks up what was written. -/
  looksUp : d.options.logOps.hasTruth = true → (∀ c ∈ rule.targets, m.createdAt ≠ some c) →
    ∃ q, m.LooksUp i rule q ∧ lookups = [q.sent]
  /-- Else the value of a column is missed, and nothing is looked up. -/
  misses : d.options.logOps.hasTruth = true → ¬ (∀ c ∈ rule.targets, m.createdAt ≠ some c) →
    lookups = [] ∧ fault = some (.misuse .missingKey)
  /-- Nor is it where the setting for the log cannot be told. -/
  unlogged : d.options.logOps.hasTruth = false → lookups = []

/-- **Only what is asked for by values can be found.** -/
theorem fetches_of_lookups (hi : m.UpsertsBy conflict i rule)
    (hlooks : d.options.logOps.hasTruth = true → (∀ c ∈ rule.targets, m.createdAt ≠ some c) →
      ∃ q, m.LooksUp i rule q ∧ lookups = [q.sent])
    (hmisses : d.options.logOps.hasTruth = true → ¬ (∀ c ∈ rule.targets, m.createdAt ≠ some c) →
      lookups = [] ∧ fault = some (.misuse .missingKey))
    (hunlogged : d.options.logOps.hasTruth = false → lookups = []) :
    m.Fetches d i rule lookups fault := by
  refine ⟨⟨?_, ?_⟩, hlooks, hmisses, hunlogged⟩
  · rintro ⟨q, hq, hsent, hvalues⟩
    have hlogged : d.options.logOps.hasTruth = true := by
      by_contra hnot
      have hnone := hunlogged (Bool.eq_false_iff.2 hnot)
      rw [hsent] at hnone
      cases hnone
    refine ⟨hlogged, ?_, fun b hb hcolumn => ?_⟩
    · by_contra hnot
      have hnone := (hmisses hlogged hnot).1
      rw [hsent] at hnone
      cases hnone
    · -- the filter for the column of a binding is the binding
      obtain ⟨b', hb', hsame⟩ := List.mem_map.1 ((hq.columns b.column).2 hcolumn)
      obtain rfl := List.inj_on_of_nodup_map hi.nodup (hq.written b' hb') hb hsame
      exact hvalues b' hb'
  · rintro ⟨hlogged, hkept, hgiven⟩
    obtain ⟨q, hq, hsent⟩ := hlooks hlogged hkept
    refine ⟨q, hq, hsent, fun b hb => hgiven b (hq.written b hb) ?_⟩
    exact (hq.columns b.column).1 (List.mem_map_of_mem hb)

/-- **What an upsert without hooks sends**, given what names the columns of its conflict, the
database, and what the engine's answers depend on; and what it fails with, if it fails. -/
inductive Upserts (m : ResolvedModel) (conflict : Value) (d : Database) (e : Engine) :
    List Event → Option Fault → Prop
  /-- It fails before it sends anything. -/
  | unsent (fault : Fault) : Upserts m conflict d e [] (some fault)
  /-- The engine refuses the insertion, and nothing more is sent. -/
  | refused {i : Insertion} {rule : ConflictRule} {kind message : String}
      (hi : m.UpsertsBy conflict i rule)
      (hrefused : (e.answer (RowStatement.insert i).sql).1 = .refused kind message) :
      Upserts m conflict d e [.executed (RowStatement.insert i).sql (RowStatement.insert i).params]
        (some (.engine kind message))
  /-- The engine grants the insertion. Behind what logs it, the row is looked up. -/
  | granted {i : Insertion} {rule : ConflictRule} {rows : List Value} {rowCount lastRowId : Value}
      {lookups : List Event} {fault : Option Fault} (hi : m.UpsertsBy conflict i rule)
      (hdone : (e.answer (RowStatement.insert i).sql).1 = .done rows rowCount lastRowId)
      (hlookups : m.Fetches d i rule lookups fault) :
      Upserts m conflict d e
        (.executed (RowStatement.insert i).sql (RowStatement.insert i).params ::
          d.logEvents (m.logEntry "upsert" (.insert i) rowCount) ++ lookups) fault

end ResolvedModel

namespace Action

variable {x : Action α} {C : Database → Engine → List Event → Option Fault → Prop}

/-- However the step ends, what it adds to the trace and what it fails with are related to the
database and to what the engine's answers depend on. -/
def Attempts (C : Database → Engine → List Event → Option Fault → Prop) (x : Action α) : Prop :=
  ∀ s : Session, ∃ sent, (s.perform x).2.trace = s.trace ++ sent ∧
    C s.database s.engine sent (failure? (s.perform x).1)

/-- Behind a computation outside of the session, only its outcome matters. -/
theorem Attempts.lift_bind {y : Except Fault α} {k : α → Action β}
    (hfails : ∀ d e f, C d e [] (some f)) (h : ∀ a, y = .ok a → Attempts C (k a)) :
    Attempts C (liftM y >>= k) := by
  cases y with
  | error f => exact fun s => ⟨[], (List.append_nil _).symm, hfails _ _ f⟩
  | ok a => exact h a rfl

/-- What follows something quiet makes the attempt. -/
theorem Attempts.quiet_bind {k : α → Action β} (hx : Quiet x) (hdatabase : Keeps (·.database) x)
    (hfails : ∀ d e f, C d e [] (some f))
    (h : ∀ (s s' : Session) (a : α), s.perform x = (.ok a, s') → Attempts C (k a)) :
    Attempts C (x >>= k) := by
  intro s
  have htrace := hx.1 s
  have hengine := hx.2 s
  have hsame : (s.perform x).2.database = s.database := hdatabase s
  rw [Session.perform_bind]
  rcases hs : s.perform x with ⟨f | a, t⟩ <;> rw [hs] at htrace hengine hsame
  · exact ⟨[], by rw [List.append_nil]; exact htrace, hfails _ _ f⟩
  · obtain ⟨sent, htrace', hsent⟩ := h s t a hs t
    rw [htrace] at htrace'
    rw [hengine, hsame] at hsent
    exact ⟨sent, htrace', hsent⟩

/-- A function of the outcome makes no difference. -/
theorem Attempts.bind_pure (h : Attempts C x) (f : α → β) :
    Attempts C (x >>= fun a => pure (f a)) := by
  intro s
  obtain ⟨sent, htrace, hsent⟩ := h s
  rw [Session.perform_bind]
  rcases hs : s.perform x with ⟨_ | a, t⟩ <;> rw [hs] at htrace hsent <;>
    exact ⟨sent, htrace, hsent⟩

/-- **Logging an entry** that can be logged, on an open connection. -/
theorem exists_perform_log {s : Session} {e : LogEntry} {text : Value}
    (hopen : s.database.isClosed = false) (htext : e.paramsText = .ok text) :
    ∃ r t, s.perform (log e) = (r, t) ∧ t.trace = s.trace ++ s.database.logEvents e ∧
      (s.database.options.logOps.hasTruth = true ↔ r = .ok ()) := by
  cases htruth : s.database.options.logOps.truth with
  | error f =>
    have hnone : s.database.options.logOps.hasTruth = false := by
      refine Bool.eq_false_iff.2 fun hanswers => ?_
      rw [Value.truth, if_pos hanswers] at htruth
      cases htruth
    refine ⟨.error f, s, ?_, ?_, ?_⟩
    · rw [log, Session.perform_bind, Session.perform_database]
      dsimp only
      rw [htruth]
      rfl
    · rw [Database.logEvents, htruth, List.append_nil]
    · rw [hnone]
      exact iff_of_false Bool.false_ne_true (fun h => by cases h)
  | ok b =>
    have hanswers := (Value.truth_eq_ok.1 htruth).1
    cases b with
    | false =>
      refine ⟨_, _, perform_log_of_off htruth e, ?_, iff_of_true hanswers rfl⟩
      rw [Database.logEvents, htruth, List.append_nil]
    | true =>
      refine ⟨_, _, perform_log_of_on htruth hopen htext, ?_, iff_of_true hanswers rfl⟩
      rw [Database.logEvents, htruth, LogEntry.events, htext]
      rfl

end Action

namespace ResolvedModel

open Action

variable {m : ResolvedModel} {row : Mapping} {targets : List Value} {i : Insertion}
  {rule : ConflictRule} {conflict : Value}

/-- **A write is refused before it is sent, by the engine, or not at all**; in the last case it is
logged, and succeeds if the setting for the log can be told. -/
theorem exists_perform_runWrite (m : ResolvedModel) (operation : String)
    {statement : RowStatement}
    (hparams : ∀ p ∈ statement.params, ∃ v : Value, v.storable = .ok p) (s : Session) :
    ∃ r t, s.perform (m.runWrite operation statement) = (r, t) ∧
      ((∃ f, r = .error f ∧ t.trace = s.trace) ∨
        (∃ kind message, (s.engine.answer statement.sql).1 = .refused kind message ∧
          r = .error (.engine kind message) ∧
          t.trace = s.trace ++ [.executed statement.sql statement.params]) ∨
        ∃ rows rowCount lastRowId,
          (s.engine.answer statement.sql).1 = .done rows rowCount lastRowId ∧
          t.trace = s.trace ++ .executed statement.sql statement.params ::
            s.database.logEvents (m.logEntry operation statement rowCount) ∧
          (s.database.options.logOps.hasTruth = true ↔ r.isOk = true)) := by
  have hsilent := keeps_report (statement.sql ++ " " ++ (Value.list statement.params).repr) s
  have hwrite : m.runWrite operation statement = (do
      report (statement.sql ++ " " ++ (Value.list statement.params).repr)
      let changes ← run statement.sql statement.params
      log (m.logEntry operation statement changes)
      pure changes) := rfl
  rw [hwrite, Session.perform_bind]
  rcases hs : s.perform (report (statement.sql ++ " " ++ (Value.list statement.params).repr)) with
    ⟨f | u, t⟩ <;> rw [hs] at hsilent
  · exact ⟨_, _, rfl, .inl ⟨f, rfl, Session.trace_eq_of_silent hsilent⟩⟩
  · have htrace : t.trace = s.trace := Session.trace_eq_of_silent hsilent
    have hdatabase : t.database = s.database := Session.database_eq_of_silent hsilent
    have hengine : t.engine = s.engine := by
      show t.silent.engine = s.silent.engine
      rw [hsilent]
    dsimp only
    rw [Session.perform_bind, perform_run, hengine]
    cases hanswer : (s.engine.answer statement.sql).1 with
    | refused kind message =>
      refine ⟨_, _, rfl, .inr (.inl ⟨kind, message, rfl, rfl, ?_⟩)⟩
      rw [Session.trace_sending, htrace]
    | done rows rowCount lastRowId =>
      obtain ⟨text, htext⟩ := exists_loggedParams hparams
      have hopen : ((t.sending statement.sql statement.params).noting
          lastRowId).database.isClosed = false := by
        show t.database.isClosed = false
        rw [hdatabase]
        exact isClosed_of_done hanswer
      obtain ⟨r, u, hlog, hlogged, hok⟩ := exists_perform_log (e := m.logEntry operation statement
        rowCount) hopen (paramsText_of_loggedParams htext rfl)
      have hsent : u.trace = s.trace ++ .executed statement.sql statement.params ::
          s.database.logEvents (m.logEntry operation statement rowCount) := by
        rw [hlogged, ← htrace, ← hdatabase, List.append_cons]
        rfl
      have hoptions : s.database.options.logOps.hasTruth = true ↔ r = .ok () := by
        rw [← hok, ← hdatabase]
        rfl
      dsimp only
      rw [Session.perform_bind, hlog]
      cases r with
      | error f => exact ⟨_, _, rfl, .inr (.inr ⟨rows, rowCount, lastRowId, rfl, hsent,
          iff_of_false (fun h => nomatch hoptions.1 h) nofun⟩)⟩
      | ok u => exact ⟨_, _, rfl, .inr (.inr ⟨rows, rowCount, lastRowId, rfl, hsent,
          iff_of_true (hoptions.2 rfl) rfl⟩)⟩

/-- Looking up a row that was compiled sends one selection. -/
theorem trace_perform_fetchFirst (q : Selection) (s : Session) :
    (s.perform (do
      let result ← fetchFirst q
      pure (result, result) : Action (Value × Value))).2.trace = s.trace ++ [q.sent] := by
  have hfetch : s.perform (fetchFirst q) =
      s.perform (first (RowStatement.select q).sql (RowStatement.select q).params) := rfl
  rw [Session.perform_bind, hfetch, first, Session.perform_bind, perform_execute,
    ← q.executed_select]
  cases (s.engine.answer (RowStatement.select q).sql).1 <;> rfl

/-- **What follows the insertion** where the setting for the log can be told. -/
theorem exists_fetches (hi : m.UpsertsBy conflict i rule) (hsome : targets ≠ [])
    (hfixed : ∀ t ∈ targets, m.columnFor t = .ok t) (hthere : ∀ t ∈ targets, row.hasKey t = true)
    (hnames : rule.targets = targets.map Value.display)
    (htexts : ∀ t ∈ targets, t.text? = some t.display)
    (h : m.queryTable.upsert (.dict (m.withoutCreatedAt row)) (.list targets) = .ok i)
    {d : Database} (hanswers : d.options.logOps.hasTruth = true) (s : Session) :
    ∃ r t lookups, s.perform (do
        let q ← m.lookup (m.withoutCreatedAt row) targets
        let result ← fetchFirst q
        pure (result, result) : Action (Value × Value)) = (r, t) ∧
      t.trace = s.trace ++ lookups ∧ m.Fetches d i rule lookups (failure? r) := by
  have hlogged : ∀ {p : Prop}, d.options.logOps.hasTruth = false → p := by
    rw [hanswers]
    exact nofun
  rw [Session.perform_bind, Session.perform_lift]
  by_cases hkept : ∀ c ∈ rule.targets, m.createdAt ≠ some c
  · have hthere' : ∀ t ∈ targets, (m.withoutCreatedAt row).hasKey t = true := fun t ht =>
      (hasKey_withoutCreatedAt (htexts t ht)).2
        ⟨hthere t ht, hkept _ (hnames ▸ List.mem_map_of_mem ht)⟩
    obtain ⟨q, hq, hlooks⟩ := exists_lookup hfixed hsome hthere' h hi.yields
    rw [hq]
    exact ⟨_, _, [q.sent], rfl, trace_perform_fetchFirst q s, fetches_of_lookups hi
      (fun _ _ => ⟨q, hlooks, rfl⟩) (fun _ hmade => absurd hkept hmade) hlogged⟩
  · have hmissing : ∃ t ∈ targets, (m.withoutCreatedAt row).hasKey t = false := by
      simp only [not_forall, not_not] at hkept
      obtain ⟨c, hc, hmade⟩ := hkept
      rw [hnames] at hc
      obtain ⟨t, ht, rfl⟩ := List.mem_map.1 hc
      refine ⟨t, ht, Bool.eq_false_iff.2 fun hkey => ?_⟩
      exact ((hasKey_withoutCreatedAt (htexts t ht)).1 hkey).2 hmade
    obtain ⟨t, ht, hmissing⟩ := hmissing
    rw [lookup_of_missing ht hmissing]
    exact ⟨_, s, [], rfl, (List.append_nil _).symm, fetches_of_lookups hi
      (fun _ hnone => absurd hnone hkept) (fun _ _ => ⟨rfl, rfl⟩) fun _ => rfl⟩

/-- **An insertion that is sent, and what follows it.** -/
theorem attempts_writing (hnamed : m.conflictColumns conflict = .ok targets)
    (hrow : Mapping.Unrepeated row) (hsome : targets ≠ [])
    (hfixed : ∀ t ∈ targets, m.columnFor t = .ok t) (hthere : ∀ t ∈ targets, row.hasKey t = true)
    (h : m.queryTable.upsert (.dict (m.withoutCreatedAt row)) (.list targets) = .ok i) :
    Attempts (m.Upserts conflict) (do
      let _ ← m.runWrite "upsert" (.insert i)
      let q ← m.lookup (m.withoutCreatedAt row) targets
      let result ← fetchFirst q
      pure (result, result)) := by
  obtain ⟨rule, hi, hnames, htexts⟩ := exists_upsertsBy hnamed hrow hsome hthere h
  have hparams : ∀ p ∈ (RowStatement.insert i).params, ∃ v : Value, v.storable = .ok p := by
    obtain ⟨-, -, hbound, -⟩ := QueryTable.upsert_list_eq_ok hsome h
    exact List.forall_mem_map.2 (exists_storable_of_carries (QueryTable.carries_of_binds hbound))
  intro s
  obtain ⟨r, t, hperform, hcases⟩ := m.exists_perform_runWrite "upsert" hparams s
  rw [Session.perform_bind, hperform]
  rcases hcases with ⟨f, rfl, htrace⟩ | ⟨kind, message, hrefused, rfl, htrace⟩ |
    ⟨rows, rowCount, lastRowId, hdone, htrace, hlogged⟩
  · exact ⟨[], by rw [List.append_nil]; exact htrace, .unsent f⟩
  · exact ⟨_, htrace, .refused hi hrefused⟩
  · cases r with
    | error f =>
      -- the setting for the log could not be told, so the call ends here
      have hanswers : ∀ {p : Prop}, s.database.options.logOps.hasTruth = true → p :=
        fun h => nomatch hlogged.1 h
      refine ⟨_ ++ [], by rw [List.append_nil]; exact htrace, .granted hi hdone ?_⟩
      exact fetches_of_lookups hi hanswers hanswers fun _ => rfl
    | ok changes =>
      obtain ⟨r, u, lookups, hrest, htrace', hfetches⟩ := exists_fetches hi hsome hfixed hthere
        hnames htexts h (hlogged.2 rfl) t
      dsimp only
      rw [hrest]
      refine ⟨_ ++ lookups, ?_, .granted hi hdone hfetches⟩
      rw [← List.append_assoc, ← htrace]
      exact htrace'

/-- Defaults that are filled in are counted, and that is all. -/
theorem keeps_fillDefaults {γ : Type} {f : Session → γ}
    (hf : ∀ (s : Session) drawn, f { s with world := { s.world with drawn } } = f s)
    (row : Mapping) (columns : Named Column) : Keeps f (fillDefaults row columns) := by
  induction columns generalizing row with
  | nil => exact Keeps.pure _ row
  | cons e rest ih =>
    unfold fillDefaults
    split
    · split
      · exact ih row
      · exact (keeps_callDefault hf _).bind fun _ => ih _
    · exact ih row

/-- **What an upsert does between the hooks.** -/
theorem attempts_upsertWork (hm : m.IsResolved) (hfull : conflict.IsFull)
    (values : Value) : Attempts (m.Upserts conflict) (m.upsertWork conflict values) := by
  have hdatabase : Keeps (·.database) (m.insertValues values) :=
    (Keeps.lift _ _).bind fun _ => (keeps_fillDefaults (fun _ _ => rfl) _ _).bind fun _ =>
      Keeps.bind (fun _ => rfl) fun _ => Keeps.pure _ _
  rw [upsertWork_eq]
  refine Attempts.quiet_bind (quiet_insertValues values) hdatabase (fun _ _ => .unsent)
    fun s s' row hs => Attempts.lift_bind (fun _ _ => .unsent) fun plan hplan => ?_
  obtain ⟨targets, i⟩ := plan
  obtain ⟨hnamed, hsome, hfixed, hthere, h⟩ := upsertPlan_eq_ok hm hfull hplan
  exact attempts_writing hnamed (unrepeated_insertValues hs) hsome hfixed hthere h

/-! ## Calls without hooks -/

/-- No hook runs around an upsert. -/
def Unhooked (m : ResolvedModel) (skip : Value) : Prop :=
  skip.truth = .ok true ∨
    presentHooks (m.hooks.get .beforeInsert) = [] ∧ presentHooks (m.hooks.get .afterInsert) = []

/-- **A write without hooks around it** looks at whether to skip them, and does its work. -/
theorem around_of_unhooked {skip : Value} (h : m.Unhooked skip) (prepared : Except Fault Value)
    (work : Value → Action (Value × Value)) :
    m.around .beforeInsert .afterInsert skip prepared work = (do
      let data ← prepared
      let _ ← skip.truth
      let done ← work data
      pure done.1) := by
  unfold around runBefore runAfter
  refine bind_congr fun data => ?_
  cases htruth : skip.truth with
  | error f => rfl
  | ok b =>
    cases b with
    | true => rfl
    | false =>
      obtain ⟨hbefore, hafter⟩ := h.resolve_left fun hskip => nomatch htruth.symm.trans hskip
      simp only [runHookList_of_none hbefore, runHookList_of_none hafter]
      rfl

/-- **Looking up what an upsert wrote.** However an upsert without hooks is called and whatever the
engine answers: where the engine grants the insertion, and the setting for the log can be told, one
selection looks up what was written, by values of the columns of the conflict, exactly if none of
these columns is the time of making and none was given a null. -/
theorem upserts_of_call (hm : m.IsResolved) {c : Call} {a : Named Value}
    (h : c.bind RowOperation.upsert.parameters = .ok a)
    (hhooks : m.Unhooked (a.argument "skip_hooks")) (hfull : (a.argument "conflict").IsFull)
    (s : Session) :
    ∃ sent, (s.perform (m.call "upsert" c)).2.trace = s.trace ++ sent ∧
      m.Upserts (a.argument "conflict") s.database s.engine sent
        (failure? (s.perform (m.call "upsert" c)).1) := by
  have hcall : m.call "upsert" c =
      m.upsert (a.argument "values") (a.argument "conflict") (a.argument "skip_hooks") :=
    call_of_bind h
  rw [hcall, upsert_eq, around_of_unhooked hhooks]
  have hattempts : Attempts (m.Upserts (a.argument "conflict")) (do
      let data ← (do pure (.dict (← (a.argument "values").toMapping)) : Except Fault Value)
      let _ ← (a.argument "skip_hooks").truth
      let done ← m.upsertWork (a.argument "conflict") data
      pure done.1) :=
    Attempts.lift_bind (fun _ _ => .unsent) fun data _ =>
      Attempts.lift_bind (fun _ _ => .unsent) fun _ _ =>
        (attempts_upsertWork hm hfull data).bind_pure Prod.fst
  exact hattempts s

end ResolvedModel

/-! ## Tasks that are written and looked up -/

/-- Upserts of a task, with what is sent for each: one by its title, one by a title that is null,
and one by its title and the time of its making. -/
def taskUpserts : List (Call × List String) :=
  [({ args := [.dict [(.str "Title", .str "Pack"), (.str "dueAt", .null)], .list [.str "Title"]] },
    ["INSERT INTO Task (title, due_at, updated_at) VALUES (?, ?, ?) ON CONFLICT(title) " ++
       "DO UPDATE SET due_at = excluded.due_at, updated_at = excluded.updated_at",
     "SELECT * FROM Task WHERE title = ? LIMIT 1"]),
   ({ args := [.dict [(.str "Title", .null)], .list [.str "Title"]] },
    ["INSERT INTO Task (title, updated_at) VALUES (?, ?) ON CONFLICT(title) " ++
       "DO UPDATE SET updated_at = excluded.updated_at",
     "SELECT * FROM Task WHERE title = ? LIMIT 1"]),
   ({ args := [.dict [(.str "Title", .str "Pack")], .list [.str "Title", .str "created_at"]] },
    ["INSERT INTO Task (title, updated_at) VALUES (?, ?) ON CONFLICT(title, created_at) " ++
       "DO UPDATE SET updated_at = excluded.updated_at"])]

/-- The first task is looked up by its title, the second by a null that no title equals; of the
third only the insertion is sent. -/
theorem upserts_of_taskUpserts :
    ∃ m : ResolvedModel, m.IsResolved ∧ ∀ turn ∈ taskUpserts, ∃ a sent,
      turn.1.bind RowOperation.upsert.parameters = .ok a ∧
      m.Unhooked (a.argument "skip_hooks") ∧ (a.argument "conflict").IsFull ∧
      (noonSession.perform (m.call "upsert" turn.1)).2.trace = noonSession.trace ++ sent ∧
      sentTexts sent = turn.2 ∧
      m.Upserts (a.argument "conflict") noonSession.database noonSession.engine sent
        (failure? (noonSession.perform (m.call "upsert" turn.1)).1) := by
  have hrun : (do
      let m ← (DefinitionSource.built taskDefinition).resolve
      pure ((presentHooks (m.hooks.get .beforeInsert)).isEmpty,
        (presentHooks (m.hooks.get .afterInsert)).isEmpty,
        taskUpserts.map fun turn : Call × List String =>
          sentTexts (noonSession.perform (m.call "upsert" turn.1)).2.trace)).toOption =
      some (true, true, taskUpserts.map fun turn => turn.2) := by
    decide +kernel
  obtain ⟨m, hm, hrest⟩ := bind_eq_ok.1 (eq_ok_of_toOption hrun)
  obtain ⟨hbefore, hrest⟩ := Prod.mk.inj (pure_eq_ok.1 hrest)
  obtain ⟨hafter, htexts⟩ := Prod.mk.inj hrest
  have hresolved : m.IsResolved := ⟨.built taskDefinition, m.hooks, hm⟩
  have hturns : ∀ turn ∈ taskUpserts, ∃ a,
      turn.1.bind RowOperation.upsert.parameters = .ok a ∧ (a.argument "conflict").IsFull := by
    simp only [taskUpserts, List.forall_mem_cons]
    exact ⟨⟨_, rfl, nofun⟩, ⟨_, rfl, nofun⟩, ⟨_, rfl, nofun⟩, nofun⟩
  refine ⟨m, hresolved, fun turn hturn => ?_⟩
  obtain ⟨a, hbound, hfull⟩ := hturns turn hturn
  have hhooks : m.Unhooked (a.argument "skip_hooks") :=
    .inr ⟨List.isEmpty_iff.1 hbefore, List.isEmpty_iff.1 hafter⟩
  obtain ⟨sent, htrace, hsent⟩ :=
    ResolvedModel.upserts_of_call hresolved hbound hhooks hfull noonSession
  refine ⟨a, sent, hbound, hhooks, hfull, htrace, ?_, hsent⟩
  rw [← List.map_inj_left.1 htexts turn hturn, htrace]
  rfl

end Tablewright
