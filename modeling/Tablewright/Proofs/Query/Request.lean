import Tablewright.Query.Call
import Tablewright.Proofs.Query.Places
import Tablewright.Proofs.Query.Table
import Tablewright.Proofs.ResolvedModel

/-!
# What the statement of a request is made of

The statement that a request gives stands on the columns that the request names and on those that
the table itself tells rows apart by or marks deleted rows with; it binds the values of the
request's mappings, those that are written before those of the condition (`compiled_of_statement`).
-/

namespace Tablewright

open Fallible

/-- The argument under a name, null if there is none. -/
def Named.argument (a : Named Value) (name : String) : Value :=
  a.getOr name .null

/-- The columns of a conflict that an upsert is about: the primary key, unless others are given. -/
def QueryTable.conflictColumns (t : QueryTable) (conflict : Value) : List Value :=
  (conflict.orElse (.list [.str t.primaryKey]) >>= Value.items).toOption.getD []

namespace RequestKind

/-- The entries of the condition of a request. -/
def condition (a : Named Value) : RequestKind → Mapping
  | selectByKey | insert | upsert | truncate => []
  | _ => (a.argument "where").entryList

/-- The entries whose values a request writes. -/
def written (a : Named Value) : RequestKind → Mapping
  | insert | upsert | update => (a.argument "values").entryList
  | increment => (a.argument "deltas").entryList
  | _ => []

/-- The entries whose values a request asks of rows. -/
def filtered (t : QueryTable) (a : Named Value) : RequestKind → Mapping
  | selectByKey => [(.str t.primaryKey, a.argument "value")]
  | kind => kind.condition a

/-- What a request names for a column beside the keys of its values and of its condition. -/
def further (t : QueryTable) (a : Named Value) : RequestKind → List Value
  | select | selectOne => QueryTable.orderColumns (a.argument "order")
  | aggregate =>
    match (a.argument "column").equals (.str "*") with
    | .ok true => []
    | _ => [a.argument "column"]
  | upsert => t.conflictColumns (a.argument "conflict")
  | update => (a.argument "expressions").entryList.map Prod.fst
  | _ => []

/-- Whatever a request names for a column. -/
def named (t : QueryTable) (a : Named Value) (kind : RequestKind) : List Value :=
  (kind.written a).map Prod.fst ++ kind.further t a ++ (kind.condition a).map Prod.fst

end RequestKind

/-- A column that a request may lead to: one that it names, the primary key of a selection by it, or
the one that marks deleted rows. -/
def RequestKind.LeadsTo (t : QueryTable) (a : Named Value) (kind : RequestKind) (c : String) :
    Prop :=
  (∃ v ∈ kind.named t a, c = v.display) ∨ (kind = .selectByKey ∧ c = t.primaryKey) ∨
    t.deletedAt = some c

/-- A binding carries the value of an entry, for the column that the key shows as. -/
def Binding.Carries (e : Value × Value) (b : Binding) : Prop :=
  b.column = e.1.display ∧ e.2.storable = .ok b.value

/-- What holds of the statement of a request. -/
structure Compiled (t : QueryTable) (a : Named Value) (kind : RequestKind) (s : RowStatement) :
    Prop where
  /-- Whatever the request names is known. -/
  known : ∀ v ∈ kind.named t a, t.Known v
  /-- The request leads to every column. -/
  columns : ∀ c ∈ s.mentioned, kind.LeadsTo t a c
  /-- What is written carries the values to be written. -/
  writes : List.Forall₂ Binding.Carries (kind.written a) s.writes
  /-- What is asked for carries the values to be asked for. -/
  filters : List.Forall₂ Binding.Carries (kind.filtered t a) s.filters
  /-- Beside columns and words of the language there is only the table, a function or an
  expression. -/
  terms : ∀ w ∈ s.terms, w = t.name ∨ w ∈ aggregateNames ∨
    kind = .update ∧ ∃ e ∈ (a.argument "expressions").entryList, w = e.2.display

/-! ## Bound entries -/

namespace QueryTable

variable {t : QueryTable} {m : Mapping} {bs : List Binding}

/-- Bound entries have known keys. -/
theorem known_of_binds (h : List.Forall₂ t.Binds m bs) : ∀ v ∈ m.map Prod.fst, t.Known v := by
  induction h with
  | nil => exact fun _ hv => nomatch hv
  | cons hb _ ih => exact List.forall_mem_cons.2 ⟨hb.known, ih⟩

/-- Bound entries give the columns of their keys. -/
theorem columns_of_binds (h : List.Forall₂ t.Binds m bs) :
    bs.map Binding.column = (m.map Prod.fst).map Value.display := by
  induction h with
  | nil => rfl
  | cons hb _ ih => rw [List.map_cons, List.map_cons, List.map_cons, hb.column, ih]

theorem carries_of_binds (h : List.Forall₂ t.Binds m bs) : List.Forall₂ Binding.Carries m bs :=
  h.imp fun _ _ hb => ⟨hb.column, hb.value⟩

/-- The column that keeps deleted rows out is the one that marks them. -/
theorem undeleted_eq_ok {v : Value} {undeleted : Option String}
    (h : t.undeleted v = .ok undeleted) : ∀ c ∈ undeleted.toList, t.deletedAt = some c := by
  intro c hc
  unfold QueryTable.undeleted at h
  split at h
  · rename_i column hcolumn
    obtain ⟨b, -, h⟩ := bind_eq_ok.1 h
    rw [← pure_eq_ok.1 h] at hc
    cases b with
    | false => rw [hcolumn, List.mem_singleton.1 hc]
    | true => cases hc
  · rw [← pure_eq_ok.1 h] at hc
    cases hc

end QueryTable

/-! ## Request by request -/

namespace RequestKind

variable {t : QueryTable} {a : Named Value} {kind : RequestKind} {names : List String}

/-- What is named is what is written, what further is named, and what the condition is about. -/
theorem forall_mem_named {P : Value → Prop} (hwritten : ∀ v ∈ (kind.written a).map Prod.fst, P v)
    (hfurther : ∀ v ∈ kind.further t a, P v)
    (hcondition : ∀ v ∈ (kind.condition a).map Prod.fst, P v) : ∀ v ∈ kind.named t a, P v :=
  List.forall_mem_append.2 ⟨List.forall_mem_append.2 ⟨hwritten, hfurther⟩, hcondition⟩

theorem leadsTo_of_map_eq {vs : List Value} (h : names = vs.map Value.display)
    (hnamed : vs ⊆ kind.named t a) : ∀ c ∈ names, kind.LeadsTo t a c := by
  intro c hc
  rw [h] at hc
  obtain ⟨v, hv, hname⟩ := List.mem_map.1 hc
  exact .inl ⟨v, hnamed hv, hname.symm⟩

theorem leadsTo_of_written (h : names = ((kind.written a).map Prod.fst).map Value.display) :
    ∀ c ∈ names, kind.LeadsTo t a c :=
  leadsTo_of_map_eq h fun _ hv => List.mem_append_left _ (List.mem_append_left _ hv)

theorem leadsTo_of_further (h : names = (kind.further t a).map Value.display) :
    ∀ c ∈ names, kind.LeadsTo t a c :=
  leadsTo_of_map_eq h fun _ hv => List.mem_append_left _ (List.mem_append_right _ hv)

theorem leadsTo_of_condition (h : names = ((kind.condition a).map Prod.fst).map Value.display) :
    ∀ c ∈ names, kind.LeadsTo t a c :=
  leadsTo_of_map_eq h fun _ hv => List.mem_append_right _ hv

end RequestKind

namespace Compiled

open QueryTable RequestKind

variable {t : QueryTable} {a : Named Value} {kind : RequestKind}
  {order limit offset withDeleted function column orIgnore : Value}

/-- The statement of a selection of rows. -/
theorem of_select {s : Selection} (hwritten : kind.written a = [])
    (hfurther : kind.further t a = orderColumns order)
    (hcondition : kind.condition a = (a.argument "where").entryList)
    (hfiltered : kind.filtered t a = kind.condition a)
    (h : t.select (a.argument "where") order limit offset withDeleted = .ok s) :
    Compiled t a kind (.select s) := by
  obtain ⟨undeleted, filters, terms, most, first, hundeleted, hfilters, hterms, -, -, rfl⟩ :=
    select_eq_ok h
  obtain ⟨hbinds, -⟩ := filters_eq_ok hfilters
  obtain ⟨hordered, hcolumns⟩ := ordering_eq_ok hterms
  rw [← hcondition] at hbinds
  rw [← hfurther] at hordered hcolumns
  refine ⟨forall_mem_named ?_ hordered (known_of_binds hbinds), ?_, ?_, ?_, ?_⟩
  · rw [hwritten]
    exact fun _ hv => nomatch hv
  · exact List.forall_mem_append.2 ⟨List.forall_mem_append.2
      ⟨fun c hc => .inr (.inr (undeleted_eq_ok hundeleted c hc)),
        leadsTo_of_condition (columns_of_binds hbinds)⟩, leadsTo_of_further hcolumns⟩
  · rw [hwritten]
    exact .nil
  · rw [hfiltered]
    exact carries_of_binds hbinds
  · exact List.forall_mem_singleton.2 (.inl rfl)

/-- The statement of an aggregate. -/
theorem of_aggregate {s : Selection} (hwritten : kind.written a = [])
    (hfurther : kind.further t a =
      match column.equals (.str "*") with
      | .ok true => []
      | _ => [column])
    (hcondition : kind.condition a = (a.argument "where").entryList)
    (hfiltered : kind.filtered t a = kind.condition a)
    (h : t.aggregate function column (a.argument "where") withDeleted = .ok s) :
    Compiled t a kind (.select s) := by
  obtain ⟨upper, name, star, undeleted, filters, -, -, hname, hstar, hknown, hundeleted, hfilters,
    rfl⟩ := aggregate_eq_ok h
  obtain ⟨hbinds, -⟩ := filters_eq_ok hfilters
  rw [← hcondition] at hbinds
  rw [hstar] at hfurther
  -- an aggregate over every row names no column for it
  have hover : (∀ v ∈ kind.further t a, t.Known v) ∧
      (if star then none else some column.display).toList =
        (kind.further t a).map Value.display := by
    cases star with
    | true =>
      rw [hfurther]
      exact ⟨fun _ hv => (nomatch hv), rfl⟩
    | false =>
      rw [hfurther]
      exact ⟨List.forall_mem_singleton.2 (hknown rfl), rfl⟩
  refine ⟨forall_mem_named ?_ hover.1 (known_of_binds hbinds), ?_, ?_, ?_, ?_⟩
  · rw [hwritten]
    exact fun _ hv => nomatch hv
  · exact List.forall_mem_append.2 ⟨List.forall_mem_append.2 ⟨List.forall_mem_append.2
      ⟨leadsTo_of_further hover.2, fun c hc => .inr (.inr (undeleted_eq_ok hundeleted c hc))⟩,
        leadsTo_of_condition (columns_of_binds hbinds)⟩, fun _ hc => nomatch hc⟩
  · rw [hwritten]
    exact .nil
  · rw [hfiltered]
    exact carries_of_binds hbinds
  · exact List.forall_mem_cons.2 ⟨.inl rfl, List.forall_mem_singleton.2 (.inr (.inl hname))⟩

/-- The statement of a selection by primary key. -/
theorem of_selectByKey {s : Selection}
    (h : t.selectByKey (a.argument "value") withDeleted = .ok s) :
    Compiled t a .selectByKey (.select s) := by
  obtain ⟨undeleted, value, hundeleted, hvalue, rfl⟩ := selectByKey_eq_ok h
  refine ⟨fun _ hv => (nomatch hv), ?_, .nil, .cons ⟨rfl, hvalue⟩ .nil,
    List.forall_mem_singleton.2 (.inl rfl)⟩
  exact List.forall_mem_append.2 ⟨List.forall_mem_append.2
    ⟨fun c hc => .inr (.inr (undeleted_eq_ok hundeleted c hc)),
      List.forall_mem_singleton.2 (.inr (.inl ⟨rfl, rfl⟩))⟩, fun _ hc => nomatch hc⟩

/-- The statement of an insertion. -/
theorem of_insert {i : Insertion} (h : t.insert (a.argument "values") orIgnore = .ok i) :
    Compiled t a .insert (.insert i) := by
  obtain ⟨ignoring, bound, -, hbinds, -, rfl⟩ := insert_eq_ok h
  refine ⟨forall_mem_named (known_of_binds hbinds) (fun _ hv => nomatch hv)
    (fun _ hv => nomatch hv), ?_, carries_of_binds hbinds, .nil,
    List.forall_mem_singleton.2 (.inl rfl)⟩
  exact List.forall_mem_append.2 ⟨leadsTo_of_written (columns_of_binds hbinds),
    fun _ hc => nomatch hc⟩

/-- The statement of an upsert. What it takes over is among what it stores. -/
theorem of_upsert {i : Insertion}
    (h : t.upsert (a.argument "values") (a.argument "conflict") = .ok i) :
    Compiled t a .upsert (.insert i) := by
  obtain ⟨bound, chosen, targets, updates, hbinds, hchosen, htargets, hknown, hupdates, rfl⟩ :=
    upsert_eq_ok h
  have hconflict : t.conflictColumns (a.argument "conflict") = targets := by
    rw [conflictColumns, ok_bind hchosen, htargets]
    rfl
  have hstored : updates ⊆ ((a.argument "values").entryList.map Prod.fst) :=
    filterM_subset hupdates
  refine ⟨forall_mem_named (known_of_binds hbinds) ?_ (fun _ hv => nomatch hv), ?_,
    carries_of_binds hbinds, .nil, List.forall_mem_singleton.2 (.inl rfl)⟩
  · rw [RequestKind.further, hconflict]
    exact hknown
  · refine List.forall_mem_append.2 ⟨leadsTo_of_written (columns_of_binds hbinds),
      List.forall_mem_append.2 ⟨leadsTo_of_further ?_, leadsTo_of_map_eq rfl fun v hv => ?_⟩⟩
    · rw [RequestKind.further, hconflict]
    · exact List.mem_append_left _ (List.mem_append_left _ (hstored hv))

/-- The statement of a change of rows, by whatever it changes them. -/
theorem of_change {bound filters : List Binding} {changes : List Assignment}
    (hwritten : List.Forall₂ t.Binds (kind.written a) bound)
    (hfilters : List.Forall₂ t.Binds (kind.condition a) filters)
    (hfiltered : kind.filtered t a = kind.condition a)
    (hfurther : ∀ v ∈ kind.further t a, t.Known v)
    (hcolumns : changes.map Assignment.column =
      bound.map Binding.column ++ (kind.further t a).map Value.display)
    (hbindings : changes.filterMap Assignment.binding? = bound)
    (hterms : ∀ w ∈ changes.filterMap Assignment.expression?,
      kind = .update ∧ ∃ e ∈ (a.argument "expressions").entryList, w = e.2.display) :
    Compiled t a kind (.update { table := t.name, assignments := changes, filters }) := by
  refine ⟨forall_mem_named (known_of_binds hwritten) hfurther (known_of_binds hfilters), ?_, ?_,
    ?_, List.forall_mem_cons.2 ⟨.inl rfl, fun w hw => .inr (.inr (hterms w hw))⟩⟩
  · refine List.forall_mem_append.2 ⟨?_, leadsTo_of_condition (columns_of_binds hfilters)⟩
    rw [hcolumns]
    exact List.forall_mem_append.2
      ⟨leadsTo_of_written (columns_of_binds hwritten), leadsTo_of_further rfl⟩
  · rw [RowStatement.writes, hbindings]
    exact carries_of_binds hwritten
  · rw [hfiltered]
    exact carries_of_binds hfilters

/-- The statement of an update. -/
theorem of_update {c : Change}
    (h : t.update (a.argument "values") (a.argument "where") (a.argument "expressions") = .ok c) :
    Compiled t a .update (.update c) := by
  obtain ⟨bound, filters, hbound, hcomputed, hfilters, -, rfl⟩ := update_eq_ok h
  refine of_change hbound hfilters rfl ?_ ?_ ?_ ?_
  · exact List.forall_mem_map.2 hcomputed
  · simp [RequestKind.further, Function.comp_def, Assignment.column]
  · simp [List.filterMap_map, Function.comp_def, Assignment.binding?]
  · simp [List.filterMap_map, Function.comp_def, Assignment.expression?, eq_comm]

/-- The statement of an increment. -/
theorem of_increment {c : Change}
    (h : t.increment (a.argument "deltas") (a.argument "where") = .ok c) :
    Compiled t a .increment (.update c) := by
  obtain ⟨bound, filters, hbound, hfilters, -, rfl⟩ := increment_eq_ok h
  refine of_change hbound hfilters rfl (fun _ hv => (nomatch hv)) ?_ ?_ ?_
  · simp [RequestKind.further, Function.comp_def, Assignment.column]
  · simp [List.filterMap_map, Function.comp_def, Assignment.binding?]
  · simp [List.filterMap_map, Function.comp_def, Assignment.expression?]

/-- The statement of a removal of the rows that meet a condition. -/
theorem of_delete {r : Removal} (h : t.delete (a.argument "where") = .ok r) :
    Compiled t a .delete (.delete r) := by
  obtain ⟨filters, hfilters, -, rfl⟩ := delete_eq_ok h
  exact ⟨forall_mem_named (fun _ hv => (nomatch hv)) (fun _ hv => (nomatch hv))
      (known_of_binds hfilters),
    leadsTo_of_condition (columns_of_binds hfilters), .nil, carries_of_binds hfilters,
    List.forall_mem_singleton.2 (.inl rfl)⟩

/-- The statement that removes every row. -/
theorem of_truncate : Compiled t a .truncate (.delete t.truncate) :=
  ⟨fun _ hv => (nomatch hv), fun _ hc => (nomatch hc), .nil, .nil,
    List.forall_mem_singleton.2 (.inl rfl)⟩

/-- A star is the name of no column. -/
theorem star_equals_star : (Value.str "*").equals (.str "*") = .ok true := by
  have hsame : (Value.str "*").same (.str "*") = true := (Value.same_str_iff _).2 rfl
  simp only [Value.equals, Value.isTensor, Bool.or_self, Bool.false_eq_true, if_false, hsame]
  rfl

/-- **What the statement of any request is made of.** -/
theorem of_statement {s : RowStatement} (h : kind.statement t a = .ok s) :
    Compiled t a kind s := by
  cases kind with
  | select =>
    obtain ⟨_, hs, rfl⟩ := map_eq_ok.1 h
    exact of_select rfl rfl rfl rfl hs
  | selectOne =>
    obtain ⟨_, hs, rfl⟩ := map_eq_ok.1 h
    exact of_select rfl rfl rfl rfl hs
  | selectByKey =>
    obtain ⟨_, hs, rfl⟩ := map_eq_ok.1 h
    exact of_selectByKey hs
  | aggregate =>
    obtain ⟨_, hs, rfl⟩ := map_eq_ok.1 h
    exact of_aggregate rfl rfl rfl rfl hs
  | count =>
    obtain ⟨_, hs, rfl⟩ := map_eq_ok.1 h
    exact of_aggregate rfl (by rw [star_equals_star]; rfl) rfl rfl hs
  | insert =>
    obtain ⟨_, hs, rfl⟩ := map_eq_ok.1 h
    exact of_insert hs
  | upsert =>
    obtain ⟨_, hs, rfl⟩ := map_eq_ok.1 h
    exact of_upsert hs
  | update =>
    obtain ⟨_, hs, rfl⟩ := map_eq_ok.1 h
    exact of_update hs
  | increment =>
    obtain ⟨_, hs, rfl⟩ := map_eq_ok.1 h
    exact of_increment hs
  | delete =>
    obtain ⟨_, hs, rfl⟩ := map_eq_ok.1 h
    exact of_delete hs
  | truncate =>
    obtain rfl := pure_eq_ok.1 h
    exact of_truncate

end Compiled

/-! ## Requests to the table of a model -/

/-- The table of a model that has columns knows them and nothing else. -/
theorem ResolvedModel.known_iff {m : ResolvedModel} (hcolumns : m.columnNames ≠ []) {v : Value} :
    m.queryTable.Known v ↔ ∃ c ∈ m.columnNames, v.text? = some c := by
  have hsome : m.queryTable.columns ≠ [] := by
    rw [ResolvedModel.queryTable, ne_eq, List.map_eq_nil_iff]
    exact hcolumns
  have hany : ∀ key : Value, m.queryTable.columns.any (key.same ·) = true ↔
      ∃ c ∈ m.columnNames, key.text? = some c := by
    intro key
    simp only [ResolvedModel.queryTable, List.any_map, List.any_eq_true, Function.comp_apply,
      Value.same_str_iff]
  constructor
  · rintro (hnone | ⟨key, hkey, hmem⟩)
    · exact absurd hnone hsome
    · rw [← Value.text?_of_memberKey hkey]
      exact (hany key).1 hmem
  · rintro ⟨c, hc, htext⟩
    exact .inr ⟨v, Value.memberKey_of_text? htext, (hany v).2 ⟨c, hc, htext⟩⟩

end Tablewright
