import Tablewright.Proofs.Query.Request
import Tablewright.Session.Rows

/-!
# Values stay out of the text

Requests to the table of a model that differ in nothing but values under the same keys give
statements of one text, and every value is bound in the place of the column that its key names
(`ResolvedModel.sql_eq_of_sameKeys`).
-/

namespace Tablewright

open Fallible

/-! ## Requests that differ in values only -/

/-- Two values are the same but for what mappings store under their keys. -/
inductive Value.SameKeys : Value → Value → Prop
  /-- The values are the same. -/
  | same (v : Value) : SameKeys v v
  /-- Both are mappings, with the same keys in the same order. -/
  | mapping {m m' : Mapping} (h : m.map Prod.fst = m'.map Prod.fst) : SameKeys (.dict m) (.dict m')

theorem Value.SameKeys.keys_eq {v v' : Value} (h : v.SameKeys v') :
    v.entryList.map Prod.fst = v'.entryList.map Prod.fst := by
  cases h with
  | same => rfl
  | mapping h => exact h

/-- Two requests are the same but for the values that are written and those that are asked for. -/
structure Named.SameKeys (a a' : Named Value) : Prop where
  /-- Mappings have the same keys. -/
  mappings : ∀ name ∈ ["values", "deltas", "where"],
    (a.argument name).SameKeys (a'.argument name)
  /-- All other arguments are the same, except for the primary key that is asked for. -/
  rest : ∀ name ∉ ["values", "deltas", "where", "value"], a.argument name = a'.argument name

namespace QueryTable

variable {t : QueryTable} {m m' : Mapping} {bs bs' : List Binding}
  {condition condition' values values' order limit offset withDeleted function column orIgnore
    conflict expressions key key' : Value}

/-- Entries with the same keys are bound to the same columns. -/
theorem unbound_congr (hkeys : m.map Prod.fst = m'.map Prod.fst) (h : List.Forall₂ t.Binds m bs)
    (h' : List.Forall₂ t.Binds m' bs') : bs.map Binding.unbound = bs'.map Binding.unbound :=
  map_unbound_congr (by rw [columns_of_binds h, columns_of_binds h', hkeys])

theorem select_unbound_congr {s s' : Selection} (hkeys : condition.SameKeys condition')
    (h : t.select condition order limit offset withDeleted = .ok s)
    (h' : t.select condition' order limit offset withDeleted = .ok s') :
    (RowStatement.select s).unbound = (RowStatement.select s').unbound := by
  obtain ⟨undeleted, filters, terms, most, first, hundeleted, hfilters, hterms, hmost, hfirst,
    rfl⟩ := select_eq_ok h
  obtain ⟨_, filters', _, _, _, hundeleted', hfilters', hterms', hmost', hfirst', rfl⟩ :=
    select_eq_ok h'
  cases hundeleted.symm.trans hundeleted'
  cases hterms.symm.trans hterms'
  cases hmost.symm.trans hmost'
  cases hfirst.symm.trans hfirst'
  rw [RowStatement.unbound, RowStatement.unbound,
    unbound_congr hkeys.keys_eq (filters_eq_ok hfilters).1 (filters_eq_ok hfilters').1]

theorem selectByKey_unbound_congr {s s' : Selection} (h : t.selectByKey key withDeleted = .ok s)
    (h' : t.selectByKey key' withDeleted = .ok s') :
    (RowStatement.select s).unbound = (RowStatement.select s').unbound := by
  obtain ⟨undeleted, value, hundeleted, -, rfl⟩ := selectByKey_eq_ok h
  obtain ⟨_, value', hundeleted', -, rfl⟩ := selectByKey_eq_ok h'
  cases hundeleted.symm.trans hundeleted'
  rfl

theorem aggregate_unbound_congr {s s' : Selection} (hkeys : condition.SameKeys condition')
    (h : t.aggregate function column condition withDeleted = .ok s)
    (h' : t.aggregate function column condition' withDeleted = .ok s') :
    (RowStatement.select s).unbound = (RowStatement.select s').unbound := by
  obtain ⟨upper, name, star, undeleted, filters, hupper, hname, -, hstar, -, hundeleted, hfilters,
    rfl⟩ := aggregate_eq_ok h
  obtain ⟨_, _, _, _, filters', hupper', hname', -, hstar', -, hundeleted', hfilters', rfl⟩ :=
    aggregate_eq_ok h'
  cases hupper.symm.trans hupper'
  cases hname.symm.trans hname'
  cases hstar.symm.trans hstar'
  cases hundeleted.symm.trans hundeleted'
  rw [RowStatement.unbound, RowStatement.unbound,
    unbound_congr hkeys.keys_eq (filters_eq_ok hfilters).1 (filters_eq_ok hfilters').1]

theorem insert_unbound_congr {i i' : Insertion} (hkeys : values.SameKeys values')
    (h : t.insert values orIgnore = .ok i) (h' : t.insert values' orIgnore = .ok i') :
    (RowStatement.insert i).unbound = (RowStatement.insert i').unbound := by
  obtain ⟨ignoring, bound, hignoring, hbound, -, rfl⟩ := insert_eq_ok h
  obtain ⟨_, bound', hignoring', hbound', -, rfl⟩ := insert_eq_ok h'
  cases hignoring.symm.trans hignoring'
  rw [RowStatement.unbound, RowStatement.unbound, unbound_congr hkeys.keys_eq hbound hbound']

theorem upsert_unbound_congr {i i' : Insertion} (hkeys : values.SameKeys values')
    (h : t.upsert values conflict = .ok i) (h' : t.upsert values' conflict = .ok i') :
    (RowStatement.insert i).unbound = (RowStatement.insert i').unbound := by
  obtain ⟨bound, chosen, targets, updates, hbound, hchosen, htargets, -, hupdates, rfl⟩ :=
    upsert_eq_ok h
  obtain ⟨bound', _, _, _, hbound', hchosen', htargets', -, hupdates', rfl⟩ := upsert_eq_ok h'
  cases hchosen.symm.trans hchosen'
  cases htargets.symm.trans htargets'
  rw [← hkeys.keys_eq] at hupdates'
  cases hupdates.symm.trans hupdates'
  rw [RowStatement.unbound, RowStatement.unbound, unbound_congr hkeys.keys_eq hbound hbound']

theorem update_unbound_congr {c c' : Change} (hvalues : values.SameKeys values')
    (hcondition : condition.SameKeys condition')
    (h : t.update values condition expressions = .ok c)
    (h' : t.update values' condition' expressions = .ok c') :
    (RowStatement.update c).unbound = (RowStatement.update c').unbound := by
  obtain ⟨bound, filters, hbound, -, hfilters, -, rfl⟩ := update_eq_ok h
  obtain ⟨bound', filters', hbound', -, hfilters', -, rfl⟩ := update_eq_ok h'
  have hset : ∀ bs : List Binding, (bs.map Assignment.set).map Assignment.unbound =
      (bs.map Binding.unbound).map .set := fun bs => by
    rw [List.map_map, List.map_map]
    rfl
  simp only [RowStatement.unbound, List.map_append, hset,
    unbound_congr hvalues.keys_eq hbound hbound',
    unbound_congr hcondition.keys_eq hfilters hfilters']

theorem increment_unbound_congr {c c' : Change} (hvalues : values.SameKeys values')
    (hcondition : condition.SameKeys condition') (h : t.increment values condition = .ok c)
    (h' : t.increment values' condition' = .ok c') :
    (RowStatement.update c).unbound = (RowStatement.update c').unbound := by
  obtain ⟨bound, filters, hbound, hfilters, -, rfl⟩ := increment_eq_ok h
  obtain ⟨bound', filters', hbound', hfilters', -, rfl⟩ := increment_eq_ok h'
  have hadd : ∀ bs : List Binding, (bs.map Assignment.add).map Assignment.unbound =
      (bs.map Binding.unbound).map .add := fun bs => by
    rw [List.map_map, List.map_map]
    rfl
  simp only [RowStatement.unbound, hadd, unbound_congr hvalues.keys_eq hbound hbound',
    unbound_congr hcondition.keys_eq hfilters hfilters']

theorem delete_unbound_congr {r r' : Removal} (hcondition : condition.SameKeys condition')
    (h : t.delete condition = .ok r) (h' : t.delete condition' = .ok r') :
    (RowStatement.delete r).unbound = (RowStatement.delete r').unbound := by
  obtain ⟨filters, hfilters, -, rfl⟩ := delete_eq_ok h
  obtain ⟨filters', hfilters', -, rfl⟩ := delete_eq_ok h'
  rw [RowStatement.unbound, RowStatement.unbound,
    unbound_congr hcondition.keys_eq hfilters hfilters']

end QueryTable

open QueryTable in
/-- **Requests that differ in values only give statements that do.** -/
theorem RequestKind.unbound_congr {t : QueryTable} {a a' : Named Value} {kind : RequestKind}
    {s s' : RowStatement} (hsame : a.SameKeys a') (h : kind.statement t a = .ok s)
    (h' : kind.statement t a' = .ok s') : s.unbound = s'.unbound := by
  have hcondition := hsame.mappings "where" (by decide)
  have hvalues := hsame.mappings "values" (by decide)
  have hrest : ∀ name ∉ ["values", "deltas", "where", "value"],
      a'.getOr name .null = a.getOr name .null := fun name hname => (hsame.rest name hname).symm
  have hdeleted := hrest "with_deleted" (by decide)
  -- one case for each generator: what it reads beside mappings of values is the same in both
  cases kind with
  | select =>
    obtain ⟨_, hs, rfl⟩ := map_eq_ok.1 h
    obtain ⟨_, hs', rfl⟩ := map_eq_ok.1 h'
    simp only [hrest "order" (by decide), hrest "limit" (by decide), hrest "offset" (by decide),
      hdeleted] at hs'
    exact select_unbound_congr hcondition hs hs'
  | selectOne =>
    obtain ⟨_, hs, rfl⟩ := map_eq_ok.1 h
    obtain ⟨_, hs', rfl⟩ := map_eq_ok.1 h'
    simp only [hrest "order" (by decide), hdeleted] at hs'
    exact select_unbound_congr hcondition hs hs'
  | selectByKey =>
    obtain ⟨_, hs, rfl⟩ := map_eq_ok.1 h
    obtain ⟨_, hs', rfl⟩ := map_eq_ok.1 h'
    simp only [hdeleted] at hs'
    exact selectByKey_unbound_congr hs hs'
  | aggregate =>
    obtain ⟨_, hs, rfl⟩ := map_eq_ok.1 h
    obtain ⟨_, hs', rfl⟩ := map_eq_ok.1 h'
    simp only [hrest "fn" (by decide), hrest "column" (by decide), hdeleted] at hs'
    exact aggregate_unbound_congr hcondition hs hs'
  | count =>
    obtain ⟨_, hs, rfl⟩ := map_eq_ok.1 h
    obtain ⟨_, hs', rfl⟩ := map_eq_ok.1 h'
    simp only [hdeleted] at hs'
    exact aggregate_unbound_congr hcondition hs hs'
  | insert =>
    obtain ⟨_, hs, rfl⟩ := map_eq_ok.1 h
    obtain ⟨_, hs', rfl⟩ := map_eq_ok.1 h'
    simp only [hrest "or_ignore" (by decide)] at hs'
    exact insert_unbound_congr hvalues hs hs'
  | upsert =>
    obtain ⟨_, hs, rfl⟩ := map_eq_ok.1 h
    obtain ⟨_, hs', rfl⟩ := map_eq_ok.1 h'
    simp only [hrest "conflict" (by decide)] at hs'
    exact upsert_unbound_congr hvalues hs hs'
  | update =>
    obtain ⟨_, hs, rfl⟩ := map_eq_ok.1 h
    obtain ⟨_, hs', rfl⟩ := map_eq_ok.1 h'
    simp only [hrest "expressions" (by decide)] at hs'
    exact update_unbound_congr hvalues hcondition hs hs'
  | increment =>
    obtain ⟨_, hs, rfl⟩ := map_eq_ok.1 h
    obtain ⟨_, hs', rfl⟩ := map_eq_ok.1 h'
    exact increment_unbound_congr (hsame.mappings "deltas" (by decide)) hcondition hs hs'
  | delete =>
    obtain ⟨_, hs, rfl⟩ := map_eq_ok.1 h
    obtain ⟨_, hs', rfl⟩ := map_eq_ok.1 h'
    exact delete_unbound_congr hcondition hs hs'
  | truncate =>
    cases pure_eq_ok.1 h
    cases pure_eq_ok.1 h'
    rfl

/-! ## Places -/

/-- A key is the text of a column. -/
def KeyOf (e : Value × Value) (column : String) : Prop :=
  e.1.text? = some column

/-- The values of some entries are bound in order, each in the place of the column that its key
names, first those that are written and then those that are asked for, and no other question mark is
in the text. -/
structure RowStatement.BindsInPlace (s : RowStatement) (written filtered : Mapping) : Prop where
  /-- The text is that of the pieces. -/
  text : s.sql.toList = layOut s.pieces
  /-- Only places are written as question marks. -/
  unmarked : ∀ p ∈ s.pieces, p.place? = none → Unmarked p.text
  /-- There are as many question marks as bound values. -/
  count : s.sql.toList.count '?' = s.params.length
  /-- The places are those of the columns that the keys name. -/
  places : List.Forall₂ KeyOf (written ++ filtered) s.places
  /-- The bound values are what is stored for the values. -/
  params : List.Forall₂ (fun e v => e.2.storable = .ok v) (written ++ filtered) s.params
  /-- What is asked for has its places behind all others and behind the word for a condition. -/
  parts : ∃ front back, s.pieces = front ++ back ∧
    List.Forall₂ KeyOf written (front.filterMap Piece.place?) ∧
    List.Forall₂ KeyOf filtered (back.filterMap Piece.place?) ∧
    (filtered ≠ [] → back.head? = some (.words " WHERE "))

variable {source : DefinitionSource} {m : ResolvedModel} {kind : RequestKind} {a : Named Value}
  {s : RowStatement}

/-- The functions of aggregates are plain words. -/
theorem unmarked_of_mem_aggregateNames {w : String} (h : w ∈ aggregateNames) : Unmarked w := by
  revert w
  decide

/-- What a request leads to is a name without a question mark. -/
theorem ResolvedModel.unmarked_of_leadsTo (hm : source.resolve = .ok m)
    (hcolumns : m.columnNames ≠ []) (hknown : ∀ v ∈ kind.named m.queryTable a, m.queryTable.Known v)
    {c : String} (h : kind.LeadsTo m.queryTable a c) : Unmarked c := by
  obtain ⟨d, name, table, -, hd⟩ := DefinitionSource.exists_resolveWith hm
  have hwell := ModelDefinition.wellFormed_of_resolveWith hd
  rcases h with ⟨v, hv, rfl⟩ | ⟨-, rfl⟩ | hdeleted
  · obtain ⟨c, hc, htext⟩ := (known_iff hcolumns).1 (hknown v hv)
    rw [Value.display_of_text? htext]
    exact questionMark_not_mem_identifier (hwell.identifiers c hc)
  · exact questionMark_not_mem_identifier (DefinitionSource.isIdentifier_primaryKey hm)
  · exact questionMark_not_mem_identifier (hwell.identifiers c (hwell.deletedAt_mem hdeleted))

/-- The expression that counts a change holds no question mark. -/
theorem ResolvedModel.unmarked_of_mem_versionStep (hwell : m.WellFormed) {e : Value × Value}
    (he : e ∈ m.versionStep) : Unmarked e.2.display := by
  unfold versionStep at he
  split at he
  · rename_i column hcolumn
    obtain rfl := List.mem_singleton.1 he
    have hid := hwell.identifiers column (hwell.version_mem hcolumn)
    exact unmarked_append (questionMark_not_mem_identifier hid) (by decide)
  · cases he

/-- Keys that are named are texts, and so is the primary key. -/
theorem ResolvedModel.exists_keyOf (hcolumns : m.columnNames ≠ [])
    (hknown : ∀ v ∈ kind.named m.queryTable a, m.queryTable.Known v) :
    (∀ e ∈ kind.written a, ∃ c, KeyOf e c) ∧
      ∀ e ∈ kind.filtered m.queryTable a, ∃ c, KeyOf e c := by
  have hnamed : ∀ v ∈ kind.named m.queryTable a, ∃ c, v.text? = some c := fun v hv =>
    have ⟨c, _, htext⟩ := (known_iff hcolumns).1 (hknown v hv)
    ⟨c, htext⟩
  have hcondition : ∀ e ∈ kind.condition a, ∃ c, KeyOf e c := fun e he =>
    hnamed e.1 (List.mem_append_right _ (List.mem_map_of_mem he))
  refine ⟨fun e he => hnamed e.1
    (List.mem_append_left _ (List.mem_append_left _ (List.mem_map_of_mem he))), fun e he => ?_⟩
  cases kind with
  | selectByKey =>
    obtain rfl := List.mem_singleton.1 he
    exact ⟨m.primaryKey, rfl⟩
  | _ => exact hcondition e he

/-- What carries the value of an entry under a text is for the column of that text. -/
theorem keyOf_of_carries {entries : Mapping} {bs : List Binding}
    (hkeys : ∀ e ∈ entries, ∃ c, KeyOf e c) (h : List.Forall₂ Binding.Carries entries bs) :
    List.Forall₂ KeyOf entries (bs.map Binding.column) := by
  induction h with
  | nil => exact .nil
  | cons hcarries _ ih =>
    obtain ⟨⟨c, htext⟩, hrest⟩ := List.forall_mem_cons.1 hkeys
    refine .cons ?_ (ih hrest)
    rw [hcarries.1, Value.display_of_text? htext]
    exact htext

/-- **The statement of a request to the table of a model binds its values in their places.** -/
theorem ResolvedModel.bindsInPlace_of_statement (hm : source.resolve = .ok m)
    (hcolumns : m.columnNames ≠ [])
    (hexpressions : kind = .update → (a.argument "expressions").entryList = [] ∨
      a.argument "expressions" = .dict m.versionStep)
    (h : kind.statement m.queryTable a = .ok s) :
    s.BindsInPlace (kind.written a) (kind.filtered m.queryTable a) := by
  have hcompiled := Compiled.of_statement h
  obtain ⟨d, name, table, -, hd⟩ := DefinitionSource.exists_resolveWith hm
  have hwell := ModelDefinition.wellFormed_of_resolveWith hd
  -- neither a column nor a word beside the columns holds a question mark
  have hmarks : ∀ c ∈ s.columns, Unmarked c := fun c hc =>
    unmarked_of_leadsTo hm hcolumns hcompiled.known (hcompiled.columns c (s.columns_subset hc))
  have hterms : ∀ w ∈ s.terms, Unmarked w := by
    intro w hw
    rcases hcompiled.terms w hw with rfl | hw | ⟨rfl, e, he, rfl⟩
    · exact questionMark_not_mem_identifier (DefinitionSource.names_of_resolve hm).2.2
    · exact unmarked_of_mem_aggregateNames hw
    · rcases hexpressions rfl with hnone | hstep
      · rw [hnone] at he
        cases he
      · rw [hstep] at he
        exact unmarked_of_mem_versionStep hwell he
  -- and the bindings stand for the columns that the keys name
  obtain ⟨hwritten, hfiltered⟩ := exists_keyOf hcolumns hcompiled.known
  have hwrites := keyOf_of_carries hwritten hcompiled.writes
  have hfilters := keyOf_of_carries hfiltered hcompiled.filters
  obtain ⟨front, back, hparts⟩ := s.exists_parts
  exact
    { text := s.toList_sql
      unmarked := fun p hp hplace => by
        cases p with
        | words w => exact RowStatement.wordsUnmarked_pieces hterms w hp
        | column c => exact hmarks c (List.mem_filterMap.2 ⟨_, hp, rfl⟩)
        | place c => cases hplace
      count := RowStatement.count_sql hterms hmarks
      places := by
        rw [s.places_eq, List.map_append]
        exact List.rel_append hwrites hfilters
      params := by
        rw [s.params_eq]
        exact List.forall₂_map_right_iff.2
          ((List.rel_append hcompiled.writes hcompiled.filters).imp fun _ _ hb => hb.2)
      parts := by
        refine ⟨front, back, hparts.pieces, hparts.writes ▸ hwrites, hparts.filters ▸ hfilters,
          fun hne => hparts.condition fun hnil => hne ?_⟩
        have hbound := hcompiled.filters
        rw [hnil] at hbound
        exact List.forall₂_nil_right_iff.1 hbound }

/-- **Values never enter the text.** Requests to the table of a model that differ in values only
give statements of one text, and each binds its values in their places: those that are written,
then those that are asked for. -/
theorem ResolvedModel.sql_eq_of_sameKeys {a' : Named Value} {s' : RowStatement}
    (hm : source.resolve = .ok m) (hcolumns : m.columnNames ≠ []) (hsame : a.SameKeys a')
    (hexpressions : kind = .update → (a.argument "expressions").entryList = [] ∨
      a.argument "expressions" = .dict m.versionStep)
    (h : kind.statement m.queryTable a = .ok s) (h' : kind.statement m.queryTable a' = .ok s') :
    s.sql = s'.sql ∧ s.BindsInPlace (kind.written a) (kind.filtered m.queryTable a) ∧
      s'.BindsInPlace (kind.written a') (kind.filtered m.queryTable a') := by
  refine ⟨RowStatement.sql_eq_of_unbound_eq (RequestKind.unbound_congr hsame h h'),
    bindsInPlace_of_statement hm hcolumns hexpressions h,
    bindsInPlace_of_statement hm hcolumns ?_ h'⟩
  rw [← hsame.rest "expressions" (by decide)]
  exact hexpressions

/-- A change of the tasks of one title, which counts the change. -/
def taskChange (m : ResolvedModel) (title due : String) : Named Value :=
  [("values", .dict [(.str "due_at", .str due)]), ("where", .dict [(.str "title", .str title)]),
   ("expressions", .dict m.versionStep)]

/-- Two such changes have one text, though a value of the second is written like one. -/
theorem sql_eq_of_taskChange :
    ∃ m s s', (DefinitionSource.built taskDefinition).resolve = .ok m ∧ m.columnNames ≠ [] ∧
      RequestKind.update.statement m.queryTable (taskChange m "Pack" "2024-05-01") = .ok s ∧
      RequestKind.update.statement m.queryTable (taskChange m "x; DROP TABLE Task; --" "?") =
        .ok s' ∧
      s.sql = s'.sql ∧
      s.BindsInPlace [(.str "due_at", .str "2024-05-01")] [(.str "title", .str "Pack")] ∧
      s'.BindsInPlace [(.str "due_at", .str "?")]
        [(.str "title", .str "x; DROP TABLE Task; --")] := by
  have hrun : (do
      let m ← (DefinitionSource.built taskDefinition).resolve
      let _ ← RequestKind.update.statement m.queryTable (taskChange m "Pack" "2024-05-01")
      let _ ← RequestKind.update.statement m.queryTable
        (taskChange m "x; DROP TABLE Task; --" "?")
      pure m.columnNames.isEmpty).toOption = some false := by
    decide +kernel
  obtain ⟨m, hm, hrest⟩ := bind_eq_ok.1 (eq_ok_of_toOption hrun)
  obtain ⟨s, hs, hrest⟩ := bind_eq_ok.1 hrest
  obtain ⟨s', hs', hrest⟩ := bind_eq_ok.1 hrest
  have hcolumns : m.columnNames ≠ [] := by
    rw [ne_eq, ← List.isEmpty_iff, pure_eq_ok.1 hrest]
    exact Bool.false_ne_true
  have hsame : (taskChange m "Pack" "2024-05-01").SameKeys
      (taskChange m "x; DROP TABLE Task; --" "?") :=
    { mappings := by
        refine List.forall_mem_cons.2 ⟨.mapping rfl, List.forall_mem_cons.2 ⟨.same _,
          List.forall_mem_singleton.2 (.mapping rfl)⟩⟩
      rest := fun name hname => by
        have hvalues : "values" ≠ name := fun heq => hname (by simp [← heq])
        have hwhere : "where" ≠ name := fun heq => hname (by simp [← heq])
        simp only [Named.argument, Named.getOr, taskChange, Named.get?_cons, hvalues, hwhere,
          if_false] }
  exact ⟨m, s, s', hm, hcolumns, hs, hs',
    ResolvedModel.sql_eq_of_sameKeys hm hcolumns hsame (fun _ => .inr rfl) hs hs'⟩

end Tablewright
