import Tablewright.Proofs.Query.Request

/-!
# Requests that can only be refused

Where all parts of a request can be read — conditions answer, mappings are mappings, what names a
column can be looked up, values can be stored — there is one way for it to give no statement: it is
refused for an issue (`RequestKind.refuses_statement`).
-/

namespace Tablewright

open Fallible

/-! ## Parts that can be read -/

namespace Value

/-- A value can be looked up among the columns. -/
def CanName (v : Value) : Prop :=
  ∃ key, v.memberKey = .ok key

/-- A value can be read as a mapping whose keys can be looked up. -/
structure IsMapping (v : Value) : Prop where
  /-- It answers for a condition. -/
  answers : v.hasTruth = true
  /-- If it holds it is a mapping. -/
  mapping : v.truthy = true → ∃ m, v = .dict m
  /-- Its keys can be looked up. -/
  keys : ∀ e ∈ v.entryList, e.1.CanName

/-- A value can be read as a mapping whose values can be stored. -/
structure IsStorable (v : Value) : Prop extends v.IsMapping where
  /-- Its values can be stored. -/
  stored : ∀ e ∈ v.entryList, ∃ w, e.2.storable = .ok w

/-- A value can be read as some items that can be looked up, if it holds. -/
structure IsNames (v : Value) : Prop where
  /-- It answers for a condition. -/
  answers : v.hasTruth = true
  /-- If it holds it has items that can be looked up. -/
  items : v.truthy = true → ∃ vs, v.items = .ok vs ∧ ∀ w ∈ vs, w.CanName

/-- A value can be read as an ordering: its terms are texts, or pairs of what can be looked up and a
direction. -/
structure IsOrdering (v : Value) : Prop where
  /-- It answers for a condition. -/
  answers : v.hasTruth = true
  /-- If it holds it has terms. -/
  terms : v.truthy = true → ∃ vs, v.items = .ok vs ∧
    ∀ item ∈ vs, item.text?.isSome = true ∨
      ∃ named direction, item.pair = .ok (named, direction) ∧ named.CanName

end Value

/-- All parts of a request can be read. -/
structure RequestKind.Readable (kind : RequestKind) (a : Named Value) : Prop where
  /-- The condition. -/
  condition : (a.argument "where").IsStorable
  /-- The values that are written, which for an update must be a mapping. -/
  values : (a.argument "values").IsStorable
  /-- Only a mapping can be the values of an update, even if it holds nothing. -/
  updated : kind = .update → ∃ m, a.argument "values" = .dict m
  /-- The amounts. -/
  deltas : (a.argument "deltas").IsStorable
  /-- The expressions. -/
  expressions : (a.argument "expressions").IsMapping
  /-- The ordering. -/
  order : (a.argument "order").IsOrdering
  /-- The columns of a conflict. -/
  conflict : (a.argument "conflict").IsNames
  /-- The most rows. -/
  limit : ∃ n, QueryTable.rowCount? (a.argument "limit") = .ok n
  /-- The rows left out. -/
  offset : ∃ n, QueryTable.rowCount? (a.argument "offset") = .ok n
  /-- Whether deleted rows count. -/
  withDeleted : (a.argument "with_deleted").hasTruth = true
  /-- Whether rows that break a constraint are passed over. -/
  orIgnore : (a.argument "or_ignore").hasTruth = true
  /-- The primary key that is asked for. -/
  key : ∃ w, (a.argument "value").storable = .ok w
  /-- The function of an aggregate. -/
  function : kind = .aggregate → ∃ w, (a.argument "fn").upperCase = .ok w
  /-- The column of an aggregate can be told from a star. -/
  star : ∃ b, (a.argument "column").equals (.str "*") = .ok b
  /-- The column of an aggregate can be looked up. -/
  column : (a.argument "column").CanName

/-- A fault is an issue with what the caller asked for. -/
def Fault.IsIssue (f : Fault) : Prop :=
  ∃ issue, f = .invalid issue

/-- The computation can only be refused. -/
abbrev Refuses {α : Type} (x : Except Fault α) : Prop :=
  FailsWith Fault.IsIssue x

theorem refuses_refuse {α : Type} (issue : Issue) : Refuses (refuse issue : Except Fault α) :=
  FailsWith.error ⟨issue, rfl⟩

namespace Value

variable {v w : Value}

/-- A value that does not hold can be read as a mapping, a list of names or an ordering. -/
theorem IsStorable.of_not_truthy (hanswers : v.hasTruth = true) (h : v.truthy = false) :
    v.IsStorable where
  answers := hanswers
  mapping := fun htrue => by rw [h] at htrue; cases htrue
  keys := by rw [entryList_of_not_truthy h]; exact fun _ he => nomatch he
  stored := by rw [entryList_of_not_truthy h]; exact fun _ he => nomatch he

theorem IsNames.of_not_truthy (hanswers : v.hasTruth = true) (h : v.truthy = false) :
    v.IsNames where
  answers := hanswers
  items := fun htrue => by rw [h] at htrue; cases htrue

theorem IsOrdering.of_not_truthy (hanswers : v.hasTruth = true) (h : v.truthy = false) :
    v.IsOrdering where
  answers := hanswers
  terms := fun htrue => by rw [h] at htrue; cases htrue

theorem exists_truth (h : v.hasTruth = true) : ∃ b, v.truth = .ok b :=
  ⟨v.truthy, truth_of_hasTruth h⟩

/-- What stands for a mapping where one is asked for has entries. -/
theorem IsMapping.exists_entries (h : v.IsMapping) :
    ∃ w, v.orEmptyMapping = .ok w ∧ w.entries = .ok v.entryList := by
  rw [orEmptyMapping, orElse, ok_bind (truth_of_hasTruth h.answers)]
  cases htruthy : v.truthy with
  | false =>
    rw [entryList_of_not_truthy htruthy]
    exact ⟨.dict [], rfl, rfl⟩
  | true =>
    obtain ⟨m, rfl⟩ := h.mapping htruthy
    exact ⟨.dict m, rfl, rfl⟩

/-- The keys of a mapping that holds are its items. -/
theorem IsMapping.items_eq (h : v.IsMapping) (htruthy : v.truthy = true) :
    v.items = .ok (v.entryList.map Prod.fst) := by
  obtain ⟨m, rfl⟩ := h.mapping htruthy
  rfl

/-- Texts can be compared. -/
theorem exists_equals_of_text? {s s' : String} (h : v.text? = some s) (h' : w.text? = some s') :
    ∃ b, v.equals w = .ok b := by
  rcases eq_str_or_eq_scalar_of_text? h with rfl | rfl <;>
  rcases eq_str_or_eq_scalar_of_text? h' with rfl | rfl <;>
  simp only [equals, isTensor, Bool.or_self, Bool.false_eq_true, if_false] <;>
  exact ⟨_, rfl⟩

/-- A text can be looked for among texts. -/
theorem exists_isAmong {vs : List Value} (h : ∃ s, v.text? = some s)
    (hvs : ∀ w ∈ vs, ∃ s, w.text? = some s) : ∃ b, v.isAmong vs = .ok b := by
  induction vs with
  | nil => exact ⟨false, rfl⟩
  | cons w vs ih =>
    obtain ⟨⟨s', hs'⟩, hrest⟩ := List.forall_mem_cons.1 hvs
    obtain ⟨s, hs⟩ := h
    obtain ⟨b, hb⟩ := exists_equals_of_text? hs' hs
    rw [isAmong, ok_bind hb]
    cases b with
    | true => exact ⟨true, rfl⟩
    | false => exact ih hrest

end Value

/-! ## Parts of requests -/

namespace QueryTable

variable {t : QueryTable} {v w order limit offset withDeleted condition conflict values deltas
  expressions function column : Value}

theorem refuses_column (h : v.CanName) : Refuses (t.column v) := by
  refine FailsWith.ite (fun _ => FailsWith.pure) fun _ => ?_
  exact FailsWith.bind_of_ok h fun _ _ =>
    FailsWith.ite (fun _ => FailsWith.pure) fun _ => refuses_refuse _

theorem refuses_columns {vs : List Value} (h : ∀ v ∈ vs, v.CanName) :
    Refuses (vs.mapM t.column) :=
  FailsWith.mapM fun v hv => refuses_column (h v hv)

theorem refuses_filters (h : condition.IsStorable) : Refuses (t.filters condition) := by
  obtain ⟨w, hw, hm⟩ := h.exists_entries
  rw [filters, ok_bind hw, ok_bind hm]
  refine FailsWith.mapM fun e he => ?_
  exact FailsWith.bind (refuses_column (h.keys e he)) fun _ _ =>
    FailsWith.bind_of_ok (h.stored e he) fun _ _ => FailsWith.pure

theorem refuses_undeleted (h : withDeleted.hasTruth = true) :
    Refuses (t.undeleted withDeleted) := by
  unfold QueryTable.undeleted
  split
  · exact FailsWith.bind_of_ok (Value.exists_truth h) fun _ _ => FailsWith.pure
  · exact FailsWith.pure

/-- A term goes on with its column once its direction is known. -/
theorem refuses_directed {named : Value} (h : named.CanName) (keyword : String) :
    Refuses (match Direction.ofKeyword? keyword with
      | some direction => do
        let column ← t.column named
        pure ({ column := column.display, direction } : OrderTerm)
      | none => refuse (.orderDirection keyword)) := by
  split
  · exact FailsWith.bind (refuses_column h) fun _ _ => FailsWith.pure
  · exact refuses_refuse _

theorem refuses_orderTerm {item : Value} (h : item.text?.isSome = true ∨
    ∃ named direction, item.pair = .ok (named, direction) ∧ named.CanName) :
    Refuses (t.orderTerm item) := by
  unfold orderTerm
  split
  case isTrue htext =>
    obtain ⟨s, hs⟩ := Option.isSome_iff_exists.1 htext
    exact refuses_directed ⟨item, Value.memberKey_of_text? hs⟩ (Text.upper (Value.str "ASC").text)
  case isFalse htext =>
    obtain ⟨named, direction, hpair, hnamed⟩ := h.resolve_left htext
    rw [hpair]
    exact refuses_directed hnamed (Text.upper direction.text)

theorem refuses_ordering (h : order.IsOrdering) : Refuses (t.ordering order) := by
  refine FailsWith.bind_of_ok (Value.exists_truth h.answers) fun b hb => ?_
  refine FailsWith.ite (fun htrue => ?_) fun _ => FailsWith.pure
  obtain ⟨vs, hvs, hterms⟩ := h.terms ((Value.truth_eq_ok.1 hb).2.trans htrue)
  rw [ok_bind hvs]
  exact FailsWith.mapM fun item hitem => refuses_orderTerm (hterms item hitem)

theorem refuses_requireCondition {operation : String} (h : condition.hasTruth = true) :
    Refuses (t.requireCondition operation condition) :=
  FailsWith.bind_of_ok (Value.exists_truth h) fun _ _ =>
    FailsWith.ite (fun _ => FailsWith.pure) fun _ => refuses_refuse _

theorem exists_storedValues {m : Mapping} (h : ∀ e ∈ m, ∃ w, e.2.storable = .ok w) :
    ∃ ws, storedValues (.dict m) = .ok ws :=
  exists_mapM_eq_ok.2 h

/-! ## Requests -/

theorem refuses_select (hcondition : condition.IsStorable) (horder : order.IsOrdering)
    (hlimit : ∃ n, rowCount? limit = .ok n) (hoffset : ∃ n, rowCount? offset = .ok n)
    (hdeleted : withDeleted.hasTruth = true) :
    Refuses (t.select condition order limit offset withDeleted) :=
  FailsWith.bind (refuses_undeleted hdeleted) fun _ _ =>
    FailsWith.bind (refuses_filters hcondition) fun _ _ =>
    FailsWith.bind (refuses_ordering horder) fun _ _ =>
    FailsWith.bind_of_ok hlimit fun _ _ =>
    FailsWith.bind_of_ok hoffset fun _ _ => FailsWith.pure

theorem refuses_selectByKey (hkey : ∃ w, v.storable = .ok w)
    (hdeleted : withDeleted.hasTruth = true) : Refuses (t.selectByKey v withDeleted) :=
  FailsWith.bind (refuses_undeleted hdeleted) fun _ _ =>
    FailsWith.bind_of_ok hkey fun _ _ => FailsWith.pure

theorem refuses_aggregate (hfunction : ∃ w, function.upperCase = .ok w)
    (hstar : ∃ b, column.equals (.str "*") = .ok b) (hcolumn : column.CanName)
    (hcondition : condition.IsStorable) (hdeleted : withDeleted.hasTruth = true) :
    Refuses (t.aggregate function column condition withDeleted) := by
  have hrest : ∀ projection : Projection, Refuses (do
      let undeleted ← t.undeleted withDeleted
      let filters ← t.filters condition
      pure ({ projection, table := t.name, undeleted, filters } : Selection)) := fun _ =>
    FailsWith.bind (refuses_undeleted hdeleted) fun _ _ =>
      FailsWith.bind (refuses_filters hcondition) fun _ _ => FailsWith.pure
  refine FailsWith.bind_of_ok hfunction fun upper _ => ?_
  dsimp only
  split
  · refine FailsWith.ite (fun _ => FailsWith.bind (refuses_refuse _) nofun) fun _ => ?_
    refine FailsWith.bind_of_ok hstar fun _ _ => FailsWith.ite (fun _ => ?_) fun _ => ?_
    · exact hrest _
    · exact FailsWith.bind (refuses_column hcolumn).map fun _ _ => hrest _
  · exact refuses_refuse _

/-- The names of the columns of a new row are texts, so they can be written. -/
theorem refuses_insert {orIgnore : Value} (hknown : ∀ v, t.Known v → ∃ s, v.text? = some s)
    (hvalues : values.IsStorable) (hignore : orIgnore.hasTruth = true) :
    Refuses (t.insert values orIgnore) := by
  refine FailsWith.bind_of_ok (Value.exists_truth hignore) fun _ _ => ?_
  refine FailsWith.bind_of_ok (Value.exists_truth hvalues.answers) fun b hb => ?_
  refine FailsWith.ite (fun htrue => ?_) fun _ => FailsWith.pure
  have htruthy := (Value.truth_eq_ok.1 hb).2.trans htrue
  rw [ok_bind (hvalues.items_eq htruthy)]
  obtain ⟨m, rfl⟩ := hvalues.mapping htruthy
  refine FailsWith.bind (refuses_columns (List.forall_mem_map.2 hvalues.keys)) fun columns h => ?_
  obtain ⟨rfl, hnamed⟩ := columns_eq_ok h
  have hnames : ∃ names, ((m.map Prod.fst).mapM Value.asText) = .ok names :=
    exists_mapM_eq_ok.2 fun v hv =>
      (hknown v (hnamed v hv)).imp fun _ hs => Value.asText_eq_ok.2 hs
  exact FailsWith.bind_of_ok hnames fun _ _ =>
    FailsWith.bind_of_ok (exists_storedValues hvalues.stored) fun _ _ => FailsWith.pure

/-- The columns of a conflict can be read: those that are given, or the primary key. -/
theorem exists_conflictColumns (h : conflict.IsNames) :
    ∃ chosen targets, conflict.orElse (.list [.str t.primaryKey]) = .ok chosen ∧
      chosen.items = .ok targets ∧ ∀ v ∈ targets, v.CanName := by
  rw [Value.orElse, ok_bind (Value.truth_of_hasTruth h.answers)]
  cases htruthy : conflict.truthy with
  | false =>
    exact ⟨_, _, rfl, rfl, List.forall_mem_singleton.2 ⟨_, Value.memberKey_of_text? rfl⟩⟩
  | true =>
    obtain ⟨vs, hvs, hnames⟩ := h.items htruthy
    exact ⟨conflict, vs, rfl, hvs, hnames⟩

theorem refuses_upsert (hknown : ∀ v, t.Known v → ∃ s, v.text? = some s)
    (hvalues : values.IsStorable) (hconflict : conflict.IsNames) :
    Refuses (t.upsert values conflict) := by
  refine FailsWith.bind_of_ok (Value.exists_truth hvalues.answers) fun b hb => ?_
  cases b with
  | false => exact FailsWith.bind (refuses_refuse _) nofun
  | true =>
    have htruthy := (Value.truth_eq_ok.1 hb).2
    obtain ⟨chosen, targets, hchosen, htargets, hnames⟩ := exists_conflictColumns hconflict
    refine FailsWith.bind_of_ok ⟨chosen, hchosen⟩ fun chosen' h => ?_
    cases hchosen.symm.trans h
    rw [ok_bind htargets]
    refine FailsWith.bind (refuses_columns hnames) fun columns h => ?_
    obtain ⟨rfl, htargets⟩ := columns_eq_ok h
    refine FailsWith.bind (refuses_insert hknown hvalues rfl) fun insertion h => ?_
    obtain ⟨_, bound, -, hbound, -, -⟩ := insert_eq_ok h
    rw [ok_bind (hvalues.items_eq htruthy)]
    -- what is stored and what may conflict are texts by now
    have htexts : ∀ v ∈ columns, ∃ s, v.text? = some s := fun v hv => hknown v (htargets v hv)
    have hkept : ∀ c ∈ values.entryList.map Prod.fst,
        ∃ b, (do pure !(← c.isAmong columns) : Except Fault Bool) = .ok b := by
      intro c hc
      obtain ⟨b, hb⟩ :=
        Value.exists_isAmong (hknown c (known_of_binds hbound c hc)) htexts
      exact ⟨!b, by rw [ok_bind hb]; rfl⟩
    refine FailsWith.bind_of_ok (exists_filterM_eq_ok hkept) fun _ _ => ?_
    exact FailsWith.bind_of_ok
      (exists_mapM_eq_ok.2 fun v hv => (htexts v hv).imp fun _ hs => Value.asText_eq_ok.2 hs)
      fun _ _ => FailsWith.pure

theorem refuses_computation {e : Value × Value} (h : e.1.CanName) : Refuses (t.computation e) :=
  FailsWith.bind (refuses_column h) fun _ _ => FailsWith.pure

theorem refuses_update {m : Mapping} (hvalues : (Value.dict m).IsStorable)
    (hcondition : condition.IsStorable) (hexpressions : expressions.IsMapping) :
    Refuses (t.update (.dict m) condition expressions) := by
  have hrest : Refuses (do
      let columns ← (m.map Prod.fst).mapM t.column
      let stored ← storedValues (.dict m)
      let computed ← (← (← expressions.orEmptyMapping).entries).mapM t.computation
      let filters ← t.filters condition
      pure
        ({ table := t.name
           assignments := (bindAll (columns.map Value.display) stored).map .set ++ computed
           filters } : Change)) := by
    refine FailsWith.bind (refuses_columns (List.forall_mem_map.2 hvalues.keys)) fun _ _ => ?_
    refine FailsWith.bind_of_ok (exists_storedValues hvalues.stored) fun _ _ => ?_
    obtain ⟨w, hw, hm⟩ := hexpressions.exists_entries
    rw [ok_bind hw, ok_bind hm]
    refine FailsWith.bind
      (FailsWith.mapM fun e he => refuses_computation (hexpressions.keys e he)) fun _ _ => ?_
    exact FailsWith.bind (refuses_filters hcondition) fun _ _ => FailsWith.pure
  refine FailsWith.bind (refuses_requireCondition hcondition.answers) fun _ _ => ?_
  refine FailsWith.bind_of_ok (Value.exists_truth hvalues.answers) fun _ _ => ?_
  refine FailsWith.ite (fun _ => hrest) fun _ => ?_
  refine FailsWith.bind_of_ok (Value.exists_truth hexpressions.answers) fun _ _ => ?_
  exact FailsWith.ite (fun _ => FailsWith.bind (refuses_refuse _) nofun) fun _ => hrest

theorem refuses_increment (hdeltas : deltas.IsStorable) (hcondition : condition.IsStorable) :
    Refuses (t.increment deltas condition) := by
  refine FailsWith.bind_of_ok (Value.exists_truth hdeltas.answers) fun b hb => ?_
  cases b with
  | false => exact FailsWith.bind (refuses_refuse _) nofun
  | true =>
    have htruthy := (Value.truth_eq_ok.1 hb).2
    refine FailsWith.bind (refuses_requireCondition hcondition.answers) fun _ _ => ?_
    rw [ok_bind (hdeltas.items_eq htruthy)]
    obtain ⟨m, rfl⟩ := hdeltas.mapping htruthy
    refine FailsWith.bind (refuses_columns (List.forall_mem_map.2 hdeltas.keys)) fun _ _ => ?_
    refine FailsWith.bind (refuses_filters hcondition) fun _ _ => ?_
    exact FailsWith.bind_of_ok (exists_storedValues hdeltas.stored) fun _ _ => FailsWith.pure

theorem refuses_delete (hcondition : condition.IsStorable) : Refuses (t.delete condition) :=
  FailsWith.bind (refuses_requireCondition hcondition.answers) fun _ _ =>
    FailsWith.bind (refuses_filters hcondition) fun _ _ => FailsWith.pure

end QueryTable

open QueryTable in
/-- **A request whose parts can all be read can only be refused**, if the table knows texts only. -/
theorem RequestKind.refuses_statement {t : QueryTable} {a : Named Value} {kind : RequestKind}
    (hknown : ∀ v, t.Known v → ∃ s, v.text? = some s) (h : kind.Readable a) :
    Refuses (kind.statement t a) := by
  cases kind with
  | select =>
    exact (refuses_select h.condition h.order h.limit h.offset h.withDeleted).map
  | selectOne =>
    exact (refuses_select h.condition h.order ⟨_, rfl⟩ ⟨_, rfl⟩ h.withDeleted).map
  | selectByKey => exact (refuses_selectByKey h.key h.withDeleted).map
  | aggregate =>
    exact (refuses_aggregate (h.function rfl) h.star h.column h.condition h.withDeleted).map
  | count =>
    exact (refuses_aggregate ⟨_, rfl⟩ ⟨_, Compiled.star_equals_star⟩
      ⟨_, Value.memberKey_of_text? rfl⟩ h.condition h.withDeleted).map
  | insert => exact (refuses_insert hknown h.values h.orIgnore).map
  | upsert => exact (refuses_upsert hknown h.values h.conflict).map
  | update =>
    obtain ⟨m, hm⟩ := h.updated rfl
    have hvalues := h.values
    rw [hm] at hvalues
    have hupdate := refuses_update (t := t) hvalues h.condition h.expressions
    rw [← hm] at hupdate
    exact hupdate.map
  | increment => exact (refuses_increment h.deltas h.condition).map
  | delete => exact (refuses_delete h.condition).map
  | truncate => exact FailsWith.pure

end Tablewright
