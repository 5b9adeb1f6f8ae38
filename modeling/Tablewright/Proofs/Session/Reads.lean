import Tablewright.Proofs.Session.Stages

/-!
# Reading leaves deleted rows out

Where a model marks deleted rows, a statement that reads has the condition that a row is not marked,
unless the call asks for deleted rows; where a model marks none, no statement has such a condition.
What a page of rows is counted by is the condition of the page itself
(`ResolvedModel.visible_of_reads`).
-/

namespace Tablewright

open Fallible

variable {α β : Type}

/-! ## The text of a selection -/

namespace Selection

/-- The text of a selection up to its conditions. -/
def opening (s : Selection) : String :=
  "SELECT " ++ s.projection.render ++ " FROM " ++ s.table

/-- The text of its conditions. -/
def whereText (s : Selection) : String :=
  if s.conditions.isEmpty then "" else " WHERE " ++ " AND ".intercalate s.conditions

/-- The text behind its conditions. -/
def closing (s : Selection) : String :=
  (if s.order.isEmpty then ""
    else " ORDER BY " ++ ", ".intercalate (s.order.map OrderTerm.render)) ++
    (match s.limit with
      | some n => " LIMIT " ++ toString n
      | none => "") ++
    (match s.offset with
      | some n => " OFFSET " ++ toString n
      | none => "")

/-- A selection that is sent: the conditions stand between what it gives and how it is ordered and
cut, and the bound values are those of the conditions. -/
def sent (s : Selection) : Event :=
  .executed (s.opening ++ s.whereText ++ s.closing) (boundValues s.filters)

theorem executed_select (s : Selection) :
    Event.executed (RowStatement.select s).sql (RowStatement.select s).params = s.sent := by
  show Event.executed s.render _ = _
  unfold render sent opening whereText closing
  simp only [String.append_assoc]
  rfl

/-- Selections of the same rows have the same conditions. -/
theorem whereText_congr {s s' : Selection} (hundeleted : s.undeleted = s'.undeleted)
    (hfilters : s.filters = s'.filters) : s.whereText = s'.whereText := by
  unfold whereText conditions
  rw [hundeleted, hfilters]

end Selection

/-- No equation asks for a null. -/
theorem Binding.equation_ne_isNull (b : Binding) (column : String) :
    b.equation ≠ column ++ " IS NULL" := by
  intro heq
  have hlast : b.equation.toList.getLast? = (column ++ " IS NULL").toList.getLast? := by rw [heq]
  rw [Binding.equation, String.toList_append, String.toList_append, List.getLast?_append,
    List.getLast?_append] at hlast
  have hmark : some '?' = some 'L' := hlast
  exact absurd (Option.some.inj hmark) (by decide)

/-! ## Visible rows -/

/-- Whether deleted rows are kept out depends on the model and on whether they are asked for. -/
theorem QueryTable.eq_of_undeleted {t : QueryTable} {withDeleted : Value}
    {undeleted : Option String} (h : t.undeleted withDeleted = .ok undeleted) :
    undeleted = if withDeleted.truthy then none else t.deletedAt := by
  unfold QueryTable.undeleted at h
  split at h
  · rename_i column hcolumn
    obtain ⟨b, hb, h⟩ := bind_eq_ok.1 h
    rw [← pure_eq_ok.1 h, (Value.truth_eq_ok.1 hb).2, hcolumn]
  · rename_i hnone
    rw [← pure_eq_ok.1 h, hnone, ite_self]

namespace ResolvedModel

open Action

/-- A statement that reads the rows of a model leaves the deleted ones out, if the model marks them
and they are not asked for; otherwise it asks no column for a null. -/
structure Sees (m : ResolvedModel) (withDeleted : Value) (q : Selection) : Prop where
  /-- It reads the rows of the model. -/
  table : q.table = m.tableName
  /-- It leaves deleted rows out. -/
  hidden : ∀ column, m.deletedAt = some column → withDeleted.truthy = false →
    column ++ " IS NULL" ∈ q.conditions
  /-- It leaves no rows out for a null. -/
  shown : m.deletedAt = none ∨ withDeleted.truthy = true →
    ∀ column, column ++ " IS NULL" ∉ q.conditions

/-- An event is such a statement. -/
def Reads (m : ResolvedModel) (withDeleted : Value) (event : Event) : Prop :=
  ∃ q, m.Sees withDeleted q ∧ event = q.sent

variable {m : ResolvedModel} {q : Selection}
  {condition order limit offset withDeleted key function column : Value}

/-- **What a selection sees** depends on the column that keeps deleted rows out. -/
theorem sees_of_undeleted (htable : q.table = m.tableName)
    (hundeleted : m.queryTable.undeleted withDeleted = .ok q.undeleted) : m.Sees withDeleted q := by
  have hcolumn : q.undeleted = if withDeleted.truthy then none else m.deletedAt :=
    QueryTable.eq_of_undeleted hundeleted
  refine ⟨htable, fun column hdeleted htruthy => ?_, fun hshown column hmem => ?_⟩
  · rw [htruthy, hdeleted] at hcolumn
    refine List.mem_append_left _ ?_
    rw [hcolumn]
    exact List.mem_singleton_self _
  · have hnone : q.undeleted = none := by
      rw [hcolumn]
      rcases hshown with h | h
      · rw [h, ite_self]
      · rw [h, if_pos rfl]
    rw [Selection.conditions, hnone] at hmem
    obtain ⟨b, -, hb⟩ := List.mem_map.1 hmem
    exact b.equation_ne_isNull column hb

theorem sees_select (h : m.queryTable.select condition order limit offset withDeleted = .ok q) :
    m.Sees withDeleted q := by
  obtain ⟨undeleted, filters, terms, most, first, hundeleted, -, -, -, -, rfl⟩ :=
    QueryTable.select_eq_ok h
  exact sees_of_undeleted rfl hundeleted

theorem sees_selectByKey (h : m.queryTable.selectByKey key withDeleted = .ok q) :
    m.Sees withDeleted q := by
  obtain ⟨undeleted, value, hundeleted, -, rfl⟩ := QueryTable.selectByKey_eq_ok h
  exact sees_of_undeleted rfl hundeleted

theorem sees_aggregate (h : m.queryTable.aggregate function column condition withDeleted = .ok q) :
    m.Sees withDeleted q := by
  obtain ⟨upper, name, star, undeleted, filters, -, -, -, -, -, hundeleted, -, rfl⟩ :=
    QueryTable.aggregate_eq_ok h
  exact sees_of_undeleted rfl hundeleted

/-! ## Reading -/

/-- The first row of what sees is read by what sees. -/
theorem emits_fetchFirst (h : m.Sees withDeleted q) :
    (fetchFirst q).Emits (m.Reads withDeleted) :=
  emits_first ⟨q, h, q.executed_select⟩

theorem emits_findAll :
    (m.findAll condition order limit offset withDeleted).Emits (m.Reads withDeleted) :=
  Emits.lift_bind fun _ _ => Emits.lift_bind fun _ _ => Emits.lift_bind fun q hq =>
    emits_rows ⟨q, sees_select hq, q.executed_select⟩

theorem emits_findByKey : (m.findByKey key withDeleted).Emits (m.Reads withDeleted) :=
  Emits.lift_bind fun _ hq => emits_fetchFirst (sees_selectByKey hq)

theorem emits_findOne : (m.findOne condition order withDeleted).Emits (m.Reads withDeleted) :=
  Emits.lift_bind fun _ _ => Emits.lift_bind fun _ _ => Emits.lift_bind fun _ hq =>
    emits_fetchFirst (sees_select hq)

theorem emits_fetchInserted {row : Mapping} :
    (m.fetchInserted row).Emits (m.Reads (.bool true)) := by
  have hfetch : ∀ key : Value, Emits (m.Reads (.bool true)) (do
      let s ← m.queryTable.selectByKey key (.bool true)
      let found ← fetchFirst s
      found.orElse (.dict row) : Action Value) := fun _ =>
    Emits.lift_bind fun _ hq => (emits_fetchFirst (sees_selectByKey hq)).bind fun _ => Emits.lift _
  unfold fetchInserted
  split
  · exact Emits.pure _
  · dsimp only
    split
    · exact emits_database.bind fun _ => hfetch _
    · exact hfetch _

theorem emits_count : (m.count condition withDeleted).Emits (m.Reads withDeleted) :=
  Emits.lift_bind fun _ _ => Emits.lift_bind fun _ hq =>
    (emits_fetchFirst (sees_aggregate hq)).bind fun _ => Emits.lift _

theorem emits_aggregate {function : String} :
    (m.aggregate function column condition).Emits (m.Reads (.bool false)) :=
  Emits.lift_bind fun _ _ => Emits.lift_bind fun _ _ => Emits.lift_bind fun _ hq =>
    (emits_fetchFirst (sees_aggregate hq)).bind fun _ => Emits.lift _

end ResolvedModel

/-- The operations that only read. -/
inductive ReadOperation where
  | findAll
  | findByKey
  | findOne
  | count
  | findAndCountAll
  | min
  | max
  | sum
  | average
  deriving DecidableEq, Repr

namespace ReadOperation

/-- The operation. -/
def operation : ReadOperation → RowOperation
  | findAll => .findAll
  | findByKey => .findByKey
  | findOne => .findOne
  | count => .count
  | findAndCountAll => .findAndCountAll
  | min => .min
  | max => .max
  | sum => .sum
  | average => .average

/-- Whether deleted rows are asked for, which functions over a column never do. -/
def withDeleted (a : Named Value) : ReadOperation → Value
  | min | max | sum | average => .bool false
  | _ => a.argument "with_deleted"

/-- **Each of them reads what the call may see.** -/
theorem emits_perform (m : ResolvedModel) (a : Named Value) (o : ReadOperation) :
    (o.operation.perform m a).Emits (m.Reads (o.withDeleted a)) := by
  cases o with
  | findAll => exact ResolvedModel.emits_findAll.map
  | findByKey => exact ResolvedModel.emits_findByKey
  | findOne => exact ResolvedModel.emits_findOne
  | count => exact ResolvedModel.emits_count
  | findAndCountAll =>
    exact ResolvedModel.emits_findAll.bind fun _ => ResolvedModel.emits_count.bind fun _ =>
      Action.Emits.pure _
  | min => exact ResolvedModel.emits_aggregate
  | max => exact ResolvedModel.emits_aggregate
  | sum => exact ResolvedModel.emits_aggregate
  | average => exact ResolvedModel.emits_aggregate

end ReadOperation

/-! ## Searching -/

namespace Action

variable {P : Event → Prop} {x : Action α}

/-- The first event that the step adds to the trace has the property; where it succeeds there is
one. -/
def Opens (P : Event → Prop) (x : Action α) : Prop :=
  ∀ s : Session, ∃ sent, (s.perform x).2.trace = s.trace ++ sent ∧ (∀ e ∈ sent.head?, P e) ∧
    ((s.perform x).1.isOk = true → sent ≠ [])

theorem Opens.lift_bind {y : Except Fault α} {k : α → Action β}
    (h : ∀ a, y = .ok a → Opens P (k a)) : Opens P (liftM y >>= k) := by
  cases y with
  | error fault => exact fun s => ⟨[], (List.append_nil _).symm, nofun, nofun⟩
  | ok a => exact h a rfl

/-- Whatever follows does not come first. -/
theorem Opens.bind {k : α → Action β} (hx : Opens P x) (hk : ∀ a, Emits (fun _ => True) (k a)) :
    Opens P (x >>= k) := by
  intro s
  obtain ⟨sent, htrace, hfirst, hsome⟩ := hx s
  rw [Session.perform_bind]
  rcases hs : s.perform x with ⟨fault | a, t⟩ <;> rw [hs] at htrace hsome
  · exact ⟨sent, htrace, hfirst, nofun⟩
  · obtain ⟨more, htrace', -⟩ := hk a t
    obtain ⟨event, rest, rfl⟩ := List.exists_cons_of_ne_nil (hsome rfl)
    refine ⟨event :: rest ++ more, ?_, hfirst, fun _ => nofun⟩
    rw [← List.append_assoc, ← htrace]
    exact htrace'

theorem opens_execute {sql : String} {params : List Value} (h : P (.executed sql params)) :
    Opens P (execute sql params) := by
  intro s
  rw [perform_execute]
  refine ⟨[.executed sql params], rfl, fun e he => ?_, fun _ => nofun⟩
  obtain rfl := Option.some.inj he
  exact h

end Action

namespace ResolvedModel

open Action

variable {m : ResolvedModel} {condition order limit offset withDeleted defaults : Value}

theorem opens_findOne : (m.findOne condition order withDeleted).Opens (m.Reads withDeleted) :=
  Opens.lift_bind fun _ _ => Opens.lift_bind fun _ _ => Opens.lift_bind fun q hq =>
    (opens_execute ⟨q, sees_select hq, q.executed_select⟩).bind fun _ => Emits.pure _

/-- **Finding or creating a row begins with a search**, which sees no deleted rows. -/
theorem opens_findOrCreate :
    (m.findOrCreate condition defaults).Opens (m.Reads (.bool false)) := by
  refine opens_findOne.bind fun found => ?_
  have hrest : MadeOf m.RowPart (do
      if found.isNull then
        let values ← spread condition
        let values := Mapping.union values (← spread (← defaults.orEmptyMapping))
        let created ← m.create (.dict values) (.bool false)
        pure (.tuple [created, .bool true])
      else pure (.tuple [found, .bool false]) : Action Value) :=
    .ite (.lift_bind fun _ _ => .lift_bind fun _ _ => .lift_bind fun _ _ =>
      madeOf_create.bind fun _ => .pure _) (.pure _)
  exact hrest.emits fun _ _ h => h.emits (fun _ => trivial) (fun _ => trivial)
    (fun _ _ _ _ _ _ => trivial) trivial fun _ => trivial

/-! ## Pages and their counts -/

/-- The selection of a page. -/
def pageSelection (m : ResolvedModel) (condition order limit offset withDeleted : Value) :
    Except Fault Selection := do
  let columns ← m.columnValues condition
  let order ← m.columnOrder order
  m.queryTable.select (.dict columns) order limit offset withDeleted

/-- The selection of a count. -/
def countSelection (m : ResolvedModel) (condition withDeleted : Value) :
    Except Fault Selection := do
  let columns ← m.columnValues condition
  m.queryTable.count (.dict columns) withDeleted

theorem findAll_eq :
    m.findAll condition order limit offset withDeleted = (do
      let q ← m.pageSelection condition order limit offset withDeleted
      rows (RowStatement.select q).sql (RowStatement.select q).params) := by
  simp only [findAll, pageSelection, liftM_bind, bind_assoc]

theorem count_eq :
    m.count condition withDeleted = (do
      let q ← m.countSelection condition withDeleted
      let row ← fetchFirst q
      resultOf row) := by
  simp only [count, countSelection, liftM_bind, bind_assoc]

/-- **A page and its count have the same conditions.** -/
theorem sameRows_of_page {page counted : Selection}
    (hpage : m.pageSelection condition order limit offset withDeleted = .ok page)
    (hcount : m.countSelection condition withDeleted = .ok counted) :
    page.whereText = counted.whereText ∧ page.filters = counted.filters := by
  obtain ⟨columns, hcolumns, hpage⟩ := bind_eq_ok.1 hpage
  obtain ⟨terms, -, hpage⟩ := bind_eq_ok.1 hpage
  obtain ⟨columns', hcolumns', hcount⟩ := bind_eq_ok.1 hcount
  obtain rfl : columns = columns' := Except.ok.inj (hcolumns.symm.trans hcolumns')
  obtain ⟨undeleted, filters, _, _, _, hundeleted, hfilters, -, -, -, rfl⟩ :=
    QueryTable.select_eq_ok hpage
  obtain ⟨_, _, _, undeleted', filters', -, -, -, -, -, hundeleted', hfilters', rfl⟩ :=
    QueryTable.aggregate_eq_ok hcount
  obtain rfl : undeleted = undeleted' := Except.ok.inj (hundeleted.symm.trans hundeleted')
  obtain rfl : filters = filters' := Except.ok.inj (hfilters.symm.trans hfilters')
  exact ⟨Selection.whereText_congr rfl rfl, rfl⟩

theorem sends_findAll {page : Selection}
    (h : ∀ q, m.pageSelection condition order limit offset withDeleted = .ok q → q = page)
    (d : Database) :
    Sends d (m.findAll condition order limit offset withDeleted) [page.sent] := by
  rw [findAll_eq]
  refine Sends.lift_bind fun q hq => ?_
  rw [← h q hq, ← Selection.executed_select]
  exact (sends_execute d _ _).bind fun _ => (Keeps.pure _ _).sends d

theorem sends_count {counted : Selection}
    (h : ∀ q, m.countSelection condition withDeleted = .ok q → q = counted) (d : Database) :
    Sends d (m.count condition withDeleted) [counted.sent] := by
  rw [count_eq]
  refine Sends.lift_bind fun q hq => ?_
  rw [← h q hq, ← Selection.executed_select]
  exact ((sends_execute d _ _).bind fun _ => (Keeps.pure _ _).sends d).bind fun _ =>
    (Keeps.lift _ _).sends d

/-- What a page and its count send: at most the two of them, the page first. -/
theorem exists_sends_findAndCountAll (m : ResolvedModel)
    (condition order limit offset withDeleted : Value) :
    ∃ page counted : Selection, page.whereText = counted.whereText ∧
      boundValues page.filters = boundValues counted.filters ∧
      ∀ d, Sends d (m.findAndCountAll condition order limit offset withDeleted)
        [page.sent, counted.sent] := by
  have hsends : ∀ page counted : Selection,
      (∀ q, m.pageSelection condition order limit offset withDeleted = .ok q → q = page) →
      (∀ q, m.countSelection condition withDeleted = .ok q → q = counted) →
      ∀ d, Sends d (m.findAndCountAll condition order limit offset withDeleted)
        [page.sent, counted.sent] := fun page counted hpage hcounted d =>
    (sends_findAll hpage d).bind fun _ => (sends_count hcounted d).bind fun _ =>
      (Keeps.pure _ _).sends d
  -- what cannot be compiled is not sent, so anything stands for it
  cases hpage : m.pageSelection condition order limit offset withDeleted with
  | error fault =>
    cases hcount : m.countSelection condition withDeleted with
    | error fault =>
      refine ⟨{ projection := .rows, table := "" }, _, rfl, rfl, hsends _ _ ?_ ?_⟩
      · rw [hpage]; exact nofun
      · rw [hcount]; exact nofun
    | ok counted =>
      refine ⟨counted, counted, rfl, rfl, hsends _ _ ?_ ?_⟩
      · rw [hpage]; exact nofun
      · rw [hcount]; exact fun q hq => (Except.ok.inj hq).symm
  | ok page =>
    cases hcount : m.countSelection condition withDeleted with
    | error fault =>
      refine ⟨page, page, rfl, rfl, hsends _ _ ?_ ?_⟩
      · rw [hpage]; exact fun q hq => (Except.ok.inj hq).symm
      · rw [hcount]; exact nofun
    | ok counted =>
      obtain ⟨htext, hfilters⟩ := sameRows_of_page hpage hcount
      refine ⟨page, counted, htext, by rw [hfilters], hsends _ _ ?_ ?_⟩
      · rw [hpage]; exact fun q hq => (Except.ok.inj hq).symm
      · rw [hcount]; exact fun q hq => (Except.ok.inj hq).symm

/-- **Deleted rows are invisible.** Every statement that a reading operation sends leaves deleted
rows out if the model marks them, unless they are asked for; where there is no such mark or they are
asked for, no column is asked for a null. The search that finding or creating a row begins with
leaves them out in any case. What counts the rows of a page has the very conditions and bound values
of the page. -/
theorem visible_of_reads (m : ResolvedModel) (s : Session) :
    (∀ (o : ReadOperation) (c : Call) (a : Named Value),
      c.bind o.operation.parameters = .ok a →
        ∃ sent, (s.perform (m.call o.operation.name c)).2.trace = s.trace ++ sent ∧
          ∀ event ∈ sent, m.Reads (o.withDeleted a) event) ∧
    (∀ (c : Call) (a : Named Value), c.bind RowOperation.findOrCreate.parameters = .ok a →
      ∃ sent, (s.perform (m.call "find_or_create" c)).2.trace = s.trace ++ sent ∧
        ∀ event ∈ sent.head?, m.Reads (.bool false) event) ∧
    (∀ (c : Call) (a : Named Value), c.bind RowOperation.findAndCountAll.parameters = .ok a →
      ∃ (page counted : Selection) (sent : List Event),
        (s.perform (m.call "find_and_count_all" c)).2.trace = s.trace ++ sent ∧
          sent <+: [page.sent, counted.sent] ∧ page.whereText = counted.whereText ∧
          boundValues page.filters = boundValues counted.filters) := by
  refine ⟨fun o c a h => ?_, fun c a h => ?_, fun c a h => ?_⟩
  · rw [call_of_bind h]
    exact o.emits_perform m a s
  · have hcall : m.call "find_or_create" c = RowOperation.findOrCreate.perform m a := call_of_bind h
    rw [hcall]
    obtain ⟨sent, htrace, hfirst, -⟩ := opens_findOrCreate s
    exact ⟨sent, htrace, hfirst⟩
  · have hcall : m.call "find_and_count_all" c = RowOperation.findAndCountAll.perform m a :=
      call_of_bind h
    rw [hcall]
    obtain ⟨page, counted, htext, hvalues, hsends⟩ :=
      exists_sends_findAndCountAll m (a.argument "where") (a.argument "order")
        (a.argument "limit") (a.argument "offset") (a.argument "with_deleted")
    obtain ⟨-, sent, hprefix, htrace, -⟩ := hsends s.database s rfl
    exact ⟨page, counted, sent, htrace, hprefix, htext, hvalues⟩

end ResolvedModel

/-! ## A page of tasks -/

/-- The first tasks of a title, and their number. -/
def packingPage : Call :=
  { args := [.dict [(.str "Title", .str "Pack")]], kwargs := [(.str "limit", .int 5)] }

/-- The arguments of that call. -/
def packingPageArguments : Named Value :=
  [("where", .dict [(.str "Title", .str "Pack")]), ("order", .null), ("limit", .int 5),
   ("offset", .null), ("with_deleted", .bool false)]

/-- Both statements leave deleted tasks out. -/
theorem visible_of_packingPage :
    packingPage.bind RowOperation.findAndCountAll.parameters = .ok packingPageArguments ∧
      ∃ m sent, (DefinitionSource.built taskDefinition).resolve = .ok m ∧
        (noonSession.perform (m.call "find_and_count_all" packingPage)).2.trace =
          noonSession.trace ++ sent ∧
        (∀ event ∈ sent, m.Reads (.bool false) event) ∧
        sentTexts sent =
          ["SELECT * FROM Task WHERE deleted_at IS NULL AND title = ? LIMIT 5",
           "SELECT COUNT(*) AS result FROM Task WHERE deleted_at IS NULL AND title = ?"] := by
  have hbound : packingPage.bind RowOperation.findAndCountAll.parameters =
      .ok packingPageArguments := rfl
  have hrun : (do
      let m ← (DefinitionSource.built taskDefinition).resolve
      pure (sentTexts (noonSession.perform
        (m.call "find_and_count_all" packingPage)).2.trace)).toOption =
      some
        ["SELECT * FROM Task WHERE deleted_at IS NULL AND title = ? LIMIT 5",
         "SELECT COUNT(*) AS result FROM Task WHERE deleted_at IS NULL AND title = ?"] := by
    decide +kernel
  obtain ⟨m, hm, hrest⟩ := bind_eq_ok.1 (eq_ok_of_toOption hrun)
  have htexts := pure_eq_ok.1 hrest
  obtain ⟨sent, htrace, hsent⟩ :=
    (ResolvedModel.visible_of_reads m noonSession).1 .findAndCountAll _ _ hbound
  refine ⟨hbound, m, sent, hm, htrace, hsent, ?_⟩
  rw [← htexts]
  exact congrArg sentTexts htrace.symm

end Tablewright
