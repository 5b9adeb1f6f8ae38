import Tablewright.Proofs.Session.NamedRows
import Tablewright.Proofs.Session.SingleWrite
import Mathlib.Logic.Function.Basic

/-!
# What is inserted for a new row

The row of a creation is made of the values that the hooks left, each under the column that its key
stands for. A column that nothing was given for and whose default is called for one gets what its
source hands out, and the times of making and of change are put in where there is none. All of this
goes behind what was given, in the order of the columns (`ResolvedModel.inserts_of_call`).
-/

namespace Tablewright

open Fallible

variable {α β : Type}

/-! ## Sources of defaults -/

/-- How often a source of defaults was asked. -/
def Session.asked (s : Session) (id : Nat) : Nat :=
  (s.world.drawn.lookup id).getD 0

/-- Columns get what their sources hand out, one after the other: each source is asked once, and what
it gives is settled by how often it was asked before. -/
inductive HandsOut : (Nat → Nat) → Named Value → Named Value → (Nat → Nat) → Prop
  /-- Nothing is left to ask for. -/
  | nil (asked : Nat → Nat) : HandsOut asked [] [] asked
  /-- The source of the first column is asked. -/
  | cons {asked asked' : Nat → Nat} {id : Nat} {values : List Value} {sources given : Named Value}
      (column : String)
      (hrest : HandsOut (Function.update asked id (asked id + 1)) sources given asked') :
      HandsOut asked ((column, .producer id values) :: sources)
        ((column, (values[asked id % values.length]?).getD .null) :: given) asked'

/-- The value is the source of a number. -/
def Value.isSource (id : Nat) : Value → Bool
  | .producer id' _ => id' == id
  | _ => false

/-- The columns that get something are those that sources are asked for. -/
theorem HandsOut.names_eq {asked asked' : Nat → Nat} {sources given : Named Value}
    (h : HandsOut asked sources given asked') : given.names = sources.names := by
  induction h with
  | nil => rfl
  | cons column _ ih => rw [Named.names_cons, Named.names_cons, ih]

/-- **Each source is asked once for each of its columns.** -/
theorem HandsOut.asked_eq {asked asked' : Nat → Nat} {sources given : Named Value}
    (h : HandsOut asked sources given asked') (id : Nat) :
    asked' id = asked id + sources.countP fun e => e.2.isSource id := by
  induction h with
  | nil => rfl
  | @cons asked _ id' _ _ _ _ _ ih =>
    rw [ih, List.countP_cons, Value.isSource]
    by_cases hid : id' = id
    · subst hid
      rw [Function.update_self, if_pos (beq_self_eq_true id')]
      omega
    · rw [Function.update_of_ne (Ne.symm hid), if_neg (mt beq_iff_eq.1 hid)]
      omega

/-- What is counted of one source is found beside what is counted of the others. -/
theorem lookup_filter_of_ne {drawn : List (Nat × Nat)} {id other : Nat} (h : other ≠ id) :
    (drawn.filter fun e => e.1 != id).lookup other = drawn.lookup other := by
  induction drawn with
  | nil => rfl
  | cons e drawn ih =>
    rw [List.filter_cons, List.lookup_cons]
    by_cases he : e.1 = id
    · have hother : (other == e.1) = false := beq_eq_false_iff_ne.2 (he ▸ h)
      rw [if_neg (by simp [he]), ih, hother]
    · rw [if_pos (by simp [he]), List.lookup_cons, ih]

/-- Counting one more touches one source. -/
theorem Session.asked_count {s t : Session} {id : Nat}
    (h : t.world.drawn = (id, s.asked id + 1) :: s.world.drawn.filter fun e => e.1 != id) :
    t.asked = Function.update s.asked id (s.asked id + 1) := by
  funext other
  rw [asked, h, List.lookup_cons]
  by_cases hother : other = id
  · subst hother
    rw [beq_self_eq_true, Function.update_self]
    rfl
  · rw [beq_eq_false_iff_ne.2 hother, Function.update_of_ne hother]
    exact congrArg (·.getD 0) (lookup_filter_of_ne hother)

namespace Action

/-- **A default that is called for a value** is asked of a source, which counts it. -/
theorem exists_of_callDefault {s t : Session} {source v : Value}
    (h : s.perform (callDefault source) = (.ok v, t)) :
    ∃ id values, source = .producer id values ∧
      v = (values[s.asked id % values.length]?).getD .null ∧
      t.asked = Function.update s.asked id (s.asked id + 1) := by
  unfold callDefault at h
  split at h
  · rename_i id values
    have hdrawn := congrArg (·.world.drawn) (congrArg Prod.snd h)
    exact ⟨id, values, rfl, (Except.ok.inj (congrArg Prod.fst h)).symm,
      Session.asked_count hdrawn.symm⟩
  · cases h

end Action

/-! ## The row of a creation -/

namespace ResolvedModel

variable {m : ResolvedModel} {row filled : Mapping} {columns : Named Column}
  {names names' : List String} {s t : Session} {now c : String} {column? : Option String}

/-- The columns beside some names whose default is called for a value, each with its source. -/
def sourcesBeside (columns : Named Column) (names : List String) : Named Value :=
  columns.filterMap fun e =>
    if e.1 ∈ names then none
    else (e.2.defaultValue.filter Value.isCallable).map fun source => (e.1, source)

/-- Among the names only those of columns matter. -/
theorem sourcesBeside_congr (h : ∀ c ∈ columns.names, (c ∈ names ↔ c ∈ names')) :
    sourcesBeside columns names = sourcesBeside columns names' :=
  List.filterMap_congr fun e he => if_congr (h e.1 (List.mem_map_of_mem he)) rfl rfl

theorem sourcesBeside_append {name : String} (h : name ∉ columns.names) :
    sourcesBeside columns (names ++ [name]) = sourcesBeside columns names := by
  refine sourcesBeside_congr fun c hc => ?_
  have hother : c ≠ name := fun hname => h (hname ▸ hc)
  rw [List.mem_append, List.mem_singleton, or_iff_left hother]

/-- **Defaults go behind what is there**, for the columns that are not there. -/
theorem exists_of_fillDefaults (hnd : columns.names.Nodup) (hfilled : filled.Textual)
    (h : s.perform (fillDefaults row columns) = (.ok filled, t)) :
    row.Textual ∧ ∃ given, HandsOut s.asked (sourcesBeside columns row.named.names) given t.asked ∧
      filled.named = row.named ++ given := by
  -- a default that is filled in is there for the columns behind it, and its source has been asked
  -- once more, so row and session vary
  induction columns generalizing row s with
  | nil =>
    cases h
    exact ⟨hfilled, [], .nil _, (List.append_nil _).symm⟩
  | cons column rest ih =>
    obtain ⟨name, c⟩ := column
    obtain ⟨hnew, hnd⟩ := List.nodup_cons.1 hnd
    unfold fillDefaults at h
    split at h
    · rename_i source hsource
      split at h
      · rename_i hthere
        obtain ⟨hrow, given, hgiven, hnamed⟩ := ih hnd h
        rw [Mapping.hasKey_iff_of_textual hrow rfl] at hthere
        refine ⟨hrow, given, ?_, hnamed⟩
        rw [sourcesBeside, List.filterMap_cons, if_pos hthere]
        exact hgiven
      · rename_i hthere
        obtain ⟨v, u, hasked, h⟩ := Session.perform_bind_eq_ok.1 h
        obtain ⟨id, values, rfl, rfl, hcount⟩ := Action.exists_of_callDefault hasked
        obtain ⟨hput, given, hgiven, hnamed⟩ := ih hnd h
        have hkey : (Value.str name).text? = some name := rfl
        have hrow := (Mapping.textual_put_iff hkey).1 hput
        rw [Mapping.hasKey_iff_of_textual hrow hkey] at hthere
        rw [Mapping.named_put hrow hkey, Named.put_of_not_mem hthere] at hgiven hnamed
        rw [Named.names_append, Named.names_cons, Named.names_nil, sourcesBeside_append hnew,
          hcount] at hgiven
        refine ⟨hrow, _, ?_, hnamed.trans (List.append_assoc _ _ _)⟩
        rw [sourcesBeside, List.filterMap_cons, if_neg hthere, hsource]
        exact .cons name hgiven
    · rename_i hsource
      obtain ⟨hrow, given, hgiven, hnamed⟩ := ih hnd h
      refine ⟨hrow, given, ?_, hnamed⟩
      rw [sourcesBeside, List.filterMap_cons, hsource]
      simp only [Option.map_none, ite_self]
      exact hgiven

theorem textual_fillTime_iff : Mapping.Textual (fillTime now row column?) ↔ row.Textual := by
  unfold fillTime
  split
  · split
    · exact Mapping.textual_put_iff rfl
    · rfl
  · rfl

theorem fillTime_some (now : String) (row : Mapping) (c : String) :
    fillTime now row (some c) =
      if ((Mapping.field? row c).getD .null).isNull then row.put (.str c) (.str now) else row :=
  rfl

/-- A time is put in as a new column if there is none. -/
theorem names_fillTime (h : row.Textual) : (fillTime now row column?).named.names =
    row.named.names ++ column?.toList.filter fun c => decide (c ∉ row.named.names) := by
  cases column? with
  | none => exact (List.append_nil _).symm
  | some c =>
    by_cases hthere : c ∈ row.named.names
    · have hnone : [c].filter (fun c => decide (c ∉ row.named.names)) = [] := by simp [hthere]
      rw [Option.toList_some, hnone, List.append_nil, fillTime_some]
      split
      · rw [Mapping.named_put h rfl, Named.names_put_of_mem hthere]
      · rfl
    · have hone : [c].filter (fun c => decide (c ∉ row.named.names)) = [c] := by simp [hthere]
      have hfield : Mapping.field? row c = none := by
        rw [Mapping.field?, Mapping.get?_named h rfl]
        by_contra hsome
        obtain ⟨v, hv⟩ := Option.ne_none_iff_exists'.1 hsome
        exact hthere (Named.mem_names_of_get? hv)
      have hnull : ((none : Option Value).getD .null).isNull = true := rfl
      rw [Option.toList_some, hone, fillTime_some, hfield, if_pos hnull, Mapping.named_put h rfl,
        Named.put_of_not_mem hthere, Named.names_append]
      rfl

/-- It takes the place of a null, and touches no other column. -/
theorem get?_fillTime (h : row.Textual) : (fillTime now row column?).named.get? c =
    if column? = some c ∧ ((row.named.get? c).getD .null).isNull = true then some (.str now)
    else row.named.get? c := by
  cases column? with
  | none => exact (if_neg fun hc => nomatch hc.1).symm
  | some column =>
    have hfield : Mapping.field? row column = row.named.get? column := Mapping.get?_named h rfl
    rw [fillTime_some, hfield]
    by_cases hnull : ((row.named.get? column).getD .null).isNull = true
    · rw [if_pos hnull, Mapping.named_put h rfl, Named.get?_put]
      by_cases hc : column = c
      · subst hc
        rw [if_pos rfl, if_pos ⟨rfl, hnull⟩]
      · rw [if_neg hc, if_neg fun hboth => hc (Option.some.inj hboth.1)]
    · have hnot : ¬ (some column = some c ∧
          ((row.named.get? c).getD .null).isNull = true) := fun hboth =>
        hnull (Option.some.inj hboth.1 ▸ hboth.2)
      rw [if_neg hnull, if_neg hnot]

/-- The columns for the times of making and of change that are not among some names. -/
def timesBeside (m : ResolvedModel) (names : List String) : List String :=
  (m.createdAt.toList.filter fun c => decide (c ∉ names)) ++
    m.updatedAt.toList.filter fun c => decide (c ∉ names ∧ m.createdAt ≠ some c)

theorem timesBeside_congr (h : ∀ c, c ∈ names ↔ c ∈ names') :
    m.timesBeside names = m.timesBeside names' := by
  simp only [timesBeside, h]

/-- What is inserted into a column that has some value or none: a time in place of a null, if the
column holds a time. -/
def timed (m : ResolvedModel) (now : Moment) (c : String) (v? : Option Value) : Value :=
  if (m.createdAt = some c ∨ m.updatedAt = some c) ∧ (v?.getD .null).isNull = true then
    .str now.stamp
  else v?.getD .null

/-- **Both times are put in behind all else**, and where there was a null. -/
theorem names_fillTimes (h : row.Textual) :
    (fillTime now (fillTime now row m.createdAt) m.updatedAt).named.names =
      row.named.names ++ m.timesBeside row.named.names := by
  rw [names_fillTime (textual_fillTime_iff.2 h), names_fillTime h, List.append_assoc, timesBeside]
  -- the second time is put in beside the first, which may have the same column
  refine congrArg _ (congrArg _ (List.filter_congr fun c _ => ?_))
  rw [decide_eq_decide, List.mem_append, List.mem_filter, Option.mem_toList, not_or]
  refine and_congr_right fun hnew => not_congr ?_
  rw [decide_eq_true_iff]
  exact and_iff_left hnew

/-- A time that was put in is no null, so it stays when the other one is put in. -/
theorem get?_fillTimes (h : row.Textual) :
    (fillTime now (fillTime now row m.createdAt) m.updatedAt).named.get? c =
      if (m.createdAt = some c ∨ m.updatedAt = some c) ∧
          ((row.named.get? c).getD .null).isNull = true then some (.str now)
      else row.named.get? c := by
  have htime : ((some (Value.str now)).getD .null).isNull = false := rfl
  rw [get?_fillTime (textual_fillTime_iff.2 h), get?_fillTime h]
  by_cases hnull : ((row.named.get? c).getD .null).isNull = true
  · by_cases hcreated : m.createdAt = some c
    · simp only [hcreated, hnull, htime, true_and, true_or, if_true, Bool.false_eq_true, and_false,
        if_false]
    · simp only [hcreated, hnull, false_or, and_true, if_false]
  · simp only [hnull, Bool.false_eq_true, and_false, if_false]

/-- So what is found for a column that is there is what is inserted into it. -/
theorem get?_of_mem_fillTimes {now : Moment} (h : row.Textual)
    (hc : c ∈ (fillTime now.stamp (fillTime now.stamp row m.createdAt) m.updatedAt).named.names) :
    (fillTime now.stamp (fillTime now.stamp row m.createdAt) m.updatedAt).named.get? c =
      some (m.timed now c (row.named.get? c)) := by
  obtain ⟨v, hv⟩ := Named.exists_get?_of_mem hc
  rw [get?_fillTimes h] at hv ⊢
  unfold timed
  split at hv
  · rename_i hnull
    rw [if_pos hnull, if_pos hnull]
  · rename_i hgiven
    rw [if_neg hgiven, if_neg hgiven, hv]
    rfl

/-! ## What is inserted -/

/-- **What a creation inserts**, given the values under the columns that their keys stand for, the
time, what sources of defaults handed out, and how often they were asked before and after. -/
structure Inserts (m : ResolvedModel) (supplied : Named Value) (now : Moment)
    (asked asked' : Nat → Nat) (given : Named Value) (i : Insertion) : Prop where
  /-- It inserts a row of the model, and gives way to none. -/
  shape : i = { table := m.tableName, values := i.values }
  /-- For each column that nothing was given for and whose default is called for a value, its source
  hands out one, in the order of the columns. -/
  handedOut : HandsOut asked (sourcesBeside m.columns supplied.names) given asked'
  /-- So a source is asked once for each of these columns, and for no other. -/
  once : ∀ id, asked' id =
    asked id + (sourcesBeside m.columns supplied.names).countP fun e => e.2.isSource id
  /-- First come the columns that something was given for, each where it came first, then those that
  a default was asked for, and then the times that are not among them. -/
  columns : i.values.map Binding.column =
    supplied.names.eraseDups ++ (sourcesBeside m.columns supplied.names).names ++
      m.timesBeside (supplied.names ++ (sourcesBeside m.columns supplied.names).names)
  /-- No column is inserted twice. -/
  nodup : (i.values.map Binding.column).Nodup
  /-- What is bound for a column is what was given last for it, or handed out, as it is stored; for a
  time that is null or missing it is the present time. -/
  values : ∀ b ∈ i.values,
    (m.timed now b.column ((Named.get? supplied.reverse b.column).or
      (given.get? b.column))).storable = .ok b.value
  /-- The text says so; a row without columns gets the defaults of the table. -/
  text : (RowStatement.insert i).sql = "INSERT INTO " ++ m.tableName ++
    if i.values = [] then " DEFAULT VALUES"
    else " (" ++ ", ".intercalate (i.values.map Binding.column) ++ ") VALUES (" ++
      ", ".intercalate (i.values.map fun _ => "?") ++ ")"

open Action

variable {left : Value} {i : Insertion}

/-- The text of an insertion that gives way to none. -/
theorem sql_of_values (table : String) (bound : List Binding) :
    (RowStatement.insert { table, values := bound }).sql = "INSERT INTO " ++ table ++
      if bound = [] then " DEFAULT VALUES"
      else " (" ++ ", ".intercalate (bound.map Binding.column) ++ ") VALUES (" ++
        ", ".intercalate (bound.map fun _ => "?") ++ ")" := by
  rw [RowStatement.sql, Insertion.render, String.append_empty, if_neg Bool.false_ne_true]
  exact congrArg _ (if_congr List.isEmpty_iff rfl rfl)

/-- **The row that is made of some values**, under the names of its columns. -/
theorem exists_given (hnd : m.columns.names.Nodup)
    (h : s.perform (m.insertValues left) = (.ok row, t)) (hrow : row.Textual) :
    Mapping.Textual left.entryList ∧ ∃ given,
      HandsOut s.asked (sourcesBeside m.columns (m.supplied left).names) given t.asked ∧
      row.named.names = (m.supplied left).names.eraseDups ++
        (sourcesBeside m.columns (m.supplied left).names).names ++ m.timesBeside
          ((m.supplied left).names ++ (sourcesBeside m.columns (m.supplied left).names).names) ∧
      ∀ c ∈ row.named.names, row.named.get? c = some (m.timed s.world.now c
        ((Named.get? (m.supplied left).reverse c).or (given.get? c))) := by
  obtain ⟨columns, hcolumns, h⟩ := Session.perform_lift_bind_eq_ok.1 h
  obtain ⟨filled, u, hfilled, h⟩ := Session.perform_bind_eq_ok.1 h
  obtain ⟨now, u', htime, h⟩ := Session.perform_bind_eq_ok.1 h
  obtain ⟨rfl, rfl⟩ := perform_timestamp_eq_ok.1 htime
  cases h
  have hclock : t.world.now = s.world.now :=
    (keeps_fillDefaults (f := fun s => s.world.now) (fun _ _ => rfl) _ _).of_perform hfilled
  rw [hclock] at hrow ⊢
  have htextual : filled.Textual := textual_fillTime_iff.1 (textual_fillTime_iff.1 hrow)
  obtain ⟨hcolumnsTextual, given, hgiven, hfilled⟩ := exists_of_fillDefaults hnd htextual hfilled
  obtain ⟨hnamed, hleft⟩ := named_columnValues hcolumns hcolumnsTextual
  rw [hnamed] at hgiven hfilled
  have hsources : sourcesBeside m.columns (Named.ofPairs (m.supplied left)).names =
      sourcesBeside m.columns (m.supplied left).names :=
    sourcesBeside_congr fun _ _ => Named.mem_names_ofPairs
  rw [hsources] at hgiven
  refine ⟨hleft, given, hgiven, ?_, fun c hc => ?_⟩
  · rw [names_fillTimes htextual, hfilled, Named.names_append, Named.names_ofPairs,
      hgiven.names_eq]
    refine congrArg _ (timesBeside_congr fun c => ?_)
    rw [List.mem_append, List.mem_append, List.mem_eraseDups]
  · rw [get?_of_mem_fillTimes htextual hc, hfilled, Named.get?_append, Named.get?_ofPairs]

/-- **The row that is made of some values is inserted column by column.** -/
theorem exists_inserts (hnd : m.columns.names.Nodup)
    (hrow : s.perform (m.insertValues left) = (.ok row, t))
    (h : m.queryTable.insert (.dict row) (.bool false) = .ok i) :
    Mapping.Textual left.entryList ∧
      ∃ given, m.Inserts (m.supplied left) s.world.now s.asked t.asked given i := by
  have htextual : row.Textual := QueryTable.text?_of_insert h
  obtain ⟨_, bound, hignoring, hbound, -, rfl⟩ := QueryTable.insert_eq_ok h
  obtain rfl := pure_eq_ok.1 hignoring
  obtain ⟨hleft, given, hgiven, hnames, hvalues⟩ := exists_given hnd hrow htextual
  have hcolumns : bound.map Binding.column = row.named.names := QueryTable.columns_eq_names hbound
  have hunrepeated : (bound.map Binding.column).Nodup :=
    QueryTable.nodup_of_binds (unrepeated_insertValues hrow) htextual hbound
  refine ⟨hleft, given, rfl, hgiven, hgiven.asked_eq, hcolumns.trans hnames, hunrepeated, ?_,
    sql_of_values _ _⟩
  intro b hb
  rw [hcolumns] at hunrepeated
  obtain ⟨v, hv, hstored⟩ := QueryTable.exists_get?_of_binding hunrepeated hbound hb
  rw [hvalues b.column (Named.mem_names_of_get? hv), Option.some_inj] at hv
  rw [hv, hstored]

/-! ## What a creation sends -/

/-- What a creation settles before it sends anything: the row and its insertion. -/
def planCreate (m : ResolvedModel) (left : Value) : Action (Mapping × Insertion) := do
  let row ← m.insertValues left
  m.validate row
  let insertion ← m.queryTable.insert (.dict row) (.bool false)
  pure (row, insertion)

/-- What a creation does behind its insertion. -/
def afterInsertion (m : ResolvedModel) (p : Mapping × Insertion) (_ : Value) :
    Action (Value × Value) := do
  let created ← m.fetchInserted p.1
  pure (created, created)

/-- **A creation is planned.** -/
theorem planned_create (m : ResolvedModel) (a : Named Value) :
    HookedOperation.Planned m a .create m.planCreate (fun p => .insert p.2) m.afterInsertion where
  work left := by
    show m.createWork left = _
    simp only [createWork, planCreate, afterInsertion, bind_assoc, pure_bind]
    rfl
  silent left := (quiet_insertValues left).1.bind fun row => (quiet_validate row).1.bind fun _ =>
    (Keeps.lift _ _).bind fun _ => Keeps.pure _ _
  follows p _ := (emits_fetchInserted.imp fun _ => accompanies_of_reads).bind fun _ => Emits.pure _

theorem keeps_asked_report (line : String) : Keeps Session.asked (report line) := by
  intro s
  show (s.perform (report line)).2.silent.asked = s.silent.asked
  rw [keeps_report line s]

theorem keeps_asked_execute (sql : String) (params : List Value) :
    Keeps Session.asked (execute sql params) := by
  intro s
  rw [perform_execute]
  rfl

theorem keeps_asked_log (e : LogEntry) : Keeps Session.asked (log e) :=
  (Keeps.database _).bind fun _ => (Keeps.lift _ _).bind fun _ => Keeps.ite
    ((keeps_asked_execute _ _).bind fun _ => (Keeps.lift _ _).bind fun _ =>
      (keeps_asked_execute _ _).bind fun _ => Keeps.pure _ _)
    (Keeps.pure _ _)

theorem keeps_asked_runWrite (operation : String) (w : RowStatement) :
    Keeps Session.asked (m.runWrite operation w) :=
  (keeps_asked_report _).bind fun _ =>
    Keeps.bind ((keeps_asked_execute _ _).bind fun _ => Keeps.bind (fun _ => rfl) fun _ =>
      Keeps.pure _ _) fun _ =>
    (keeps_asked_log _).bind fun _ => Keeps.pure _ _

theorem keeps_asked_fetchInserted (row : Mapping) : Keeps Session.asked (m.fetchInserted row) := by
  have hfetch : ∀ key : Value, Keeps Session.asked (do
      let s ← m.queryTable.selectByKey key (.bool true)
      let found ← fetchFirst s
      found.orElse (.dict row) : Action Value) := fun _ =>
    (Keeps.lift _ _).bind fun _ =>
      ((keeps_asked_execute _ _).bind fun _ => Keeps.pure _ _).bind fun _ => Keeps.lift _ _
  refine Keeps.ite (Keeps.pure _ _) (Keeps.ite ?_ (hfetch _))
  exact (Keeps.database _).bind fun d => hfetch d.lastRowId

/-- **Behind its plan a creation asks no source.** -/
theorem keeps_asked_carryOut (m : ResolvedModel) (a : Named Value) (p : Mapping × Insertion) :
    Keeps Session.asked (HookedOperation.carryOut m a .create (fun p => .insert p.2)
      m.afterInsertion p) := by
  refine (keeps_asked_runWrite _ _).bind fun _ => Keeps.bind
    ((keeps_asked_fetchInserted _).bind fun _ => Keeps.pure _ _) fun done => Keeps.bind ?_ fun _ =>
    Keeps.pure _ _
  intro s
  obtain ⟨_, _, hafter, -⟩ := m.exists_perform_runAfter HookedOperation.create.after done.2
    (a.argument "skip_hooks") s
  rw [hafter]
  rfl

/-- What a statement is that a creation sends in a session, from which it leads to another: it
inserts what the hooks leave of the values. -/
def InsertsIn (m : ResolvedModel) (a : Named Value) (s s' : Session) (w : RowStatement) : Prop :=
  ∃ left given i, w = .insert i ∧
    (s.perform (HookedOperation.create.handed m a)).1 = .ok left ∧
    Mapping.Textual left.entryList ∧
    m.Inserts (m.supplied left) s.world.now s.asked s'.asked given i

/-- **What a creation inserts.** However a row is created, whatever hooks the model has and whatever
the engine answers: at most one statement that writes is sent, and this inserts what the hooks left
of the values, then what is asked of the sources of defaults, each once for a column that nothing was
given for, and then the times; and nothing else is asked of a source. -/
theorem inserts_of_call (hm : m.IsResolved) {c : Call} {a : Named Value}
    (h : c.bind RowOperation.create.parameters = .ok a) (s : Session) :
    ∃ events, (s.perform (m.call "create" c)).2.trace = s.trace ++ events ∧
      m.WritesOnce "create" (m.InsertsIn a s (s.perform (m.call "create" c)).2) events := by
  have hcall : m.call "create" c = RowOperation.perform m a .create := call_of_bind h
  rw [hcall]
  refine (planned_create m a).writesOnce fun p t hp hperform => ?_
  obtain ⟨left, t', hleft, hp⟩ := Session.perform_bind_eq_ok.1 hp
  obtain ⟨row, t'', hrow, hp⟩ := Session.perform_bind_eq_ok.1 hp
  obtain ⟨_, -, hp⟩ := Session.perform_lift_bind_eq_ok.1 hp
  obtain ⟨i, hi, hp⟩ := Session.perform_lift_bind_eq_ok.1 hp
  cases hp
  have hnow : t'.world.now = s.world.now :=
    (HookedOperation.keeps_handed (f := fun s => s.world.now) (fun _ _ => rfl) m a .create).of_perform
      hleft
  have hasked : t'.asked = s.asked :=
    (HookedOperation.keeps_handed (fun _ _ => rfl) m a .create).of_perform hleft
  have hcarried : (s.perform (RowOperation.perform m a .create)).2.asked = t.asked := by
    show (s.perform (HookedOperation.create.operation.perform m a)).2.asked = _
    rw [hperform]
    exact keeps_asked_carryOut m a _ t
  obtain ⟨hkeys, given, hgiven⟩ := exists_inserts hm.wellFormed.nodup hrow hi
  refine ⟨left, given, i, rfl, congrArg Prod.fst hleft, hkeys, ?_⟩
  rw [hcarried, ← hnow, ← hasked]
  exact hgiven

end ResolvedModel

/-! ## A parcel -/

/-- A parcel, two of whose columns ask one source. -/
def parcelDefinition : ModelDefinition :=
  { name := .str "Parcel"
    underscored := .bool true
    columns :=
      [(.str "sentTo", { type := .str "TEXT" }),
       (.str "code",
        { type := .str "TEXT", defaultValue := some (.producer 7 [.str "P-1", .str "P-2"]) }),
       (.str "label",
        { type := .str "TEXT", defaultValue := some (.producer 7 [.str "P-1", .str "P-2"]) })] }

/-- A parcel to be sent to one place and then, under another key, to another, with no time. -/
def sendingParcel : Call :=
  { args :=
      [.dict [(.str "sentTo", .str "Rome"), (.str "created_at", .null),
        (.str "sent_to", .str "Oslo")]] }

/-- It goes to the later place, at the present time, and the source is asked twice. -/
theorem inserts_of_sendingParcel :
    ∃ (m : ResolvedModel) (a : Named Value) (events : List Event), m.IsResolved ∧
      sendingParcel.bind RowOperation.create.parameters = .ok a ∧
      (noonSession.perform (m.call "create" sendingParcel)).2.trace =
        noonSession.trace ++ events ∧
      (noonSession.perform (m.call "create" sendingParcel)).2.asked 7 = 2 ∧
      ((statements events).map fun e => (e.1, (Value.list e.2).repr)) =
        [("INSERT INTO Parcel (sent_to, created_at, code, label, updated_at) " ++
            "VALUES (?, ?, ?, ?, ?)",
          "['Oslo', '2024-05-01T12:00:00.000Z', 'P-1', 'P-2', '2024-05-01T12:00:00.000Z']"),
         ("SELECT * FROM Parcel WHERE id = ? LIMIT 1", "[None]")] ∧
      m.WritesOnce "create" (m.InsertsIn a noonSession
        (noonSession.perform (m.call "create" sendingParcel)).2) events := by
  have hrun : (do
      let m ← (DefinitionSource.built parcelDefinition).resolve
      let t := (noonSession.perform (m.call "create" sendingParcel)).2
      pure (t.asked 7, (statements t.trace).map
        fun e : String × List Value => (e.1, (Value.list e.2).repr))).toOption =
      some (2,
        [("INSERT INTO Parcel (sent_to, created_at, code, label, updated_at) " ++
            "VALUES (?, ?, ?, ?, ?)",
          "['Oslo', '2024-05-01T12:00:00.000Z', 'P-1', 'P-2', '2024-05-01T12:00:00.000Z']"),
         ("SELECT * FROM Parcel WHERE id = ? LIMIT 1", "[None]")]) := by
    decide +kernel
  obtain ⟨m, hm, hrest⟩ := bind_eq_ok.1 (eq_ok_of_toOption hrun)
  obtain ⟨hasked, hstatements⟩ := Prod.mk.inj (pure_eq_ok.1 hrest)
  have hresolved : m.IsResolved := ⟨.built parcelDefinition, m.hooks, hm⟩
  have hbound : ∃ a, sendingParcel.bind RowOperation.create.parameters = .ok a := ⟨_, rfl⟩
  obtain ⟨a, hbound⟩ := hbound
  obtain ⟨events, htrace, hwrites⟩ :=
    ResolvedModel.inserts_of_call hresolved hbound noonSession
  refine ⟨m, a, events, hresolved, hbound, htrace, hasked, ?_, hwrites⟩
  rw [htrace] at hstatements
  exact hstatements

end Tablewright
