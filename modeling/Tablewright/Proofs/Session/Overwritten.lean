import Tablewright.Proofs.Session.NamedRows
import Tablewright.Proofs.Session.SingleWrite
import Tablewright.Proofs.Session.Versions

/-!
# What an upsert overwrites

An upsert inserts the row that was validated, but for the time of making. Where a row is there that
it conflicts with, that row takes over every inserted column that conflicts are not told by, each
once and in the order of the insertion, and where no such column is left nothing is done
(`ResolvedModel.overwrites_of_call`). So a row that is there keeps the time of its making and the
columns of the conflict.
-/

namespace Tablewright

open Fallible

/-! ## Texts among texts -/

namespace Value

variable {v w : Value} {s : String} {vs : List Value}

/-- Comparing two texts gives an answer. -/
theorem equals_of_text? {s' : String} (hv : v.text? = some s) (hw : w.text? = some s') :
    v.equals w = .ok (v.same w) := by
  rcases eq_str_or_eq_scalar_of_text? hv with rfl | rfl <;>
    rcases eq_str_or_eq_scalar_of_text? hw with rfl | rfl <;>
      simp only [equals, isTensor, Bool.or_self, Bool.false_eq_true, if_false] <;> rfl

/-- **A text is among texts exactly if it is one of them.** -/
theorem isAmong_of_text? (hv : v.text? = some s) (h : ∀ w ∈ vs, w.text? = some w.display) :
    v.isAmong vs = .ok (decide (s ∈ vs.map display)) := by
  induction vs with
  | nil => rfl
  | cons w vs ih =>
    obtain ⟨hfirst, hrest⟩ := List.forall_mem_cons.1 h
    rw [isAmong, equals_of_text? hfirst hv, ok_bind rfl, ih hrest]
    by_cases hsame : w.same v = true
    · have hname : s = w.display := by
        rw [same_iff_of_text? hfirst, hv] at hsame
        exact Option.some.inj hsame
      rw [hsame, if_pos rfl, decide_eq_true (hname ▸ List.mem_cons_self)]
      rfl
    · have hname : s ≠ w.display := by
        rintro rfl
        exact hsame ((same_iff_of_text? hfirst).2 hv)
      rw [if_neg hsame]
      simp [hname]

end Value

/-! ## What an upsert compiles to -/

namespace QueryTable

variable {t : QueryTable} {row : Mapping} {targets : List Value} {i : Insertion}

/-- The columns that conflicts are told by: those that are named, or else the primary key. -/
def conflictTargets (t : QueryTable) (targets : List Value) : List String :=
  if targets.isEmpty then [t.primaryKey] else targets.map Value.display

/-- The columns that are taken over are those that conflicts are not told by. -/
theorem updates_eq_filter {updates : List Value} (hrow : row.Textual)
    (htargets : ∀ v ∈ targets, v.text? = some v.display)
    (h : (row.map Prod.fst).filterM (fun c => do pure !(← c.isAmong targets)) = .ok updates) :
    updates.map Value.display =
      row.named.names.filter fun c => decide (c ∉ targets.map Value.display) := by
  have hanswer : ∀ (c : Value) (b : Bool),
      (do pure !(← c.isAmong targets) : Except Fault Bool) = .ok b →
        (do pure !(← c.isAmong targets) : Except Fault Bool).toOption.getD false = b := by
    intro c b hb
    rw [hb]
    rfl
  rw [Mapping.textual_iff_keys] at hrow
  rw [filterM_eq_ok hanswer h, Mapping.names_named, List.filter_map (f := Value.display)]
  refine congrArg _ (List.filter_congr fun c hc => ?_)
  rw [Value.isAmong_of_text? (hrow c hc) htargets]
  exact decide_not.symm

/-- **An upsert of a row with names**: it binds the values of the row in order, and takes over what
conflicts are not told by. -/
theorem exists_of_upsert (h : t.upsert (.dict row) (.list targets) = .ok i) :
    row ≠ [] ∧ row.Textual ∧ ∃ bound, List.Forall₂ t.Binds row bound ∧
      i =
        { table := t.name, values := bound
          conflict := some
            { targets := t.conflictTargets targets
              updates := row.named.names.filter fun c =>
                decide (c ∉ t.conflictTargets targets) } } := by
  obtain ⟨b, hb, h⟩ := bind_eq_ok.1 h
  cases b with
  | false =>
    obtain ⟨_, hrefused, _⟩ := bind_eq_ok.1 h
    cases hrefused
  | true =>
    obtain ⟨chosen, hchosen, h⟩ := bind_eq_ok.1 h
    obtain ⟨named, hnamed, h⟩ := bind_eq_ok.1 h
    obtain ⟨columns, hcolumns, h⟩ := bind_eq_ok.1 h
    obtain ⟨insertion, hinsertion, h⟩ := bind_eq_ok.1 h
    obtain ⟨items, hitems, h⟩ := bind_eq_ok.1 h
    obtain ⟨updates, hupdates, h⟩ := bind_eq_ok.1 h
    obtain ⟨names, hnames, h⟩ := bind_eq_ok.1 h
    obtain rfl := pure_eq_ok.1 h
    obtain rfl := pure_eq_ok.1 hitems
    obtain ⟨rfl, -⟩ := columns_eq_ok hcolumns
    have hsome : row ≠ [] := by
      rintro rfl
      cases hb
    have hrow : row.Textual := text?_of_insert hinsertion
    have htargets : t.conflictTargets targets = columns.map Value.display := by
      cases targets with
      | nil =>
        obtain rfl := pure_eq_ok.1 hchosen
        obtain rfl := pure_eq_ok.1 hnamed
        rfl
      | cons first rest =>
        obtain rfl := pure_eq_ok.1 hchosen
        obtain rfl := pure_eq_ok.1 hnamed
        rfl
    obtain ⟨_, bound, hignoring, hbound, -, rfl⟩ := insert_eq_ok hinsertion
    obtain rfl := pure_eq_ok.1 hignoring
    refine ⟨hsome, hrow, bound, hbound, ?_⟩
    rw [htargets, ← updates_eq_filter hrow (text?_of_mapM_asText hnames) hupdates,
      mapM_asText_eq_ok hnames]
    rfl

end QueryTable

/-! ## What an upsert sends -/

namespace ResolvedModel

open Action

/-- **What an upsert does for a row that was validated**, given what names the columns of its
conflict. -/
structure Overwrites (m : ResolvedModel) (conflict : Value) (row : Mapping) (i : Insertion)
    (rule : ConflictRule) : Prop where
  /-- Nothing is wrong with the row. -/
  validated : validateRow m.name m.columns (.dict row) = .ok ()
  /-- Its keys are the names of its columns. -/
  textual : row.Textual
  /-- The insertion gives way where there is a conflict. -/
  yields : i.conflict = some rule
  /-- Conflicts are told by the columns that the call names, or else by the primary key. -/
  targets : ∃ columns, m.conflictColumns conflict = .ok columns ∧
    rule.targets = m.queryTable.conflictTargets columns
  /-- All values of the row are bound in order, but that for the time of making. -/
  carried : List.Forall₂ Binding.Carries
    (row.filter fun e => decide (m.createdAt ≠ some e.1.display)) i.values
  /-- So its columns are inserted, but for the time of making. -/
  inserted : i.values.map Binding.column =
    row.named.names.filter fun c => decide (m.createdAt ≠ some c)
  /-- None of them is inserted twice. -/
  nodup : (i.values.map Binding.column).Nodup
  /-- What is inserted and is no column of the conflict is assigned its new value, in order, and
  nothing else is. -/
  assigned : (RowStatement.insert i).assigned =
    ((i.values.map Binding.column).filter fun c => decide (c ∉ rule.targets)).map fun c =>
      (c, "excluded." ++ c)
  /-- The text says so, and where nothing is assigned it says to do nothing. -/
  text : (RowStatement.insert i).sql =
    "INSERT INTO " ++ m.tableName ++ " (" ++ ", ".intercalate (i.values.map Binding.column) ++
      ") VALUES (" ++ ", ".intercalate (i.values.map fun _ => "?") ++ ") ON CONFLICT(" ++
      ", ".intercalate rule.targets ++ ") " ++
      if ∀ c ∈ i.values.map Binding.column, c ∈ rule.targets then "DO NOTHING"
      else "DO UPDATE SET " ++
        ", ".intercalate ((RowStatement.insert i).assigned.map fun e => e.1 ++ " = " ++ e.2)
  /-- A row that is there keeps the time of its making and the columns of the conflict. -/
  kept : ∀ e ∈ (RowStatement.insert i).assigned, m.createdAt ≠ some e.1 ∧ e.1 ∉ rule.targets

variable {m : ResolvedModel} {conflict : Value} {row : Mapping} {targets : List Value}
  {i : Insertion}

/-- The time of making is left out by its name. -/
theorem withoutCreatedAt_eq_filter (hrow : Mapping.Textual (m.withoutCreatedAt row)) :
    row.Textual ∧
      m.withoutCreatedAt row = row.filter fun e => decide (m.createdAt ≠ some e.1.display) := by
  unfold withoutCreatedAt at hrow ⊢
  cases hcreated : m.createdAt with
  | none =>
    rw [hcreated] at hrow
    exact ⟨hrow, (List.filter_eq_self.2 fun _ _ => rfl).symm⟩
  | some c =>
    rw [hcreated] at hrow
    have hkey : (Value.str c).text? = some c := rfl
    have hall := (Mapping.textual_remove_iff hkey).1 hrow
    refine ⟨hall, List.filter_congr fun e he => ?_⟩
    rw [Bool.eq_iff_iff, Bool.not_eq_true', Bool.eq_false_iff, decide_eq_true_iff, ne_eq, ne_eq,
      Option.some_inj, Mapping.same_iff_of_textual (hall e he) hkey, eq_comm]

/-- **The text of an insertion that gives way.** -/
theorem sql_of_conflict {table : String} {bound : List Binding} {rule : ConflictRule}
    (hsome : bound ≠ []) (hupdates : rule.updates =
      (bound.map Binding.column).filter fun c => decide (c ∉ rule.targets)) :
    (RowStatement.insert { table, values := bound, conflict := some rule }).sql =
      "INSERT INTO " ++ table ++ " (" ++ ", ".intercalate (bound.map Binding.column) ++
        ") VALUES (" ++ ", ".intercalate (bound.map fun _ => "?") ++ ") ON CONFLICT(" ++
        ", ".intercalate rule.targets ++ ") " ++
        if ∀ c ∈ bound.map Binding.column, c ∈ rule.targets then "DO NOTHING"
        else "DO UPDATE SET " ++ ", ".intercalate ((RowStatement.insert
          { table, values := bound, conflict := some rule }).assigned.map fun e =>
            e.1 ++ " = " ++ e.2) := by
  have hassigned : (RowStatement.insert { table, values := bound, conflict := some rule }).assigned =
      rule.parts := rfl
  have hidle : (∀ c ∈ bound.map Binding.column, c ∈ rule.targets) ↔
      rule.updates.isEmpty = true := by
    rw [List.isEmpty_iff, hupdates, List.filter_eq_nil_iff]
    simp only [decide_eq_true_iff, not_not]
  rw [hassigned, rule.map_parts, if_congr hidle rfl rfl, RowStatement.sql, Insertion.render,
    if_neg Bool.false_ne_true, if_neg (mt List.isEmpty_iff.1 hsome)]
  simp only [ConflictRule.render, String.append_assoc]
  rfl

/-- **An upsert overwrites the columns that it inserts, but those of the conflict.** -/
theorem exists_overwrites (hrow : Mapping.Unrepeated row)
    (h : m.upsertPlan conflict row = .ok (targets, i)) :
    ∃ rule, m.Overwrites conflict row i rule := by
  obtain ⟨hvalid, hconflict, -, hupsert⟩ := parts_of_upsertPlan h
  obtain ⟨hsome, htextual, bound, hbound, rfl⟩ := QueryTable.exists_of_upsert hupsert
  obtain ⟨hall, hfilter⟩ := withoutCreatedAt_eq_filter htextual
  have hcolumns : bound.map Binding.column = (m.withoutCreatedAt row).named.names :=
    QueryTable.columns_eq_names hbound
  have hinserted : bound.map Binding.column =
      row.named.names.filter fun c => decide (m.createdAt ≠ some c) := by
    rw [hcolumns, hfilter, Mapping.names_named, Mapping.names_named, List.map_map, List.map_map,
      List.filter_map]
    rfl
  have hvalues : bound ≠ [] := by
    rintro rfl
    exact hsome (List.forall₂_nil_right_iff.1 hbound)
  have hassigned : RowStatement.assigned (.insert
      { table := m.queryTable.name, values := bound
        conflict := some
          { targets := m.queryTable.conflictTargets targets
            updates := (m.withoutCreatedAt row).named.names.filter fun c =>
              decide (c ∉ m.queryTable.conflictTargets targets) } }) =
      ((bound.map Binding.column).filter fun c =>
        decide (c ∉ m.queryTable.conflictTargets targets)).map fun c => (c, "excluded." ++ c) := by
    rw [hcolumns]
    rfl
  refine ⟨_, hvalid, hall, rfl, ⟨targets, hconflict, rfl⟩, ?_, hinserted, ?_, hassigned, ?_, ?_⟩
  · rw [← hfilter]
    exact QueryTable.carries_of_binds hbound
  · exact QueryTable.nodup_of_binds (unrepeated_withoutCreatedAt hrow) htextual hbound
  · exact sql_of_conflict hvalues (by rw [hcolumns])
  · rw [hassigned]
    intro e he
    obtain ⟨c, hc, rfl⟩ := List.mem_map.1 he
    obtain ⟨hmem, htarget⟩ := List.mem_filter.1 hc
    rw [hinserted] at hmem
    exact ⟨of_decide_eq_true (List.mem_filter.1 hmem).2, of_decide_eq_true htarget⟩

/-- What an upsert settles before it sends anything: the row, the columns of the conflict, and the
insertion. -/
def planUpsert (m : ResolvedModel) (conflict left : Value) :
    Action (Mapping × List Value × Insertion) := do
  let row ← m.insertValues left
  let plan ← m.upsertPlan conflict row
  pure (row, plan)

/-- **An upsert is planned.** -/
theorem planned_upsert (m : ResolvedModel) (a : Named Value) :
    HookedOperation.Planned m a .upsert (m.planUpsert (a.argument "conflict"))
      (fun p => .insert p.2.2) (fun p _ => do
        let q ← m.lookup (m.withoutCreatedAt p.1) p.2.1
        let result ← fetchFirst q
        pure (result, result)) where
  work left := by
    show m.upsertWork _ left = _
    simp only [upsertWork_eq, planUpsert, bind_assoc, pure_bind]
    rfl
  silent left := (quiet_insertValues left).1.bind fun _ =>
    (Keeps.lift _ _).bind fun _ => Keeps.pure _ _
  follows p changes := Emits.lift_bind fun q _ => by
    refine Emits.bind (emits_first ?_) fun _ => Emits.pure _
    rw [q.executed_select]
    exact .selected q

/-- What a statement is that an upsert sends in a session: it inserts the row that is made of what the
hooks leave of the values. -/
def OverwritesIn (m : ResolvedModel) (a : Named Value) (s : Session) (w : RowStatement) : Prop :=
  ∃ row i rule, w = .insert i ∧
    (s.perform (do
      let left ← HookedOperation.upsert.handed m a
      m.insertValues left)).1 = .ok row ∧
    m.Overwrites (a.argument "conflict") row i rule

/-- **What an upsert overwrites.** However an upsert is called, whatever hooks the model has and
whatever the engine answers: it sends at most one statement that writes, and this inserts the row
that was made of what the hooks left and validated, but for the time of making; where there is a
conflict it assigns the inserted columns that are none of the conflict, and only these. -/
theorem overwrites_of_call (m : ResolvedModel) {c : Call} {a : Named Value}
    (h : c.bind RowOperation.upsert.parameters = .ok a) (s : Session) :
    ∃ events, (s.perform (m.call "upsert" c)).2.trace = s.trace ++ events ∧
      m.WritesOnce "upsert" (m.OverwritesIn a s) events := by
  have hcall : m.call "upsert" c = RowOperation.perform m a .upsert := call_of_bind h
  rw [hcall]
  refine (planned_upsert m a).writesOnce fun p t hp _ => ?_
  obtain ⟨left, t', hleft, hp⟩ := Session.perform_bind_eq_ok.1 hp
  obtain ⟨row, t'', hrow, hp⟩ := Session.perform_bind_eq_ok.1 hp
  obtain ⟨plan, hplan, hp⟩ := Session.perform_lift_bind_eq_ok.1 hp
  cases hp
  obtain ⟨rule, hrule⟩ := exists_overwrites (unrepeated_insertValues hrow) hplan
  refine ⟨row, plan.2, rule, rfl, ?_, hrule⟩
  rw [Session.perform_bind, hleft]
  exact congrArg Prod.fst hrow

end ResolvedModel

/-! ## Tasks that give way -/

/-- Upserts of a task, with what is sent for each: one that is to be known by its title, and one that
is to be known by all that it says. -/
def yieldingUpserts : List (Call × List String) :=
  [({ args :=
        [.dict [(.str "Title", .str "Pack"), (.str "created_at", .str "2024"), (.str "dueAt", .null)],
         .list [.str "Title"]] },
    ["INSERT INTO Task (title, due_at, updated_at) VALUES (?, ?, ?) ON CONFLICT(title) " ++
       "DO UPDATE SET due_at = excluded.due_at, updated_at = excluded.updated_at",
     "SELECT * FROM Task WHERE title = ? LIMIT 1"]),
   ({ args := [.dict [(.str "Title", .str "Pack")], .list [.str "Title", .str "updated_at"]] },
    ["INSERT INTO Task (title, updated_at) VALUES (?, ?) ON CONFLICT(title, updated_at) DO NOTHING",
     "SELECT * FROM Task WHERE title = ? AND updated_at = ? LIMIT 1"])]

/-- The first leaves the time of making alone, though it is given one; of the second no column is
left to be taken over. -/
theorem overwrites_of_yieldingUpserts :
    ∃ m : ResolvedModel, m.createdAt = some "created_at" ∧ ∀ turn ∈ yieldingUpserts, ∃ a events,
      turn.1.bind RowOperation.upsert.parameters = .ok a ∧
      (noonSession.perform (m.call "upsert" turn.1)).2.trace = noonSession.trace ++ events ∧
      sentTexts events = turn.2 ∧ m.WritesOnce "upsert" (m.OverwritesIn a noonSession) events := by
  have hrun : (do
      let m ← (DefinitionSource.built taskDefinition).resolve
      pure (m.createdAt, yieldingUpserts.map fun turn : Call × List String =>
        sentTexts (noonSession.perform (m.call "upsert" turn.1)).2.trace)).toOption =
      some (some "created_at", yieldingUpserts.map fun turn => turn.2) := by
    decide +kernel
  obtain ⟨m, -, hrest⟩ := bind_eq_ok.1 (eq_ok_of_toOption hrun)
  obtain ⟨hcreated, htexts⟩ := Prod.mk.inj (pure_eq_ok.1 hrest)
  have hturns : ∀ turn ∈ yieldingUpserts, ∃ a,
      turn.1.bind RowOperation.upsert.parameters = .ok a := by
    simp only [yieldingUpserts, List.forall_mem_cons]
    exact ⟨⟨_, rfl⟩, ⟨_, rfl⟩, nofun⟩
  refine ⟨m, hcreated, fun turn hturn => ?_⟩
  obtain ⟨a, hbound⟩ := hturns turn hturn
  obtain ⟨events, htrace, hwrites⟩ := ResolvedModel.overwrites_of_call m hbound noonSession
  refine ⟨a, events, hbound, htrace, ?_, hwrites⟩
  rw [← List.map_inj_left.1 htexts turn hturn, htrace]
  rfl

end Tablewright
