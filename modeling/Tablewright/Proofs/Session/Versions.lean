import Tablewright.Proofs.Session.Columns
import Tablewright.Proofs.Session.Writes

/-!
# The count of changes

A model may have a column that counts the changes of a row, and an update takes it a step up by an
expression that no value enters. The other operations that change rows do not: an increment or a
decrement adds to it what it is told to, an upsert takes it over from the new row, and a removal
that only marks rows leaves it alone, as does a restoration. So of all statements that change rows
that are there, exactly those of updates count a change (`ResolvedModel.assigns_of_call`).
-/

namespace Tablewright

open Fallible

/-! ## What statements assign -/

/-- The column that changes, and the expression for its new value. -/
def Assignment.parts : Assignment → String × String
  | set b => (b.column, "?")
  | add b => (b.column, b.column ++ " + ?")
  | compute column expression => (column, expression)

theorem Assignment.render_eq (a : Assignment) : a.render = a.parts.1 ++ " = " ++ a.parts.2 := by
  cases a with
  | set b =>
    show b.column ++ (" = " ++ "?") = b.column ++ " = " ++ "?"
    exact String.append_assoc.symm
  | add b => exact String.append_assoc
  | compute column expression => rfl

/-- The columns that a conflict changes, each with the expression for its new value. -/
def ConflictRule.parts (r : ConflictRule) : List (String × String) :=
  r.updates.map fun c => (c, "excluded." ++ c)

/-- What a conflict changes is written as an assignment. -/
theorem ConflictRule.map_parts (r : ConflictRule) :
    (r.parts.map fun e => e.1 ++ " = " ++ e.2) =
      r.updates.map fun c => c ++ " = excluded." ++ c := by
  rw [parts, List.map_map]
  refine List.map_congr_left fun c _ => ?_
  show c ++ " = " ++ ("excluded." ++ c) = c ++ (" = " ++ "excluded.") ++ c
  simp only [String.append_assoc]

namespace RowStatement

variable {s : RowStatement} {v : String}

/-- The columns of rows that are there already which a statement changes, each with the expression
for its new value. -/
def assigned : RowStatement → List (String × String)
  | update c => c.assignments.map Assignment.parts
  | insert i => (i.conflict.map ConflictRule.parts).getD []
  | select _ | delete _ => []

/-- A statement changes rows that are there already. -/
def Alters : RowStatement → Prop
  | update _ => True
  | insert i => ∃ rule, i.conflict = some rule ∧ rule.updates ≠ []
  | select _ | delete _ => False

/-- The text of the changes. -/
def setText (s : RowStatement) : String :=
  " SET " ++ ", ".intercalate (s.assigned.map fun e => e.1 ++ " = " ++ e.2)

/-- **The changes of a statement stand in its text**, in front of the condition of an update and at
the end of an insertion that a conflict turns into a change. -/
theorem exists_sql_eq (h : s.Alters) :
    ∃ lead rest, s.sql = lead ++ s.setText ++ rest ∧
      ((∃ table condition, lead = "UPDATE " ++ table ∧ rest = " WHERE " ++ condition) ∨
        (∃ insertion, lead = insertion ++ " DO UPDATE") ∧ rest = "") := by
  cases s with
  | select | delete => cases h
  | update c =>
    refine ⟨_, _, ?_,
      .inl ⟨c.table, " AND ".intercalate (c.filters.map Binding.equation), rfl, rfl⟩⟩
    have hrender : Assignment.render = fun a => a.parts.1 ++ " = " ++ a.parts.2 :=
      funext Assignment.render_eq
    rw [setText, assigned, List.map_map, sql, Change.render, hrender]
    simp only [String.append_assoc]
    rfl
  | insert i =>
    obtain ⟨orIgnore, table, values, conflict⟩ := i
    obtain ⟨rule, rfl, hsome⟩ := h
    have hupdates : ¬ rule.updates.isEmpty = true := mt List.isEmpty_iff.1 hsome
    have hbase : (insert { orIgnore, table, values, conflict := some rule }).sql =
        ({ orIgnore, table, values } : Insertion).render ++ (" " ++ rule.render) := by
      rw [sql, Insertion.render, Insertion.render, String.append_empty]
    refine ⟨_, "", ?_, .inr ⟨⟨({ orIgnore, table, values } : Insertion).render ++
      " ON CONFLICT(" ++ ", ".intercalate rule.targets ++ ")", rfl⟩, rfl⟩⟩
    rw [hbase, ConflictRule.render, if_neg hupdates, ← rule.map_parts]
    simp only [setText, assigned, Option.map_some, Option.getD_some, String.append_assoc,
      String.append_empty]
    rfl

/-- A statement takes a column one step up, and does nothing else to it. -/
def Steps (v : String) (s : RowStatement) : Prop :=
  (s.assigned.filter fun e => e.1 == v) = [(v, v ++ " + 1")]

end RowStatement

/-- The operations that change rows which are there. -/
def RowOperation.alterations : List RowOperation :=
  [upsert, update, increment, decrement, destroy, restore]

/-- The expression for the new value of a column in what an operation sends that is no update. -/
def RowOperation.source (column : String) : RowOperation → String
  | upsert => "excluded." ++ column
  | increment | decrement => column ++ " + ?"
  | _ => "?"

/-- No such expression is a step. -/
theorem RowOperation.source_ne (o : RowOperation) (v : String) : o.source v ≠ v ++ " + 1" := by
  have hlast : ∀ text : String, text ++ "?" ≠ v ++ " + 1" := by
    intro text heq
    have hchar : (text ++ "?").toList.getLast? = (v ++ " + 1").toList.getLast? := by rw [heq]
    rw [String.toList_append, String.toList_append, List.getLast?_append, List.getLast?_append]
      at hchar
    have hmark : some '?' = some '1' := hchar
    exact absurd (Option.some.inj hmark) (by decide)
  unfold source
  split
  -- what an upsert takes over is too long for a step, and all else ends in a question mark
  · intro heq
    have hlength := congrArg String.length heq
    rw [String.length_append, String.length_append] at hlength
    have hlong : "excluded.".length = 9 := rfl
    have hshort : " + 1".length = 4 := rfl
    omega
  · exact fun heq => hlast (v ++ " + ") (String.append_assoc.trans heq)
  · exact fun heq => hlast (v ++ " + ") (String.append_assoc.trans heq)
  · exact hlast ""

/-! ## What operations assign -/

namespace ResolvedModel

/-- **What a statement of an operation does to the column that counts changes.** -/
structure Assigns (m : ResolvedModel) (v : String) (o : RowOperation) (s : RowStatement) :
    Prop where
  /-- What it changes in rows that are there stands in its text. -/
  text : s.Alters → ∃ lead rest, s.sql = lead ++ s.setText ++ rest ∧
    ((∃ table condition, lead = "UPDATE " ++ table ∧ rest = " WHERE " ++ condition) ∨
      (∃ insertion, lead = insertion ++ " DO UPDATE") ∧ rest = "")
  /-- If it changes rows that are there, it counts a change exactly if it is that of an update. -/
  steps : s.Alters → (s.Steps v ↔ o = .update)
  /-- Any other operation takes columns to what it binds values for, by an expression of its own. -/
  sources : o ≠ .update → ∀ e ∈ s.assigned, ∃ b ∈ s.writes, e = (b.column, o.source b.column)
  /-- Only the mark of deletion is set or taken away. -/
  marks : o = .destroy ∨ o = .restore → ∀ e ∈ s.assigned, m.deletedAt = some e.1

variable {m : ResolvedModel} {v : String} {o : RowOperation} {s : RowStatement} {row : Mapping}
  {condition : Value}

/-- A statement of another operation counts no change. -/
theorem assigns_of_sources (ho : o ≠ .update)
    (hsources : ∀ e ∈ s.assigned, ∃ b ∈ s.writes, e = (b.column, o.source b.column))
    (hmarks : o = .destroy ∨ o = .restore → ∀ e ∈ s.assigned, m.deletedAt = some e.1) :
    m.Assigns v o s := by
  have hsteps : ¬ s.Steps v := by
    intro hsteps
    have hmem : (v, v ++ " + 1") ∈ s.assigned :=
      List.mem_of_mem_filter (hsteps ▸ List.mem_singleton_self _)
    obtain ⟨b, -, hb⟩ := hsources _ hmem
    obtain ⟨rfl, hstep⟩ := Prod.mk.inj hb
    exact o.source_ne _ hstep.symm
  exact ⟨RowStatement.exists_sql_eq, fun _ => iff_of_false hsteps ho, fun _ => hsources, hmarks⟩

/-- A statement that changes no rows which are there assigns nothing. -/
theorem assigns_of_not_alters (halters : ¬ s.Alters) (hassigned : s.assigned = []) :
    m.Assigns v o s := by
  have hnone : ∀ e, e ∉ s.assigned := by
    rw [hassigned]
    exact fun _ => List.not_mem_nil
  exact ⟨RowStatement.exists_sql_eq, fun h => absurd h halters,
    fun _ e he => absurd he (hnone e), fun _ e he => absurd he (hnone e)⟩

/-- **An update counts one change**, whatever the row says of the count. -/
theorem assigns_update (hm : m.IsResolved) (hv : m.version = some v) {c : Change}
    (h : m.queryTable.update (.dict (m.withoutVersion row)) condition (.dict m.versionStep) =
      .ok c) : m.Assigns v .update (.update c) := by
  have hmem := hm.wellFormed.version_mem hv
  obtain ⟨bound, filters, hbound, -, -, -, rfl⟩ := QueryTable.update_eq_ok h
  have hother : ∀ b ∈ bound, b.column ≠ v := by
    rintro b hb rfl
    obtain ⟨e, he, hknown, hcolumn, -⟩ := exists_of_mem_forall₂ hbound hb
    obtain ⟨c, -, htext⟩ := (known_iff (List.ne_nil_of_mem hmem)).1 hknown
    rw [Value.display_of_text? htext] at hcolumn
    -- the row has no such key, and so none that is read as the column
    rw [Value.entryList, withoutVersion, hv] at he
    have hkey := (List.mem_filter.1 he).2
    rw [(Value.same_iff_of_text? rfl).2 (hcolumn ▸ htext)] at hkey
    cases hkey
  have hset :
      ((bound.map Assignment.set).map Assignment.parts).filter (fun e => e.1 == v) = [] := by
    rw [List.map_map, List.filter_eq_nil_iff, List.forall_mem_map]
    exact fun b hb heq => hother b hb (beq_iff_eq.1 heq)
  have hsteps : RowStatement.Steps v (.update
      { table := m.queryTable.name
        assignments := bound.map .set ++
          (Value.dict m.versionStep).entryList.map fun e => .compute e.1.display e.2.display
        filters }) := by
    rw [RowStatement.Steps, RowStatement.assigned, List.map_append, List.filter_append, hset,
      Value.entryList, versionStep, hv]
    show [(v, v ++ " + 1")].filter (fun e => e.1 == v) = _
    rw [List.filter_singleton, beq_self_eq_true, cond_true]
  have hneither : ¬ (RowOperation.update = .destroy ∨ RowOperation.update = .restore) := by decide
  exact ⟨RowStatement.exists_sql_eq, fun _ => iff_of_true hsteps rfl, fun hne => absurd rfl hne,
    fun ho => absurd ho hneither⟩

/-- Marking rows as deleted and taking the mark back is all that a statement for it does. -/
theorem assigns_mark {deletedAt : String} (hdeleted : m.deletedAt = some deletedAt)
    (ho : o = .destroy ∨ o = .restore) {mark : Value} {c : Change}
    (h : m.queryTable.update (.dict [(.str deletedAt, mark)]) condition .null = .ok c) :
    m.Assigns v o (.update c) := by
  obtain ⟨bound, filters, hbound, -, -, -, rfl⟩ := QueryTable.update_eq_ok h
  obtain ⟨b, rest, hb, hrest, rfl⟩ := List.forall₂_cons_left_iff.1 hbound
  obtain rfl := List.forall₂_nil_left_iff.1 hrest
  have hcolumn : b.column = deletedAt := hb.column
  have hother : o ≠ .update := by rcases ho with rfl | rfl <;> decide
  refine assigns_of_sources hother (fun e he => ⟨b, List.mem_singleton_self b, ?_⟩)
    fun _ e he => ?_
  · rw [List.mem_singleton.1 he]
    rcases ho with rfl | rfl <;> rfl
  · rw [List.mem_singleton.1 he, Assignment.parts, hcolumn]
    exact hdeleted

/-- An increment adds to columns. -/
theorem assigns_increment (ho : o = .increment ∨ o = .decrement) {deltas : Value} {c : Change}
    (h : m.queryTable.increment deltas condition = .ok c) : m.Assigns v o (.update c) := by
  obtain ⟨bound, filters, -, -, -, rfl⟩ := QueryTable.increment_eq_ok h
  have hother : o ≠ .update := by rcases ho with rfl | rfl <;> decide
  have hmarks : ¬ (o = .destroy ∨ o = .restore) := by rcases ho with rfl | rfl <;> decide
  refine assigns_of_sources hother (fun e he => ?_) fun hmark => absurd hmark hmarks
  obtain ⟨change, hchange, rfl⟩ := List.mem_map.1 he
  obtain ⟨b, hb, rfl⟩ := List.mem_map.1 hchange
  refine ⟨b, List.mem_filterMap.2 ⟨.add b, hchange, rfl⟩, ?_⟩
  rcases ho with rfl | rfl <;> rfl

/-- An upsert takes over what it holds. -/
theorem assigns_upsert {values conflict : Value} {i : Insertion}
    (h : m.queryTable.upsert values conflict = .ok i) : m.Assigns v .upsert (.insert i) := by
  obtain ⟨bound, _, _, updates, hbound, -, -, -, hupdates, rfl⟩ := QueryTable.upsert_eq_ok h
  have hother : RowOperation.upsert ≠ .update := by decide
  have hmarks : ¬ (RowOperation.upsert = .destroy ∨ RowOperation.upsert = .restore) := by decide
  refine assigns_of_sources hother (fun e he => ?_) fun hmark => absurd hmark hmarks
  -- the columns that are taken over are among the keys of the row
  obtain ⟨c, hc, rfl⟩ := List.mem_map.1 he
  obtain ⟨key, hkey, rfl⟩ := List.mem_map.1 hc
  have hcolumn : key.display ∈ bound.map Binding.column := by
    rw [QueryTable.columns_of_binds hbound]
    exact List.mem_map_of_mem (filterM_subset hupdates hkey)
  obtain ⟨b, hb, hname⟩ := List.mem_map.1 hcolumn
  exact ⟨b, hb, by rw [hname]; rfl⟩

/-! ## What the operations send -/

open Action

/-- **What becomes of the count of changes.** Whatever changes rows of a model that counts their
changes, however it is called and whatever hooks the model has: of all statements that it sends, but
for the log, those that change rows which are there count one change if it is an update, whatever
value it is called with for the count, and otherwise none. -/
theorem assigns_of_call (hm : m.IsResolved) (hv : m.version = some v)
    (ho : o ∈ RowOperation.alterations) (c : Call) (s : Session) :
    ∃ sent, (s.perform (m.call o.name c)).2.trace = s.trace ++ sent ∧
      ∀ event ∈ sent, m.SendsOnly (m.Assigns v o) event := by
  have hcall : (m.call o.name c).Emits (m.SendsOnly (m.Assigns v o)) := by
    rw [call_name]
    refine Emits.lift_bind fun a _ => ?_
    simp only [RowOperation.alterations, List.mem_cons, List.not_mem_nil, or_false] at ho
    rcases ho with rfl | rfl | rfl | rfl | rfl | rfl
    · have hread : ∀ q, m.Assigns v .upsert (.select q) := fun _ => assigns_of_not_alters id rfl
      exact emits_perform_of_work .upsert sendsOnly_hook
        (emits_upsertWork_of_upsert hread (fun _ _ _ => assigns_upsert) _)
    · exact emits_perform_of_work .update sendsOnly_hook
        (emits_updateWork_of_update fun _ _ _ _ => assigns_update hm hv)
    · exact emits_increment_of_increment (fun _ _ _ _ => assigns_increment (.inl rfl)) _ _
    · exact emits_decrement
        (emits_increment_of_increment fun _ _ _ _ => assigns_increment (.inr rfl))
    · have hremove : ∀ r, m.Assigns v .destroy (.delete r) := fun _ => assigns_of_not_alters id rfl
      exact emits_perform_of_work .destroy sendsOnly_hook fun _ => emits_destroyWork_of_statement
        (fun _ _ _ _ hdeleted _ => assigns_mark hdeleted (.inl rfl)) (fun _ r _ _ => hremove r) _
    · exact emits_restore_of_update fun _ _ _ _ hdeleted _ => assigns_mark hdeleted (.inr rfl)
  exact hcall s

end ResolvedModel

/-! ## Changes of a task -/

/-- The tasks to be packed. -/
def packing : Value :=
  .dict [(.str "Title", .str "Pack")]

/-- Calls that change them, most of which say something about the count, with what is sent for
each. -/
def revisionTurns : List (RowOperation × Call × List String) :=
  [(.update, { args := [.dict [(.str "Title", .str "Go"), (.str "Revision", .int 99)], packing] },
    ["UPDATE Task SET title = ?, updated_at = ?, Revision = Revision + 1 WHERE title = ?"]),
   (.increment, { args := [.str "Revision", packing] },
    ["UPDATE Task SET Revision = Revision + ? WHERE title = ?"]),
   (.decrement, { args := [.dict [(.str "Revision", .int 2)], packing] },
    ["UPDATE Task SET Revision = Revision + ? WHERE title = ?"]),
   (.destroy, { args := [packing] }, ["UPDATE Task SET deleted_at = ? WHERE title = ?"]),
   (.restore, { args := [packing] }, ["UPDATE Task SET deleted_at = ? WHERE title = ?"]),
   (.upsert,
    { args := [.dict [(.str "Title", .str "Pack"), (.str "Revision", .int 99)],
        .list [.str "Title"]] },
    ["INSERT INTO Task (title, Revision, updated_at) VALUES (?, ?, ?) ON CONFLICT(title) " ++
       "DO UPDATE SET Revision = excluded.Revision, updated_at = excluded.updated_at",
     "SELECT * FROM Task WHERE title = ? LIMIT 1"])]

/-- The update takes the count one step up, and does not mind the value that it is given; the others
add to it, take it over or leave it. -/
theorem assigns_of_revisionTurns :
    ∃ m : ResolvedModel, m.IsResolved ∧ m.version = some "Revision" ∧ ∀ turn ∈ revisionTurns,
      turn.1 ∈ RowOperation.alterations ∧
      ∃ sent, (noonSession.perform (m.call turn.1.name turn.2.1)).2.trace =
          noonSession.trace ++ sent ∧
        sentTexts sent = turn.2.2 ∧
        ∀ event ∈ sent, m.SendsOnly (m.Assigns "Revision" turn.1) event := by
  have hrun : (do
      let m ← (DefinitionSource.built taskDefinition).resolve
      pure (m.version, revisionTurns.map fun turn : RowOperation × Call × List String =>
        sentTexts (noonSession.perform (m.call turn.1.name turn.2.1)).2.trace)).toOption =
      some (some "Revision", revisionTurns.map fun turn => turn.2.2) := by
    decide +kernel
  obtain ⟨m, hm, hrest⟩ := bind_eq_ok.1 (eq_ok_of_toOption hrun)
  obtain ⟨hversion, htexts⟩ := Prod.mk.inj (pure_eq_ok.1 hrest)
  have hresolved : m.IsResolved := ⟨.built taskDefinition, m.hooks, hm⟩
  have halterations : ∀ turn ∈ revisionTurns, turn.1 ∈ RowOperation.alterations := by decide
  refine ⟨m, hresolved, hversion, fun turn hturn => ⟨halterations turn hturn, ?_⟩⟩
  obtain ⟨sent, htrace, hsent⟩ := ResolvedModel.assigns_of_call hresolved hversion
    (halterations turn hturn) turn.2.1 noonSession
  refine ⟨sent, htrace, ?_, hsent⟩
  rw [← List.map_inj_left.1 htexts turn hturn, htrace]
  rfl

end Tablewright
