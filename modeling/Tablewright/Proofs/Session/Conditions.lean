import Tablewright.Proofs.Session.Columns
import Tablewright.Proofs.Session.Writes

/-!
# What becomes of a condition

The rows that a call is about are given by a mapping: every entry asks for a value in the column
that its key stands for. A statement asks for the values of the mapping that is left once the keys
are exchanged for columns, in its order (`ResolvedModel.Asks`). So an entry goes without a filter
exactly if its key and that of another entry stand for one column; then the statement is about more
rows than were asked for, a removal as much as a selection (`ResolvedModel.asks_of_call`).
-/

namespace Tablewright

open Fallible

/-! ## The condition of a statement -/

namespace RowStatement

/-- The column that must be null for a row not to count as deleted, if a statement asks for that. -/
def hidden : RowStatement → Option String
  | select q => q.undeleted
  | insert _ | update _ | delete _ => none

/-- The conditions of a statement, in order. -/
def conditions (s : RowStatement) : List String :=
  (s.hidden.map (· ++ " IS NULL")).toList ++ s.filters.map Binding.equation

/-- The text of a statement up to its conditions. -/
def opening : RowStatement → String
  | select q => q.opening
  | insert i => i.render
  | update c =>
    "UPDATE " ++ c.table ++ " SET " ++ ", ".intercalate (c.assignments.map Assignment.render)
  | delete r => "DELETE FROM " ++ r.table

/-- The text of its conditions. -/
def whereText (s : RowStatement) : String :=
  if s.conditions.isEmpty then "" else " WHERE " ++ " AND ".intercalate s.conditions

/-- The text behind its conditions. -/
def closing : RowStatement → String
  | select q => q.closing
  | insert _ | update _ | delete _ => ""

/-- **The conditions of a statement stand together**, behind what it does and in front of how rows
are ordered and cut. A change must have some. -/
theorem sql_eq (s : RowStatement) (h : ∀ c, s = update c → c.filters ≠ []) :
    s.sql = s.opening ++ s.whereText ++ s.closing := by
  cases s with
  | select q => exact (Event.executed.inj q.executed_select).1
  | insert i => exact (String.append_empty.trans String.append_empty).symm
  | update c =>
    have hsome : ¬ (update c).conditions.isEmpty = true := fun hempty =>
      h c rfl (List.map_eq_nil_iff.1 (List.isEmpty_iff.1 hempty))
    rw [whereText, if_neg hsome, closing, String.append_empty, ← String.append_assoc]
    rfl
  | delete r =>
    have hempty : (delete r).conditions.isEmpty = r.filters.isEmpty := List.isEmpty_map
    rw [whereText, hempty, closing, String.append_empty]
    rfl

end RowStatement

/-! ## Filters and entries -/

namespace ResolvedModel

variable {m : ResolvedModel} {w columns : Mapping} {s : RowStatement}
  {order limit offset withDeleted : Value}

/-- A filter asks for what an entry does: for the value that is stored for its own, in the column
that its key stands for. -/
def AsksFor (m : ResolvedModel) (e : Value × Value) (b : Binding) : Prop :=
  ∃ column, m.columnFor e.1 = .ok column ∧ b.column = column.display ∧ e.2.storable = .ok b.value

/-- **What a statement makes of a condition.** -/
structure Asks (m : ResolvedModel) (w : Mapping) (s : RowStatement) : Prop where
  /-- The conditions stand together in the text. -/
  text : s.sql = s.opening ++ s.whereText ++ s.closing
  /-- The values that are asked for are bound behind those that are written. -/
  params : s.params = boundValues s.writes ++ boundValues s.filters
  /-- Only what marks deleted rows is asked to be null. -/
  hidden : ∀ column ∈ s.hidden, m.deletedAt = some column
  /-- There is a filter for each entry of the mapping that is left once the keys are exchanged for
  columns. -/
  merged : ∃ renamed, List.Forall₂ m.Renames w renamed ∧
    List.Forall₂ Binding.Carries (Mapping.ofPairs renamed) s.filters
  /-- No filter is made up. -/
  length_le : s.filters.length ≤ w.length
  /-- None is missing exactly if the keys stand for different columns. -/
  length_eq : s.filters.length = w.length ↔ m.KeysApart w
  /-- Then there is one for each entry, in order. -/
  each : m.KeysApart w → List.Forall₂ m.AsksFor w s.filters

/-- **What is left of a condition decides what a statement asks for.** -/
theorem asks_of_carries (hcolumns : m.columnValues (.dict w) = .ok columns)
    (hcarries : List.Forall₂ Binding.Carries columns s.filters)
    (hhidden : ∀ column ∈ s.hidden, m.deletedAt = some column)
    (hsome : ∀ c, s = .update c → c.filters ≠ []) : m.Asks w s := by
  obtain ⟨renamed, hrenamed, rfl⟩ := columnValues_eq_ok hcolumns
  have hentries : w.length = renamed.length := hrenamed.length_eq
  have hfilters : (Mapping.ofPairs renamed).length = s.filters.length := hcarries.length_eq
  have happart := unrepeated_iff_keysApart hrenamed
  have hparams : s.params = boundValues s.writes ++ boundValues s.filters := by
    rw [s.params_eq, boundValues, List.map_append]
    rfl
  have hfewer : s.filters.length ≤ w.length := by
    rw [← hfilters, hentries]
    exact (Mapping.length_foldl_put_le [] renamed).trans_eq (Nat.zero_add _)
  have hall : s.filters.length = w.length ↔ m.KeysApart w := by
    rw [← hfilters, hentries, Mapping.length_ofPairs_eq_iff]
    exact happart
  have heach : m.KeysApart w → List.Forall₂ m.AsksFor w s.filters := by
    intro hkeys
    -- nothing meets, so the entries are what the filters carry
    rw [Mapping.ofPairs_of_unrepeated (happart.2 hkeys)] at hcarries
    refine forall₂_trans ?_ hrenamed hcarries
    rintro e e' b ⟨hcolumn, hvalue⟩ ⟨hname, hstored⟩
    exact ⟨e'.1, hcolumn, hname, hvalue ▸ hstored⟩
  exact ⟨s.sql_eq hsome, hparams, hhidden, ⟨renamed, hrenamed, hcarries⟩, hfewer, hall, heach⟩

theorem asks_select {q : Selection} (hcolumns : m.columnValues (.dict w) = .ok columns)
    (h : m.queryTable.select (.dict columns) order limit offset withDeleted = .ok q) :
    m.Asks w (.select q) := by
  obtain ⟨undeleted, filters, _, _, _, hundeleted, hfilters, -, -, -, rfl⟩ :=
    QueryTable.select_eq_ok h
  refine asks_of_carries hcolumns
    (QueryTable.carries_of_binds (QueryTable.filters_eq_ok hfilters).1) ?_ nofun
  exact fun column hcolumn =>
    QueryTable.undeleted_eq_ok hundeleted column (Option.mem_toList.2 hcolumn)

/-- A change asks for its filters. -/
theorem asks_of_change {c : Change} (hcolumns : m.columnValues (.dict w) = .ok columns)
    (hbinds : List.Forall₂ m.queryTable.Binds columns c.filters) (hsome : c.filters ≠ []) :
    m.Asks w (.update c) := by
  refine asks_of_carries hcolumns (QueryTable.carries_of_binds hbinds) nofun ?_
  rintro _ ⟨⟩
  exact hsome

theorem asks_update {values expressions : Value} {c : Change}
    (hcolumns : m.columnValues (.dict w) = .ok columns)
    (h : m.queryTable.update values (.dict columns) expressions = .ok c) :
    m.Asks w (.update c) := by
  obtain ⟨_, filters, -, -, hbinds, hsome, rfl⟩ := QueryTable.update_eq_ok h
  exact asks_of_change hcolumns hbinds hsome

theorem asks_increment {deltas : Value} {c : Change}
    (hcolumns : m.columnValues (.dict w) = .ok columns)
    (h : m.queryTable.increment deltas (.dict columns) = .ok c) : m.Asks w (.update c) := by
  obtain ⟨_, filters, -, hbinds, hsome, rfl⟩ := QueryTable.increment_eq_ok h
  exact asks_of_change hcolumns hbinds hsome

theorem asks_delete {r : Removal} (hcolumns : m.columnValues (.dict w) = .ok columns)
    (h : m.queryTable.delete (.dict columns) = .ok r) : m.Asks w (.delete r) := by
  obtain ⟨filters, hbinds, -, rfl⟩ := QueryTable.delete_eq_ok h
  exact asks_of_carries hcolumns (QueryTable.carries_of_binds hbinds) nofun nofun

/-! ## What the operations send -/

open Action

theorem emits_findAll_of_condition :
    (m.findAll (.dict w) order limit offset withDeleted).Emits (m.SendsOnly (m.Asks w)) :=
  Emits.lift_bind fun _ hcolumns => Emits.lift_bind fun _ _ => Emits.lift_bind fun _ hq =>
    emits_rows ⟨_, asks_select hcolumns hq, .inl ⟨rfl, rfl⟩⟩

end ResolvedModel

/-- The operations that are about the rows that a condition gives, however many. -/
inductive ConditionedOperation where
  | findAll
  | update
  | increment
  | decrement
  | destroy
  | restore
  deriving DecidableEq, Repr

namespace ConditionedOperation

/-- The operation. -/
def operation : ConditionedOperation → RowOperation
  | findAll => .findAll
  | update => .update
  | increment => .increment
  | decrement => .decrement
  | destroy => .destroy
  | restore => .restore

/-- No hook gets hold of the condition, which only a removal hands to hooks. -/
def Unhooked (m : ResolvedModel) (a : Named Value) (o : ConditionedOperation) : Prop :=
  o = destroy → presentHooks (m.hooks.get .beforeDelete) = [] ∨
    (a.argument "skip_hooks").truth = .ok true

variable {m : ResolvedModel} {a : Named Value} {w : Mapping}

open Action ResolvedModel in
/-- **Each of them asks for the entries of its condition.** -/
theorem emits_perform (o : ConditionedOperation) (hw : a.argument "where" = .dict w)
    (hunhooked : o.Unhooked m a) : (o.operation.perform m a).Emits (m.SendsOnly (m.Asks w)) := by
  cases o with
  | findAll =>
    change Emits _ (Value.list <$> m.findAll (a.argument "where") _ _ _ _)
    rw [hw]
    exact emits_findAll_of_condition.map
  | update =>
    change Emits _ (m.update _ (a.argument "where") _)
    rw [hw, update_eq]
    exact emits_around sendsOnly_hook (emits_updateWork_of_update fun _ _ _ => asks_update)
  | increment =>
    change Emits _ (m.increment _ (a.argument "where") _)
    rw [hw]
    exact emits_increment_of_increment (fun _ _ _ => asks_increment) _ _
  | decrement =>
    change Emits _ (m.decrement _ (a.argument "where") _)
    rw [hw]
    exact emits_decrement (emits_increment_of_increment fun _ _ _ => asks_increment)
  | destroy =>
    change Emits _ (m.destroy (a.argument "where") _ (a.argument "skip_hooks"))
    rw [hw, destroy_eq]
    -- the condition goes to the hooks as it is, and comes back as it went where there is none
    refine Emits.lift_bind fun data hdata => ?_
    obtain ⟨_, -, hdata⟩ := bind_eq_ok.1 hdata
    obtain rfl := pure_eq_ok.1 hdata
    have hwork : (m.destroyWork (a.argument "force") (.dict w)).Emits (m.SendsOnly (m.Asks w)) :=
      emits_destroyWork_of_statement (fun _ _ _ _ _ => asks_update) (fun _ _ => asks_delete) _
    exact emits_runBefore_bind (hunhooked rfl) (hwork.bind fun done =>
      (emits_runAfter sendsOnly_hook).bind fun _ => Emits.pure done.1)
  | restore =>
    change Emits _ (m.restore (a.argument "where"))
    rw [hw]
    exact emits_restore_of_update fun _ _ _ _ _ => asks_update

end ConditionedOperation

namespace ResolvedModel

open Action

/-- **What becomes of a condition.** Whatever rows are asked for, changed, removed or brought back,
by a mapping that no hook changes on the way: every statement that is sent, but for the log, asks
for the values of the mapping as it is once its keys are exchanged for columns. There is a filter
for each entry exactly if no two keys stand for one column. -/
theorem asks_of_call (m : ResolvedModel) (o : ConditionedOperation) {c : Call} {a : Named Value}
    {w : Mapping} (h : c.bind o.operation.parameters = .ok a) (hw : a.argument "where" = .dict w)
    (hunhooked : o.Unhooked m a) (s : Session) :
    ∃ sent, (s.perform (m.call o.operation.name c)).2.trace = s.trace ++ sent ∧
      ∀ event ∈ sent, m.SendsOnly (m.Asks w) event := by
  rw [call_of_bind h]
  exact o.emits_perform hw hunhooked s

end ResolvedModel

/-! ## A condition that names one column twice -/

/-- A condition on the titles of tasks, by the attribute and by its column. -/
def titledTwice : Mapping :=
  [(.str "Title", .str "Pack"), (.str "title", .str "Go")]

/-- Calls about the tasks that meet it, with what is sent for each. -/
def titledTurns : List (ConditionedOperation × Call × List String) :=
  [(.findAll, { args := [.dict titledTwice] },
    ["SELECT * FROM Task WHERE deleted_at IS NULL AND title = ?"]),
   (.update, { args := [.dict [(.str "Title", .str "Go")], .dict titledTwice] },
    ["UPDATE Task SET title = ?, updated_at = ?, Revision = Revision + 1 WHERE title = ?"]),
   (.increment, { args := [.str "Revision", .dict titledTwice] },
    ["UPDATE Task SET Revision = Revision + ? WHERE title = ?"]),
   (.destroy, { args := [.dict titledTwice] },
    ["UPDATE Task SET deleted_at = ? WHERE title = ?"]),
   (.destroy, { args := [.dict titledTwice, .bool true] }, ["DELETE FROM Task WHERE title = ?"]),
   (.restore, { args := [.dict titledTwice] },
    ["UPDATE Task SET deleted_at = ? WHERE title = ?"])]

/-- Both entries are about one column, and each statement asks for one of them only. -/
theorem asks_of_titledTurns :
    ∃ m : ResolvedModel, m.IsResolved ∧ ¬ m.KeysApart titledTwice ∧ ∀ turn ∈ titledTurns, ∃ a sent,
      turn.2.1.bind turn.1.operation.parameters = .ok a ∧ a.argument "where" = .dict titledTwice ∧
      turn.1.Unhooked m a ∧
      (noonSession.perform (m.call turn.1.operation.name turn.2.1)).2.trace =
        noonSession.trace ++ sent ∧
      sentTexts sent = turn.2.2 ∧
      ∀ event ∈ sent, m.SendsOnly (m.Asks titledTwice) event := by
  have hrun : (do
      let m ← (DefinitionSource.built taskDefinition).resolve
      let column ← m.columnFor (.str "Title")
      let column' ← m.columnFor (.str "title")
      pure (column.text?, column'.text?, (presentHooks (m.hooks.get .beforeDelete)).isEmpty,
        titledTurns.map fun turn : ConditionedOperation × Call × List String =>
          sentTexts (noonSession.perform
            (m.call turn.1.operation.name turn.2.1)).2.trace)).toOption =
      some (some "title", some "title", true, titledTurns.map fun turn => turn.2.2) := by
    decide +kernel
  obtain ⟨m, hm, hrest⟩ := bind_eq_ok.1 (eq_ok_of_toOption hrun)
  obtain ⟨column, hcolumn, hrest⟩ := bind_eq_ok.1 hrest
  obtain ⟨column', hcolumn', hrest⟩ := bind_eq_ok.1 hrest
  obtain ⟨htext, hrest⟩ := Prod.mk.inj (pure_eq_ok.1 hrest)
  obtain ⟨htext', hrest⟩ := Prod.mk.inj hrest
  obtain ⟨hhooks, hsent⟩ := Prod.mk.inj hrest
  have hshared : ¬ m.KeysApart titledTwice := by
    intro happart
    have hfalse := (List.pairwise_cons.1 happart).1 _ List.mem_cons_self column column' hcolumn
      hcolumn'
    rw [(Value.same_iff_of_text? htext').2 htext] at hfalse
    cases hfalse
  have hturns : ∀ turn ∈ titledTurns, ∃ a, turn.2.1.bind turn.1.operation.parameters = .ok a ∧
      a.argument "where" = .dict titledTwice := by
    simp only [titledTurns, List.forall_mem_cons]
    exact ⟨⟨_, rfl, rfl⟩, ⟨_, rfl, rfl⟩, ⟨_, rfl, rfl⟩, ⟨_, rfl, rfl⟩, ⟨_, rfl, rfl⟩,
      ⟨_, rfl, rfl⟩, nofun⟩
  refine ⟨m, ⟨.built taskDefinition, m.hooks, hm⟩, hshared, fun turn hturn => ?_⟩
  obtain ⟨a, hbound, hwhere⟩ := hturns turn hturn
  have hunhooked : turn.1.Unhooked m a := fun _ => .inl (List.isEmpty_iff.1 hhooks)
  obtain ⟨sent, htrace, hasks⟩ := m.asks_of_call turn.1 hbound hwhere hunhooked noonSession
  refine ⟨a, sent, hbound, hwhere, hunhooked, htrace, ?_, hasks⟩
  rw [← List.map_inj_left.1 hsent turn hturn, htrace]
  rfl

end Tablewright
