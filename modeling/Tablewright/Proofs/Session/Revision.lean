import Tablewright.Proofs.Session.NamedRows
import Tablewright.Proofs.Session.SingleWrite
import Tablewright.Proofs.Session.Versions

/-!
# What an update assigns

The row of an update is made of the values that the hooks left, each under the column that its key
stands for. The time of change is put into it, whatever was given for it, and the count of changes
is taken out of it, to be counted by an expression. So no column is assigned twice, and each gets
what was last given for it, but for these two (`ResolvedModel.revises_of_call`). This holds of names:
where a model has no columns, keys that are no texts get through, and two keys that only show as one
name are two columns of the row (`not_nodup_of_numberedLinks`).
-/

namespace Tablewright

open Fallible

namespace ResolvedModel

variable {m : ResolvedModel} {row : Mapping} {now c : String}

/-! ## The row of an update -/

theorem textual_withUpdatedAt_iff : Mapping.Textual (m.withUpdatedAt now row) ↔ row.Textual := by
  unfold withUpdatedAt
  split
  · exact Mapping.textual_put_iff rfl
  · rfl

theorem textual_withoutVersion_iff : Mapping.Textual (m.withoutVersion row) ↔ row.Textual := by
  unfold withoutVersion
  split
  · exact Mapping.textual_remove_iff rfl
  · rfl

/-- The time of change is put in. -/
theorem names_withUpdatedAt (h : row.Textual) : c ∈ (m.withUpdatedAt now row).named.names ↔
    m.updatedAt = some c ∨ c ∈ row.named.names := by
  unfold withUpdatedAt
  split
  · rename_i u hu
    rw [Mapping.named_put h rfl, Named.mem_names_put, hu, Option.some_inj, eq_comm]
  · rename_i hu
    rw [hu]
    exact (or_iff_right nofun).symm

theorem get?_withUpdatedAt (h : row.Textual) : (m.withUpdatedAt now row).named.get? c =
    if m.updatedAt = some c then some (.str now) else row.named.get? c := by
  unfold withUpdatedAt
  split
  · rename_i u hu
    rw [Mapping.named_put h rfl, Named.get?_put]
    exact if_congr (by rw [hu, Option.some_inj]) rfl rfl
  · rename_i hu
    have hnone : m.updatedAt ≠ some c := by
      rw [hu]
      nofun
    exact (if_neg hnone).symm

/-- The count of changes is taken out. -/
theorem names_withoutVersion (h : row.Textual) : (m.withoutVersion row).named.names =
    row.named.names.filter fun c => decide (m.version ≠ some c) := by
  unfold withoutVersion
  split
  · rename_i v hv
    rw [Mapping.named_remove h rfl, Named.names_erase, hv]
    refine List.filter_congr fun c _ => ?_
    rw [Bool.eq_iff_iff, Bool.not_eq_true', beq_eq_false_iff_ne, decide_eq_true_iff, ne_eq, ne_eq,
      Option.some_inj, eq_comm]
  · rename_i hv
    rw [hv]
    exact (List.filter_eq_self.2 fun _ _ => rfl).symm

theorem get?_withoutVersion (h : row.Textual) (hc : m.version ≠ some c) :
    (m.withoutVersion row).named.get? c = row.named.get? c := by
  unfold withoutVersion
  split
  · rename_i v hv
    rw [Mapping.named_remove h (s := v) rfl]
    exact Named.get?_erase fun hsame => hc (hv.trans (congrArg some hsame))
  · rfl

theorem unrepeated_withUpdatedAt (h : Mapping.Unrepeated row) :
    Mapping.Unrepeated (m.withUpdatedAt now row) := by
  unfold withUpdatedAt
  split
  · exact Mapping.unrepeated_put h _ _
  · exact h

theorem unrepeated_withoutVersion (h : Mapping.Unrepeated row) :
    Mapping.Unrepeated (m.withoutVersion row) := by
  unfold withoutVersion
  split
  · exact h.filter _
  · exact h

/-- **The row that an update assigns** has the columns that were given and the time of change, but not
the count of changes. -/
theorem mem_names_revised (h : row.Textual) :
    c ∈ (m.withoutVersion (m.withUpdatedAt now row)).named.names ↔
      (m.updatedAt = some c ∨ c ∈ row.named.names) ∧ m.version ≠ some c := by
  rw [names_withoutVersion (textual_withUpdatedAt_iff.2 h), List.mem_filter, decide_eq_true_iff,
    names_withUpdatedAt h]

/-- It holds what was given, but for the time of change. -/
theorem get?_revised (h : row.Textual) (hc : m.version ≠ some c) :
    (m.withoutVersion (m.withUpdatedAt now row)).named.get? c =
      if m.updatedAt = some c then some (.str now) else row.named.get? c := by
  rw [get?_withoutVersion (textual_withUpdatedAt_iff.2 h) hc, get?_withUpdatedAt h]

/-- The expression that counts a change is assigned to the count of changes, if there is one. -/
theorem computed_versionStep (m : ResolvedModel) :
    ((Value.dict m.versionStep).entryList.map fun e =>
      Assignment.compute e.1.display e.2.display) =
        m.version.toList.map fun v => .compute v (v ++ " + 1") := by
  unfold versionStep
  cases m.version <;> rfl

/-- **No column is assigned twice** where the values are for distinct columns and none of them is for
the count of changes. -/
theorem nodup_assigned {bound : List Binding} (hnodup : (bound.map Binding.column).Nodup)
    (hversion : ∀ column ∈ bound.map Binding.column, m.version ≠ some column) :
    ((bound.map Assignment.set ++ m.version.toList.map fun v =>
      Assignment.compute v (v ++ " + 1")).map Assignment.column).Nodup := by
  have hset : (bound.map Assignment.set).map Assignment.column = bound.map Binding.column :=
    List.map_map
  have hcounted : (m.version.toList.map fun v => Assignment.compute v (v ++ " + 1")).map
      Assignment.column = m.version.toList := by
    cases m.version <;> rfl
  have honce : m.version.toList.Nodup := by
    cases m.version with
    | none => exact List.nodup_nil
    | some v => exact List.nodup_singleton v
  rw [List.map_append, hset, hcounted, List.nodup_append']
  exact ⟨hnodup, honce, fun column hcolumn hv => hversion column hcolumn (Option.mem_toList.1 hv)⟩

/-! ## What an update assigns -/

/-- **What an update assigns**, given the values under the columns that their keys stand for, and the
time. -/
structure Revises (m : ResolvedModel) (supplied : Named Value) (now : Moment) (c : Change) : Prop
    where
  /-- It changes rows of the model. -/
  table : c.table = m.tableName
  /-- No column is assigned twice. -/
  nodup : (c.assignments.map Assignment.column).Nodup
  /-- The time of change is the present time, whatever was given for it. -/
  stamped : ∀ column, m.updatedAt = some column →
    .set { column, value := .str now.stamp } ∈ c.assignments
  /-- The count of changes is taken one step up, whatever was given for it. -/
  counted : ∀ column, m.version = some column →
    .compute column (column ++ " + 1") ∈ c.assignments
  /-- Every other column for which something was given gets what was given last, as it is stored. -/
  given : ∀ column v, m.updatedAt ≠ some column → m.version ≠ some column →
    Named.get? supplied.reverse column = some v →
      ∃ w, v.storable = .ok w ∧ .set { column, value := w } ∈ c.assignments
  /-- No other column is assigned. -/
  only : ∀ x ∈ c.assignments, m.updatedAt = some x.column ∨ m.version = some x.column ∨
    x.column ∈ supplied.names
  /-- The text says so. -/
  text : (RowStatement.update c).sql =
    "UPDATE " ++ m.tableName ++ " SET " ++
      ", ".intercalate (c.assignments.map fun x => x.parts.1 ++ " = " ++ x.parts.2) ++
      " WHERE " ++ " AND ".intercalate (c.filters.map Binding.equation)

open Action

variable {condition left : Value} {p : Mapping × Change}

/-- What an update settles before it sends anything: the row, and the change. -/
def planUpdate (m : ResolvedModel) (condition left : Value) : Action (Mapping × Change) := do
  let row ← m.columnValues left
  m.validate row
  let row := m.withoutVersion (m.withUpdatedAt (← Action.timestamp) row)
  let columns ← m.columnValues condition
  let change ← m.queryTable.update (.dict row) (.dict columns) (.dict m.versionStep)
  pure (row, change)

/-- **An update is planned.** -/
theorem planned_update (m : ResolvedModel) (a : Named Value) :
    HookedOperation.Planned m a .update (m.planUpdate (a.argument "where"))
      (fun p => .update p.2) (fun p changes => pure (changes, .dict p.1)) where
  work left := by
    show m.updateWork _ left = _
    simp only [updateWork, planUpdate, bind_assoc, pure_bind]
    rfl
  silent left := (Keeps.lift _ _).bind fun _ => (Keeps.lift _ _).bind fun _ =>
    Keeps.bind (fun _ => rfl) fun _ => (Keeps.lift _ _).bind fun _ => (Keeps.lift _ _).bind fun _ =>
      Keeps.pure _ _
  follows _ _ := Emits.pure _

/-- The keys of a row that can be written are texts, if the model has columns or they were texts
before. -/
theorem textual_of_update {change : Change} {given : Mapping} (hgiven : m.columnValues left = .ok given)
    (hkeys : m.columnNames = [] → Mapping.Textual left.entryList)
    (h : m.queryTable.update (.dict (m.withoutVersion (m.withUpdatedAt now given))) condition
      (.dict m.versionStep) = .ok change) : given.Textual := by
  by_cases hcolumns : m.columnNames = []
  · exact textual_columnValues hgiven (hkeys hcolumns)
  · obtain ⟨bound, filters, hbound, -⟩ := QueryTable.update_eq_ok h
    rw [← textual_withUpdatedAt_iff, ← textual_withoutVersion_iff, Mapping.textual_iff_keys]
    intro k hk
    obtain ⟨c, -, htext⟩ := (known_iff hcolumns).1 (QueryTable.known_of_binds hbound k hk)
    rw [htext, Value.display_of_text? htext]

/-- **A row with names is assigned column by column.** -/
theorem revises_of_update {change : Change} {given : Mapping} {now : Moment}
    (hroles : ∀ column, m.updatedAt = some column → m.version ≠ some column)
    (hgiven : m.columnValues left = .ok given) (htextual : given.Textual)
    (h : m.queryTable.update (.dict (m.withoutVersion (m.withUpdatedAt now.stamp given))) condition
      (.dict m.versionStep) = .ok change) : m.Revises (m.supplied left) now change := by
  obtain ⟨bound, filters, hbound, -, -, -, rfl⟩ := QueryTable.update_eq_ok h
  rw [computed_versionStep]
  have hnamed : given.named = Named.ofPairs (m.supplied left) :=
    (named_columnValues hgiven htextual).1
  -- the columns that values are bound for are those that are given, with the time and without the
  -- count
  have hmem : ∀ column, column ∈ bound.map Binding.column ↔
      (m.updatedAt = some column ∨ column ∈ (m.supplied left).names) ∧
        m.version ≠ some column := by
    intro column
    have hthere : column ∈ given.named.names ↔ column ∈ (m.supplied left).names := by
      rw [hnamed, Named.mem_names_ofPairs]
    rw [QueryTable.columns_eq_names hbound, ← hthere]
    exact mem_names_revised htextual
  have hbind : ∀ column v, m.version ≠ some column →
      (if m.updatedAt = some column then some (.str now.stamp)
        else Named.get? (m.supplied left).reverse column) = some v →
      ∃ w, v.storable = .ok w ∧ { column, value := w } ∈ bound := by
    intro column v hversion hv
    rw [← Named.get?_ofPairs, ← hnamed, ← get?_revised htextual hversion] at hv
    exact QueryTable.exists_binding hbound hv
  have hnodup : (bound.map Binding.column).Nodup := by
    obtain ⟨renamed, -, rfl⟩ := columnValues_eq_ok hgiven
    exact QueryTable.nodup_of_binds (unrepeated_withoutVersion (unrepeated_withUpdatedAt
        (Mapping.unrepeated_ofPairs renamed)))
      (textual_withoutVersion_iff.2 (textual_withUpdatedAt_iff.2 htextual)) hbound
  have hset : ∀ b ∈ bound, Assignment.set b ∈ bound.map Assignment.set ++
      m.version.toList.map fun v => .compute v (v ++ " + 1") :=
    fun b hb => List.mem_append_left _ (List.mem_map_of_mem hb)
  refine ⟨rfl, nodup_assigned hnodup fun column hcolumn => ((hmem column).1 hcolumn).2,
    fun column hu => ?_, fun column hv => ?_, fun column v hu hversion hv => ?_, fun x hx => ?_, ?_⟩
  · obtain ⟨w, hw, hb⟩ := hbind column _ (hroles column hu) (if_pos hu)
    obtain rfl := pure_eq_ok.1 hw
    exact hset _ hb
  · rw [hv]
    exact List.mem_append_right _ (List.mem_singleton_self _)
  · obtain ⟨w, hw, hb⟩ := hbind column v hversion ((if_neg hu).trans hv)
    exact ⟨w, hw, hset _ hb⟩
  · rcases List.mem_append.1 hx with hx | hx
    · obtain ⟨b, hb, rfl⟩ := List.mem_map.1 hx
      exact ((hmem b.column).1 (List.mem_map_of_mem hb)).1.imp_right .inr
    · obtain ⟨v, hv, rfl⟩ := List.mem_map.1 hx
      exact .inr (.inl (Option.mem_toList.1 hv))
  · rw [RowStatement.sql, Change.render]
    refine congrArg (fun texts =>
      "UPDATE " ++ m.tableName ++ " SET " ++ ", ".intercalate texts ++ " WHERE " ++ _) ?_
    exact List.map_congr_left fun x _ => x.render_eq

/-- What a statement is that an update sends in a session: it assigns what the hooks leave of the
values, as far as these have names. -/
def RevisesIn (m : ResolvedModel) (a : Named Value) (s : Session) (w : RowStatement) : Prop :=
  ∃ left change, w = .update change ∧
    (s.perform (HookedOperation.update.handed m a)).1 = .ok left ∧
    ((m.columnNames = [] → Mapping.Textual left.entryList) →
      m.Revises (m.supplied left) s.world.now change)

/-- **What an update assigns.** Where the time of change and the count of changes are not one column,
then however an update is called, whatever hooks the model has and whatever the engine answers: it
sends at most one statement that writes, and this assigns no column twice, the present time to the
one, a step to the other, and to every column beside them what the hooks left last for it, and
nothing else. -/
theorem revises_of_call (m : ResolvedModel)
    (hroles : ∀ column, m.updatedAt = some column → m.version ≠ some column) {c : Call}
    {a : Named Value} (h : c.bind RowOperation.update.parameters = .ok a) (s : Session) :
    ∃ events, (s.perform (m.call "update" c)).2.trace = s.trace ++ events ∧
      m.WritesOnce "update" (m.RevisesIn a s) events := by
  have hcall : m.call "update" c = RowOperation.perform m a .update := call_of_bind h
  rw [hcall]
  refine (planned_update m a).writesOnce fun p t hp _ => ?_
  obtain ⟨left, t', hleft, hp⟩ := Session.perform_bind_eq_ok.1 hp
  have hnow : t'.world.now = s.world.now := by
    have hkeeps : Keeps (fun s => s.world.now) (HookedOperation.update.handed m a) :=
      HookedOperation.keeps_handed (fun _ _ => rfl) m a .update
    exact hkeeps.of_perform hleft
  obtain ⟨given, hgiven, hp⟩ := Session.perform_lift_bind_eq_ok.1 hp
  obtain ⟨_, -, hp⟩ := Session.perform_lift_bind_eq_ok.1 hp
  obtain ⟨now, t'', htime, hp⟩ := Session.perform_bind_eq_ok.1 hp
  obtain ⟨rfl, rfl⟩ := perform_timestamp_eq_ok.1 htime
  obtain ⟨columns, -, hp⟩ := Session.perform_lift_bind_eq_ok.1 hp
  obtain ⟨change, hchange, hp⟩ := Session.perform_lift_bind_eq_ok.1 hp
  cases hp
  refine ⟨left, change, rfl, congrArg Prod.fst hleft, fun hkeys => ?_⟩
  rw [← hnow]
  exact revises_of_update hroles hgiven (textual_of_update hgiven hkeys hchange) hchange

end ResolvedModel

/-! ## A task that is changed -/

/-- A change of a task that says its title twice, and something of its time and count. -/
def repackingTask : Call :=
  { args :=
      [.dict [(.str "Title", .str "Go"), (.str "Revision", .int 99), (.str "updated_at", .str "then"),
        (.str "title", .str "Stay")],
       .dict [(.str "Title", .str "Pack")]] }

/-- The title is what was said last, the time the present one, and the count a step up. -/
theorem revises_of_repackingTask :
    ∃ (m : ResolvedModel) (a : Named Value) (events : List Event),
      (∀ column, m.updatedAt = some column → m.version ≠ some column) ∧
      repackingTask.bind RowOperation.update.parameters = .ok a ∧
      (noonSession.perform (m.call "update" repackingTask)).2.trace =
        noonSession.trace ++ events ∧
      ((statements events).map fun e => (e.1, (Value.list e.2).repr)) =
        [("UPDATE Task SET title = ?, updated_at = ?, Revision = Revision + 1 WHERE title = ?",
          "['Stay', '2024-05-01T12:00:00.000Z', 'Pack']")] ∧
      m.WritesOnce "update" (m.RevisesIn a noonSession) events := by
  have hrun : (do
      let m ← (DefinitionSource.built taskDefinition).resolve
      pure (m.updatedAt, m.version,
        (statements (noonSession.perform (m.call "update" repackingTask)).2.trace).map
          fun e : String × List Value => (e.1, (Value.list e.2).repr))).toOption =
      some (some "updated_at", some "Revision",
        [("UPDATE Task SET title = ?, updated_at = ?, Revision = Revision + 1 WHERE title = ?",
          "['Stay', '2024-05-01T12:00:00.000Z', 'Pack']")]) := by
    decide +kernel
  obtain ⟨m, -, hrest⟩ := bind_eq_ok.1 (eq_ok_of_toOption hrun)
  obtain ⟨hupdated, hrest⟩ := Prod.mk.inj (pure_eq_ok.1 hrest)
  obtain ⟨hversion, hstatements⟩ := Prod.mk.inj hrest
  have hroles : ∀ column, m.updatedAt = some column → m.version ≠ some column := by
    intro column hu
    rw [hupdated] at hu
    rw [hversion, ← Option.some.inj hu]
    decide
  have hbound : ∃ a, repackingTask.bind RowOperation.update.parameters = .ok a := ⟨_, rfl⟩
  obtain ⟨a, hbound⟩ := hbound
  obtain ⟨events, htrace, hwrites⟩ := ResolvedModel.revises_of_call m hroles hbound noonSession
  refine ⟨m, a, events, hroles, hbound, htrace, ?_, hwrites⟩
  rw [htrace] at hstatements
  exact hstatements

/-! ## Keys that are no texts -/

/-- A change of links, one of whose keys is a number. -/
def numberedLinks : Call :=
  { args :=
      [.dict [(.int 1, .str "a"), (.str "1", .str "b")], .dict [(.str "1", .str "c")]] }

/-- **A column is assigned twice** where a model has no columns and a number shows as a text that is
a key as well. -/
theorem not_nodup_of_numberedLinks :
    ∃ (m : ResolvedModel) (change : Change), m.IsResolved ∧ m.updatedAt = none ∧ m.version = none ∧
      .executed (RowStatement.update change).sql (RowStatement.update change).params ∈
        (noonSession.perform (m.call "update" numberedLinks)).2.trace ∧
      (RowStatement.update change).sql = "UPDATE Link SET 1 = ?, 1 = ? WHERE 1 = ?" ∧
      ¬ (change.assignments.map Assignment.column).Nodup := by
  have hbound : ∃ a, numberedLinks.bind RowOperation.update.parameters = .ok a := ⟨_, rfl⟩
  obtain ⟨a, hbound⟩ := hbound
  have hrun : (do
      let m ← (DefinitionSource.built (keyedDefinition [])).resolve
      let a ← numberedLinks.bind RowOperation.update.parameters
      let p ← (noonSession.perform
        (HookedOperation.update.handed m a >>= m.planUpdate (a.argument "where"))).1
      pure (m.updatedAt, m.version, (RowStatement.update p.2).sql,
        p.2.assignments.map Assignment.column,
        (statements (noonSession.perform (m.call "update" numberedLinks)).2.trace).length)).toOption =
      some (none, none, "UPDATE Link SET 1 = ?, 1 = ? WHERE 1 = ?", ["1", "1"], 1) := by
    decide +kernel
  obtain ⟨m, hm, hrest⟩ := bind_eq_ok.1 (eq_ok_of_toOption hrun)
  obtain ⟨a', hbound', hrest⟩ := bind_eq_ok.1 hrest
  obtain rfl : a = a' := Except.ok.inj (hbound.symm.trans hbound')
  obtain ⟨p, hp, hrest⟩ := bind_eq_ok.1 hrest
  obtain ⟨hupdated, hrest⟩ := Prod.mk.inj (pure_eq_ok.1 hrest)
  obtain ⟨hversion, hrest⟩ := Prod.mk.inj hrest
  obtain ⟨hsql, hrest⟩ := Prod.mk.inj hrest
  obtain ⟨hcolumns, hone⟩ := Prod.mk.inj hrest
  refine ⟨m, p.2, ⟨.built (keyedDefinition []), m.hooks, hm⟩, hupdated, hversion, ?_, hsql, ?_⟩
  · obtain ⟨events, htrace, hwrites⟩ := (ResolvedModel.planned_update m a).writesOnce
      (Q := fun w => w = .update p.2) (s := noonSession) fun p' t hp' _ => by
        rw [hp'] at hp
        rw [Except.ok.inj hp]
    have hcall : m.call "update" numberedLinks =
        RowOperation.perform m a HookedOperation.update.operation :=
      ResolvedModel.call_of_bind hbound
    rw [hcall] at hone ⊢
    rw [htrace] at hone ⊢
    cases hwrites with
    | unsent hevents =>
      -- a statement is sent, so hooks are not all there is
      have hnone : statements (noonSession.trace ++ events) = [] := statements_of_hooks hevents
      rw [hnone] at hone
      cases hone
    | sent hbefore hw hafter =>
      rw [hw]
      exact List.mem_append_right _ (List.mem_append_right _ List.mem_cons_self)
  · rw [hcolumns]
    decide

end Tablewright
