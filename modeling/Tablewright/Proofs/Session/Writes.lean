import Tablewright.Proofs.Session.Validated

/-!
# What writes send

An operation that changes rows sends the statement that its request compiles to and, but for the log
and for what it reads back, nothing else. So what holds of every statement that the request can
compile to holds of all that the operation sends, one lemma for each operation; what is known of the
request when it is compiled is there to show it.
-/

namespace Tablewright

open Fallible

namespace ResolvedModel

open Action

variable {m : ResolvedModel} {Q : RowStatement → Prop} {data condition skip : Value}
  {slot : HookSlot}

/-- Where no hook is to run before a write, its data goes on as it is. -/
theorem emits_runBefore_bind {α : Type} {P : Event → Prop} {k : Value → Action α}
    (hhooks : presentHooks (m.hooks.get slot) = [] ∨ skip.truth = .ok true)
    (hk : (k data).Emits P) : (m.runBefore slot data skip >>= k).Emits P := by
  rcases hhooks with hnone | hskip
  · rw [runBefore, bind_assoc]
    refine Emits.lift_bind fun skipped _ => ?_
    cases skipped with
    | true => exact hk
    | false =>
      rw [if_neg Bool.false_ne_true, runHookList_of_none hnone, pure_bind]
      exact hk
  · rw [runBefore_of_skip hskip, pure_bind]
    exact hk

/-- An upsert sends an insertion, and reads back what it wrote. -/
theorem emits_upsertWork_of_upsert (hselect : ∀ q, Q (.select q))
    (h : ∀ row targets i, m.queryTable.upsert (.dict row) (.list targets) = .ok i → Q (.insert i))
    (conflict values : Value) : (m.upsertWork conflict values).Emits (m.SendsOnly Q) := by
  refine (quiet_insertValues values).1.emits.bind fun row => Emits.lift_bind fun _ _ =>
    Emits.lift_bind fun _ _ => Emits.lift_bind fun _ _ => ?_
  refine (Emits.mapM (fun _ => .lift _) _).bind fun targets => ?_
  -- what is read back is read by a selection, whatever it selects
  have hread : ∀ key : Mapping,
      (m.findOne (.dict key) .null (.bool true)).Emits (m.SendsOnly Q) := by
    refine fun key => emits_findOne.imp ?_
    rintro _ ⟨q, -, rfl⟩
    rw [← q.executed_select]
    exact ⟨.select q, hselect q, .inl ⟨rfl, rfl⟩⟩
  have hrest : Emits (m.SendsOnly Q) (do
      let row := m.withoutCreatedAt row
      let insertion ← m.queryTable.upsert (.dict row) (.list targets)
      let _ ← m.runWrite "upsert" (.insert insertion)
      let key ← conflictValues row targets
      let result ← m.findOne (.dict key) .null (.bool true)
      pure (result, result) : Action (Value × Value)) :=
    Emits.lift_bind fun _ hinsertion =>
      (emits_runWrite_of_statement (h _ _ _ hinsertion)).bind fun _ =>
      Emits.lift_bind fun key _ => (hread key).bind fun _ => Emits.pure _
  dsimp only
  split
  · exact (Emits.mapM (fun _ => .lift _) _).bind fun _ => Emits.lift_bind fun _ _ => hrest
  · exact hrest

/-- An update sends a change that leaves the count of changes to an expression. -/
theorem emits_updateWork_of_update
    (h : ∀ row columns c, m.columnValues condition = .ok columns →
      m.queryTable.update (.dict (m.withoutVersion row)) (.dict columns) (.dict m.versionStep) =
        .ok c → Q (.update c))
    (values : Value) : (m.updateWork condition values).Emits (m.SendsOnly Q) :=
  Emits.lift_bind fun _ _ => Emits.lift_bind fun _ _ => emits_timestamp_bind fun _ =>
    Emits.lift_bind fun _ hcolumns => Emits.lift_bind fun _ hchange =>
    (emits_runWrite_of_statement (h _ _ _ hcolumns hchange)).bind fun _ => Emits.pure _

/-- An increment sends an increase. -/
theorem emits_increment_of_increment
    (h : ∀ deltas columns c, m.columnValues condition = .ok columns →
      m.queryTable.increment (.dict deltas) (.dict columns) = .ok c → Q (.update c))
    (columns amount : Value) : (m.increment columns condition amount).Emits (m.SendsOnly Q) :=
  Emits.lift_bind fun _ _ => Emits.lift_bind fun _ _ => Emits.lift_bind fun _ hcolumns =>
    Emits.lift_bind fun _ hchange => emits_runWrite_of_statement (h _ _ _ hcolumns hchange)

/-- Rows are marked as deleted in the column for it. -/
theorem deletedAt_of_marksDeletion {force : Value} {deletedAt : String}
    (h : m.marksDeletion force = .ok (some deletedAt)) : m.deletedAt = some deletedAt := by
  unfold marksDeletion at h
  split at h
  · rename_i column hcolumn
    obtain ⟨forced, -, h⟩ := bind_eq_ok.1 h
    cases forced with
    | true => cases h
    | false => exact hcolumn.trans (pure_eq_ok.1 h)
  · cases h

/-- A removal sends a change of the mark of deletion, or a deletion. -/
theorem emits_destroyWork_of_statement
    (hmark : ∀ deletedAt mark columns c, m.deletedAt = some deletedAt →
      m.columnValues condition = .ok columns →
      m.queryTable.update (.dict [(.str deletedAt, mark)]) (.dict columns) .null = .ok c →
        Q (.update c))
    (hremove : ∀ columns r, m.columnValues condition = .ok columns →
      m.queryTable.delete (.dict columns) = .ok r → Q (.delete r))
    (force : Value) : (m.destroyWork force condition).Emits (m.SendsOnly Q) := by
  refine Emits.lift_bind fun columns hcolumns => Emits.lift_bind fun marks hmarks => ?_
  cases marks with
  | some deletedAt =>
    refine emits_timestamp_bind fun now => Emits.lift_bind fun c hc => ?_
    have hq : Q (.update c) := hmark _ _ _ c (deletedAt_of_marksDeletion hmarks) hcolumns hc
    exact (emits_runWrite_of_statement hq).bind fun _ => Emits.pure _
  | none =>
    refine Emits.lift_bind fun r hr => ?_
    have hq : Q (.delete r) := hremove _ r hcolumns hr
    exact (emits_runWrite_of_statement hq).bind fun _ => Emits.pure _

/-- A restoration sends a change of the mark of deletion. -/
theorem emits_restore_of_update
    (h : ∀ deletedAt mark columns c, m.deletedAt = some deletedAt →
      m.columnValues condition = .ok columns →
      m.queryTable.update (.dict [(.str deletedAt, mark)]) (.dict columns) .null = .ok c →
        Q (.update c)) :
    (m.restore condition).Emits (m.SendsOnly Q) := by
  unfold restore
  split
  · exact Emits.lift _
  · rename_i deletedAt hdeleted
    exact Emits.lift_bind fun _ hcolumns => Emits.lift_bind fun _ hchange =>
      emits_runWrite_of_statement (h _ _ _ _ hdeleted hcolumns hchange)

end ResolvedModel

end Tablewright
