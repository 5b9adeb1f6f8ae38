import Tablewright.Proofs.Query.Columns
import Tablewright.Proofs.Query.Parameters
import Tablewright.Proofs.Session.Emission
import Tablewright.Proofs.Session.SchemaText

/-!
# No unconditional writes

However rows are read and written, with whatever hooks and whatever the engine answers, every
statement that changes or removes rows has a condition with at least one bound value
(`ResolvedModel.conditional_of_calls`). Only truncating is meant to touch every row.
-/

namespace Tablewright

open Fallible

/-! ## Conditions -/

/-- A statement changes or removes rows. -/
def ChangesRows (sql : String) : Prop :=
  "UPDATE ".toList <+: sql.toList ∨ "DELETE ".toList <+: sql.toList

namespace ResolvedModel

/-- A statement ends in a condition: in equations of columns, at least one, whose values are bound
behind all others and belong to the last question marks. -/
def Conditional (m : ResolvedModel) (sql : String) (params : List Value) : Prop :=
  ∃ (lead : String) (before : List Value) (filters : List Binding), filters ≠ [] ∧
    sql = lead ++ " WHERE " ++ " AND ".intercalate (filters.map Binding.equation) ∧
    params = before ++ boundValues filters ∧
    (m.columnNames ≠ [] →
      lead.toList.count '?' = before.length ∧ ∀ b ∈ filters, b.column ∈ m.columnNames)

/-- An event is no write without a condition. -/
def Guards (m : ResolvedModel) : Event → Prop
  | .executed sql params => ChangesRows sql → m.Conditional sql params
  | _ => True

/-- A definition resolves to the model, apart from hooks that were added since. -/
def IsResolved (m : ResolvedModel) : Prop :=
  ∃ source : DefinitionSource, ∃ hooks, source.resolve = .ok { m with hooks := hooks }

end ResolvedModel

/-- What begins otherwise changes no rows. -/
theorem not_changesRows {sql : String} {c : Char} {cs : List Char} (h : sql.toList = c :: cs)
    (hupdate : c ≠ 'U') (hdelete : c ≠ 'D') : ¬ ChangesRows sql := by
  rintro (⟨rest, hrest⟩ | ⟨rest, hrest⟩) <;> rw [h] at hrest
  · exact hupdate (List.cons.inj hrest).1.symm
  · exact hdelete (List.cons.inj hrest).1.symm

namespace ResolvedModel

variable {m : ResolvedModel} {kind : RequestKind} {a : Named Value} {s : RowStatement}

theorem guards_select (s : Selection) :
    m.Guards (.executed (RowStatement.select s).sql (RowStatement.select s).params) :=
  fun hchanges => absurd hchanges
    (not_changesRows ((RowStatement.select s).toList_sql.trans rfl) (by decide) (by decide))

theorem guards_insert (i : Insertion) :
    m.Guards (.executed (RowStatement.insert i).sql (RowStatement.insert i).params) := by
  refine fun hchanges => absurd hchanges ?_
  have htext := (RowStatement.insert i).toList_sql
  cases hignore : i.orIgnore <;>
    rw [RowStatement.pieces, Insertion.pieces, hignore] at htext <;>
    exact not_changesRows htext (by decide) (by decide)

/-- A condition holds as many question marks as filters. -/
theorem count_condition {filters : List Binding} (h : ∀ b ∈ filters, Unmarked b.column) :
    (" WHERE " ++ " AND ".intercalate (filters.map Binding.equation)).toList.count '?' =
      filters.length := by
  have hcolumns : ∀ c ∈ (filterPieces filters).filterMap Piece.column?, Unmarked c := by
    intro c hc
    obtain ⟨b, hb, rfl⟩ := List.mem_map.1 (mem_columns_filterPieces hc)
    exact h b hb
  rw [← layOut_filterPieces, count_mark (wordsUnmarked_filterPieces filters) hcolumns,
    places_filterPieces, List.length_map]

/-- **The statement of a request has a condition** where its text ends in the equations of its
filters and there are some. -/
theorem conditional_of_statement (hm : m.IsResolved) (hkind : kind ≠ .selectByKey)
    (hexpressions : kind = .update → (a.argument "expressions").entryList = [] ∨
      a.argument "expressions" = .dict m.versionStep)
    (h : kind.statement m.queryTable a = .ok s) (hfilters : s.filters ≠ []) {lead : String}
    {before : List Value}
    (hsql : s.sql = lead ++ " WHERE " ++ " AND ".intercalate (s.filters.map Binding.equation))
    (hparams : s.params = before ++ boundValues s.filters) :
    m.Conditional s.sql s.params := by
  refine ⟨lead, before, s.filters, hfilters, hsql, hparams, fun hcolumns => ?_⟩
  obtain ⟨source, hooks, hsource⟩ := hm
  obtain ⟨d, name, table, -, hd⟩ := DefinitionSource.exists_resolveWith hsource
  have hwell := ModelDefinition.wellFormed_of_resolveWith hd
  have hcompiled := Compiled.of_statement h
  have hnamed := namesColumn_of_statement hcolumns h
  have hmem : ∀ b ∈ s.filters, b.column ∈ m.columnNames := by
    intro b hb
    have hmentioned : b.column ∈ s.mentioned := s.filters_subset_mentioned
      (List.mem_map_of_mem hb)
    exact mem_columnNames_of_leadsTo hsource hnamed (fun hkey => absurd hkey hkind)
      (hcompiled.columns _ hmentioned)
  refine ⟨?_, hmem⟩
  have hmarks : ∀ b ∈ s.filters, Unmarked b.column := fun b hb =>
    questionMark_not_mem_identifier (hwell.identifiers _ (hmem b hb))
  -- of all question marks, those of the condition are the ones of the filters
  have hall := (bindsInPlace_of_statement hsource hcolumns hexpressions h).count
  have hcondition := count_condition hmarks
  rw [hsql, String.append_assoc, String.toList_append, List.count_append, hcondition, hparams,
    List.length_append, boundValues, List.length_map] at hall
  omega

variable {values condition expressions deltas : Value}

theorem guards_update (hm : m.IsResolved)
    (hexpressions : expressions.entryList = [] ∨ expressions = .dict m.versionStep) {c : Change}
    (h : m.queryTable.update values condition expressions = .ok c) :
    m.Guards (.executed (RowStatement.update c).sql (RowStatement.update c).params) := by
  intro _
  obtain ⟨_, _, -, -, -, hfilters, rfl⟩ := QueryTable.update_eq_ok h
  have hs : RequestKind.update.statement m.queryTable
      [("values", values), ("where", condition), ("expressions", expressions)] =
        .ok (.update _) := map_eq_ok.2 ⟨_, h, rfl⟩
  refine conditional_of_statement hm ?_ (fun _ => ?_) hs hfilters rfl rfl
  · exact nofun
  · exact hexpressions

theorem guards_increment (hm : m.IsResolved) {c : Change}
    (h : m.queryTable.increment deltas condition = .ok c) :
    m.Guards (.executed (RowStatement.update c).sql (RowStatement.update c).params) := by
  intro _
  obtain ⟨_, _, -, -, hfilters, rfl⟩ := QueryTable.increment_eq_ok h
  have hs : RequestKind.increment.statement m.queryTable
      [("deltas", deltas), ("where", condition)] = .ok (.update _) := map_eq_ok.2 ⟨_, h, rfl⟩
  refine conditional_of_statement hm ?_ ?_ hs hfilters rfl rfl <;> exact nofun

theorem guards_delete (hm : m.IsResolved) {r : Removal}
    (h : m.queryTable.delete condition = .ok r) :
    m.Guards (.executed (RowStatement.delete r).sql (RowStatement.delete r).params) := by
  intro _
  obtain ⟨filters, -, hfilters, rfl⟩ := QueryTable.delete_eq_ok h
  have hs : RequestKind.delete.statement m.queryTable [("where", condition)] =
      .ok (.delete _) := map_eq_ok.2 ⟨_, h, rfl⟩
  have hsome : filters.isEmpty ≠ true := mt List.isEmpty_iff.1 hfilters
  have hsql : (RowStatement.delete { table := m.queryTable.name, filters }).sql =
      "DELETE FROM " ++ m.queryTable.name ++ " WHERE " ++
        " AND ".intercalate (filters.map Binding.equation) := by
    rw [RowStatement.sql, Removal.render, if_neg hsome]
    exact String.append_assoc.symm
  refine conditional_of_statement hm ?_ ?_ hs hfilters hsql (List.nil_append _).symm <;>
    exact nofun

/-- **A statement that an operation sends has its condition.** -/
theorem guards_of_statement (hm : m.IsResolved) (h : kind.statement m.queryTable a = .ok s)
    (hkind : kind ≠ .truncate)
    (hexpressions : kind = .update → (a.argument "expressions").entryList = [] ∨
      a.argument "expressions" = .dict m.versionStep) :
    m.Guards (.executed s.sql s.params) := by
  cases kind with
  | select | selectOne | selectByKey | aggregate | count =>
    obtain ⟨s, -, rfl⟩ := map_eq_ok.1 h
    exact guards_select s
  | insert | upsert =>
    obtain ⟨i, -, rfl⟩ := map_eq_ok.1 h
    exact guards_insert i
  | update =>
    obtain ⟨c, hc, rfl⟩ := map_eq_ok.1 h
    exact guards_update hm (hexpressions rfl) hc
  | increment =>
    obtain ⟨c, hc, rfl⟩ := map_eq_ok.1 h
    exact guards_increment hm hc
  | delete =>
    obtain ⟨r, hr, rfl⟩ := map_eq_ok.1 h
    exact guards_delete hm hr
  | truncate => exact absurd rfl hkind

/-! ## Operations -/

open Tablewright.Action

theorem guards_createLog : m.Guards (.executed createLog []) := by
  obtain ⟨rest, hrest⟩ := exists_createLog_eq
  have htext := (congrArg String.toList hrest).trans String.toList_append
  exact fun hchanges => absurd hchanges (not_changesRows htext (by decide) (by decide))

theorem guards_insertLogEntry (params : List Value) :
    m.Guards (.executed insertLogEntry params) := by
  obtain ⟨rest, hrest⟩ := exists_insertLogEntry_eq
  have htext := (congrArg String.toList hrest).trans String.toList_append
  exact fun hchanges => absurd hchanges (not_changesRows htext (by decide) (by decide))

/-- **No part of an operation emits a write without a condition**, whatever the hooks make of their
data. -/
theorem emits_of_rowPart (hm : m.IsResolved) {α : Type} {x : Action α} (h : m.RowPart x) :
    x.Emits m.Guards :=
  h.emits (fun _ => trivial) guards_select
    (fun _ _ _ hs hkind hexpressions => guards_of_statement hm hs hkind hexpressions)
    guards_createLog guards_insertLogEntry

/-- **No operation but truncating emits a write without a condition.** -/
theorem emits_perform (hm : m.IsResolved) (arguments : Named Value) {o : RowOperation}
    (ho : o ≠ .truncate) : (o.perform m arguments).Emits m.Guards :=
  (madeOf_perform arguments ho).emits fun _ _ => emits_of_rowPart hm

/-- An operation is called by its own name only. -/
theorem name_of_ofName? {operation : String} {o : RowOperation}
    (h : RowOperation.ofName? operation = some o) : o.name = operation := by
  have hname := List.find?_some h
  exact beq_iff_eq.1 hname

theorem emits_call (hm : m.IsResolved) {operation : String} (hname : operation ≠ "truncate")
    (c : Call) : (m.call operation c).Emits m.Guards := by
  unfold call
  split
  · rename_i o ho
    refine Emits.lift_bind fun arguments _ => emits_perform hm arguments ?_
    rintro rfl
    exact hname (name_of_ofName? ho).symm
  · exact Emits.lift _

/-- **No unconditional writes.** However often and with whatever arguments the operations of a
resolved model are called, truncating apart, with whatever hooks it has, every statement that
changes or removes rows has a condition with at least one bound value. -/
theorem conditional_of_calls (hm : m.IsResolved) {calls : List (String × Call)}
    (hcalls : ∀ c ∈ calls, c.1 ≠ "truncate") (s : Session) :
    ∃ sent, (s.after (fun c : String × Call => m.call c.1 c.2) calls).trace = s.trace ++ sent ∧
      ∀ sql params, .executed sql params ∈ sent → ChangesRows sql →
        m.Conditional sql params := by
  obtain ⟨sent, htrace, hsent⟩ :=
    Session.emits_after (fun c hc => emits_call hm (hcalls c hc) c.2) s
  exact ⟨sent, htrace, fun sql params hmem => hsent _ hmem⟩

end ResolvedModel

/-! ## Hooks that forget the condition -/

/-- The statements in some events, in order. -/
def sentTexts (events : List Event) : List String :=
  events.filterMap fun
    | .executed sql _ => some sql
    | _ => none

/-- A hook that takes the title out of its data. -/
def forgetTitle : Value :=
  .hook
    { name := "forget", actions := [.remove (.str "Title")], awaited := false, isObject := false }

/-- A removal of the tasks of a title, and a change of them. -/
def packingCalls : List (String × Call) :=
  [("destroy", { args := [.dict [(.str "Title", .str "Pack")]] }),
   ("update",
     { args := [.dict [(.str "Title", .str "Go")], .dict [(.str "Title", .str "Pack")]] })]

/-- A database at noon. -/
def noonSession : Session :=
  { database := { location := "app.db", options := {} }
    world := { now := ⟨⟨2024, 5, 1⟩, ⟨12, 0, 0, 0, none⟩⟩ } }

/-- Where a hook empties the condition of a removal nothing is sent; the change behind it has its
condition. -/
theorem conditional_of_packingCalls :
    ∃ m sent, (ResolvedModel.IsResolved m ∧ m.hooks.beforeDelete = [forgetTitle]) ∧
      (noonSession.after (fun c : String × Call => m.call c.1 c.2) packingCalls).trace =
        noonSession.trace ++ sent ∧
      sentTexts sent =
        ["UPDATE Task SET title = ?, updated_at = ?, Revision = Revision + 1 WHERE title = ?"] ∧
      ∀ sql params, .executed sql params ∈ sent → ChangesRows sql → m.Conditional sql params := by
  have hrun : (do
      let m ← (DefinitionSource.built taskDefinition).resolve
      let m : ResolvedModel := { m with hooks := { beforeDelete := [forgetTitle] } }
      pure (sentTexts (noonSession.after (fun c : String × Call => m.call c.1 c.2)
        packingCalls).trace)).toOption =
      some
        ["UPDATE Task SET title = ?, updated_at = ?, Revision = Revision + 1 WHERE title = ?"] := by
    decide +kernel
  obtain ⟨m, hm, hrest⟩ := bind_eq_ok.1 (eq_ok_of_toOption hrun)
  have htexts := pure_eq_ok.1 hrest
  have hresolved : ResolvedModel.IsResolved { m with hooks := { beforeDelete := [forgetTitle] } } :=
    ⟨.built taskDefinition, m.hooks, hm⟩
  have hcalls : ∀ c ∈ packingCalls, c.1 ≠ "truncate" := by decide
  obtain ⟨sent, htrace, hsent⟩ :=
    ResolvedModel.conditional_of_calls hresolved hcalls noonSession
  refine ⟨_, sent, ⟨hresolved, rfl⟩, htrace, ?_, hsent⟩
  rw [← htexts, htrace]
  rfl

end Tablewright
