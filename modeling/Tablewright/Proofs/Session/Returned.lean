import Tablewright.Proofs.DeclaredColumns
import Tablewright.Proofs.Session.Inserted

/-!
# What a creation returns

A row that was created is looked up by its key: by the one that the row was given, as it was
inserted, or else by the number that the engine gave it. Where there is no such column, or nothing
is found, the row itself is given back, and with values that the engine does not store as they are
(`ResolvedModel.returns_of_call`).
-/

namespace Tablewright

open Fallible

/-! ## Values that are stored as they are -/

namespace Value

variable {v : Value}

/-- The engine stores the value, or one that equals it. -/
def StoredAsIs (v : Value) : Prop :=
  ∃ stored, v.storable = .ok stored ∧ (stored = v ∨ v.same stored = true)

/-- A plain value: a null, a truth value, a number, a text or bytes. -/
def isPlain : Value → Bool
  | .null | .bool _ | .int _ | .float _ | .str _ | .bytes _ _ => true
  | _ => false

/-- Plain values are stored as they are; a truth value becomes the number that equals it. -/
theorem storedAsIs_of_isPlain (h : v.isPlain = true) : v.StoredAsIs := by
  cases v with
  | bool b =>
    refine ⟨_, rfl, .inr ?_⟩
    cases b <;> decide +kernel
  | null => exact ⟨_, rfl, .inl rfl⟩
  | int n => exact ⟨_, rfl, .inl rfl⟩
  | float x => exact ⟨_, rfl, .inl rfl⟩
  | str text => exact ⟨_, rfl, .inl rfl⟩
  | bytes kind data => exact ⟨_, rfl, .inl rfl⟩
  | _ => cases h

/-- **What is no text but stored as one** is not stored as it is. -/
theorem not_storedAsIs_of_text {text : String} (hstored : v.storable = .ok (.str text))
    (h : v.text? = none) : ¬ v.StoredAsIs := by
  rintro ⟨stored, hstored', hsame⟩
  obtain rfl := Except.ok.inj (hstored.symm.trans hstored')
  have htext : (Value.str text).text? = some text := rfl
  rcases hsame with rfl | hsame
  · exact absurd (h.symm.trans htext) nofun
  · rw [same_iff_of_text?_right htext] at hsame
    exact absurd (h.symm.trans hsame) nofun

/-- A value that is written down to be stored: a structure, a date, a time, an exact number or an
identifier. -/
def isWritten : Value → Bool
  | .list _ | .tuple _ | .set _ _ | .dict _ | .date _ | .moment _ | .time _ | .decimal _ |
    .uuid _ => true
  | _ => false

/-- Such values are not stored as they are. -/
theorem not_storedAsIs_of_isWritten (h : v.isWritten = true) : ¬ v.StoredAsIs := by
  have htext : v.text? = none := by
    cases v <;> first | rfl | cases h
  have hstored : ∀ stored, v.storable = .ok stored → ∃ text, stored = .str text := by
    intro stored hstored
    cases v with
    | date d => exact ⟨_, (pure_eq_ok.1 hstored).symm⟩
    | moment m => exact ⟨_, (pure_eq_ok.1 hstored).symm⟩
    | time t => exact ⟨_, (pure_eq_ok.1 hstored).symm⟩
    | decimal d => exact ⟨_, (pure_eq_ok.1 hstored).symm⟩
    | uuid text => exact ⟨_, (pure_eq_ok.1 hstored).symm⟩
    | list items =>
      obtain ⟨text, -, htext⟩ := map_eq_ok.1 hstored
      exact ⟨text, htext.symm⟩
    | tuple items =>
      obtain ⟨text, -, htext⟩ := map_eq_ok.1 hstored
      exact ⟨text, htext.symm⟩
    | set frozen items =>
      obtain ⟨text, -, htext⟩ := map_eq_ok.1 hstored
      exact ⟨text, htext.symm⟩
    | dict entries =>
      obtain ⟨text, -, htext⟩ := map_eq_ok.1 hstored
      exact ⟨text, htext.symm⟩
    | _ => cases h
  rintro ⟨stored, hs, hsame⟩
  obtain ⟨text, rfl⟩ := hstored stored hs
  exact not_storedAsIs_of_text hs htext ⟨_, hs, hsame⟩

end Value

/-! ## Granted writes -/

namespace Action

/-- Logging an entry changes nothing but the trace, if the connection is open. -/
theorem perform_log_eq_ok {s t : Session} {e : LogEntry} {text : Value}
    (hopen : s.database.isClosed = false) (htext : e.paramsText = .ok text)
    (h : s.perform (log e) = (.ok (), t)) : t = s.recording (s.database.logEvents e) := by
  cases htruth : s.database.options.logOps.truth with
  | error f =>
    rw [log, Session.perform_bind, Session.perform_database] at h
    dsimp only at h
    rw [htruth] at h
    cases h
  | ok logged =>
    cases logged with
    | false =>
      rw [perform_log_of_off htruth] at h
      obtain rfl := congrArg Prod.snd h
      rw [Database.logEvents, htruth]
      show s = Session.mk s.database { s.world with trace := s.world.trace ++ [] }
      rw [List.append_nil]
    | true =>
      rw [perform_log_of_on htruth hopen htext] at h
      obtain rfl := congrArg Prod.snd h
      rw [Database.logEvents, htruth, LogEntry.events, htext]

end Action

namespace ResolvedModel

open Action

variable {m : ResolvedModel} {row : Mapping} {i : Insertion} {r lastRowId value : Value}
  {s t : Session}

/-- **A write that succeeds was granted**, and the database remembers the number of the row that it
made. -/
theorem perform_runWrite_eq_ok {operation : String} {statement : RowStatement} {changes : Value}
    (hparams : ∀ p ∈ statement.params, ∃ v : Value, v.storable = .ok p)
    (h : s.perform (m.runWrite operation statement) = (.ok changes, t)) :
    ∃ rows rowCount lastRowId,
      (s.engine.answer statement.sql).1 = .done rows rowCount lastRowId ∧
      t.engine = (s.engine.answer statement.sql).2 ∧ t.database.lastRowId = lastRowId ∧
      t.trace = s.trace ++ .executed statement.sql statement.params ::
        s.database.logEvents (m.logEntry operation statement rowCount) := by
  have hwrite : m.runWrite operation statement = (do
      report (statement.sql ++ " " ++ (Value.list statement.params).repr)
      let changes ← run statement.sql statement.params
      log (m.logEntry operation statement changes)
      pure changes) := rfl
  rw [hwrite] at h
  obtain ⟨_, s₁, hreport, h⟩ := Session.perform_bind_eq_ok.1 h
  obtain ⟨rowCount, s₂, hrun, h⟩ := Session.perform_bind_eq_ok.1 h
  obtain ⟨_, s₃, hlog, h⟩ := Session.perform_bind_eq_ok.1 h
  cases h
  have hsilent : s₁.silent = s.silent := (keeps_report _).of_perform hreport
  have htrace : s₁.trace = s.trace := Session.trace_eq_of_silent hsilent
  have hdatabase : s₁.database = s.database := Session.database_eq_of_silent hsilent
  have hengine : s₁.engine = s.engine := by
    show s₁.silent.engine = s.silent.engine
    rw [hsilent]
  rw [perform_run, hengine] at hrun
  cases hanswer : (s.engine.answer statement.sql).1 with
  | refused kind message =>
    rw [hanswer] at hrun
    cases hrun
  | done rows count lastRowId =>
    rw [hanswer] at hrun
    cases hrun
    obtain ⟨text, htext⟩ := exists_loggedParams hparams
    have hopen : s₁.database.isClosed = false := by
      rw [hdatabase]
      exact isClosed_of_done hanswer
    have ht := perform_log_eq_ok (s := (s₁.sending _ _).noting lastRowId) hopen
      (paramsText_of_loggedParams htext rfl) hlog
    rw [ht]
    refine ⟨rows, changes, lastRowId, rfl, ?_, rfl, ?_⟩
    · show (s₁.sending statement.sql statement.params).engine = _
      rw [Session.engine_sending, hengine]
    · show (s₁.trace ++ [_]) ++ s₁.database.logEvents _ = _
      rw [htrace, hdatabase, List.append_assoc]
      rfl

/-! ## Looking up what was inserted -/

/-- What a row gives for the primary key. -/
def keyIn (m : ResolvedModel) (row : Mapping) : Value :=
  (Mapping.field? row m.primaryKey).getD .null

/-- The row with a primary key, of which the stored form is given. -/
def keySelection (m : ResolvedModel) (value : Value) : Selection :=
  { projection := .rows, table := m.tableName, filters := [{ column := m.primaryKey, value }]
    limit := some 1 }

/-- Its text asks for one row by the key. -/
theorem sql_keySelection (m : ResolvedModel) (value : Value) :
    (RowStatement.select (m.keySelection value)).sql =
      "SELECT * FROM " ++ m.tableName ++ " WHERE " ++ m.primaryKey ++ " = ? LIMIT 1" := by
  have hstar : Projection.rows.render = "*" := rfl
  have hone : toString (1 : Int) = "1" := rfl
  have hconditions : (m.keySelection value).conditions = [m.primaryKey ++ " = ?"] := rfl
  show (m.keySelection value).render = _
  unfold Selection.render
  rw [hconditions, List.isEmpty_cons, if_neg Bool.false_ne_true, String.intercalate_singleton]
  simp only [keySelection, hstar, hone, List.isEmpty_nil, if_true, String.append_empty,
    String.append_assoc]
  rfl

/-- Looking up a row by a key asks for it by the stored form of the key. -/
theorem selectByKey_eq_ok {key : Value} {q : Selection}
    (h : m.queryTable.selectByKey key (.bool true) = .ok q) :
    ∃ value, key.storable = .ok value ∧ q = m.keySelection value := by
  obtain ⟨undeleted, value, hundeleted, hvalue, rfl⟩ := QueryTable.selectByKey_eq_ok h
  have hall : undeleted = none := by
    unfold QueryTable.undeleted at hundeleted
    split at hundeleted
    · exact (pure_eq_ok.1 hundeleted).symm
    · exact (pure_eq_ok.1 hundeleted).symm
  subst hall
  exact ⟨value, hvalue, rfl⟩

/-- Looking up a row gives the first one that is found, or null. -/
theorem perform_fetchFirst_eq_ok {q : Selection} {found : Value}
    (h : s.perform (fetchFirst q) = (.ok found, t)) :
    ∃ rows rowCount number,
      (s.engine.answer (RowStatement.select q).sql).1 = .done rows rowCount number ∧
      t.trace = s.trace ++ [q.sent] ∧ found = rows.head?.getD .null := by
  have hfetch : fetchFirst q = (do
      let answer ← execute (RowStatement.select q).sql (RowStatement.select q).params
      pure (answer.1.head?.getD .null)) := rfl
  rw [hfetch, Session.perform_bind, perform_execute] at h
  cases hanswer : (s.engine.answer (RowStatement.select q).sql).1 with
  | refused kind message =>
    rw [hanswer] at h
    cases h
  | done rows rowCount number =>
    rw [hanswer] at h
    obtain ⟨hfound, rfl⟩ := Prod.mk.inj h
    refine ⟨rows, rowCount, number, rfl, ?_, (Except.ok.inj hfound).symm⟩
    rw [← q.executed_select]
    rfl

/-- **What fetching an inserted row comes to.** If the key is a column, the row is looked up, by the
key that it gives or else by the number that the database remembers. What is found is returned, and
else the row. -/
theorem perform_fetchInserted_eq_ok (h : s.perform (m.fetchInserted row) = (.ok r, t)) :
    (m.primaryKey ∉ m.columns.names ∧ r = .dict row ∧ t = s) ∨
      ∃ value rows rowCount number,
        (if (m.keyIn row).isNull then s.database.lastRowId else m.keyIn row).storable = .ok value ∧
        (s.engine.answer (RowStatement.select (m.keySelection value)).sql).1 =
          .done rows rowCount number ∧
        t.trace = s.trace ++ [(m.keySelection value).sent] ∧
        r = if (rows.head?.getD .null).truthy then rows.head?.getD .null else .dict row := by
  have hlookup : ∀ key : Value, s.perform (do
        let q ← m.queryTable.selectByKey key (.bool true)
        let found ← fetchFirst q
        found.orElse (.dict row) : Action Value) = (.ok r, t) →
      ∃ value rows rowCount number, key.storable = .ok value ∧
        (s.engine.answer (RowStatement.select (m.keySelection value)).sql).1 =
          .done rows rowCount number ∧
        t.trace = s.trace ++ [(m.keySelection value).sent] ∧
        r = if (rows.head?.getD .null).truthy then rows.head?.getD .null else .dict row := by
    intro key h
    obtain ⟨q, hq, h⟩ := Session.perform_lift_bind_eq_ok.1 h
    obtain ⟨value, hvalue, rfl⟩ := selectByKey_eq_ok hq
    obtain ⟨found, t', hfetch, h⟩ := Session.perform_bind_eq_ok.1 h
    obtain ⟨rows, rowCount, number, hanswer, htrace, rfl⟩ := perform_fetchFirst_eq_ok hfetch
    rw [Session.perform_lift] at h
    obtain ⟨hchosen, rfl⟩ := Prod.mk.inj h
    obtain ⟨found, hfound, hchosen⟩ := bind_eq_ok.1 hchosen
    obtain ⟨-, rfl⟩ := Value.truth_eq_ok.1 hfound
    exact ⟨value, rows, rowCount, number, hvalue, hanswer, htrace, (pure_eq_ok.1 hchosen).symm⟩
  unfold fetchInserted at h
  split at h
  · rename_i hnone
    refine .inl ⟨?_, ?_⟩
    · rw [← Named.has_iff_mem_names]
      simpa using hnone
    · obtain ⟨hr, rfl⟩ := Prod.mk.inj h
      exact ⟨(Except.ok.inj hr).symm, rfl⟩
  · refine .inr ?_
    dsimp only at h
    split at h
    · rename_i hnull
      have hnull : (m.keyIn row).isNull = true := hnull
      rw [if_pos hnull]
      rw [Session.perform_bind, Session.perform_database] at h
      exact hlookup _ h
    · rename_i hgiven
      have hgiven : ¬ (m.keyIn row).isNull = true := hgiven
      rw [if_neg hgiven]
      exact hlookup _ h

end ResolvedModel

/-! ## What is returned -/

/-- **An insertion carries a row**: it binds the stored form of each value for the column of its
name, and no column twice. -/
structure Insertion.Stores (i : Insertion) (row : Mapping) : Prop where
  /-- The row has texts for keys. -/
  textual : row.Textual
  /-- The values are bound in their order. -/
  carries : List.Forall₂ Binding.Carries row i.values
  /-- No column is bound twice. -/
  nodup : (i.values.map Binding.column).Nodup

/-- The value is a mapping, and each of its values is the one that an insertion binds for the column,
or equals it. -/
def Insertion.GivesBound (i : Insertion) (r : Value) : Prop :=
  ∃ entries, r = .dict entries ∧ ∀ e ∈ entries, ∃ b ∈ i.values,
    e.1.text? = some b.column ∧ (b.value = e.2 ∨ e.2.same b.value = true)

/-- **The row of an insertion gives what is bound** exactly if each of its values is stored as it
is. -/
theorem Insertion.Stores.givesBound_iff {i : Insertion} {row : Mapping} (h : i.Stores row) :
    i.GivesBound (.dict row) ↔ ∀ e ∈ row, e.2.StoredAsIs := by
  constructor
  · rintro ⟨entries, hentries, hbound⟩ e he
    cases hentries
    obtain ⟨b, hb, hcolumn, hsame⟩ := hbound e he
    obtain ⟨b', hb', hcarried⟩ := exists_of_mem_forall₂ h.carries.flip he
    -- both are bound for the column of the entry
    have hcolumns : b'.column = b.column := by
      rw [hcarried.1, Value.display_of_text? hcolumn]
    obtain rfl := List.inj_on_of_nodup_map h.nodup hb' hb hcolumns
    exact ⟨b'.value, hcarried.2, hsame⟩
  · intro hstored
    refine ⟨row, rfl, fun e he => ?_⟩
    obtain ⟨b, hb, hcarried⟩ := exists_of_mem_forall₂ h.carries.flip he
    obtain ⟨stored, hvalue, hsame⟩ := hstored e he
    obtain rfl := Except.ok.inj (hcarried.2.symm.trans hvalue)
    refine ⟨b, hb, ?_, hsame⟩
    rw [h.textual e he, hcarried.1]

namespace ResolvedModel

open Action

variable {m : ResolvedModel} {row : Mapping} {i : Insertion} {r lastRowId : Value}
  {s t : Session}

/-- **The key that an inserted row is looked up by**: the value that was bound for it, or if the row
gives none, the number that the engine gave the row. -/
inductive InsertedKey (m : ResolvedModel) (row : Mapping) (i : Insertion) (lastRowId : Value) :
    Value → Prop
  /-- The row gives a key, and it was bound. -/
  | given {value : Value} (hgiven : (m.keyIn row).isNull = false)
      (hbound : { column := m.primaryKey, value } ∈ i.values) : InsertedKey m row i lastRowId value
  /-- The row gives none. -/
  | numbered {value : Value} (hnull : (m.keyIn row).isNull = true)
      (hstored : lastRowId.storable = .ok value) : InsertedKey m row i lastRowId value

/-- **An inserted row was looked up** by its key, and the engine answered with some rows. -/
def LooksUpInserted (m : ResolvedModel) (row : Mapping) (i : Insertion) (lastRowId : Value)
    (e : Engine) (after : List Event) (rows : List Value) : Prop :=
  ∃ value rowCount number, m.InsertedKey row i lastRowId value ∧
    (m.keySelection value).sent ∈ after ∧
    (e.answer (RowStatement.select (m.keySelection value)).sql).1 = .done rows rowCount number

/-- What was returned is the first row that the engine gave for the inserted key. -/
def FindsInserted (m : ResolvedModel) (row : Mapping) (i : Insertion) (lastRowId : Value)
    (e : Engine) (after : List Event) (r : Value) : Prop :=
  ∃ rest, m.LooksUpInserted row i lastRowId e after (r :: rest)

/-- **What a creation returns**, given its row, its insertion, the number that the engine gave the
row, what the engine's further answers depend on, and what was sent behind the insertion. -/
inductive Returns (m : ResolvedModel) (row : Mapping) (i : Insertion) (lastRowId : Value)
    (e : Engine) (after : List Event) : Value → Prop
  /-- The row is found. -/
  | found {r : Value} (hfound : m.FindsInserted row i lastRowId e after r) (hr : r.truthy = true) :
      Returns m row i lastRowId e after r
  /-- It is looked up, and nothing is found. -/
  | missed {rows : List Value} (hmissed : m.LooksUpInserted row i lastRowId e after rows)
      (hnone : (rows.head?.getD .null).truthy = false) : Returns m row i lastRowId e after (.dict row)
  /-- The key is no column, and it is not looked up. -/
  | keyless (hkey : m.primaryKey ∉ m.columns.names) : Returns m row i lastRowId e after (.dict row)

/-- What is not found is the row itself. -/
theorem Returns.law_iff {e : Engine} {after : List Event}
    (h : m.Returns row i lastRowId e after r) (hi : i.Stores row) :
    (m.FindsInserted row i lastRowId e after r ∨ i.GivesBound r) ↔
      (m.FindsInserted row i lastRowId e after r ∨ ∀ entry ∈ row, entry.2.StoredAsIs) := by
  cases h with
  | found hfound hr => exact iff_of_true (.inl hfound) (.inl hfound)
  | missed hmissed hnone => exact or_congr_right hi.givesBound_iff
  | keyless hkey => exact or_congr_right hi.givesBound_iff

/-- A planned insertion carries the row of the plan. -/
theorem stores_of_planCreate {left : Value} {p : Mapping × Insertion}
    (h : s.perform (m.planCreate left) = (.ok p, t)) :
    p.2.table = m.tableName ∧ p.2.Stores p.1 := by
  obtain ⟨row, t', hrow, h⟩ := Session.perform_bind_eq_ok.1 h
  obtain ⟨_, -, h⟩ := Session.perform_lift_bind_eq_ok.1 h
  obtain ⟨i, hi, h⟩ := Session.perform_lift_bind_eq_ok.1 h
  cases h
  have htextual : row.Textual := QueryTable.text?_of_insert hi
  obtain ⟨_, bound, -, hbound, -, rfl⟩ := QueryTable.insert_eq_ok hi
  exact ⟨rfl, htextual, QueryTable.carries_of_binds hbound,
    QueryTable.nodup_of_binds (unrepeated_insertValues hrow) htextual hbound⟩

/-- The key that is given by a row is bound by its insertion. -/
theorem insertedKey_of_storable {value : Value} (hi : i.Stores row)
    (h : (if (m.keyIn row).isNull then lastRowId else m.keyIn row).storable = .ok value) :
    m.InsertedKey row i lastRowId value := by
  by_cases hnull : (m.keyIn row).isNull = true
  · rw [if_pos hnull] at h
    exact .numbered hnull h
  · rw [if_neg hnull] at h
    have hfield : Mapping.field? row m.primaryKey = row.named.get? m.primaryKey :=
      Mapping.get?_named hi.textual rfl
    obtain ⟨v, hv⟩ : ∃ v, row.named.get? m.primaryKey = some v := by
      refine Option.ne_none_iff_exists'.1 fun hnone => hnull ?_
      rw [keyIn, hfield, hnone]
      rfl
    have hkey : m.keyIn row = v := by
      rw [keyIn, hfield, hv]
      rfl
    obtain ⟨e, he, hsame⟩ := List.mem_map.1 (Named.mem_of_get? hv)
    obtain ⟨hname, rfl⟩ := Prod.mk.inj hsame
    obtain ⟨b, hb, hcolumn, hstored⟩ := exists_of_mem_forall₂ hi.carries.flip he
    rw [hkey] at h
    obtain rfl := Except.ok.inj (hstored.symm.trans h)
    refine .given (Bool.eq_false_iff.2 hnull) ?_
    rw [← hname, ← hcolumn]
    exact hb

/-- **What follows the insertion of a creation.** -/
theorem returns_of_afterInsertion {changes : Value} {done : Value × Value} (hi : i.Stores row)
    (h : s.perform (m.afterInsertion (row, i) changes) = (.ok done, t)) :
    ∃ sent, t.trace = s.trace ++ sent ∧
      ∀ after, sent ⊆ after → m.Returns row i s.database.lastRowId s.engine after done.1 := by
  obtain ⟨created, t', hfetch, h⟩ := Session.perform_bind_eq_ok.1 h
  cases h
  rcases perform_fetchInserted_eq_ok hfetch with ⟨hkey, rfl, rfl⟩ |
    ⟨value, rows, rowCount, number, hvalue, hanswer, htrace, rfl⟩
  · exact ⟨[], (List.append_nil _).symm, fun _ _ => .keyless hkey⟩
  · have hkey : m.InsertedKey row i s.database.lastRowId value := insertedKey_of_storable hi hvalue
    refine ⟨[(m.keySelection value).sent], htrace, fun after hafter => ?_⟩
    have hlooks : m.LooksUpInserted row i s.database.lastRowId s.engine after rows :=
      ⟨value, rowCount, number, hkey, hafter List.mem_cons_self, hanswer⟩
    by_cases hfound : (rows.head?.getD .null).truthy = true
    · rw [if_pos hfound]
      cases rows with
      | nil => exact absurd hfound Bool.false_ne_true
      | cons first rest => exact .found ⟨rest, hlooks⟩ hfound
    · rw [if_neg hfound]
      exact .missed hlooks (Bool.eq_false_iff.2 hfound)

/-- What is left of a creation once its insertion is planned. -/
theorem returns_of_carryOut {a : Named Value} (hi : i.Stores row)
    (h : s.perform (HookedOperation.carryOut m a .create (fun p => .insert p.2) m.afterInsertion
      (row, i)) = (.ok r, t)) :
    ∃ after rows rowCount lastRowId,
      t.trace = s.trace ++
        .executed (RowStatement.insert i).sql (RowStatement.insert i).params :: after ∧
      (s.engine.answer (RowStatement.insert i).sql).1 = .done rows rowCount lastRowId ∧
      m.Returns row i lastRowId (s.engine.answer (RowStatement.insert i).sql).2 after r := by
  have hparams : ∀ p ∈ (RowStatement.insert i).params, ∃ v : Value, v.storable = .ok p :=
    List.forall_mem_map.2 (exists_storable_of_carries hi.carries)
  obtain ⟨changes, s₁, hwrite, h⟩ := Session.perform_bind_eq_ok.1 h
  obtain ⟨done, s₂, hafter, h⟩ := Session.perform_bind_eq_ok.1 h
  obtain ⟨_, s₃, hhooks, h⟩ := Session.perform_bind_eq_ok.1 h
  obtain ⟨hresult, rfl⟩ := Prod.mk.inj h
  obtain rfl := Except.ok.inj hresult
  obtain ⟨rows, rowCount, lastRowId, hdone, hengine, hnumber, htrace⟩ :=
    perform_runWrite_eq_ok hparams hwrite
  obtain ⟨sent, hsent, hreturns⟩ := returns_of_afterInsertion hi hafter
  obtain ⟨_, events, hrecorded, -⟩ := m.exists_perform_runAfter HookedOperation.create.after done.2
    (a.argument "skip_hooks") s₂
  rw [hhooks] at hrecorded
  obtain ⟨-, rfl⟩ := Prod.mk.inj hrecorded
  -- behind the insertion come its entry in the log, the lookup, and what the hooks do
  refine ⟨s.database.logEvents (m.logEntry "create" (.insert i) rowCount) ++ sent ++
    events.map .hook, rows, rowCount, lastRowId, ?_, hdone, ?_⟩
  · show s₂.trace ++ events.map .hook = _
    rw [hsent, htrace]
    simp only [List.append_assoc, List.cons_append]
    rfl
  · rw [← hengine, ← hnumber]
    refine hreturns _ fun e he => ?_
    exact List.mem_append_left _ (List.mem_append_right _ he)

/-- **What a creation returns.** However a row is created, whatever hooks the model has and whatever
the engine answers: if it succeeds, only hooks ran before the insertion, the engine granted it, and
what is returned is what a lookup of the inserted key found, or else the row as it was before its
values were stored. So either the row was found or each value is the one that was bound, exactly if
it was found or the engine stores each value as it is. -/
theorem returns_of_call (m : ResolvedModel) {c : Call}
    (hr : s.perform (m.call "create" c) = (.ok r, t)) :
    ∃ row i before after rows rowCount lastRowId e,
      t.trace = s.trace ++ before ++
        .executed (RowStatement.insert i).sql (RowStatement.insert i).params :: after ∧
      (∀ e ∈ before, e.IsHook) ∧ i.table = m.tableName ∧ i.Stores row ∧
      s.engine.answer (RowStatement.insert i).sql = (.done rows rowCount lastRowId, e) ∧
      m.Returns row i lastRowId e after r ∧
      ((m.FindsInserted row i lastRowId e after r ∨ i.GivesBound r) ↔
        (m.FindsInserted row i lastRowId e after r ∨ ∀ entry ∈ row, entry.2.StoredAsIs)) := by
  have hcall : m.call "create" c =
      liftM (c.bind RowOperation.create.parameters) >>= RowOperation.create.perform m :=
    call_name .create c
  rw [hcall] at hr
  obtain ⟨a, -, hr⟩ := Session.perform_lift_bind_eq_ok.1 hr
  have hplanned : RowOperation.perform m a .create =
      (HookedOperation.create.handed m a >>= m.planCreate) >>=
        HookedOperation.carryOut m a .create (fun p => .insert p.2) m.afterInsertion :=
    (planned_create m a).perform_eq
  rw [hplanned] at hr
  obtain ⟨⟨row, i⟩, s₁, hplan, hrest⟩ := Session.perform_bind_eq_ok.1 hr
  obtain ⟨left, s₀, -, hplan'⟩ := Session.perform_bind_eq_ok.1 hplan
  obtain ⟨htable, hi⟩ := stores_of_planCreate hplan'
  have hhooks : (HookedOperation.create.handed m a >>= m.planCreate).Emits Event.IsHook :=
    (Emits.lift_bind fun _ _ => emits_runBefore fun _ => trivial).bind fun left =>
      ((planned_create m a).silent left).emits
  have hkept : Keeps Session.engine (HookedOperation.create.handed m a >>= m.planCreate) :=
    (HookedOperation.keeps_handed (fun _ _ => rfl) m a .create).bind fun left =>
      (quiet_insertValues left).2.bind fun row => (quiet_validate row).2.bind fun _ =>
        (Keeps.lift _ _).bind fun _ => Keeps.pure _ _
  obtain ⟨before, htrace, hbefore⟩ := hhooks s
  rw [hplan] at htrace
  have hengine : s₁.engine = s.engine := hkept.of_perform hplan
  obtain ⟨after, rows, rowCount, lastRowId, hsent, hdone, hreturns⟩ := returns_of_carryOut hi hrest
  rw [hengine] at hdone hreturns
  refine ⟨row, i, before, after, rows, rowCount, lastRowId, _, ?_, hbefore, htable, hi,
    Prod.ext hdone rfl, hreturns, hreturns.law_iff hi⟩
  rw [hsent]
  exact congrArg (· ++ _) htrace

end ResolvedModel

/-! ## A seat -/

/-- Where only one statement was sent, none was sent behind it. -/
theorem not_mem_of_statements {before after : List Event} {sql sql' : String}
    {params params' : List Value}
    (h : (statements (before ++ .executed sql params :: after)).length = 1) :
    .executed sql' params' ∉ after := by
  intro hmem
  have hthere : (sql', params') ∈ statements after := List.mem_filterMap.2 ⟨_, hmem, rfl⟩
  have hlength := List.length_pos_of_mem hthere
  have hsplit : statements (before ++ .executed sql params :: after) =
      statements before ++ (sql, params) :: statements after := by
    rw [statements, List.filterMap_append]
    rfl
  rw [hsplit, List.length_append, List.length_cons] at h
  omega

/-- A seat, which is known by its row and its number. -/
def seatDefinition : ModelDefinition :=
  { name := .str "Seat"
    timestamps := .bool false
    columns :=
      [(.str "row", { type := .str "INTEGER" }), (.str "number", { type := .str "INTEGER" }),
       (.str "tags", { type := .str "JSON" })]
    constraints := [{ type := .str "primary_key", columns := .ofTexts ["row", "number"] }] }

/-- A seat with some tags to be created. -/
def creatingSeat (tags : Value) : Call :=
  { args := [.dict [(.str "row", .int 1), (.str "number", .int 2), (.str "tags", tags)]] }

/-- What creating a seat with some tags comes to: whether all that is returned is plain, whether some
of it is written down to be stored, and how many statements are sent. -/
def seatOutcome (m : ResolvedModel) (tags : Value) : Option (Bool × Bool) × Nat :=
  let run := noonSession.perform (m.call "create" (creatingSeat tags))
  (run.1.toOption.map fun r =>
    (r.entryList.all (·.2.isPlain), r.entryList.any (·.2.isWritten)),
    (statements run.2.trace).length)

/-- **A seat is returned as it was given.** With a text for its tags this is what was bound; with a
list of tags it is neither that nor a row that was found. -/
theorem returns_of_creatingSeats :
    ∃ m : ResolvedModel, (DefinitionSource.built seatDefinition).resolve = .ok m ∧
      (∃ row i after lastRowId e r t,
        noonSession.perform (m.call "create" (creatingSeat (.str "x"))) = (.ok r, t) ∧
        m.Returns row i lastRowId e after r ∧ i.GivesBound r) ∧
      ∃ row i after lastRowId e r t,
        noonSession.perform (m.call "create" (creatingSeat (.list [.str "x"]))) = (.ok r, t) ∧
        m.Returns row i lastRowId e after r ∧
        ¬ (m.FindsInserted row i lastRowId e after r ∨ i.GivesBound r) := by
  obtain ⟨m, hm, hplain, hwritten⟩ := exists_resolve_of_decide seatDefinition
    (fun m => seatOutcome m (.str "x") = (some (true, false), 1) ∧
      seatOutcome m (.list [.str "x"]) = (some (false, true), 1)) (by decide +kernel)
  have hcreate : ∀ tags plain written, seatOutcome m tags = (some (plain, written), 1) →
      ∃ row i after lastRowId e r t,
        noonSession.perform (m.call "create" (creatingSeat tags)) = (.ok r, t) ∧
        m.Returns row i lastRowId e after r ∧ ¬ m.FindsInserted row i lastRowId e after r ∧
        (i.GivesBound r ↔ ∀ entry ∈ r.entryList, entry.2.StoredAsIs) ∧
        r.entryList.all (·.2.isPlain) = plain ∧ r.entryList.any (·.2.isWritten) = written := by
    intro tags plain written houtcome
    obtain ⟨hresult, hsent⟩ := Prod.mk.inj houtcome
    obtain ⟨r, hr, hkinds⟩ := Option.map_eq_some_iff.1 hresult
    obtain ⟨hplain, hwritten⟩ := Prod.mk.inj hkinds
    have hperform : noonSession.perform (m.call "create" (creatingSeat tags)) =
        (.ok r, (noonSession.perform (m.call "create" (creatingSeat tags))).2) :=
      Prod.ext (eq_ok_of_toOption hr) rfl
    obtain ⟨row, i, before, after, rows, rowCount, lastRowId, e, htrace, -, -, -, -, hreturns,
      hlaw⟩ := m.returns_of_call hperform
    rw [htrace] at hsent
    -- only the insertion was sent, so nothing was looked up
    have hunsought : ∀ found, ¬ m.LooksUpInserted row i lastRowId e after found := by
      rintro found ⟨value, _, _, -, hmem, -⟩
      exact not_mem_of_statements hsent hmem
    have hunfound : ∀ found, ¬ m.FindsInserted row i lastRowId e after found := by
      rintro found ⟨rest, hlooks⟩
      exact hunsought _ hlooks
    have hrow : r = .dict row := by
      cases hreturns with
      | found hfound => exact absurd hfound (hunfound r)
      | missed hmissed => exact absurd hmissed (hunsought _)
      | keyless => rfl
    rw [or_iff_right (hunfound r), or_iff_right (hunfound r)] at hlaw
    refine ⟨row, i, after, lastRowId, e, r, _, hperform, hreturns, hunfound r, ?_, hplain,
      hwritten⟩
    rw [hlaw, hrow]
    rfl
  refine ⟨m, hm, ?_, ?_⟩
  · obtain ⟨row, i, after, lastRowId, e, r, t, hperform, hreturns, -, hlaw, hall, -⟩ :=
      hcreate _ _ _ hplain
    refine ⟨row, i, after, lastRowId, e, r, t, hperform, hreturns, hlaw.2 fun entry hentry => ?_⟩
    exact Value.storedAsIs_of_isPlain (List.all_eq_true.1 hall entry hentry)
  · obtain ⟨row, i, after, lastRowId, e, r, t, hperform, hreturns, hunfound, hlaw, -, hany⟩ :=
      hcreate _ _ _ hwritten
    refine ⟨row, i, after, lastRowId, e, r, t, hperform, hreturns, ?_⟩
    rw [not_or]
    refine ⟨hunfound, fun hbound => ?_⟩
    obtain ⟨entry, hentry, hkind⟩ := List.any_eq_true.1 hany
    exact Value.not_storedAsIs_of_isWritten hkind (hlaw.1 hbound entry hentry)

end Tablewright
