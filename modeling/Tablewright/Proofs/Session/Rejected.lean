import Tablewright.Proofs.Query.Refusal
import Tablewright.Proofs.Session.Columns
import Tablewright.Proofs.Session.Validated
import Tablewright.Proofs.Value.Json

/-!
# A rejected write writes nothing

A call that writes looks at what it was asked for from many sides: whether it has a condition,
whether the row keeps the rules of its columns, whether a conflict has values, whether the columns
are known. All of this comes before its statement. Behind it, creating a row and an upsert compile
a second one, which fetches the row; whatever goes wrong then, it is no issue with what was asked
for, because everything the second statement names was let through with the first. So where a call
is refused for an issue it has sent nothing at all (`ResolvedModel.unsent_of_rejected`).
-/

namespace Tablewright

open Fallible

variable {α β : Type}

/-! ## What is never refused -/

/-- The computation may fail, but not for an issue with what the caller asked for. -/
abbrev Unrefused (x : Except Fault α) : Prop :=
  FailsWith (fun f => ¬ f.IsIssue) x

/-- A value of the wrong kind is no issue. -/
theorem unrefused_misuse (misuse : Misuse) :
    Unrefused (.error (.misuse misuse) : Except Fault α) :=
  FailsWith.error nofun

namespace Json

theorem unrefused_keyText (v : Value) : Unrefused (keyText v) := by
  unfold keyText
  split <;> first | exact FailsWith.pure | exact unrefused_misuse _

mutual

/-- A value without a form in JSON is a misuse. -/
theorem unrefused_write (v : Value) : Unrefused (write v) := by
  cases v with
  | list items =>
    exact FailsWith.bind (unrefused_writeItems items) fun _ _ => FailsWith.pure
  | tuple items =>
    exact FailsWith.bind (unrefused_writeItems items) fun _ _ => FailsWith.pure
  | dict entries =>
    exact FailsWith.bind (unrefused_writeEntries entries) fun _ _ => FailsWith.pure
  | _ => exact FailsWith.of_ok (exists_write_of_flat nofun nofun nofun)

theorem unrefused_writeItems (vs : List Value) : Unrefused (writeItems vs) := by
  cases vs with
  | nil => exact FailsWith.pure
  | cons v rest =>
    exact FailsWith.bind (unrefused_write v) fun _ _ =>
      FailsWith.bind (unrefused_writeItems rest) fun _ _ => FailsWith.pure

theorem unrefused_writeEntries (entries : List (Value × Value)) :
    Unrefused (writeEntries entries) := by
  cases entries with
  | nil => exact FailsWith.pure
  | cons e rest =>
    obtain ⟨k, v⟩ := e
    exact FailsWith.bind (unrefused_keyText k) fun _ _ =>
      FailsWith.bind (unrefused_write v) fun _ _ =>
      FailsWith.bind (unrefused_writeEntries rest) fun _ _ => FailsWith.pure

end

end Json

namespace Value

theorem unrefused_truth (v : Value) : Unrefused v.truth :=
  FailsWith.ite (fun _ => FailsWith.pure) fun _ => unrefused_misuse _

theorem unrefused_orElse (v w : Value) : Unrefused (v.orElse w) :=
  FailsWith.bind (unrefused_truth v) fun _ _ => FailsWith.pure

theorem unrefused_entries (v : Value) : Unrefused v.entries := by
  unfold entries
  split
  · exact FailsWith.pure
  · exact unrefused_misuse _

/-- What cannot be stored is a misuse. -/
theorem unrefused_storable (v : Value) : Unrefused v.storable := by
  fun_induction storable v with
  | case10 | case11 | case12 | case13 => exact (Json.unrefused_write _).map
  | case17 _ _ _ ih => exact ih
  | _ => exact FailsWith.pure

end Value

/-! ## Steps that are never refused -/

namespace Action

/-- However the step fails, it is not for an issue with what the caller asked for. -/
def NeverRefused (x : Action α) : Prop :=
  ∀ s : Session, Unrefused (s.perform x).1

variable {x : Action α}

theorem NeverRefused.pure (a : α) : NeverRefused (Pure.pure a : Action α) :=
  fun _ => FailsWith.pure

theorem NeverRefused.lift {y : Except Fault α} (h : Unrefused y) :
    NeverRefused (liftM y : Action α) :=
  fun _ => h

/-- A sequence is refused in one of its parts. -/
theorem NeverRefused.bind {k : α → Action β} (hx : NeverRefused x)
    (hk : ∀ a, NeverRefused (k a)) : NeverRefused (x >>= k) := by
  intro s
  have hfirst := hx s
  rw [Session.perform_bind]
  rcases hs : s.perform x with ⟨fault | a, t⟩ <;> rw [hs] at hfirst
  · exact FailsWith.error (hfirst fault rfl)
  · exact hk a t

/-- Behind a computation outside of the session, only its outcome matters. -/
theorem NeverRefused.lift_bind {y : Except Fault α} {k : α → Action β} (hy : Unrefused y)
    (hk : ∀ a, y = .ok a → NeverRefused (k a)) : NeverRefused (liftM y >>= k) := by
  cases y with
  | error fault => exact fun _ => FailsWith.error (hy fault rfl)
  | ok a => exact hk a rfl

theorem neverRefused_database : NeverRefused database :=
  fun _ => FailsWith.pure

theorem neverRefused_report (line : String) : NeverRefused (report line) := by
  refine neverRefused_database.bind fun d =>
    NeverRefused.lift_bind (Value.unrefused_truth _) fun reported _ => ?_
  cases reported with
  | false => exact NeverRefused.pure ()
  | true => exact fun _ => FailsWith.pure

/-- What the engine refuses is a fault of its own. -/
theorem neverRefused_execute (sql : String) (params : List Value) :
    NeverRefused (execute sql params) := by
  intro s
  rw [perform_execute]
  cases (s.engine.answer sql).1 with
  | done rows rowCount lastRowId => exact FailsWith.pure
  | refused kind message => exact FailsWith.error nofun

theorem neverRefused_run (sql : String) (params : List Value) : NeverRefused (run sql params) := by
  have hkeep : ∀ f, NeverRefused (modifyDatabase f) := fun _ _ => FailsWith.pure
  exact (neverRefused_execute sql params).bind fun _ =>
    (hkeep _).bind fun _ => NeverRefused.pure _

theorem neverRefused_first (sql : String) (params : List Value) :
    NeverRefused (first sql params) :=
  (neverRefused_execute sql params).bind fun _ => NeverRefused.pure _

/-- An entry of the log may not have a form as JSON, but it is not refused. -/
theorem neverRefused_log (e : LogEntry) : NeverRefused (log e) := by
  have hparams : Unrefused e.paramsText :=
    FailsWith.bind (Value.unrefused_truth _) fun _ _ =>
      FailsWith.ite (fun _ => (Json.unrefused_write _).map) fun _ => FailsWith.pure
  refine neverRefused_database.bind fun d =>
    NeverRefused.lift_bind (Value.unrefused_truth _) fun logged _ => ?_
  cases logged with
  | false => exact NeverRefused.pure ()
  | true =>
    exact (neverRefused_execute _ _).bind fun _ => NeverRefused.lift_bind hparams fun _ _ =>
      (neverRefused_execute _ _).bind fun _ => NeverRefused.pure ()

/-- A hook that fails is a fault of its own, whatever it fails with. -/
theorem neverRefused_runHookList (hooks : List Value) (data : Value) (isolate : Bool) :
    NeverRefused (runHookList hooks data isolate) := by
  intro s
  rw [perform_runHookList]
  rcases HookOutcome.ofRun_spec hooks data isolate with
    ⟨-, hnone, -⟩ | ⟨-, hook, cause, hsome, -⟩ | ⟨-, hrun⟩
  · rw [hnone]
    exact FailsWith.pure
  · rw [hsome]
    exact FailsWith.error nofun
  · rw [hrun]
    exact FailsWith.error nofun

/-! ## Steps that are refused before they send anything -/

/-- Where the step is refused for an issue, it has sent no statement. -/
def RefusedUnsent (x : Action α) : Prop :=
  ∀ (s s' : Session) (issue : Issue), s.perform x = (.error (.invalid issue), s') →
    ∃ sent, s'.trace = s.trace ++ sent ∧ ∀ e ∈ sent, ¬ e.IsStatement

theorem NeverRefused.refusedUnsent (h : NeverRefused x) : RefusedUnsent x := by
  intro s s' issue hs
  have hfault := h s (.invalid issue) (congrArg Prod.fst hs)
  exact absurd ⟨issue, rfl⟩ hfault

/-- Where nothing is sent, refused or not. -/
theorem Emits.refusedUnsent (h : Emits (fun e => ¬ e.IsStatement) x) : RefusedUnsent x := by
  intro s s' issue hs
  obtain ⟨sent, htrace, hsent⟩ := h s
  rw [hs] at htrace
  exact ⟨sent, htrace, hsent⟩

/-- **Before anything is sent a step may be refused.** -/
theorem Emits.bind_refusedUnsent {k : α → Action β} (hx : Emits (fun e => ¬ e.IsStatement) x)
    (hk : ∀ a, RefusedUnsent (k a)) : RefusedUnsent (x >>= k) := by
  intro s s' issue hs
  rcases Session.perform_bind_eq_error.1 hs with hfirst | ⟨a, t, hfirst, hrest⟩
  · exact hx.refusedUnsent s s' issue hfirst
  · obtain ⟨sent, htrace, hsent⟩ := hx s
    obtain ⟨more, htrace', hmore⟩ := hk a t s' issue hrest
    rw [hfirst] at htrace
    refine ⟨sent ++ more, ?_, List.forall_mem_append.2 ⟨hsent, hmore⟩⟩
    rw [htrace', htrace, List.append_assoc]

theorem RefusedUnsent.lift_bind {y : Except Fault α} {k : α → Action β}
    (h : ∀ a, y = .ok a → RefusedUnsent (k a)) : RefusedUnsent (liftM y >>= k) := by
  cases y with
  | error fault => exact (Emits.lift _).refusedUnsent
  | ok a => exact h a rfl

/-- **Once something is sent a step must not be refused.** -/
theorem RefusedUnsent.bind {k : α → Action β} (hx : RefusedUnsent x)
    (hk : ∀ a, NeverRefused (k a)) : RefusedUnsent (x >>= k) := by
  intro s s' issue hs
  rcases Session.perform_bind_eq_error.1 hs with hfirst | ⟨a, t, -, hrest⟩
  · exact hx s s' issue hfirst
  · exact absurd ⟨issue, rfl⟩ (hk a t (.invalid issue) (congrArg Prod.fst hrest))

/-- Computations outside of the session, one for each item of a list, are one such computation. -/
theorem mapM_lift (f : α → Except Fault β) (xs : List α) :
    (xs.mapM fun x => (liftM (f x) : Action β)) = liftM (xs.mapM f) :=
  funext fun s => Session.perform_mapM_lift s f xs

end Action

/-! ## Behind the write -/

namespace QueryTable

variable {t : QueryTable} {condition withDeleted key : Value}

theorem unrefused_undeleted : Unrefused (t.undeleted withDeleted) := by
  unfold undeleted
  split
  · exact FailsWith.bind (Value.unrefused_truth _) fun _ _ => FailsWith.pure
  · exact FailsWith.pure

theorem unrefused_selectByKey : Unrefused (t.selectByKey key withDeleted) :=
  FailsWith.bind unrefused_undeleted fun _ _ =>
    FailsWith.bind (Value.unrefused_storable key) fun _ _ => FailsWith.pure

/-- The columns of a conflict are known once the upsert is compiled. -/
theorem known_of_upsert {values : Value} {targets : List Value} {i : Insertion}
    (h : t.upsert values (.list targets) = .ok i) : ∀ v ∈ targets, t.Known v := by
  obtain ⟨_, chosen, columns, _, -, hchosen, hcolumns, hknown, -, -⟩ := upsert_eq_ok h
  cases targets with
  | nil => exact fun _ hv => nomatch hv
  | cons first rest =>
    obtain rfl := pure_eq_ok.1 hchosen
    obtain rfl := pure_eq_ok.1 hcolumns
    exact hknown

/-- A condition is not refused where the table knows the columns that it names. -/
theorem unrefused_filters {columns : Mapping} (h : ∀ v ∈ columns.map Prod.fst, t.Known v) :
    Unrefused (t.filters (.dict columns)) := by
  refine FailsWith.bind (Value.unrefused_orElse _ _) fun w hw =>
    FailsWith.bind (Value.unrefused_entries w) fun entries hentries =>
    FailsWith.mapM fun e he => ?_
  obtain rfl := (Value.entries_of_orEmptyMapping hw hentries).1
  have hcolumn : t.column e.1 = .ok e.1 := column_eq_ok.2 ⟨rfl, h e.1 (List.mem_map_of_mem he)⟩
  exact FailsWith.bind_of_ok ⟨_, hcolumn⟩ fun _ _ =>
    FailsWith.bind (Value.unrefused_storable e.2) fun _ _ => FailsWith.pure

end QueryTable

namespace ResolvedModel

open Action

variable {m : ResolvedModel}

theorem neverRefused_fetchFirst (s : Selection) : NeverRefused (fetchFirst s) :=
  neverRefused_first _ _

/-- **Once its statement is sent, a write is not refused.** -/
theorem neverRefused_runWrite (operation : String) (statement : RowStatement) :
    NeverRefused (m.runWrite operation statement) :=
  (neverRefused_report _).bind fun _ => (neverRefused_run _ _).bind fun _ =>
    (neverRefused_log _).bind fun _ => NeverRefused.pure _

theorem neverRefused_runAfter (slot : HookSlot) (data skip : Value) :
    NeverRefused (m.runAfter slot data skip) := by
  refine NeverRefused.lift_bind (Value.unrefused_truth skip) fun skipped _ => ?_
  cases skipped with
  | false => exact (neverRefused_runHookList _ _ _).bind fun _ => NeverRefused.pure ()
  | true => exact NeverRefused.pure ()

/-- The row that was made is fetched by its key, which is not looked up among the columns. -/
theorem neverRefused_fetchInserted (row : Mapping) : NeverRefused (m.fetchInserted row) := by
  have hfetch : ∀ key : Value, NeverRefused (do
      let s ← m.queryTable.selectByKey key (.bool true)
      let found ← fetchFirst s
      found.orElse (.dict row) : Action Value) := fun key =>
    NeverRefused.lift_bind QueryTable.unrefused_selectByKey fun _ _ =>
      (neverRefused_fetchFirst _).bind fun _ => NeverRefused.lift (Value.unrefused_orElse _ _)
  unfold fetchInserted
  split
  · exact NeverRefused.pure _
  · dsimp only
    split
    · exact neverRefused_database.bind fun _ => hfetch _
    · exact hfetch _

/-- Keys that stand for themselves are exchanged without ado. -/
theorem unrefused_columnValues {entries : Mapping}
    (h : ∀ v ∈ entries.map Prod.fst, m.columnFor v = .ok v) :
    Unrefused (m.columnValues (.dict entries)) := by
  refine FailsWith.bind (Value.unrefused_orElse _ _) fun w hw =>
    FailsWith.bind (Value.unrefused_entries w) fun given hgiven => ?_
  obtain rfl := (Value.entries_of_orEmptyMapping hw hgiven).1
  refine FailsWith.bind (FailsWith.mapM fun e he => ?_) fun _ _ => FailsWith.pure
  exact FailsWith.bind_of_ok ⟨_, h e.1 (List.mem_map_of_mem he)⟩ fun _ _ => FailsWith.pure

/-- **A search by columns that are known is not refused.** -/
theorem neverRefused_findOne {key : Mapping}
    (hfixed : ∀ v ∈ key.map Prod.fst, m.columnFor v = .ok v)
    (hknown : ∀ v ∈ key.map Prod.fst, m.queryTable.Known v) :
    NeverRefused (m.findOne (.dict key) .null (.bool true)) := by
  refine NeverRefused.lift_bind (unrefused_columnValues hfixed) fun columns hcolumns => ?_
  have hcolumnsKnown : ∀ v ∈ columns.map Prod.fst, m.queryTable.Known v := by
    intro v hv
    obtain ⟨e, he, hcolumn⟩ := exists_of_mem_columnValues hcolumns v hv
    have hkey : e.1 ∈ key.map Prod.fst := List.mem_map_of_mem he
    obtain rfl : e.1 = v := Except.ok.inj ((hfixed e.1 hkey).symm.trans hcolumn)
    exact hknown e.1 hkey
  have hselect : Unrefused (m.queryTable.selectOne (.dict columns) .null (.bool true)) :=
    FailsWith.bind QueryTable.unrefused_undeleted fun _ _ =>
      FailsWith.bind (QueryTable.unrefused_filters hcolumnsKnown) fun _ _ => FailsWith.pure
  have horder : m.columnOrder .null = .ok .null := rfl
  refine NeverRefused.lift_bind (FailsWith.of_ok ⟨_, horder⟩) fun order h => ?_
  obtain rfl := Except.ok.inj (horder.symm.trans h)
  exact NeverRefused.lift_bind hselect fun _ _ => neverRefused_fetchFirst _

/-- The values of a conflict are looked up in the row; one that is not there is a misuse. -/
theorem unrefused_conflictValues (row : Mapping) (targets : List Value) :
    Unrefused (conflictValues row targets) := by
  refine FailsWith.bind (FailsWith.mapM fun t _ => ?_) fun _ _ => FailsWith.pure
  split
  · exact FailsWith.pure
  · exact unrefused_misuse _

theorem keys_conflictValues_subset {row key : Mapping} {targets : List Value}
    (h : conflictValues row targets = .ok key) : key.map Prod.fst ⊆ targets := by
  obtain ⟨pairs, hpairs, h⟩ := bind_eq_ok.1 h
  obtain rfl := pure_eq_ok.1 h
  intro v hv
  obtain ⟨e, he, rfl⟩ := List.mem_map.1 (Mapping.keys_ofPairs_subset pairs hv)
  obtain ⟨t, ht, hentry⟩ := exists_of_mem_mapM hpairs he
  split at hentry
  · obtain rfl := pure_eq_ok.1 hentry
    exact ht
  · cases hentry

/-! ## The works of the operations -/

/-- Creating a row is refused before it is sent. -/
theorem refusedUnsent_createWork (values : Value) : RefusedUnsent (m.createWork values) := by
  refine (quiet_insertValues values).1.emits.bind_refusedUnsent fun row =>
    RefusedUnsent.lift_bind fun _ _ => RefusedUnsent.lift_bind fun insertion _ => ?_
  refine NeverRefused.refusedUnsent ((neverRefused_runWrite _ _).bind fun _ => ?_)
  exact (neverRefused_fetchInserted row).bind fun _ => NeverRefused.pure _

/-- **An upsert is refused before it is sent**: its columns stand for themselves, and behind it they
are known. -/
theorem refusedUnsent_upsertWork (hm : m.IsResolved) (conflict values : Value) :
    RefusedUnsent (m.upsertWork conflict values) := by
  refine (quiet_insertValues values).1.emits.bind_refusedUnsent fun row =>
    RefusedUnsent.lift_bind fun _ _ => RefusedUnsent.lift_bind fun _ _ =>
    RefusedUnsent.lift_bind fun named _ => ?_
  rw [mapM_lift]
  refine RefusedUnsent.lift_bind fun targets htargets => ?_
  have hfixed : ∀ t ∈ targets, m.columnFor t = .ok t := by
    intro t ht
    obtain ⟨c, -, hc⟩ := exists_of_mem_mapM htargets ht
    exact hm.wellFormed.idempotent c t hc
  have hrest : RefusedUnsent (do
      let row := m.withoutCreatedAt row
      let insertion ← m.queryTable.upsert (.dict row) (.list targets)
      let _ ← m.runWrite "upsert" (.insert insertion)
      let key ← conflictValues row targets
      let result ← m.findOne (.dict key) .null (.bool true)
      pure (result, result) : Action (Value × Value)) := by
    refine RefusedUnsent.lift_bind fun insertion hinsertion => ?_
    have hknown := QueryTable.known_of_upsert hinsertion
    refine NeverRefused.refusedUnsent ((neverRefused_runWrite _ _).bind fun _ => ?_)
    refine NeverRefused.lift_bind (unrefused_conflictValues _ _) fun key hkey => ?_
    have hkeys := keys_conflictValues_subset hkey
    exact (neverRefused_findOne (fun v hv => hfixed v (hkeys hv))
      fun v hv => hknown v (hkeys hv)).bind fun _ => NeverRefused.pure _
  dsimp only
  split
  · rw [mapM_lift]
    exact RefusedUnsent.lift_bind fun _ _ => RefusedUnsent.lift_bind fun _ _ => hrest
  · exact hrest

theorem refusedUnsent_updateWork (condition values : Value) :
    RefusedUnsent (m.updateWork condition values) := by
  refine RefusedUnsent.lift_bind fun row _ => RefusedUnsent.lift_bind fun _ _ =>
    emits_timestamp.bind_refusedUnsent fun now => RefusedUnsent.lift_bind fun _ _ =>
    RefusedUnsent.lift_bind fun change _ => ?_
  exact ((neverRefused_runWrite _ _).bind fun _ => NeverRefused.pure _).refusedUnsent

theorem refusedUnsent_destroyWork (force condition : Value) :
    RefusedUnsent (m.destroyWork force condition) := by
  refine RefusedUnsent.lift_bind fun columns _ => RefusedUnsent.lift_bind fun marks _ => ?_
  cases marks with
  | some deletedAt =>
    refine emits_timestamp.bind_refusedUnsent fun now => RefusedUnsent.lift_bind fun change _ => ?_
    exact ((neverRefused_runWrite _ _).bind fun _ => NeverRefused.pure _).refusedUnsent
  | none =>
    refine RefusedUnsent.lift_bind fun removal _ => ?_
    exact ((neverRefused_runWrite _ _).bind fun _ => NeverRefused.pure _).refusedUnsent

/-- Hooks before a write send nothing, and hooks after it are not refused. -/
theorem refusedUnsent_around {before after : HookSlot} {skip : Value}
    {prepared : Except Fault Value} {work : Value → Action (Value × Value)}
    (hwork : ∀ data, RefusedUnsent (work data)) :
    RefusedUnsent (m.around before after skip prepared work) := by
  have hbefore : ∀ data, Emits (fun e => ¬ e.IsStatement) (m.runBefore before data skip) :=
    fun _ => emits_runBefore fun _ => id
  refine RefusedUnsent.lift_bind fun data _ => (hbefore data).bind_refusedUnsent fun left => ?_
  refine (hwork left).bind fun done => ?_
  exact (neverRefused_runAfter after done.2 skip).bind fun _ => NeverRefused.pure done.1

theorem refusedUnsent_increment (columns condition amount : Value) :
    RefusedUnsent (m.increment columns condition amount) :=
  RefusedUnsent.lift_bind fun _ _ => RefusedUnsent.lift_bind fun _ _ =>
    RefusedUnsent.lift_bind fun _ _ => RefusedUnsent.lift_bind fun _ _ =>
    (neverRefused_runWrite _ _).refusedUnsent

theorem refusedUnsent_decrement (columns condition amount : Value) :
    RefusedUnsent (m.decrement columns condition amount) := by
  unfold decrement
  split
  · refine (Emits.mapM (fun _ => ?_) _).bind_refusedUnsent fun _ => refusedUnsent_increment _ _ _
    exact (Emits.lift _).bind fun _ => Emits.pure _
  · exact RefusedUnsent.lift_bind fun _ _ => refusedUnsent_increment _ _ _

theorem refusedUnsent_restore (condition : Value) : RefusedUnsent (m.restore condition) := by
  unfold restore
  split
  · exact (Emits.lift _).refusedUnsent
  · exact RefusedUnsent.lift_bind fun _ _ => RefusedUnsent.lift_bind fun _ _ =>
      (neverRefused_runWrite _ _).refusedUnsent

end ResolvedModel

/-! ## Calls -/

/-- The operations that send one write. -/
def RowOperation.singleWrites : List RowOperation :=
  [create, upsert, update, increment, decrement, destroy, restore]

namespace ResolvedModel

open Action

variable {m : ResolvedModel} {o : RowOperation}

/-- Each of them is refused before it sends anything. -/
theorem refusedUnsent_perform (hm : m.IsResolved) (ho : o ∈ RowOperation.singleWrites)
    (a : Named Value) : RefusedUnsent (o.perform m a) := by
  have haround : ∀ h : HookedOperation, RefusedUnsent (h.operation.perform m a) := by
    intro h
    rw [h.perform_eq_around]
    refine refusedUnsent_around fun data => ?_
    cases h with
    | create => exact refusedUnsent_createWork data
    | upsert => exact refusedUnsent_upsertWork hm _ data
    | update => exact refusedUnsent_updateWork _ data
    | destroy => exact refusedUnsent_destroyWork _ data
  simp only [RowOperation.singleWrites, List.mem_cons, List.not_mem_nil, or_false] at ho
  rcases ho with rfl | rfl | rfl | rfl | rfl | rfl | rfl
  · exact haround .create
  · exact haround .upsert
  · exact haround .update
  · exact refusedUnsent_increment _ _ _
  · exact refusedUnsent_decrement _ _ _
  · exact haround .destroy
  · exact refusedUnsent_restore _

/-- **A rejected write writes nothing.** Whatever a single write is called with, whatever hooks the
model has and whatever the engine answers: where the call is refused for an issue with what it was
asked for, it has sent no statement, neither one that writes nor any other. -/
theorem unsent_of_rejected (hm : m.IsResolved) (ho : o ∈ RowOperation.singleWrites) {c : Call}
    {s s' : Session} {issue : Issue}
    (h : s.perform (m.call o.name c) = (.error (.invalid issue), s')) :
    ∃ sent, s'.trace = s.trace ++ sent ∧ ∀ sql params, .executed sql params ∉ sent := by
  have hcall : RefusedUnsent (m.call o.name c) := by
    rw [call_name]
    exact RefusedUnsent.lift_bind fun a _ => refusedUnsent_perform hm ho a
  obtain ⟨sent, htrace, hsent⟩ := hcall s s' issue h
  exact ⟨sent, htrace, fun sql params hmem => hsent _ hmem trivial⟩

end ResolvedModel

/-! ## A hook that takes away what a conflict needs -/

/-- The message of a refusal for an issue. -/
def rejection? : Except Fault Value → Option String
  | .error (.invalid issue) => some issue.message
  | _ => none

theorem eq_error_of_rejection? {r : Except Fault Value} {message : String}
    (h : rejection? r = some message) :
    ∃ issue, r = .error (.invalid issue) ∧ issue.message = message := by
  unfold rejection? at h
  split at h
  · rename_i issue
    exact ⟨issue, rfl, Option.some.inj h⟩
  · cases h

/-- A task to be made, or changed if there is one of its title. -/
def packingUpsert : Call :=
  { args := [.dict [(.str "Title", .str "Pack")], .list [.str "Title"]] }

/-- The hook runs, the call is refused, and nothing is sent. -/
theorem unsent_of_packingUpsert :
    ∃ m issue s' sent, (ResolvedModel.IsResolved m ∧ m.hooks = { beforeInsert := [forgetTitle] }) ∧
      RowOperation.upsert ∈ RowOperation.singleWrites ∧
      noonSession.perform (m.call "upsert" packingUpsert) = (.error (.invalid issue), s') ∧
      issue.message = "upsert on Task needs values for conflict columns: title" ∧
      s'.trace = noonSession.trace ++ sent ∧
      sent.map Event.label = ["forget starts", "forget ends"] ∧
      ∀ sql params, .executed sql params ∉ sent := by
  have hrun : (do
      let m ← (DefinitionSource.built taskDefinition).resolve
      let m : ResolvedModel := { m with hooks := { beforeInsert := [forgetTitle] } }
      let (outcome, s') := noonSession.perform (m.call "upsert" packingUpsert)
      pure (rejection? outcome, s'.trace.map Event.label)).toOption =
      some (some "upsert on Task needs values for conflict columns: title",
        ["forget starts", "forget ends"]) := by
    decide +kernel
  obtain ⟨m, hm, hrest⟩ := bind_eq_ok.1 (eq_ok_of_toOption hrun)
  obtain ⟨hrejected, hlabels⟩ := Prod.mk.inj (pure_eq_ok.1 hrest)
  obtain ⟨issue, houtcome, hmessage⟩ := eq_error_of_rejection? hrejected
  have hresolved : ResolvedModel.IsResolved { m with hooks := { beforeInsert := [forgetTitle] } } :=
    ⟨.built taskDefinition, m.hooks, hm⟩
  have hupsert : RowOperation.upsert ∈ RowOperation.singleWrites := by decide
  have hperform := Prod.ext (y := (_, _)) houtcome rfl
  obtain ⟨sent, htrace, hsent⟩ := ResolvedModel.unsent_of_rejected hresolved hupsert hperform
  refine ⟨_, issue, _, sent, ⟨hresolved, rfl⟩, hupsert, hperform, hmessage, htrace, ?_, hsent⟩
  rw [← hlabels]
  exact congrArg (List.map Event.label) htrace.symm

end Tablewright
