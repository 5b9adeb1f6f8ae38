import Tablewright.Proofs.Query.Request
import Tablewright.Proofs.Session.World
import Tablewright.Session.RowOperation

/-!
# What operations on rows are made of

An operation looks at the clock, asks for defaults, runs hooks, and sends statements that the table
gives for requests; all else it does is computing outside of the session. `Action.MadeOf Part x`
says that `x` is such a sequence of parts, and `ResolvedModel.RowPart` which parts there are. What
holds of every part, of computing, and of a sequence if it holds of what the sequence consists of,
thus holds of every operation (`ResolvedModel.madeOf_perform`).
-/

namespace Tablewright

open Fallible

variable {α β : Type}

/-! ## Sequences of parts -/

/-- A step is made of parts: it is one, computes outside of the session, or goes on behind another
step with what that one gave. -/
inductive Action.MadeOf (Part : ⦃α : Type⦄ → Action α → Prop) : ⦃α : Type⦄ → Action α → Prop
  | part {α : Type} {x : Action α} (h : Part x) : MadeOf Part x
  | lift {α : Type} (y : Except Fault α) : MadeOf Part (liftM y : Action α)
  | bind {α β : Type} {x : Action α} {k : α → Action β} (hx : MadeOf Part x)
      (hk : ∀ a, MadeOf Part (k a)) : MadeOf Part (x >>= k)
  | lift_bind {α β : Type} {y : Except Fault α} {k : α → Action β}
      (h : ∀ a, y = .ok a → MadeOf Part (k a)) : MadeOf Part (liftM y >>= k)

namespace Action.MadeOf

variable {Part : ⦃α : Type⦄ → Action α → Prop} {x y : Action α}

theorem pure (a : α) : MadeOf Part (Pure.pure a : Action α) :=
  lift (.ok a)

theorem ite {p : Prop} [Decidable p] (hx : MadeOf Part x) (hy : MadeOf Part y) :
    MadeOf Part (if p then x else y) := by
  split
  · exact hx
  · exact hy

theorem map {f : α → β} (hx : MadeOf Part x) : MadeOf Part (f <$> x) := by
  rw [map_eq_pure_bind]
  exact hx.bind fun _ => pure _

theorem mapM {f : α → Action β} (h : ∀ a, MadeOf Part (f a)) (xs : List α) :
    MadeOf Part (xs.mapM f) := by
  induction xs with
  | nil => exact pure _
  | cons x xs ih =>
    rw [List.mapM_cons]
    exact (h x).bind fun _ => ih.bind fun _ => pure _

end Action.MadeOf

/-! ## Statements that write -/

/-- A statement adds, changes or removes rows. -/
def WritesRows (sql : String) : Prop :=
  "INSERT ".toList <+: sql.toList ∨ "UPDATE ".toList <+: sql.toList ∨
    "DELETE ".toList <+: sql.toList

/-- What begins otherwise writes no rows. -/
theorem not_writesRows {sql : String} {c : Char} {cs : List Char} (h : sql.toList = c :: cs)
    (hc : c ∉ ['I', 'U', 'D']) : ¬ WritesRows sql := by
  simp only [List.mem_cons, List.not_mem_nil, or_false, not_or] at hc
  rintro (⟨rest, hrest⟩ | ⟨rest, hrest⟩ | ⟨rest, hrest⟩) <;> rw [h] at hrest
  · exact hc.1 (List.cons.inj hrest).1.symm
  · exact hc.2.1 (List.cons.inj hrest).1.symm
  · exact hc.2.2 (List.cons.inj hrest).1.symm

theorem Selection.not_writesRows (s : Selection) : ¬ WritesRows (RowStatement.select s).sql :=
  Tablewright.not_writesRows ((RowStatement.select s).toList_sql.trans rfl) (by decide)

theorem Insertion.writesRows (i : Insertion) : WritesRows (RowStatement.insert i).sql := by
  left
  show _ <+: i.render.toList
  unfold Insertion.render
  simp only [String.toList_append, List.append_assoc]
  cases i.orIgnore
  · exact (show "INSERT ".toList <+: "INSERT INTO ".toList by decide).trans (List.prefix_append _ _)
  · exact (show "INSERT ".toList <+: "INSERT OR IGNORE INTO ".toList by decide).trans
      (List.prefix_append _ _)

theorem Change.writesRows (c : Change) : WritesRows (RowStatement.update c).sql := by
  right; left
  show _ <+: c.render.toList
  unfold Change.render
  simp only [String.toList_append, List.append_assoc]
  exact List.prefix_append _ _

theorem Removal.writesRows (r : Removal) : WritesRows (RowStatement.delete r).sql := by
  right; right
  show _ <+: r.render.toList
  unfold Removal.render
  rw [String.toList_append, String.toList_append, List.append_assoc]
  exact (show "DELETE ".toList <+: "DELETE FROM ".toList by decide).trans (List.prefix_append _ _)

namespace ResolvedModel

/-! ## The parts of operations on rows -/

/-- What operations on the rows of a model are made of, beside computing. -/
inductive RowPart (m : ResolvedModel) : ⦃α : Type⦄ → Action α → Prop
  /-- A look at the clock. -/
  | time : RowPart m Action.timestamp
  /-- A default that is asked for. -/
  | default (source : Value) : RowPart m (Action.callDefault source)
  /-- A look at the number of the row that was made last. -/
  | lastRow : RowPart m (do pure (← Action.database).lastRowId)
  /-- The hooks of a slot. -/
  | hooks (slot : HookSlot) (data : Value) (isolate : Bool) :
      RowPart m (Action.runHookList (m.hooks.get slot) data isolate)
  /-- The first row of a selection. -/
  | first (kind : RequestKind) (a : Named Value) {s : Selection}
      (h : kind.statement m.queryTable a = .ok (.select s)) : RowPart m (fetchFirst s)
  /-- All rows of a selection. -/
  | rows (kind : RequestKind) (a : Named Value) {s : Selection}
      (h : kind.statement m.queryTable a = .ok (.select s)) :
      RowPart m (Action.rows (RowStatement.select s).sql (RowStatement.select s).params)
  /-- A statement that writes. Beside what it is asked for, an update counts versions only. -/
  | write (kind : RequestKind) (a : Named Value) (operation : String) {s : RowStatement}
      (h : kind.statement m.queryTable a = .ok s) (hkind : kind ≠ .truncate)
      (hwrites : WritesRows s.sql)
      (hexpressions : kind = .update → (a.argument "expressions").entryList = [] ∨
        a.argument "expressions" = .dict m.versionStep) : RowPart m (m.runWrite operation s)

open Action (MadeOf)

variable {m : ResolvedModel} {slot : HookSlot} {operation : String}
  {values condition order limit offset withDeleted data skip : Value}

/-! ### Requests -/

theorem madeOf_insert {orIgnore : Value} {i : Insertion}
    (h : m.queryTable.insert values orIgnore = .ok i) :
    MadeOf (RowPart m) (m.runWrite operation (.insert i)) :=
  .part (.write .insert [("values", values), ("or_ignore", orIgnore)] operation
    (map_eq_ok.2 ⟨i, h, rfl⟩) nofun i.writesRows nofun)

theorem madeOf_insertOrChange {conflict : Value} {i : Insertion}
    (h : m.queryTable.upsert values conflict = .ok i) :
    MadeOf (RowPart m) (m.runWrite operation (.insert i)) :=
  .part (.write .upsert [("values", values), ("conflict", conflict)] operation
    (map_eq_ok.2 ⟨i, h, rfl⟩) nofun i.writesRows nofun)

theorem madeOf_change {expressions : Value} {c : Change}
    (h : m.queryTable.update values condition expressions = .ok c)
    (hexpressions : expressions.entryList = [] ∨ expressions = .dict m.versionStep) :
    MadeOf (RowPart m) (m.runWrite operation (.update c)) :=
  .part (.write .update [("values", values), ("where", condition), ("expressions", expressions)]
    operation (map_eq_ok.2 ⟨c, h, rfl⟩) nofun c.writesRows fun _ => hexpressions)

theorem madeOf_growth {deltas : Value} {c : Change}
    (h : m.queryTable.increment deltas condition = .ok c) :
    MadeOf (RowPart m) (m.runWrite operation (.update c)) :=
  .part (.write .increment [("deltas", deltas), ("where", condition)] operation
    (map_eq_ok.2 ⟨c, h, rfl⟩) nofun c.writesRows nofun)

theorem madeOf_removal {r : Removal} (h : m.queryTable.delete condition = .ok r) :
    MadeOf (RowPart m) (m.runWrite operation (.delete r)) :=
  .part (.write .delete [("where", condition)] operation (map_eq_ok.2 ⟨r, h, rfl⟩) nofun
    r.writesRows nofun)

/-- The first row for a key. -/
theorem madeOf_fetchByKey {key : Value} {s : Selection}
    (h : m.queryTable.selectByKey key withDeleted = .ok s) :
    MadeOf (RowPart m) (fetchFirst s) :=
  .part (.first .selectByKey [("value", key), ("with_deleted", withDeleted)]
    (map_eq_ok.2 ⟨s, h, rfl⟩))

/-! ### Hooks -/

theorem madeOf_runBefore : MadeOf (RowPart m) (m.runBefore slot data skip) :=
  .lift_bind fun _ _ => .ite (.pure _) (.part (.hooks slot data false))

theorem madeOf_runAfter : MadeOf (RowPart m) (m.runAfter slot data skip) :=
  .lift_bind fun _ _ => .ite (.pure _) ((MadeOf.part (.hooks slot data true)).bind fun _ => .pure _)

/-! ### Reading -/

theorem madeOf_findAll : MadeOf (RowPart m) (m.findAll condition order limit offset withDeleted) :=
  .lift_bind fun columns _ => .lift_bind fun order _ => .lift_bind fun s hs =>
    .part (.rows .select
      [("where", .dict columns), ("order", order), ("limit", limit), ("offset", offset),
       ("with_deleted", withDeleted)] (map_eq_ok.2 ⟨s, hs, rfl⟩))

theorem madeOf_findByKey {key : Value} : MadeOf (RowPart m) (m.findByKey key withDeleted) :=
  .lift_bind fun _ hs => madeOf_fetchByKey hs

theorem madeOf_findOne : MadeOf (RowPart m) (m.findOne condition order withDeleted) :=
  .lift_bind fun columns _ => .lift_bind fun order _ => .lift_bind fun s hs =>
    .part (.first .selectOne
      [("where", .dict columns), ("order", order), ("with_deleted", withDeleted)]
      (map_eq_ok.2 ⟨s, hs, rfl⟩))

theorem madeOf_count : MadeOf (RowPart m) (m.count condition withDeleted) :=
  .lift_bind fun columns _ => .lift_bind fun s hs =>
    (MadeOf.part (.first .count [("where", .dict columns), ("with_deleted", withDeleted)]
      (map_eq_ok.2 ⟨s, hs, rfl⟩))).bind fun _ => .lift _

theorem madeOf_findAndCountAll :
    MadeOf (RowPart m) (m.findAndCountAll condition order limit offset withDeleted) :=
  madeOf_findAll.bind fun _ => madeOf_count.bind fun _ => .pure _

theorem madeOf_aggregate {function : String} {column : Value} :
    MadeOf (RowPart m) (m.aggregate function column condition) :=
  .lift_bind fun column _ => .lift_bind fun columns _ => .lift_bind fun s hs =>
    (MadeOf.part (.first .aggregate
      [("fn", .str function), ("column", column), ("where", .dict columns),
       ("with_deleted", .bool false)] (map_eq_ok.2 ⟨s, hs, rfl⟩))).bind fun _ => .lift _

/-! ### Inserting -/

theorem madeOf_fillDefaults (row : Mapping) (columns : Named Column) :
    MadeOf (RowPart m) (fillDefaults row columns) := by
  induction columns generalizing row with
  | nil => exact .pure _
  | cons c rest ih =>
    unfold fillDefaults
    split
    · exact .ite (ih row) ((MadeOf.part (.default _)).bind fun v => ih _)
    · exact ih row

theorem madeOf_insertValues : MadeOf (RowPart m) (m.insertValues values) :=
  .lift_bind fun _ _ => (madeOf_fillDefaults _ _).bind fun _ =>
    (MadeOf.part .time).bind fun _ => .pure _

theorem madeOf_fetchInserted {row : Mapping} : MadeOf (RowPart m) (m.fetchInserted row) := by
  have hrest : ∀ key : Value, MadeOf (RowPart m) (do
      let s ← m.queryTable.selectByKey key (.bool true)
      let found ← fetchFirst s
      found.orElse (.dict row) : Action Value) := fun _ =>
    .lift_bind fun _ hs => (madeOf_fetchByKey hs).bind fun _ => .lift _
  refine .ite (.pure _) (.ite ?_ (hrest _))
  have hlast := (MadeOf.part (RowPart.lastRow (m := m))).bind hrest
  exact hlast

theorem madeOf_create : MadeOf (RowPart m) (m.create values skip) :=
  .lift_bind fun _ _ => .lift_bind fun _ _ => madeOf_runBefore.bind fun _ =>
    madeOf_insertValues.bind fun _ => .lift_bind fun _ _ => .lift_bind fun _ hi =>
    (madeOf_insert hi).bind fun _ => madeOf_fetchInserted.bind fun _ =>
    madeOf_runAfter.bind fun _ => .pure _

theorem madeOf_createAll {records : Value} : MadeOf (RowPart m) (m.createAll records skip) :=
  .lift_bind fun _ _ => (MadeOf.mapM (fun _ => madeOf_create) _).bind fun _ => .pure _

theorem madeOf_upsert {conflict : Value} :
    MadeOf (RowPart m) (m.upsert values conflict skip) := by
  refine .lift_bind fun values _ => madeOf_runBefore.bind fun values => ?_
  refine madeOf_insertValues.bind fun row => .lift_bind fun _ _ => ?_
  refine .lift_bind fun _ _ => .lift_bind fun named _ => ?_
  refine (MadeOf.mapM (fun _ => .lift _) named).bind fun targets => ?_
  -- behind the check of the conflict columns both branches go on in the same way
  have hrest : MadeOf (RowPart m) (do
      let row := m.withoutCreatedAt row
      let insertion ← m.queryTable.upsert (.dict row) (.list targets)
      let _ ← m.runWrite "upsert" (.insert insertion)
      let key ← conflictValues row targets
      let result ← m.findOne (.dict key) .null (.bool true)
      m.runAfter .afterInsert result skip
      pure result : Action Value) :=
    .lift_bind fun _ hi => (madeOf_insertOrChange hi).bind fun _ => .lift_bind fun _ _ =>
      madeOf_findOne.bind fun _ => madeOf_runAfter.bind fun _ => .pure _
  exact .ite ((MadeOf.mapM (fun _ => .lift _) _).bind fun _ => .lift_bind fun _ _ => hrest) hrest

theorem madeOf_findOrCreate {defaults : Value} :
    MadeOf (RowPart m) (m.findOrCreate condition defaults) := by
  refine madeOf_findOne.bind fun found => .ite ?_ (.pure _)
  exact .lift_bind fun _ _ => .lift_bind fun _ _ => .lift_bind fun _ _ =>
    madeOf_create.bind fun _ => .pure _

/-! ### Changing -/

theorem madeOf_update : MadeOf (RowPart m) (m.update values condition skip) := by
  refine .lift_bind fun _ _ => .lift_bind fun _ _ => madeOf_runBefore.bind fun _ => ?_
  refine .lift_bind fun _ _ => .lift_bind fun _ _ => (MadeOf.part .time).bind fun _ => ?_
  refine .lift_bind fun _ _ => .lift_bind fun _ hchange => ?_
  exact (madeOf_change hchange (.inr rfl)).bind fun _ => madeOf_runAfter.bind fun _ => .pure _

theorem madeOf_increment {columns amount : Value} :
    MadeOf (RowPart m) (m.increment columns condition amount) :=
  .lift_bind fun _ _ => .lift_bind fun _ _ => .lift_bind fun _ _ =>
    .lift_bind fun _ hchange => madeOf_growth hchange

theorem madeOf_decrement {columns amount : Value} :
    MadeOf (RowPart m) (m.decrement columns condition amount) := by
  unfold decrement
  split
  · exact (MadeOf.mapM (fun _ => .lift_bind fun _ _ => .pure _) _).bind fun _ => madeOf_increment
  · exact .lift_bind fun _ _ => madeOf_increment

/-! ### Deleting -/

theorem madeOf_destroy {force : Value} : MadeOf (RowPart m) (m.destroy condition force skip) := by
  refine .lift_bind fun _ _ => .lift_bind fun _ _ => madeOf_runBefore.bind fun left => ?_
  refine .lift_bind fun columns _ => .lift_bind fun marks _ => ?_
  have hrest : ∀ changes : Value, MadeOf (RowPart m) (do
      m.runAfter .afterDelete left skip
      pure changes : Action Value) := fun _ => madeOf_runAfter.bind fun _ => .pure _
  cases marks with
  | some deletedAt =>
    refine (MadeOf.part .time).bind fun _ => .lift_bind fun _ hchange => ?_
    exact (madeOf_change hchange (.inl rfl)).bind hrest
  | none => exact .lift_bind fun _ hremoval => (madeOf_removal hremoval).bind hrest

theorem madeOf_restore : MadeOf (RowPart m) (m.restore condition) := by
  unfold restore
  split
  · exact .lift _
  · exact .lift_bind fun _ _ => .lift_bind fun _ hchange => madeOf_change hchange (.inl rfl)

/-- **Every operation but truncating is made of these parts.** -/
theorem madeOf_perform (a : Named Value) {o : RowOperation} (ho : o ≠ .truncate) :
    MadeOf (RowPart m) (o.perform m a) := by
  cases o with
  | findAll => exact madeOf_findAll.map
  | findByKey => exact madeOf_findByKey
  | findOne => exact madeOf_findOne
  | count => exact madeOf_count
  | findAndCountAll => exact madeOf_findAndCountAll
  | min => exact madeOf_aggregate
  | max => exact madeOf_aggregate
  | sum => exact madeOf_aggregate
  | average => exact madeOf_aggregate
  | create => exact madeOf_create
  | createAll => exact madeOf_createAll
  | upsert => exact madeOf_upsert
  | findOrCreate => exact madeOf_findOrCreate
  | update => exact madeOf_update
  | increment => exact madeOf_increment
  | decrement => exact madeOf_decrement
  | destroy => exact madeOf_destroy
  | restore => exact madeOf_restore
  | truncate => exact absurd rfl ho

end ResolvedModel

end Tablewright
