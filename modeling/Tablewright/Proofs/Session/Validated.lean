import Tablewright.Proofs.Session.Reads
import Tablewright.Proofs.Validation.Row

/-!
# Nothing unchecked is written

Between the check of a row and the statement that writes it the row is still changed: an upsert
leaves out the time of making, an update takes the count of changes out and puts the time of change
in. None of this adds a value that was not checked, but for that time
(`ResolvedModel.writesChecked_of_call`): whatever the values came from, arguments, hooks or defaults
that are called for one, what is bound for a column in front of the condition of a statement is what
is stored for a value with which nothing is wrong in that column.
-/

namespace Tablewright

open Fallible

/-! ## Checked values -/

namespace ResolvedModel

/-- Nothing is wrong with a value in a column. -/
def Accepts (m : ResolvedModel) (column : String) (v : Value) : Prop :=
  ∃ c, m.columns.get? column = some c ∧ checkValue v c = .ok []

/-- A value is the time that an update puts into the column for the time of change. -/
def Stamps (m : ResolvedModel) (o : HookedOperation) (column : String) (v : Value) : Prop :=
  o = .update ∧ m.updatedAt = some column ∧ ∃ now : Moment, v = .str now.stamp

/-- **What a statement binds, but for its condition, is checked.** -/
structure WritesChecked (m : ResolvedModel) (o : HookedOperation) (s : RowStatement) : Prop where
  /-- The text is that of the pieces. -/
  text : s.sql.toList = layOut s.pieces
  /-- Only places are written as question marks. -/
  unmarked : ∀ p ∈ s.pieces, p.place? = none → Unmarked p.text
  /-- The bound values are those that are written, then those that are asked for. -/
  params : s.params = boundValues (s.writes ++ s.filters)
  /-- They have their places in this order, those that are asked for behind the word for a
  condition. -/
  parts : ∃ front back, s.Parts front back
  /-- What is written is what is stored for an accepted value, or for the time of change. -/
  checked : ∀ b ∈ s.writes, ∃ v, v.storable = .ok b.value ∧
    (m.Accepts b.column v ∨ m.Stamps o b.column v)

/-- An entry of a row may be written, as far as its key names a column. -/
def MayWrite (m : ResolvedModel) (o : HookedOperation) (e : Value × Value) : Prop :=
  ∀ column ∈ m.columnNames, e.1.text? = some column →
    m.Accepts column e.2 ∨ m.Stamps o column e.2

variable {m : ResolvedModel} {o : HookedOperation} {row : Mapping} {kind : RequestKind}
  {a : Named Value} {s : RowStatement}

/-- **The statement of a request writes checked values** if the request asks for nothing else. -/
theorem writesChecked_of_statement (hm : m.IsResolved) (hcolumns : m.columnNames ≠ [])
    (h : kind.statement m.queryTable a = .ok s)
    (hexpressions : kind = .update → (a.argument "expressions").entryList = [] ∨
      a.argument "expressions" = .dict m.versionStep)
    (hwritten : ∀ e ∈ kind.written a, m.MayWrite o e) : m.WritesChecked o s := by
  obtain ⟨source, hooks, hsource⟩ := hm
  have hinPlace := bindsInPlace_of_statement hsource hcolumns hexpressions h
  refine ⟨hinPlace.text, hinPlace.unmarked, s.params_eq, s.exists_parts, fun b hb => ?_⟩
  obtain ⟨e, he, hcolumn, hvalue⟩ :=
    exists_of_mem_forall₂ (Compiled.of_statement h).writes hb
  -- the key names a column, or there would be no statement
  obtain ⟨column, hmem, htext⟩ := namesColumn_of_statement hcolumns h e.1
    (List.mem_append_left _ (List.mem_append_left _ (List.mem_map_of_mem he)))
  rw [Value.display_of_text? htext] at hcolumn
  rw [hcolumn]
  exact ⟨e.2, hvalue, hwritten e he column hmem htext⟩

/-! ## Rows behind their check -/

/-- **Of a row that was let through every entry may be written.** -/
theorem mayWrite_of_validateRow {u : Unit} (h : validateRow m.name m.columns (.dict row) = .ok u) :
    ∀ e ∈ row, m.MayWrite o e := by
  intro e he column hmem htext
  obtain ⟨c, hc⟩ := Named.exists_get?_of_mem hmem
  refine .inl ⟨c, hc, validateRow_eq_ok.1 h e he c ?_⟩
  rw [htext]
  exact hc

/-- An upsert leaves an entry out. -/
theorem withoutCreatedAt_subset (m : ResolvedModel) (row : Mapping) :
    m.withoutCreatedAt row ⊆ row := by
  unfold withoutCreatedAt
  split
  · exact List.filter_subset_self _
  · exact List.Subset.refl _

/-- An update leaves an entry out. -/
theorem withoutVersion_subset (m : ResolvedModel) (row : Mapping) : m.withoutVersion row ⊆ row := by
  unfold withoutVersion
  split
  · exact List.filter_subset_self _
  · exact List.Subset.refl _

/-- **The time of change is the only value that an update adds.** -/
theorem mayWrite_withUpdatedAt (now : Moment) (h : ∀ e ∈ row, m.MayWrite .update e) :
    ∀ e ∈ m.withUpdatedAt now.stamp row, m.MayWrite .update e := by
  unfold withUpdatedAt
  split
  case h_1 updatedAt hupdated =>
    intro e he
    rcases Mapping.mem_put he with he | ⟨hkey, hvalue⟩
    · exact h e he
    · intro column _ htext
      rw [htext] at hkey
      exact .inr ⟨rfl, hkey ▸ hupdated, now, hvalue⟩
  case h_2 => exact h

/-! ## What the operations send -/

open Action

/-- An event that writes rows sends a statement of checked values, or is part of the entry of the
log about one. -/
def Checks (m : ResolvedModel) (o : HookedOperation) : Event → Prop
  | .executed sql params => WritesRows sql → ∃ statement, m.WritesChecked o statement ∧
      (sql = statement.sql ∧ params = statement.params ∨
        ∃ changes, .executed sql params ∈ (m.logEntry o.operation.name statement changes).events)
  | _ => True

theorem checks_hook (e : HookEvent) : m.Checks o (.hook e) :=
  trivial

/-- Reading writes nothing. -/
theorem checks_of_reads {withDeleted : Value} {event : Event} (h : m.Reads withDeleted event) :
    m.Checks o event := by
  obtain ⟨q, -, rfl⟩ := h
  rw [← q.executed_select]
  exact fun hwrites => absurd hwrites q.not_writesRows

/-- **What writes a checked statement sends nothing else that writes**, but for the log. -/
theorem emits_runWrite_of_writesChecked (h : m.WritesChecked o s) :
    (m.runWrite o.operation.name s).Emits (m.Checks o) := by
  refine emits_runWrite (fun _ => ⟨s, h, .inl ⟨rfl, rfl⟩⟩) fun changes event hevent => ?_
  cases event with
  | executed sql params => exact fun _ => ⟨s, h, .inr ⟨changes, hevent⟩⟩
  | _ => trivial

section Hooks

variable {P : Event → Prop} {before after slot : HookSlot} {data outcome skip : Value}

/-- What runs before a write emits what its hooks do. -/
theorem emits_runBefore (hhook : ∀ e, P (.hook e)) : (m.runBefore slot data skip).Emits P :=
  Emits.lift_bind fun skipped _ => by
    split
    · exact Emits.pure data
    · exact emits_runHookList hhook _ _ _

/-- What runs after a write emits what its hooks do. -/
theorem emits_runAfter (hhook : ∀ e, P (.hook e)) : (m.runAfter slot outcome skip).Emits P :=
  Emits.lift_bind fun skipped _ => by
    split
    · exact Emits.pure ()
    · exact (emits_runHookList hhook _ _ _).bind fun _ => Emits.pure ()

/-- A write with hooks around it emits what they do, and what its work does. -/
theorem emits_around {prepared : Except Fault Value} {work : Value → Action (Value × Value)}
    (hhook : ∀ e, P (.hook e)) (hwork : ∀ data, (work data).Emits P) :
    (m.around before after skip prepared work).Emits P :=
  Emits.lift_bind fun _ _ => (emits_runBefore hhook).bind fun left => (hwork left).bind fun done =>
    (emits_runAfter hhook).bind fun _ => Emits.pure done.1

/-- An operation with hooks around it emits what they do, and what its work does. -/
theorem emits_perform_of_work {a : Named Value} (o : HookedOperation) (hhook : ∀ e, P (.hook e))
    (hwork : ∀ data, (o.work m a data).Emits P) : (o.operation.perform m a).Emits P := by
  rw [o.perform_eq_around]
  exact emits_around hhook hwork

end Hooks

variable (hm : m.IsResolved) (hcolumns : m.columnNames ≠ [])

include hm hcolumns

/-- Creating a row checks it before it is sent. -/
theorem emits_createWork (values : Value) : (m.createWork values).Emits (m.Checks .create) := by
  refine (quiet_insertValues values).1.emits.bind fun row => Emits.lift_bind fun _ hvalid =>
    Emits.lift_bind fun insertion hinsertion => ?_
  have hstatement : RequestKind.insert.statement m.queryTable
      [("values", .dict row), ("or_ignore", .bool false)] = .ok (.insert insertion) :=
    map_eq_ok.2 ⟨insertion, hinsertion, rfl⟩
  have hchecked : m.WritesChecked .create (.insert insertion) :=
    writesChecked_of_statement hm hcolumns hstatement nofun (mayWrite_of_validateRow hvalid)
  refine (emits_runWrite_of_writesChecked hchecked).bind fun _ => ?_
  exact (emits_fetchInserted.imp fun _ => checks_of_reads).bind fun _ => Emits.pure _

/-- An upsert checks the row before it leaves out the time of making. -/
theorem emits_upsertWork (conflict values : Value) :
    (m.upsertWork conflict values).Emits (m.Checks .upsert) := by
  refine (quiet_insertValues values).1.emits.bind fun row => Emits.lift_bind fun _ hvalid =>
    Emits.lift_bind fun _ _ => Emits.lift_bind fun _ _ => ?_
  refine (Quiet.mapM (fun _ => .lift _) _).1.emits.bind fun targets => ?_
  have hrest : Emits (m.Checks .upsert) (do
      let row := m.withoutCreatedAt row
      let insertion ← m.queryTable.upsert (.dict row) (.list targets)
      let _ ← m.runWrite "upsert" (.insert insertion)
      let key ← conflictValues row targets
      let result ← m.findOne (.dict key) .null (.bool true)
      pure (result, result) : Action (Value × Value)) := by
    refine Emits.lift_bind fun insertion hinsertion => ?_
    have hstatement : RequestKind.upsert.statement m.queryTable
        [("values", .dict (m.withoutCreatedAt row)), ("conflict", .list targets)] =
          .ok (.insert insertion) := map_eq_ok.2 ⟨insertion, hinsertion, rfl⟩
    have hchecked : m.WritesChecked .upsert (.insert insertion) :=
      writesChecked_of_statement hm hcolumns hstatement nofun fun e he =>
        mayWrite_of_validateRow hvalid e (m.withoutCreatedAt_subset row he)
    refine (emits_runWrite_of_writesChecked hchecked).bind fun _ => Emits.lift_bind fun _ _ => ?_
    exact (emits_findOne.imp fun _ => checks_of_reads).bind fun _ => Emits.pure _
  dsimp only
  split
  · exact (Quiet.mapM (fun _ => .lift _) _).1.emits.bind fun _ => Emits.lift_bind fun _ _ => hrest
  · exact hrest

/-- An update checks the row before it puts the time of change in and the count of changes out. -/
theorem emits_updateWork (condition values : Value) :
    (m.updateWork condition values).Emits (m.Checks .update) := by
  refine Emits.lift_bind fun row _ => Emits.lift_bind fun _ hvalid => ?_
  refine emits_timestamp_bind fun now => ?_
  refine Emits.lift_bind fun columns _ => Emits.lift_bind fun change hchange => ?_
  have hstatement : RequestKind.update.statement m.queryTable
      [("values", .dict (m.withoutVersion (m.withUpdatedAt now.stamp row))),
       ("where", .dict columns), ("expressions", .dict m.versionStep)] = .ok (.update change) :=
    map_eq_ok.2 ⟨change, hchange, rfl⟩
  -- the time is put in behind the check, and nothing else is
  have hwritten : ∀ e ∈ m.withUpdatedAt now.stamp row, m.MayWrite .update e :=
    mayWrite_withUpdatedAt now (mayWrite_of_validateRow hvalid)
  have hchecked : m.WritesChecked .update (.update change) :=
    writesChecked_of_statement hm hcolumns hstatement (fun _ => .inr rfl) fun e he =>
      hwritten e (m.withoutVersion_subset _ he)
  exact (emits_runWrite_of_writesChecked hchecked).bind fun _ => Emits.pure _

/-- **What writes values sends nothing unchecked**, however it is called. -/
theorem emits_writingCall (ho : o ≠ .destroy) (c : Call) :
    (m.call o.operation.name c).Emits (m.Checks o) := by
  rw [call_name]
  refine Emits.lift_bind fun _ _ => emits_perform_of_work o checks_hook fun data => ?_
  cases o with
  | create => exact emits_createWork hm hcolumns data
  | upsert => exact emits_upsertWork hm hcolumns _ data
  | update => exact emits_updateWork hm hcolumns _ data
  | destroy => exact absurd rfl ho

/-- **Nothing unchecked is written.** Whatever a row is made of, and whatever hooks a model has: of
all that a call to create, upsert or update sends, each statement that writes rows binds, but for
its condition, only what is stored for a value with which nothing is wrong in the column that it is
bound for, or for the time of change that an update adds. The log of operations, if one is kept, has
entries about such statements only. -/
theorem writesChecked_of_call (ho : o ≠ .destroy) (c : Call) (s : Session) :
    ∃ sent, (s.perform (m.call o.operation.name c)).2.trace = s.trace ++ sent ∧
      ∀ sql params, .executed sql params ∈ sent → WritesRows sql →
        ∃ statement, m.WritesChecked o statement ∧
          (sql = statement.sql ∧ params = statement.params ∨
            ∃ changes, .executed sql params ∈
              (m.logEntry o.operation.name statement changes).events) := by
  obtain ⟨sent, htrace, hsent⟩ := emits_writingCall hm hcolumns ho c s
  exact ⟨sent, htrace, fun sql params hmem => hsent _ hmem⟩

end ResolvedModel

/-! ## A hook, a default and a time -/

/-- A ticket, whose code must be short and whose state is asked for where none is given. -/
def ticketDefinition : ModelDefinition :=
  { name := .str "Ticket"
    columns :=
      [(.str "code",
        { type := .str "TEXT"
          validate := .dict [(.str "len", .list [.int 1, .int 8])] }),
       (.str "state",
        { type := .str "TEXT", defaultValue := some (.producer 0 [.str "open"])
          validate := .dict [(.str "isIn", .list [.str "open", .str "done"])] })] }

/-- A hook that shortens the code. -/
def shorten : Value :=
  .hook
    { name := "shorten", actions := [.set (.str "code") (.str "A-1")], awaited := false
      isObject := false }

/-- The hooks of tickets. -/
def ticketHooks : HookLists :=
  { beforeInsert := [shorten] }

/-- A ticket to be made. -/
def makingTicket : Call :=
  { args := [.dict [(.str "code", .str "a much longer code")]] }

/-- A change of it. -/
def closingTicket : Call :=
  { args := [.dict [(.str "state", .str "done")], .dict [(.str "code", .str "A-1")]] }

/-- Both calls, with what happens in each. -/
def ticketTurns : List (HookedOperation × Call × List String) :=
  [(.create, makingTicket,
    ["shorten starts", "shorten ends",
     "INSERT INTO Ticket (code, state, createdAt, updatedAt) VALUES (?, ?, ?, ?)",
     "SELECT * FROM Ticket WHERE id = ? LIMIT 1"]),
   (.update, closingTicket, ["UPDATE Ticket SET state = ?, updatedAt = ? WHERE code = ?"])]

/-- A code that is too long is written as the hook left it, beside a state that was asked for; and a
change is written with its time. -/
theorem writesChecked_of_ticketTurns :
    ∃ m, (ResolvedModel.IsResolved m ∧ m.columnNames ≠ [] ∧ m.hooks = ticketHooks) ∧
      ∀ turn ∈ ticketTurns, turn.1 ≠ .destroy ∧
        ∃ sent, (noonSession.perform (m.call turn.1.operation.name turn.2.1)).2.trace =
            noonSession.trace ++ sent ∧
          sent.map Event.label = turn.2.2 ∧
          ∀ sql params, .executed sql params ∈ sent → WritesRows sql →
            ∃ statement, m.WritesChecked turn.1 statement ∧
              (sql = statement.sql ∧ params = statement.params ∨
                ∃ changes, .executed sql params ∈
                  (m.logEntry turn.1.operation.name statement changes).events) := by
  have hrun : (do
      let m ← (DefinitionSource.built ticketDefinition).resolve
      let m : ResolvedModel := { m with hooks := ticketHooks }
      pure (m.columnNames.isEmpty, ticketTurns.map fun turn : HookedOperation × Call × _ =>
        (noonSession.perform (m.call turn.1.operation.name turn.2.1)).2.trace.map
          Event.label)).toOption = some (false, ticketTurns.map fun turn => turn.2.2) := by
    decide +kernel
  obtain ⟨m, hm, hrest⟩ := bind_eq_ok.1 (eq_ok_of_toOption hrun)
  obtain ⟨hempty, hlabels⟩ := Prod.mk.inj (pure_eq_ok.1 hrest)
  have hresolved : ResolvedModel.IsResolved { m with hooks := ticketHooks } :=
    ⟨.built ticketDefinition, m.hooks, hm⟩
  have hcolumns : ResolvedModel.columnNames { m with hooks := ticketHooks } ≠ [] := by
    rw [ne_eq, ← List.isEmpty_iff, hempty]
    exact Bool.false_ne_true
  have hwrites : ∀ turn ∈ ticketTurns, turn.1 ≠ .destroy := by decide
  refine ⟨_, ⟨hresolved, hcolumns, rfl⟩, fun turn hturn => ?_⟩
  obtain ⟨sent, htrace, hsent⟩ := ResolvedModel.writesChecked_of_call hresolved hcolumns
    (hwrites turn hturn) turn.2.1 noonSession
  refine ⟨hwrites turn hturn, sent, htrace, ?_, hsent⟩
  rw [← List.map_inj_left.1 hlabels turn hturn, htrace]
  rfl

end Tablewright
