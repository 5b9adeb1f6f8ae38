import Tablewright.Proofs.ResolvedModel
import Tablewright.Proofs.Schema.Statement
import Tablewright.Proofs.Schema.Table
import Tablewright.Proofs.Session.Schema

/-!
# The statements about the schema in a trace

A trace holds more than the statements that make the schema: settings of the connection, and the log
of operations. `schemaTexts` leaves those aside. No statement of a compiled schema is left aside
with them, whatever it makes (`Creates.schemaText?`): that of the log begins its body with a
line feed, and that of a model never does.
-/

namespace Tablewright

open Fallible

/-- The text of an event that sends a statement about the schema: neither a setting of the
connection nor one that keeps the log. -/
def Event.schemaText? : Event → Option String
  | .executed sql _ =>
    if "PRAGMA ".toList.isPrefixOf sql.toList || sql == createLog || sql == insertLogEntry then none
    else some sql
  | _ => none

/-- The statements about the schema in a trace, in order. -/
def schemaTexts (trace : List Event) : List String :=
  trace.filterMap Event.schemaText?

theorem schemaTexts_append (trace trace' : List Event) :
    schemaTexts (trace ++ trace') = schemaTexts trace ++ schemaTexts trace' :=
  List.filterMap_append

/-! ## Telling texts apart -/

/-- Texts that begin differently are different. -/
theorem ne_of_leads {lead lead' s t : String} (h : ¬ lead.toList <+: lead'.toList)
    (h' : ¬ lead'.toList <+: lead.toList) : lead ++ s ≠ lead' ++ t := by
  intro heq
  have hs : lead.toList <+: (lead ++ s).toList := by
    rw [String.toList_append]
    exact List.prefix_append _ _
  have ht : lead'.toList <+: (lead ++ s).toList := by
    rw [heq, String.toList_append]
    exact List.prefix_append _ _
  exact (List.prefix_or_prefix_of_prefix hs ht).elim h h'

/-- Whether a text begins with the given words. -/
def begins (words text : String) : Bool :=
  words.toList.isPrefixOf text.toList

/-- A text begins with its own opening. -/
theorem begins_append (words s : String) : begins words (words ++ s) = true := by
  rw [begins, List.isPrefixOf_iff_prefix, String.toList_append]
  exact List.prefix_append _ _

/-- It begins with no opening that differs from its own. -/
theorem begins_eq_false {words lead s : String} (h : ¬ words.toList <+: lead.toList)
    (h' : ¬ lead.toList <+: words.toList) : begins words (lead ++ s) = false := by
  rw [begins, Bool.eq_false_iff, Ne, List.isPrefixOf_iff_prefix]
  rintro ⟨rest, hrest⟩
  refine ne_of_leads h h' (s := String.ofList rest) (t := s) ?_
  rw [← String.toList_inj, ← hrest, String.toList_append, String.toList_ofList]

/-- The statement that makes the log begins the body of its table with a line feed. -/
theorem exists_createLog_eq :
    ∃ rest, createLog = "CREATE TABLE IF NOT EXISTS _ops (\n" ++ rest := by
  unfold createLog
  simp only [String.append_assoc]
  exact ⟨_, rfl⟩

theorem exists_insertLogEntry_eq : ∃ rest, insertLogEntry = "INSERT INTO _ops " ++ rest := by
  have hlead : "INSERT INTO _ops (operation, target, sql, params, rows_affected, source) " =
      "INSERT INTO _ops " ++ "(operation, target, sql, params, rows_affected, source) " := by decide
  unfold insertLogEntry
  rw [hlead, String.append_assoc]
  exact ⟨_, rfl⟩

/-- A statement that makes a part of a schema, the names in its columns being identifiers. -/
def SchemaStatement.Creates : SchemaStatement → Prop
  | .createTable t => isIdentifier t.name = true ∧ ∀ c ∈ t.columns, isIdentifier c.name = true
  | .createIndex _ | .createTrigger _ | .createView _ => True
  | .dropTable _ | .dropView _ => False

theorem CreateTable.exists_render_eq (t : CreateTable) :
    ∃ tail, t.render = "CREATE TABLE " ++ tail := by
  unfold render
  simp only [String.append_assoc]
  exact ⟨_, rfl⟩

theorem CreateIndex.exists_render_eq (i : CreateIndex) :
    ∃ tail, i.render = "CREATE " ++ wordIf i.unique "UNIQUE" ++ "INDEX " ++ tail := by
  unfold render
  simp only [String.append_assoc]
  exact ⟨_, rfl⟩

theorem CreateTrigger.exists_render_eq (t : CreateTrigger) :
    ∃ tail, t.render = "CREATE TRIGGER " ++ tail := by
  unfold render
  simp only [String.append_assoc]
  exact ⟨_, rfl⟩

theorem CreateView.exists_render_eq (v : CreateView) :
    ∃ tail, v.render = "CREATE " ++ wordIf v.temporary "TEMPORARY" ++ "VIEW " ++ tail := by
  unfold render
  simp only [String.append_assoc]
  exact ⟨_, rfl⟩

namespace SchemaStatement

variable {statement : SchemaStatement}

theorem IsBeside.creates (h : statement.IsBeside) : statement.Creates := by
  cases statement with
  | createTable t => exact absurd h id
  | createIndex i => trivial
  | createTrigger t => trivial
  | createView v => trivial
  | dropTable name => exact absurd h id
  | dropView name => exact absurd h id

/-- Whatever a statement makes, it begins with the same word. -/
theorem Creates.exists_render_eq (h : statement.Creates) :
    ∃ tail, statement.render = "CREATE " ++ tail := by
  cases statement with
  | createTable t =>
    obtain ⟨tail, htail⟩ := t.exists_render_eq
    have hlead : "CREATE TABLE " = "CREATE " ++ "TABLE " := by decide
    exact ⟨_, by rw [render_createTable, htail, hlead, String.append_assoc]⟩
  | createIndex i =>
    obtain ⟨tail, htail⟩ := i.exists_render_eq
    exact ⟨_, by rw [render_createIndex, htail, String.append_assoc, String.append_assoc]⟩
  | createTrigger t =>
    obtain ⟨tail, htail⟩ := t.exists_render_eq
    have hlead : "CREATE TRIGGER " = "CREATE " ++ "TRIGGER " := by decide
    exact ⟨_, by rw [render_createTrigger, htail, hlead, String.append_assoc]⟩
  | createView v =>
    obtain ⟨tail, htail⟩ := v.exists_render_eq
    exact ⟨_, by rw [render_createView, htail, String.append_assoc, String.append_assoc]⟩
  | dropTable name => exact absurd h id
  | dropView name => exact absurd h id

end SchemaStatement

/-! ## The log of operations -/

/-- The text holds a character, and the first one is no line feed. -/
def BeginsInLine (s : String) : Prop :=
  ∃ c, s.toList.head? = some c ∧ c ≠ '\n'

theorem BeginsInLine.append {s : String} (h : BeginsInLine s) (t : String) :
    BeginsInLine (s ++ t) := by
  obtain ⟨c, hs, hc⟩ := h
  exact ⟨c, by rw [String.toList_append, List.head?_append, hs, Option.some_or], hc⟩

theorem BeginsInLine.intercalate {s : String} (h : BeginsInLine s) (sep : String)
    (rest : List String) : BeginsInLine (sep.intercalate (s :: rest)) := by
  obtain ⟨c, hs, hc⟩ := h
  exact ⟨c, by rw [toList_intercalate_cons, List.head?_append, hs, Option.some_or], hc⟩

theorem beginsInLine_of_isIdentifier {s : String} (h : isIdentifier s = true) : BeginsInLine s := by
  obtain ⟨c, cs, hs, hc⟩ := exists_begins_of_isIdentifier h
  refine ⟨c, by rw [hs, List.head?_cons], ?_⟩
  rintro rfl
  exact absurd hc (by decide)

theorem ForeignKey.beginsInLine (k : ForeignKey) : BeginsInLine k.render := by
  have hlead : BeginsInLine "FOREIGN KEY (" := ⟨'F', by decide, by decide⟩
  unfold render
  exact ((((((hlead.append _).append _).append _).append _).append _).append _).intercalate " " _

theorem ConstraintBody.beginsInLine (body : ConstraintBody) : BeginsInLine body.render := by
  have hcheck : BeginsInLine "CHECK (" := ⟨'C', by decide, by decide⟩
  have hunique : BeginsInLine "UNIQUE " := ⟨'U', by decide, by decide⟩
  have hprimary : BeginsInLine "PRIMARY KEY " := ⟨'P', by decide, by decide⟩
  have hforeign : BeginsInLine "FOREIGN KEY " := ⟨'F', by decide, by decide⟩
  unfold render
  cases body with
  | check expression => exact (hcheck.append _).append _
  | unique columns => exact hunique.append _
  | primaryKey columns => exact hprimary.append _
  | foreignKey columns table keys actions =>
    exact ((((hforeign.append _).append _).append _).append _).intercalate " " _

theorem TableConstraint.beginsInLine (c : TableConstraint) : BeginsInLine c.render := by
  have hlead : BeginsInLine "CONSTRAINT " := ⟨'C', by decide, by decide⟩
  unfold render
  cases c.name with
  | none => exact c.body.beginsInLine
  | some name => exact ((hlead.append _).append _).append _

/-- Each part of the body of a table begins with a word. -/
theorem CreateTable.beginsInLine_of_mem_body {t : CreateTable} {part : String}
    (hcolumns : ∀ c ∈ t.columns, isIdentifier c.name = true) (h : part ∈ t.body) :
    BeginsInLine part := by
  rw [body, List.mem_append, List.mem_append, List.mem_map, List.mem_map, List.mem_map] at h
  rcases h with (⟨c, hc, rfl⟩ | ⟨k, -, rfl⟩) | ⟨c, -, rfl⟩
  · exact (beginsInLine_of_isIdentifier (hcolumns c hc)).intercalate " " _
  · exact k.beginsInLine
  · exact c.beginsInLine

/-- No parenthesis stands before the body of a table. -/
theorem CreateTable.parenthesis_not_mem_opening {t : CreateTable}
    (h : isIdentifier t.name = true) : '(' ∉ t.opening := by
  have hword : '(' ∉ (wordIf t.ifNotExists "IF NOT EXISTS").toList := by
    cases t.ifNotExists <;> decide
  have hname := parenthesis_not_mem_identifier h
  unfold opening
  simp only [String.toList_append, List.mem_append, not_or]
  exact ⟨⟨⟨by decide, hword⟩, hname⟩, by decide⟩

/-- **The body of a table made for a model does not begin with a line feed**, so the statement is
not the one that makes the log. -/
theorem CreateTable.render_ne_createLog (t : CreateTable) (hname : isIdentifier t.name = true)
    (hcolumns : ∀ c ∈ t.columns, isIdentifier c.name = true) : t.render ≠ createLog := by
  intro heq
  obtain ⟨rest, hlog⟩ := exists_createLog_eq
  have hlead : "CREATE TABLE IF NOT EXISTS _ops (\n".toList =
      "CREATE TABLE IF NOT EXISTS _ops ".toList ++ ['(', '\n'] := by decide
  have hchars := congrArg String.toList heq
  rw [toList_render, hlog, String.toList_append, hlead, List.append_assoc,
    List.cons_append] at hchars
  -- the first parenthesis opens the body on both sides
  obtain ⟨-, hbody⟩ := append_cons_inj (parenthesis_not_mem_opening hname) (by decide) hchars
  cases hparts : t.body with
  | nil =>
    rw [hparts] at hbody
    exact absurd (List.cons.inj hbody).1 (by decide)
  | cons part parts =>
    have hpart : part ∈ t.body := by rw [hparts]; exact List.mem_cons_self
    obtain ⟨c, hhead, hc⟩ := (beginsInLine_of_mem_body hcolumns hpart).intercalate ", " parts
    have hfirst := congrArg List.head? hbody
    rw [hparts, commas, List.head?_append, hhead, Option.some_or] at hfirst
    exact hc (Option.some.inj hfirst)

theorem SchemaStatement.Creates.render_ne_createLog {statement : SchemaStatement}
    (h : statement.Creates) : statement.render ≠ createLog := by
  obtain ⟨rest, hlog⟩ := exists_createLog_eq
  cases statement with
  | createTable t =>
    rw [render_createTable]
    exact t.render_ne_createLog h.1 h.2
  | createIndex i =>
    obtain ⟨tail, htail⟩ := i.exists_render_eq
    rw [render_createIndex, htail, hlog]
    cases i.unique
    · exact ne_of_leads (by decide) (by decide)
    · exact ne_of_leads (by decide) (by decide)
  | createTrigger t =>
    obtain ⟨tail, htail⟩ := t.exists_render_eq
    rw [render_createTrigger, htail, hlog]
    exact ne_of_leads (by decide) (by decide)
  | createView v =>
    obtain ⟨tail, htail⟩ := v.exists_render_eq
    rw [render_createView, htail, hlog]
    cases v.temporary
    · exact ne_of_leads (by decide) (by decide)
    · exact ne_of_leads (by decide) (by decide)
  | dropTable name => exact absurd h id
  | dropView name => exact absurd h id

/-- **No statement that makes a part of a schema is left aside.** -/
theorem SchemaStatement.Creates.schemaText? {statement : SchemaStatement} (h : statement.Creates)
    (params : List Value) :
    (Event.executed statement.render params).schemaText? = some statement.render := by
  have hlog := h.render_ne_createLog
  obtain ⟨tail, htail⟩ := h.exists_render_eq
  have hentry : statement.render ≠ insertLogEntry := by
    obtain ⟨rest, hrest⟩ := exists_insertLogEntry_eq
    rw [htail, hrest]
    exact ne_of_leads (by decide) (by decide)
  have hpragma : "PRAGMA ".toList.isPrefixOf statement.render.toList = false := by
    rw [htail]
    exact begins_eq_false (by decide) (by decide)
  have hkept : ("PRAGMA ".toList.isPrefixOf statement.render.toList ||
      statement.render == createLog || statement.render == insertLogEntry) = false := by
    rw [hpragma, beq_eq_false_iff_ne.2 hlog, beq_eq_false_iff_ne.2 hentry]
    rfl
  rw [Event.schemaText?, hkept, if_neg Bool.false_ne_true]

/-! ## Compiled schemas -/

/-- **A schema makes things only**, and under identifiers. -/
theorem ResolvedModel.creates_of_mem_schema {m : ResolvedModel} {tables : Mapping}
    {statements : List SchemaStatement} {statement : SchemaStatement}
    (hname : isIdentifier m.tableName = true)
    (hcolumns : ∀ c ∈ m.columnNames, isIdentifier c = true)
    (h : m.schema tables = .ok statements) (hmem : statement ∈ statements) : statement.Creates := by
  obtain ⟨t, rest, ht, rfl, hrest⟩ := exists_createTable_of_schema h
  rcases List.mem_cons.1 hmem with rfl | hmem
  · have hmade := madeFor_of_createTable ht
    refine ⟨hmade.name ▸ hname, fun clause hclause => ?_⟩
    obtain ⟨⟨name, c⟩, hc, hclause⟩ := exists_of_mem_mapM hmade.columns hclause
    rw [(Column.clause_eq_ok hclause).1]
    exact hcolumns name (List.mem_map_of_mem hc)
  · exact (hrest statement hmem).creates

/-! ## Traces -/

/-- What keeps the log is left aside. -/
theorem schemaTexts_logEvents (d : Database) (e : LogEntry) : schemaTexts (d.logEvents e) = [] := by
  have hcreate : (Event.executed createLog []).schemaText? = none := by
    rw [Event.schemaText?, if_pos]
    simp
  have hinsert : ∀ params, (Event.executed insertLogEntry params).schemaText? = none := by
    intro params
    rw [Event.schemaText?, if_pos]
    simp
  unfold schemaTexts Database.logEvents LogEntry.events
  split
  · cases e.paramsText <;> simp [hcreate, hinsert]
  · rfl

/-- **Of what is sent for some statements their texts are left.** -/
theorem schemaTexts_flatMap_schemaEvents (d : Database) (table source : String)
    {statements : List SchemaStatement} (h : ∀ statement ∈ statements, statement.Creates) :
    schemaTexts (statements.flatMap (d.schemaEvents table source)) =
      statements.map SchemaStatement.render := by
  induction statements with
  | nil => rfl
  | cons statement rest ih =>
    have hfirst : schemaTexts (d.schemaEvents table source statement) = [statement.render] := by
      rw [Database.schemaEvents, schemaTexts, List.filterMap_cons,
        (h statement List.mem_cons_self).schemaText?]
      exact congrArg _ (schemaTexts_logEvents d _)
    rw [List.flatMap_cons, schemaTexts_append, hfirst,
      ih fun s hs => h s (List.mem_cons_of_mem _ hs)]
    rfl

end Tablewright
