import Mathlib.Computability.Language
import Tablewright.Proofs.Query.Outline

/-!
# The sentences of selections

`SELECT * FROM t [WHERE c AND ...] [ORDER BY c d, ...] [LIMIT n [OFFSET n]]` as a language of texts:
an offset has its place behind a limit only. What a request for rows gives is such a sentence unless
it asks for an offset without a limit; then the offset stands where no sentence has one
(`ResolvedModel.sentence_iff_of_select`). That it is none is a matter of reading: the text can be
read in one way only, whatever the columns are named.
-/

namespace Tablewright

open Fallible

namespace SelectGrammar

open scoped Computability

variable {cs : List Char} {l : Language Char} {sep : String}

/-! ## The grammar -/

/-- A text as it stands. -/
def literal (s : String) : Language Char :=
  {s.toList}

/-- Something that may be left out. -/
def maybe (l : Language Char) : Language Char :=
  1 + l

/-- One or more, with a text between them. -/
def separated (sep : String) (l : Language Char) : Language Char :=
  l * (literal sep * l)∗

/-- The name of a table or of a column. -/
def name : Language Char :=
  {cs | isIdentifier (String.ofList cs) = true}

/-- One digit or more. -/
def digits : Language Char :=
  {cs | cs ≠ [] ∧ ∀ c ∈ cs, c.isDigit = true}

/-- A whole number. -/
def number : Language Char :=
  maybe (literal "-") * digits

/-- A condition on a column. -/
def condition : Language Char :=
  name * (literal " = ?" + literal " IS NULL")

/-- A term of an ordering. -/
def term : Language Char :=
  name * (literal " ASC" + literal " DESC")

/-- A selection of all rows. -/
def rows : Language Char :=
  literal "SELECT * FROM " * name

/-- The conditions on rows. -/
def conditions : Language Char :=
  literal " WHERE " * separated " AND " condition

/-- The ordering of rows. -/
def ordering : Language Char :=
  literal " ORDER BY " * separated ", " term

/-- The most rows. -/
def limit : Language Char :=
  literal " LIMIT " * number

/-- The rows left out at the start. -/
def offset : Language Char :=
  literal " OFFSET " * number

/-- A sentence without numbers of rows. -/
def unlimited : Language Char :=
  rows * maybe conditions * maybe ordering

/-- A sentence. -/
def sentence : Language Char :=
  unlimited * maybe (limit * maybe offset)

/-! ## What is in the languages -/

theorem mem_name {s : String} : s.toList ∈ name ↔ isIdentifier s = true := by
  change isIdentifier (String.ofList s.toList) = true ↔ _
  rw [String.ofList_toList]

theorem mem_maybe : cs ∈ maybe l ↔ cs = [] ∨ cs ∈ l := by
  rw [maybe, Language.mem_add, Language.mem_one]

/-- A text and something behind it. -/
theorem mem_literal_mul {s : String} : cs ∈ literal s * l ↔ ∃ x ∈ l, cs = s.toList ++ x := by
  rw [Language.mem_mul]
  constructor
  · rintro ⟨_, rfl, x, hx, rfl⟩
    exact ⟨x, hx, rfl⟩
  · rintro ⟨x, hx, rfl⟩
    exact ⟨_, rfl, x, hx, rfl⟩

/-- **What is separated is a list of members**, written one behind the other. -/
theorem mem_separated :
    cs ∈ separated sep l ↔
      ∃ x ∈ l, ∃ xs : List (List Char), (∀ y ∈ xs, y ∈ l) ∧
        cs = x ++ xs.flatMap fun y => sep.toList ++ y := by
  rw [separated, Language.mem_mul]
  constructor
  · rintro ⟨x, hx, _, hrest, rfl⟩
    obtain ⟨parts, rfl, hparts⟩ := Language.mem_kstar.1 hrest
    suffices ∃ xs : List (List Char), (∀ y ∈ xs, y ∈ l) ∧
        parts = xs.map fun y => sep.toList ++ y by
      obtain ⟨xs, hxs, rfl⟩ := this
      exact ⟨x, hx, xs, hxs, rfl⟩
    clear hrest
    induction parts with
    | nil => exact ⟨[], nofun, rfl⟩
    | cons part parts ih =>
      obtain ⟨hpart, hfurther⟩ := List.forall_mem_cons.1 hparts
      obtain ⟨y, hy, rfl⟩ := mem_literal_mul.1 hpart
      obtain ⟨ys, hys, rfl⟩ := ih hfurther
      exact ⟨y :: ys, List.forall_mem_cons.2 ⟨hy, hys⟩, rfl⟩
  · rintro ⟨x, hx, xs, hxs, rfl⟩
    refine ⟨x, hx, _, Language.mem_kstar.2 ⟨xs.map fun y => sep.toList ++ y, rfl, ?_⟩, rfl⟩
    exact List.forall_mem_map.2 fun y hy => mem_literal_mul.2 ⟨y, hxs y hy, rfl⟩

/-! ## What is written in a language -/

/-- A language is what is written for the values with a property. -/
def Writes {α : Type} (l : Language Char) (P : α → Prop) (write : α → String) : Prop :=
  ∀ cs, cs ∈ l ↔ ∃ a, P a ∧ (write a).toList = cs

variable {α : Type} {P : α → Prop} {write : α → String} {opening : String}

theorem writes_name : Writes name (fun s : String => isIdentifier s = true) id := by
  intro cs
  refine ⟨fun h => ⟨String.ofList cs, h, String.toList_ofList⟩, ?_⟩
  rintro ⟨s, hs, rfl⟩
  exact mem_name.2 hs

theorem writes_condition :
    Writes condition (fun c : Condition => isIdentifier c.column = true) Condition.text := by
  intro cs
  rw [condition, Language.mem_mul]
  constructor
  · rintro ⟨_, hname, _, hasked, rfl⟩
    obtain ⟨c, hc, rfl⟩ := (writes_name _).1 hname
    rcases (Language.mem_add _ _ _).1 hasked with rfl | rfl
    · exact ⟨.equals c, hc, String.toList_append⟩
    · exact ⟨.isNull c, hc, String.toList_append⟩
  · rintro ⟨c, hc, rfl⟩
    refine ⟨_, mem_name.2 hc, ?_⟩
    cases c with
    | isNull c => exact ⟨_, (Language.mem_add _ _ _).2 (.inr rfl), String.toList_append.symm⟩
    | equals c => exact ⟨_, (Language.mem_add _ _ _).2 (.inl rfl), String.toList_append.symm⟩

theorem writes_term :
    Writes term (fun t : OrderTerm => isIdentifier t.column = true) OrderTerm.render := by
  intro cs
  rw [term, Language.mem_mul]
  constructor
  · rintro ⟨_, hname, _, hdirection, rfl⟩
    obtain ⟨c, hc, rfl⟩ := (writes_name _).1 hname
    rcases (Language.mem_add _ _ _).1 hdirection with rfl | rfl
    · exact ⟨⟨c, .ascending⟩, hc, by simp [OrderTerm.render, Direction.keyword]⟩
    · exact ⟨⟨c, .descending⟩, hc, by simp [OrderTerm.render, Direction.keyword]⟩
  · rintro ⟨⟨c, d⟩, hc, rfl⟩
    refine ⟨_, mem_name.2 hc, ?_⟩
    cases d with
    | ascending =>
      exact ⟨_, (Language.mem_add _ _ _).2 (.inl rfl),
        by simp [OrderTerm.render, Direction.keyword]⟩
    | descending =>
      exact ⟨_, (Language.mem_add _ _ _).2 (.inr rfl),
        by simp [OrderTerm.render, Direction.keyword]⟩

/-- Members of a language are written for a list of values. -/
theorem Writes.exists_list (h : Writes l P write) {xs : List (List Char)} (hxs : ∀ y ∈ xs, y ∈ l) :
    ∃ as : List α, (∀ a ∈ as, P a) ∧ as.map (fun a => (write a).toList) = xs := by
  induction xs with
  | nil => exact ⟨[], nofun, rfl⟩
  | cons x xs ih =>
    obtain ⟨hx, hrest⟩ := List.forall_mem_cons.1 hxs
    obtain ⟨a, ha, rfl⟩ := (h x).1 hx
    obtain ⟨as, has, rfl⟩ := ih hrest
    exact ⟨a :: as, List.forall_mem_cons.2 ⟨ha, has⟩, rfl⟩

/-- A clause that lists something is written for a list, which is empty where it is left out. -/
theorem Writes.clause (h : Writes l P write) :
    Writes (maybe (literal opening * separated sep l)) (fun as : List α => ∀ a ∈ as, P a)
      fun as => if as.isEmpty then "" else opening ++ sep.intercalate (as.map write) := by
  have hwritten : ∀ (a : α) (as : List α),
      (opening ++ sep.intercalate ((a :: as).map write)).toList = opening.toList ++
        ((write a).toList ++ (as.map fun a => (write a).toList).flatMap (sep.toList ++ ·)) := by
    intro a as
    rw [String.toList_append, List.map_cons, toList_intercalate_cons, List.flatMap_map,
      List.flatMap_map]
  intro cs
  rw [mem_maybe, mem_literal_mul]
  constructor
  · rintro (rfl | ⟨_, hlist, rfl⟩)
    · exact ⟨[], nofun, rfl⟩
    · obtain ⟨x, hx, xs, hxs, rfl⟩ := mem_separated.1 hlist
      obtain ⟨a, ha, rfl⟩ := (h x).1 hx
      obtain ⟨as, has, rfl⟩ := h.exists_list hxs
      exact ⟨a :: as, List.forall_mem_cons.2 ⟨ha, has⟩, hwritten a as⟩
  · rintro ⟨as, has, rfl⟩
    cases as with
    | nil => exact .inl rfl
    | cons a as =>
      obtain ⟨ha, has⟩ := List.forall_mem_cons.1 has
      refine .inr ⟨_, mem_separated.2 ⟨_, (h _).2 ⟨a, ha, rfl⟩, _, ?_, rfl⟩, hwritten a as⟩
      exact List.forall_mem_map.2 fun b hb => (h _).2 ⟨b, has b hb, rfl⟩

theorem mem_conditions :
    cs ∈ maybe conditions ↔ ∃ ds : List Condition, (∀ d ∈ ds, isIdentifier d.column = true) ∧
      spaced (Outline.conditionWords ds) = cs := by
  simp only [Outline.spaced_conditionWords]
  exact writes_condition.clause cs

theorem mem_ordering :
    cs ∈ maybe ordering ↔ ∃ ts : List OrderTerm, (∀ t ∈ ts, isIdentifier t.column = true) ∧
      spaced (Outline.orderWords ts) = cs := by
  simp only [Outline.spaced_orderWords]
  exact writes_term.clause cs

/-- A clause with a number. -/
theorem mem_literal_mul_number {keyword : String} (h : " " ++ keyword ++ " " = opening) :
    cs ∈ literal opening * number ↔
      ∃ n : String, n.toList ∈ number ∧ spaced (Outline.numberWords keyword (some n)) = cs := by
  rw [mem_literal_mul]
  simp only [Outline.spaced_numberWords h, String.toList_append]
  constructor
  · rintro ⟨x, hx, rfl⟩
    refine ⟨String.ofList x, ?_, ?_⟩ <;> rw [String.toList_ofList]
    exact hx
  · rintro ⟨n, hn, rfl⟩
    exact ⟨n.toList, hn, rfl⟩

theorem mem_limit :
    cs ∈ limit ↔
      ∃ n : String, n.toList ∈ number ∧ spaced (Outline.numberWords "LIMIT" (some n)) = cs :=
  mem_literal_mul_number (by decide)

theorem mem_offset :
    cs ∈ offset ↔
      ∃ n : String, n.toList ∈ number ∧ spaced (Outline.numberWords "OFFSET" (some n)) = cs :=
  mem_literal_mul_number (by decide)

/-- The names and the numbers of an outline are such as sentences have. -/
def Legible (o : Outline) : Prop :=
  o.Spelt (fun c => isIdentifier c = true) fun n => n.toList ∈ number

/-- What begins with a sentence without numbers is the text of an outline up to what follows. -/
theorem mem_unlimited_mul :
    cs ∈ unlimited * l ↔
      ∃ (table : String) (ds : List Condition) (ts : List OrderTerm), isIdentifier table = true ∧
        (∀ d ∈ ds, isIdentifier d.column = true) ∧ (∀ t ∈ ts, isIdentifier t.column = true) ∧
        ∃ x ∈ l, "SELECT * FROM ".toList ++ table.toList ++ (spaced (Outline.conditionWords ds) ++
          (spaced (Outline.orderWords ts) ++ x)) = cs := by
  simp only [unlimited, rows, Language.mem_mul, mem_conditions, mem_ordering]
  constructor
  · rintro ⟨_, ⟨_, ⟨_, ⟨_, rfl, _, htable, rfl⟩, _, ⟨ds, hds, rfl⟩, rfl⟩, _, ⟨ts, hts, rfl⟩, rfl⟩,
      x, hx, rfl⟩
    obtain ⟨table, hname, rfl⟩ := (writes_name _).1 htable
    exact ⟨table, ds, ts, hname, hds, hts, x, hx, by simp only [id, List.append_assoc]⟩
  · rintro ⟨table, ds, ts, htable, hds, hts, x, hx, rfl⟩
    refine ⟨_, ⟨_, ⟨_, ⟨_, rfl, _, mem_name.2 htable, rfl⟩, _, ⟨ds, hds, rfl⟩, rfl⟩, _,
      ⟨ts, hts, rfl⟩, rfl⟩, x, hx, by simp only [List.append_assoc]⟩

/-- The numbers of rows of a sentence. -/
theorem mem_limits :
    cs ∈ maybe (limit * maybe offset) ↔
      ∃ n? k? : Option String, (∀ n ∈ n?, n.toList ∈ number) ∧ (∀ k ∈ k?, k.toList ∈ number) ∧
        (k? ≠ none → n? ≠ none) ∧
        spaced (Outline.numberWords "LIMIT" n?) ++ spaced (Outline.numberWords "OFFSET" k?) =
          cs := by
  rw [mem_maybe, Language.mem_mul]
  constructor
  · rintro (rfl | ⟨x, hx, y, hy, rfl⟩)
    · exact ⟨none, none, nofun, nofun, id, rfl⟩
    · obtain ⟨n, hn, rfl⟩ := mem_limit.1 hx
      rcases mem_maybe.1 hy with rfl | hy
      · exact ⟨some n, none, by simpa using hn, nofun, nofun, rfl⟩
      · obtain ⟨k, hk, rfl⟩ := mem_offset.1 hy
        exact ⟨some n, some k, by simpa using hn, by simpa using hk, nofun, rfl⟩
  · rintro ⟨n?, k?, hn, hk, hbehind, rfl⟩
    cases n? with
    | none =>
      cases k? with
      | none => exact .inl rfl
      | some k => exact absurd rfl (hbehind nofun)
    | some n =>
      refine .inr ⟨_, mem_limit.2 ⟨n, hn n rfl, rfl⟩, _, ?_, rfl⟩
      cases k? with
      | none => exact mem_maybe.2 (.inl rfl)
      | some k => exact mem_maybe.2 (.inr (mem_offset.2 ⟨k, hk k rfl, rfl⟩))

/-- **The sentences are the texts of outlines** that have no offset, or a limit in front of it. -/
theorem mem_sentence :
    cs ∈ sentence ↔
      ∃ o : Outline, Legible o ∧ (o.offset ≠ none → o.limit ≠ none) ∧ o.text.toList = cs := by
  rw [sentence, mem_unlimited_mul]
  constructor
  · rintro ⟨table, ds, ts, htable, hds, hts, _, hlimits, rfl⟩
    obtain ⟨n?, k?, hn, hk, hbehind, rfl⟩ := mem_limits.1 hlimits
    exact ⟨⟨table, ds, ts, n?, k?⟩, ⟨htable, hds, hts, hn, hk⟩, hbehind, Outline.toList_text _⟩
  · rintro ⟨o, ho, hbehind, rfl⟩
    exact ⟨o.table, o.conditions, o.order, ho.table, ho.conditions, ho.order, _,
      mem_limits.2 ⟨o.limit, o.offset, ho.limit, ho.offset, hbehind, rfl⟩, o.toList_text.symm⟩

/-- Numbers hold no space. -/
theorem spaceless_of_mem_number {n : String} (h : n.toList ∈ number) : Spaceless n := by
  obtain ⟨sign, hsign, ds, ⟨-, hdigits⟩, htext⟩ := Language.mem_mul.1 h
  rw [Spaceless, ← htext, List.mem_append]
  rintro (hspace | hspace)
  · rcases mem_maybe.1 hsign with rfl | rfl
    · cases hspace
    · exact absurd hspace (by decide)
  · exact absurd (hdigits _ hspace) (by decide)

/-- An offset alone comes behind a sentence without numbers. -/
theorem Legible.mem_unlimited_mul_offset {o : Outline} (h : Legible o) (hoffset : o.offset ≠ none)
    (hlimit : o.limit = none) : o.text.toList ∈ unlimited * offset := by
  obtain ⟨n, hn⟩ := Option.ne_none_iff_exists'.1 hoffset
  refine mem_unlimited_mul.2 ⟨o.table, o.conditions, o.order, h.table, h.conditions, h.order, _,
    mem_offset.2 ⟨n, h.offset n hn, rfl⟩, ?_⟩
  rw [Outline.toList_text, hlimit, hn]
  rfl

/-- The names and numbers of sentences hold no space. -/
theorem Legible.spaceless {o : Outline} (h : Legible o) : o.Spelt Spaceless Spaceless :=
  h.imp (fun _ => space_not_mem_identifier) fun _ => spaceless_of_mem_number

/-- Whole numbers are written as sentences have them. -/
theorem toString_mem_number (n : Int) : (toString n).toList ∈ number := by
  rw [toList_toString]
  refine Language.mem_mul.2 ⟨_, mem_maybe.2 ?_, _, ⟨Nat.toDigits_ne_nil, ?_⟩, rfl⟩
  · split
    · exact .inr rfl
    · exact .inl rfl
  · exact fun c hc => isDigit_of_mem_toDigits hc

end SelectGrammar

/-- A number of rows is given by a value that holds. -/
theorem QueryTable.rowCount?_ne_none {v : Value} {n? : Option Int} (h : rowCount? v = .ok n?) :
    n? ≠ none ↔ v.truthy = true := by
  obtain ⟨b, hb, h⟩ := bind_eq_ok.1 h
  rw [(Value.truth_eq_ok.1 hb).2]
  cases b with
  | false => simp [← pure_eq_ok.1 h]
  | true =>
    obtain ⟨n, -, h⟩ := bind_eq_ok.1 h
    simp [← pure_eq_ok.1 h]

namespace ResolvedModel

open QueryTable SelectGrammar

variable {source : DefinitionSource} {m : ResolvedModel} {a : Named Value} {s : RowStatement}

/-- **A request for rows gives a sentence unless it asks for an offset without a limit.** Of a model
that has columns every column of the text is an identifier. Wherever they are, the text is a
sentence exactly if no offset is asked for or a limit is too; an offset that stands alone comes
behind a sentence without numbers, where none is expected. -/
theorem sentence_iff_of_select (hm : source.resolve = .ok m)
    (hs : RequestKind.select.statement m.queryTable a = .ok s) :
    (m.columnNames ≠ [] → ∀ c ∈ s.mentioned, isIdentifier c = true) ∧
      ((∀ c ∈ s.mentioned, isIdentifier c = true) →
        (s.sql.toList ∈ sentence ↔
          ((a.argument "offset").truthy = true → (a.argument "limit").truthy = true)) ∧
        ((a.argument "offset").truthy = true → (a.argument "limit").truthy = false →
          s.sql.toList ∈ unlimited * SelectGrammar.offset)) := by
  refine ⟨fun hcolumns => isIdentifier_of_mentioned hm hcolumns hs, fun hids => ?_⟩
  obtain ⟨q, rfl, hq⟩ := exists_answer hs
  have hlegible : Legible q.outline := spelt_of_answers hm hq hids toString_mem_number
  have htext : (RowStatement.select q).sql = q.outline.text :=
    (Selection.text_outline hq.projection).symm
  have hlimit : q.outline.limit ≠ none ↔ (a.argument "limit").truthy = true := by
    rw [← rowCount?_ne_none hq.limit, Selection.outline, ne_eq, Option.map_eq_none_iff]
  have hoffset : q.outline.offset ≠ none ↔ (a.argument "offset").truthy = true := by
    rw [← rowCount?_ne_none hq.offset, Selection.outline, ne_eq, Option.map_eq_none_iff]
  rw [htext, ← hlimit, ← hoffset]
  refine ⟨⟨fun hsentence => ?_, fun hbehind => mem_sentence.2 ⟨_, hlegible, hbehind, rfl⟩⟩, ?_⟩
  · obtain ⟨o, ho, hbehind, hsame⟩ := mem_sentence.1 hsentence
    rwa [Outline.text_injective ho.spaceless hlegible.spaceless (String.toList_injective hsame)]
      at hbehind
  · intro hsome hnone
    refine hlegible.mem_unlimited_mul_offset hsome ?_
    rw [← Bool.not_eq_true, ← hlimit] at hnone
    exact not_not.1 hnone

end ResolvedModel

/-- A request for tasks that leaves some out. -/
def laterTasks (limit : Value) : Named Value :=
  [("order", .list [.str "id"]), ("limit", limit), ("offset", .int 10)]

/-- With a limit the request gives a sentence, and without one it does not. -/
theorem sentence_of_laterTasks :
    ∃ m s s', (DefinitionSource.built taskDefinition).resolve = .ok m ∧
      RequestKind.select.statement m.queryTable (laterTasks (.int 5)) = .ok s ∧
      RequestKind.select.statement m.queryTable (laterTasks .null) = .ok s' ∧
      s.sql = "SELECT * FROM Task WHERE deleted_at IS NULL ORDER BY id ASC LIMIT 5 OFFSET 10" ∧
      s'.sql = "SELECT * FROM Task WHERE deleted_at IS NULL ORDER BY id ASC OFFSET 10" ∧
      s.sql.toList ∈ SelectGrammar.sentence ∧ s'.sql.toList ∉ SelectGrammar.sentence := by
  obtain ⟨m, s, s', hm, hcolumns, hs, hs', htext, htext'⟩ :=
    exists_of_texts_eq (.built taskDefinition) (laterTasks (.int 5)) (laterTasks .null)
      "SELECT * FROM Task WHERE deleted_at IS NULL ORDER BY id ASC LIMIT 5 OFFSET 10"
      "SELECT * FROM Task WHERE deleted_at IS NULL ORDER BY id ASC OFFSET 10" (by decide +kernel)
  obtain ⟨hids, hsentence⟩ := ResolvedModel.sentence_iff_of_select hm hs
  obtain ⟨hids', hsentence'⟩ := ResolvedModel.sentence_iff_of_select hm hs'
  refine ⟨m, s, s', hm, hs, hs', htext, htext', ?_, fun hmem => ?_⟩
  · exact (hsentence (hids hcolumns)).1.2 fun _ => rfl
  · exact absurd ((hsentence' (hids' hcolumns)).1.1 hmem rfl) (by decide)

end Tablewright
