import Tablewright.Proofs.Query.Columns

/-!
# Reading a selection back

The text of a selection of rows is a row of words with one space between them, and every word stands
at a place that says what it is: a column comes first in a condition and in an ordering term, so it
may have the name of a keyword and is not taken for one. So the text can be read in one way only
(`Outline.text_injective`), and two requests for rows have one text exactly if they ask for the same
but for the bound values (`ResolvedModel.sql_eq_iff_asksAlike`).
-/

namespace Tablewright

open Fallible

/-! ## Words -/

/-- No space stands in a text. -/
def Spaceless (s : String) : Prop :=
  ' ' ∉ s.toList

instance (s : String) : Decidable (Spaceless s) :=
  inferInstanceAs (Decidable (' ' ∉ s.toList))

/-- Words that each bring the space in front of them. -/
def spaced (ws : List String) : List Char :=
  ws.flatMap fun w => " ".toList ++ w.toList

theorem spaced_append (ws ws' : List String) : spaced (ws ++ ws') = spaced ws ++ spaced ws' :=
  List.flatMap_append

theorem spaced_cons (w : String) (ws : List String) :
    spaced (w :: ws) = " ".toList ++ (w.toList ++ spaced ws) := by
  rw [spaced, List.flatMap_cons, List.append_assoc, spaced]

theorem spaced_nil : spaced [] = [] := rfl

/-- **Words without spaces can be told apart** in their text. -/
theorem words_inj {ws ws' : List String} (hne : ws ≠ []) (hne' : ws' ≠ [])
    (hws : ∀ w ∈ ws, Spaceless w) (hws' : ∀ w ∈ ws', Spaceless w)
    (h : " ".intercalate ws = " ".intercalate ws') : ws = ws' := by
  have hsplit : ∀ ws : List String, ws ≠ [] → (∀ w ∈ ws, Spaceless w) →
      (" ".intercalate ws).toList.splitOn ' ' = ws.map String.toList := by
    intro ws hne hws
    rw [String.toList_intercalate]
    exact List.splitOn_intercalate ' ' (List.forall_mem_map.2 hws) (mt List.map_eq_nil_iff.1 hne)
  have hinjective : Function.Injective String.toList := fun _ _ => String.toList_injective
  refine List.map_injective_iff.2 hinjective ?_
  rw [← hsplit ws hne hws, h, hsplit ws' hne' hws']

/-- Terms are told apart by their columns and the keywords of their directions. -/
theorem orderTerm_ext {t u : OrderTerm} (hcolumn : t.column = u.column)
    (hkeyword : t.direction.keyword = u.direction.keyword) : t = u := by
  have hinjective : ∀ {d d' : Direction}, d.keyword = d'.keyword → d = d' := by
    intro d d' h
    cases d <;> cases d' <;> first | rfl | exact absurd h (by decide)
  obtain ⟨c, d⟩ := t
  obtain ⟨c', d'⟩ := u
  exact OrderTerm.mk.injEq .. ▸ ⟨hcolumn, hinjective hkeyword⟩

/-! ## What a text says -/

/-- A condition on a column, without the value that may be bound for it. -/
inductive Condition where
  | isNull (column : String)
  | equals (column : String)
  deriving DecidableEq, Repr

namespace Condition

/-- The column that a condition is on. -/
def column : Condition → String
  | isNull c => c
  | equals c => c

/-- The words of a condition. -/
def words : Condition → List String
  | isNull c => [c, "IS", "NULL"]
  | equals c => [c, "=", "?"]

/-- The text of a condition. -/
def text : Condition → String
  | isNull c => c ++ " IS NULL"
  | equals c => c ++ " = ?"

end Condition

/-- All that the text of a selection of rows says. -/
structure Outline where
  /-- The table. -/
  table : String
  /-- The conditions. -/
  conditions : List Condition
  /-- The ordering. -/
  order : List OrderTerm
  /-- The most rows, as it is written. -/
  limit : Option String
  /-- The rows left out at the start, as it is written. -/
  offset : Option String
  deriving DecidableEq, Repr

namespace Outline

/-- The words of conditions. -/
def conditionWords : List Condition → List String
  | [] => []
  | c :: cs => "WHERE" :: c.words ++ cs.flatMap fun c => "AND" :: c.words

/-- The words of the terms of an ordering. A comma belongs to the direction it stands behind. -/
def termWords (t : OrderTerm) : List OrderTerm → List String
  | [] => [t.column, t.direction.keyword]
  | u :: us => t.column :: (t.direction.keyword ++ ",") :: termWords u us

/-- The words of an ordering. -/
def orderWords : List OrderTerm → List String
  | [] => []
  | t :: ts => "ORDER" :: "BY" :: termWords t ts

/-- The words of a number of rows. -/
def numberWords (keyword : String) : Option String → List String
  | none => []
  | some n => [keyword, n]

/-- The words of an outline. -/
def words (o : Outline) : List String :=
  "SELECT" :: "*" :: "FROM" :: o.table ::
    (conditionWords o.conditions ++
      (orderWords o.order ++ (numberWords "LIMIT" o.limit ++ numberWords "OFFSET" o.offset)))

/-- The text of an outline. -/
def text (o : Outline) : String :=
  " ".intercalate o.words

/-! ## One reading -/

/-- Words that begin with one of the keywords, if there are any. -/
def Opens (keywords ws : List String) : Prop :=
  ∀ w ∈ ws.head?, w ∈ keywords

variable {keywords keywords' r r' : List String} {keyword : String}

theorem Opens.append (h : Opens keywords r) (h' : Opens keywords' r') :
    Opens (keywords ++ keywords') (r ++ r') := by
  cases r with
  | nil => exact fun w hw => List.mem_append_right _ (h' w hw)
  | cons v r => exact fun w hw => List.mem_append_left _ (h w hw)

theorem opens_orderWords (ts : List OrderTerm) : Opens ["ORDER"] (orderWords ts) := by
  cases ts with
  | nil => exact nofun
  | cons t ts => exact fun w hw => List.mem_singleton.2 (Option.some.inj hw).symm

theorem opens_numberWords (keyword : String) (n? : Option String) :
    Opens [keyword] (numberWords keyword n?) := by
  cases n? with
  | none => exact nofun
  | some n => exact fun w hw => List.mem_singleton.2 (Option.some.inj hw).symm

/-- What opens with other keywords does not begin with this one. -/
theorem Opens.ne_cons {ws : List String} (h : Opens keywords r) (hk : keyword ∉ keywords) :
    r ≠ keyword :: ws := by
  rintro rfl
  exact hk (h keyword rfl)

/-- A condition is read off what begins with it. -/
theorem words_append_inj {c d : Condition} (h : c.words ++ r = d.words ++ r') :
    c = d ∧ r = r' := by
  cases c <;> cases d <;>
    simp only [Condition.words, List.cons_append, List.nil_append, List.cons.injEq] at h
  case isNull.isNull => exact ⟨congrArg _ h.1, h.2.2.2⟩
  case equals.equals => exact ⟨congrArg _ h.1, h.2.2.2⟩
  case isNull.equals => exact absurd h.2.1 (by decide)
  case equals.isNull => exact absurd h.2.1 (by decide)

/-- **Conditions are read off what begins with them**: another one follows exactly where the next
word is the one that joins them. -/
theorem conditionWords_append_inj {cs ds : List Condition} (hr : Opens keywords r)
    (hr' : Opens keywords r') (hwhere : "WHERE" ∉ keywords) (hand : "AND" ∉ keywords)
    (h : conditionWords cs ++ r = conditionWords ds ++ r') : cs = ds ∧ r = r' := by
  have hfurther : ∀ cs ds : List Condition,
      (cs.flatMap fun c => "AND" :: c.words) ++ r = (ds.flatMap fun c => "AND" :: c.words) ++ r' →
        cs = ds ∧ r = r' := by
    intro cs
    induction cs with
    | nil =>
      intro ds h
      cases ds with
      | nil => exact ⟨rfl, h⟩
      | cons d ds => exact absurd h (hr.ne_cons hand)
    | cons c cs ih =>
      intro ds h
      cases ds with
      | nil => exact absurd h.symm (hr'.ne_cons hand)
      | cons d ds =>
        simp only [List.flatMap_cons, List.cons_append, List.append_assoc, List.cons.injEq,
          true_and] at h
        obtain ⟨rfl, hbehind⟩ := words_append_inj h
        obtain ⟨rfl, hrest⟩ := ih ds hbehind
        exact ⟨rfl, hrest⟩
  cases cs with
  | nil =>
    cases ds with
    | nil => exact ⟨rfl, h⟩
    | cons d ds => exact absurd h (hr.ne_cons hwhere)
  | cons c cs =>
    cases ds with
    | nil => exact absurd h.symm (hr'.ne_cons hwhere)
    | cons d ds =>
      simp only [conditionWords, List.cons_append, List.append_assoc, List.cons.injEq,
        true_and] at h
      obtain ⟨rfl, hbehind⟩ := words_append_inj h
      obtain ⟨rfl, hrest⟩ := hfurther cs ds hbehind
      exact ⟨rfl, hrest⟩

/-- Terms are read off what begins with them: another one follows exactly where a comma stands. -/
theorem termWords_append_inj {t u : OrderTerm} {ts us : List OrderTerm}
    (h : termWords t ts ++ r = termWords u us ++ r') : t :: ts = u :: us ∧ r = r' := by
  have hcomma : ∀ d d' : Direction, d.keyword ≠ d'.keyword ++ "," := by
    intro d d'
    cases d <;> cases d' <;> decide
  induction ts generalizing t u us with
  | nil =>
    cases us with
    | nil =>
      simp only [termWords, List.cons_append, List.nil_append, List.cons.injEq] at h
      exact ⟨by rw [orderTerm_ext h.1 h.2.1], h.2.2⟩
    | cons v us =>
      simp only [termWords, List.cons_append, List.nil_append, List.cons.injEq] at h
      exact absurd h.2.1 (hcomma _ _)
  | cons v ts ih =>
    cases us with
    | nil =>
      simp only [termWords, List.cons_append, List.nil_append, List.cons.injEq] at h
      exact absurd h.2.1.symm (hcomma _ _)
    | cons w us =>
      simp only [termWords, List.cons_append, List.cons.injEq] at h
      obtain ⟨hcolumn, hkeyword, h⟩ := h
      obtain ⟨hrest, hr⟩ := ih h
      rw [orderTerm_ext hcolumn ((String.append_left_inj ",").1 hkeyword), hrest]
      exact ⟨rfl, hr⟩

theorem orderWords_append_inj {ts us : List OrderTerm} (hr : Opens keywords r)
    (hr' : Opens keywords r') (horder : "ORDER" ∉ keywords)
    (h : orderWords ts ++ r = orderWords us ++ r') : ts = us ∧ r = r' := by
  cases ts with
  | nil =>
    cases us with
    | nil => exact ⟨rfl, h⟩
    | cons u us => exact absurd h (hr.ne_cons horder)
  | cons t ts =>
    cases us with
    | nil => exact absurd h.symm (hr'.ne_cons horder)
    | cons u us =>
      simp only [orderWords, List.cons_append, List.cons.injEq, true_and] at h
      exact termWords_append_inj h

theorem numberWords_append_inj {n? m? : Option String} (hr : Opens keywords r)
    (hr' : Opens keywords r') (hkeyword : keyword ∉ keywords)
    (h : numberWords keyword n? ++ r = numberWords keyword m? ++ r') : n? = m? ∧ r = r' := by
  cases n? with
  | none =>
    cases m? with
    | none => exact ⟨rfl, h⟩
    | some m => exact absurd h (hr.ne_cons hkeyword)
  | some n =>
    cases m? with
    | none => exact absurd h.symm (hr'.ne_cons hkeyword)
    | some m =>
      simp only [numberWords, List.cons_append, List.nil_append, List.cons.injEq, true_and] at h
      exact ⟨congrArg some h.1, h.2⟩

/-- **The words of an outline can be read in one way only**, whatever the names are. -/
theorem words_injective {o o' : Outline} (h : o.words = o'.words) : o = o' := by
  have hoffset := fun o : Outline => opens_numberWords "OFFSET" o.offset
  have hlimit := fun o : Outline => (opens_numberWords "LIMIT" o.limit).append (hoffset o)
  have horder := fun o : Outline => (opens_orderWords o.order).append (hlimit o)
  simp only [words, List.cons.injEq, true_and] at h
  obtain ⟨htable, h⟩ := h
  obtain ⟨hconditions, h⟩ :=
    conditionWords_append_inj (horder o) (horder o') (by decide) (by decide) h
  obtain ⟨horders, h⟩ := orderWords_append_inj (hlimit o) (hlimit o') (by decide) h
  obtain ⟨hlimits, h⟩ := numberWords_append_inj (hoffset o) (hoffset o') (by decide) h
  rw [← List.append_nil (numberWords _ _), ← List.append_nil (numberWords _ o'.offset)] at h
  have hend : Opens [] [] := nofun
  obtain ⟨hoffsets, -⟩ := numberWords_append_inj hend hend List.not_mem_nil h
  obtain ⟨_, _, _, _, _⟩ := o
  obtain ⟨_, _, _, _, _⟩ := o'
  exact Outline.mk.injEq .. ▸ ⟨htable, hconditions, horders, hlimits, hoffsets⟩

/-! ## Texts -/

/-- All names of an outline have one property and its numbers another. -/
structure Spelt (name number : String → Prop) (o : Outline) : Prop where
  table : name o.table
  conditions : ∀ c ∈ o.conditions, name c.column
  order : ∀ t ∈ o.order, name t.column
  limit : ∀ n ∈ o.limit, number n
  offset : ∀ n ∈ o.offset, number n

theorem Spelt.imp {name name' number number' : String → Prop} {o : Outline}
    (h : o.Spelt name number) (hname : ∀ s, name s → name' s)
    (hnumber : ∀ s, number s → number' s) : o.Spelt name' number' where
  table := hname _ h.table
  conditions c hc := hname _ (h.conditions c hc)
  order t ht := hname _ (h.order t ht)
  limit n hn := hnumber n (h.limit n hn)
  offset n hn := hnumber n (h.offset n hn)

theorem spaceless_of_mem_condition {c : Condition} (h : Spaceless c.column) :
    ∀ w ∈ c.words, Spaceless w := by
  have hrest : (∀ w ∈ ["IS", "NULL"], Spaceless w) ∧ ∀ w ∈ ["=", "?"], Spaceless w := by decide
  cases c with
  | isNull column => exact List.forall_mem_cons.2 ⟨h, hrest.1⟩
  | equals column => exact List.forall_mem_cons.2 ⟨h, hrest.2⟩

theorem spaceless_of_mem_terms {t : OrderTerm} {ts : List OrderTerm}
    (h : ∀ u ∈ t :: ts, Spaceless u.column) : ∀ w ∈ termWords t ts, Spaceless w := by
  have hkeyword : ∀ d : Direction, Spaceless d.keyword ∧ Spaceless (d.keyword ++ ",") := by
    intro d
    cases d <;> decide
  induction ts generalizing t with
  | nil =>
    exact List.forall_mem_cons.2
      ⟨h t List.mem_cons_self, List.forall_mem_singleton.2 (hkeyword _).1⟩
  | cons u ts ih =>
    obtain ⟨ht, hrest⟩ := List.forall_mem_cons.1 h
    exact List.forall_mem_cons.2 ⟨ht, List.forall_mem_cons.2 ⟨(hkeyword _).2, ih hrest⟩⟩

theorem spaceless_of_mem_number {keyword : String} {n? : Option String} (hk : Spaceless keyword)
    (h : ∀ n ∈ n?, Spaceless n) : ∀ w ∈ numberWords keyword n?, Spaceless w := by
  cases n? with
  | none => exact nofun
  | some n => exact List.forall_mem_cons.2 ⟨hk, List.forall_mem_singleton.2 (h n rfl)⟩

/-- No word of an outline holds a space if no name and no number does. -/
theorem Spelt.spaceless {o : Outline} (h : o.Spelt Spaceless Spaceless) :
    ∀ w ∈ o.words, Spaceless w := by
  have hconditions : ∀ w ∈ conditionWords o.conditions, Spaceless w := by
    have hcolumns := h.conditions
    cases hcs : o.conditions with
    | nil => exact nofun
    | cons c cs =>
      rw [hcs] at hcolumns
      obtain ⟨hc, hcs⟩ := List.forall_mem_cons.1 hcolumns
      refine List.forall_mem_cons.2 ⟨by decide, List.forall_mem_append.2
        ⟨spaceless_of_mem_condition hc, fun w hw => ?_⟩⟩
      obtain ⟨d, hd, hw⟩ := List.mem_flatMap.1 hw
      exact List.forall_mem_cons.2 ⟨by decide, spaceless_of_mem_condition (hcs d hd)⟩ w hw
  have horder : ∀ w ∈ orderWords o.order, Spaceless w := by
    have hcolumns := h.order
    cases hts : o.order with
    | nil => exact nofun
    | cons t ts =>
      rw [hts] at hcolumns
      exact List.forall_mem_cons.2 ⟨by decide, List.forall_mem_cons.2
        ⟨by decide, spaceless_of_mem_terms hcolumns⟩⟩
  have hstart : ∀ w ∈ ["SELECT", "*", "FROM", o.table], Spaceless w :=
    List.forall_mem_append.2 ⟨(by decide : ∀ w ∈ ["SELECT", "*", "FROM"], Spaceless w),
      List.forall_mem_singleton.2 h.table⟩
  exact List.forall_mem_append.2 ⟨hstart, List.forall_mem_append.2 ⟨hconditions,
    List.forall_mem_append.2 ⟨horder, List.forall_mem_append.2
      ⟨spaceless_of_mem_number (by decide) h.limit,
        spaceless_of_mem_number (by decide) h.offset⟩⟩⟩⟩

/-- **A text without spaces in its names and numbers can be read in one way only.** -/
theorem text_injective {o o' : Outline} (h : o.Spelt Spaceless Spaceless)
    (h' : o'.Spelt Spaceless Spaceless) (htext : o.text = o'.text) : o = o' :=
  words_injective (words_inj (List.cons_ne_nil _ _) (List.cons_ne_nil _ _) h.spaceless h'.spaceless
    htext)

/-! ## The text of a selection -/

theorem spaced_condition {keyword opening : String} (h : " " ++ keyword ++ " " = opening)
    (c : Condition) : spaced (keyword :: c.words) = opening.toList ++ c.text.toList := by
  have hwords : spaced c.words = " ".toList ++ c.text.toList := by
    cases c <;> simp only [Condition.words, Condition.text, String.toList_append, spaced_cons] <;>
      rfl
  simp only [← h, spaced_cons, hwords, String.toList_append, List.append_assoc]

/-- The words of conditions are written as their texts are, joined. -/
theorem spaced_conditionWords (cs : List Condition) :
    spaced (conditionWords cs) =
      (if cs.isEmpty then ""
        else " WHERE " ++ " AND ".intercalate (cs.map Condition.text)).toList := by
  cases cs with
  | nil => rfl
  | cons c cs =>
    have hfurther : spaced (cs.flatMap fun c => "AND" :: c.words) =
        (cs.map Condition.text).flatMap fun t => " AND ".toList ++ t.toList := by
      rw [spaced, List.flatMap_assoc, List.flatMap_map]
      exact List.flatMap_congr fun c _ => spaced_condition (by decide) c
    have hfirst : spaced ("WHERE" :: c.words) = " WHERE ".toList ++ c.text.toList :=
      spaced_condition (by decide) c
    rw [conditionWords, spaced_append, hfirst, hfurther, List.isEmpty_cons,
      if_neg Bool.false_ne_true, String.toList_append, List.map_cons, toList_intercalate_cons,
      List.append_assoc]

theorem spaced_termWords (t : OrderTerm) (ts : List OrderTerm) :
    spaced (termWords t ts) =
      " ".toList ++ (", ".intercalate ((t :: ts).map OrderTerm.render)).toList := by
  induction ts generalizing t with
  | nil =>
    rw [List.map_singleton, String.intercalate_singleton]
    simp only [termWords, spaced_cons, spaced_nil, OrderTerm.render, String.toList_append,
      List.append_assoc, List.append_nil]
  | cons u ts ih =>
    rw [termWords, spaced_cons, spaced_cons, ih, List.map_cons, List.map_cons, List.map_cons,
      String.intercalate_cons_cons]
    simp only [OrderTerm.render, String.toList_append, List.append_assoc]
    rfl

/-- The words of an ordering are written as its terms are, joined. -/
theorem spaced_orderWords (ts : List OrderTerm) :
    spaced (orderWords ts) =
      (if ts.isEmpty then ""
        else " ORDER BY " ++ ", ".intercalate (ts.map OrderTerm.render)).toList := by
  cases ts with
  | nil => rfl
  | cons t ts =>
    rw [orderWords, spaced_cons, spaced_cons, spaced_termWords, List.isEmpty_cons,
      if_neg Bool.false_ne_true, String.toList_append]
    rfl

theorem spaced_numberWords {keyword opening : String} (h : " " ++ keyword ++ " " = opening)
    (n : String) : spaced (numberWords keyword (some n)) = (opening ++ n).toList := by
  simp only [← h, numberWords, spaced_cons, spaced_nil, String.toList_append, List.append_assoc,
    List.append_nil]

theorem spaced_numberWords_map {keyword opening : String} (h : " " ++ keyword ++ " " = opening)
    (n? : Option Int) :
    spaced (numberWords keyword (n?.map toString)) =
      (match n? with
        | some n => opening ++ toString n
        | none => "").toList := by
  cases n? with
  | none => rfl
  | some n => exact spaced_numberWords h (toString n)

/-- **The text of an outline** is that of its clauses, one behind the other. -/
theorem toList_text (o : Outline) :
    o.text.toList = "SELECT * FROM ".toList ++ o.table.toList ++
      (spaced (conditionWords o.conditions) ++ (spaced (orderWords o.order) ++
        (spaced (numberWords "LIMIT" o.limit) ++ spaced (numberWords "OFFSET" o.offset)))) := by
  have htext : o.text.toList = "SELECT".toList ++ spaced o.words.tail :=
    toList_intercalate_cons ..
  rw [htext]
  simp only [words, List.tail_cons, spaced_cons, spaced_append, List.append_assoc]
  rfl

end Outline

/-- What the text of a selection says. -/
def Selection.outline (s : Selection) : Outline :=
  { table := s.table
    conditions := (s.undeleted.map .isNull).toList ++ s.filters.map fun b => .equals b.column
    order := s.order
    limit := s.limit.map toString
    offset := s.offset.map toString }

/-- **The text of a selection of rows is that of its outline.** -/
theorem Selection.text_outline {s : Selection} (h : s.projection = .rows) :
    s.outline.text = s.render := by
  have hconditions : s.outline.conditions.map Condition.text = s.conditions := by
    rw [outline, conditions, List.map_append, List.map_map]
    refine congrArg₂ _ ?_ rfl
    cases s.undeleted <;> rfl
  have hlimit := Outline.spaced_numberWords_map (by decide : " " ++ "LIMIT" ++ " " = " LIMIT ")
    s.limit
  have hoffset := Outline.spaced_numberWords_map (by decide : " " ++ "OFFSET" ++ " " = " OFFSET ")
    s.offset
  rw [← String.toList_inj, Outline.toList_text, Outline.spaced_conditionWords, hconditions,
    Outline.spaced_orderWords, ← List.isEmpty_map, hconditions, render, h]
  simp only [outline, hlimit, hoffset, String.toList_append, List.append_assoc]
  rfl

/-- A whole number is written without spaces. -/
theorem spaceless_toString (n : Int) : Spaceless (toString n) := by
  intro hspace
  rcases isDigit_of_mem_toString hspace with h | h <;> exact absurd h (by decide)

/-- The outline of a selection has the names of the selection. -/
theorem Selection.spelt_outline {s : Selection} {name number : String → Prop}
    (htable : name s.table)
    (hcolumns : ∀ c ∈ (RowStatement.select s).mentioned, name c)
    (hnumbers : ∀ n : Int, number (toString n)) : s.outline.Spelt name number := by
  have hnumber : ∀ (n? : Option Int), ∀ n ∈ n?.map toString, number n := by
    intro n? n hn
    obtain ⟨k, -, rfl⟩ := Option.map_eq_some_iff.1 hn
    exact hnumbers k
  obtain ⟨hbefore, horder⟩ := List.forall_mem_append.1 hcolumns
  obtain ⟨hbefore, hfilters⟩ := List.forall_mem_append.1 hbefore
  obtain ⟨-, hundeleted⟩ := List.forall_mem_append.1 hbefore
  refine ⟨htable, List.forall_mem_append.2 ⟨fun c hc => ?_, ?_⟩, List.forall_mem_map.1 horder,
    hnumber s.limit, hnumber s.offset⟩
  · obtain ⟨column, hcolumn, rfl⟩ := Option.map_eq_some_iff.1 (Option.mem_toList.1 hc)
    exact hundeleted column (Option.mem_toList.2 hcolumn)
  · exact List.forall_mem_map.2 (List.forall_mem_map.1 hfilters)

/-- Conditions are the same if they are on the same columns, since only the mark of deleted rows is
asked for a null. -/
theorem Selection.conditions_eq_iff {s s' : Selection} :
    s.outline.conditions = s'.outline.conditions ↔
      s.undeleted = s'.undeleted ∧
        s.filters.map Binding.column = s'.filters.map Binding.column := by
  have hequals : ∀ bs : List Binding,
      (bs.map fun b => Condition.equals b.column) = (bs.map Binding.column).map .equals :=
    fun bs => List.map_map.symm
  have hcolumns : ∀ cs ds : List String, cs.map Condition.equals = ds.map .equals ↔ cs = ds :=
    fun _ _ => (List.map_injective_iff.2 fun _ _ => Condition.equals.inj).eq_iff
  simp only [outline, hequals]
  cases s.undeleted <;> cases s'.undeleted
  case none.none =>
    simp only [Option.map_none, Option.toList_none, List.nil_append, true_and, hcolumns]
  case some.some =>
    simp only [Option.map_some, Option.toList_some, List.cons_append, List.nil_append,
      List.cons.injEq, Condition.isNull.injEq, Option.some.injEq, hcolumns]
  case none.some => cases s.filters <;> simp
  case some.none => cases s'.filters <;> simp

/-- Selections of one outline differ in what they give and in the bound values only. -/
theorem Selection.outline_eq_iff {s s' : Selection} :
    s.outline = s'.outline ↔
      s.table = s'.table ∧ s.undeleted = s'.undeleted ∧
        s.filters.map Binding.column = s'.filters.map Binding.column ∧ s.order = s'.order ∧
        s.limit = s'.limit ∧ s.offset = s'.offset := by
  have hnumber : ∀ n? m? : Option Int, n?.map toString = m?.map toString ↔ n? = m? := fun _ _ =>
    (Option.map_injective fun _ _ => toString_injective).eq_iff
  have hfields : s.outline = s'.outline ↔
      s.table = s'.table ∧ s.outline.conditions = s'.outline.conditions ∧ s.order = s'.order ∧
        s.limit.map toString = s'.limit.map toString ∧
        s.offset.map toString = s'.offset.map toString := by
    rw [outline, outline, Outline.mk.injEq]
  rw [hfields, Selection.conditions_eq_iff, hnumber, hnumber, and_assoc]

/-! ## What a request asks for -/

namespace QueryTable

variable {t : QueryTable} {order : Value} {a b : Named Value}

/-- The columns that a condition is about, in order. -/
def filterColumns (condition : Value) : List String :=
  condition.entryList.map fun e => e.1.display

/-- The column that a term of an ordering names and its direction in capitals, which is to ascend
unless it is given. -/
def orderPair? (item : Value) : Option (String × String) :=
  if item.text?.isSome then some (item.display, "ASC")
  else
    match item.pair with
    | .ok (column, direction) => some (column.display, Text.upper direction.text)
    | .error _ => none

/-- The columns of an ordering with their directions. -/
def orderPairs (order : Value) : List (String × String) :=
  if order.truthy then
    match order.items with
    | .ok items => items.filterMap orderPair?
    | .error _ => []
  else []

/-- Two requests for rows ask for the same but for the values they bind. -/
structure AsksAlike (t : QueryTable) (a b : Named Value) : Prop where
  /-- They filter by the same columns in the same order. -/
  filters : filterColumns (a.argument "where") = filterColumns (b.argument "where")
  /-- They keep deleted rows out by the same column, or neither does. -/
  undeleted : t.undeleted (a.argument "with_deleted") = t.undeleted (b.argument "with_deleted")
  /-- They order by the same columns in the same directions. -/
  order : orderPairs (a.argument "order") = orderPairs (b.argument "order")
  /-- They ask for the same number of rows. -/
  limit : rowCount? (a.argument "limit") = rowCount? (b.argument "limit")
  /-- They leave the same number of rows out. -/
  offset : rowCount? (a.argument "offset") = rowCount? (b.argument "offset")

/-- A direction is found by its keyword. -/
theorem keyword_of_ofKeyword? {w : String} {d : Direction} (h : Direction.ofKeyword? w = some d) :
    d.keyword = w := by
  simpa using List.find?_some h

/-- A term of an ordering is made of the column and the direction that it names. -/
theorem orderPair_of_orderTerm {item : Value} {o : OrderTerm} (h : t.orderTerm item = .ok o) :
    orderPair? item = some (o.column, o.direction.keyword) := by
  obtain ⟨⟨column, direction⟩, hpair, h⟩ := ite_bind_eq_ok.1 h
  have hnamed : orderPair? item = some (column.display, Text.upper direction.text) := by
    unfold orderPair?
    split at hpair
    · rename_i htext
      obtain ⟨rfl, rfl⟩ := Prod.mk.inj (pure_eq_ok.1 hpair)
      rw [if_pos htext]
      exact congrArg some (congrArg _ (by decide))
    · rename_i htext
      rw [if_neg htext, hpair]
  rw [hnamed]
  dsimp only at h
  split at h
  · rename_i d hd
    simp only [bind_eq_ok, pure_eq_ok, column_eq_ok] at h
    obtain ⟨_, ⟨rfl, -⟩, rfl⟩ := h
    rw [keyword_of_ofKeyword? hd]
  · cases h

theorem orderPairs_of_orderTerms {items : List Value} {terms : List OrderTerm}
    (h : items.mapM t.orderTerm = .ok terms) :
    items.filterMap orderPair? = terms.map fun o => (o.column, o.direction.keyword) := by
  rw [mapM_eq_ok] at h
  induction h with
  | nil => rfl
  | cons hterm _ ih => rw [List.filterMap_cons, orderPair_of_orderTerm hterm, ih, List.map_cons]

/-- An ordering is made of the columns and directions that it names, in order. -/
theorem orderPairs_of_ordering {terms : List OrderTerm} (h : t.ordering order = .ok terms) :
    orderPairs order = terms.map fun o => (o.column, o.direction.keyword) := by
  obtain ⟨b, hb, h⟩ := bind_eq_ok.1 h
  obtain ⟨-, htruthy⟩ := Value.truth_eq_ok.1 hb
  rw [orderPairs, htruthy]
  cases b with
  | false => rw [← pure_eq_ok.1 h, if_neg Bool.false_ne_true, List.map_nil]
  | true =>
    obtain ⟨items, hitems, h⟩ := bind_eq_ok.1 h
    rw [if_pos rfl, hitems]
    exact orderPairs_of_orderTerms h

/-- A selection is what a request asks of a table. -/
structure Answers (t : QueryTable) (a : Named Value) (q : Selection) : Prop where
  projection : q.projection = .rows
  table : q.table = t.name
  filters : filterColumns (a.argument "where") = q.filters.map Binding.column
  undeleted : t.undeleted (a.argument "with_deleted") = .ok q.undeleted
  order : orderPairs (a.argument "order") =
    q.order.map fun o => (o.column, o.direction.keyword)
  limit : rowCount? (a.argument "limit") = .ok q.limit
  offset : rowCount? (a.argument "offset") = .ok q.offset

theorem exists_answer {s : RowStatement} (h : RequestKind.select.statement t a = .ok s) :
    ∃ q, s = .select q ∧ t.Answers a q := by
  obtain ⟨q, hq, rfl⟩ := map_eq_ok.1 h
  obtain ⟨undeleted, filters, terms, most, first, hundeleted, hfilters, hterms, hmost, hfirst,
    rfl⟩ := select_eq_ok hq
  refine ⟨_, rfl, rfl, rfl, ?_, hundeleted, orderPairs_of_ordering hterms, hmost, hfirst⟩
  rw [columns_of_binds (filters_eq_ok hfilters).1, List.map_map]
  rfl

/-- Requests that are answered ask for the same exactly if the answers have one outline. -/
theorem asksAlike_iff {q q' : Selection} (h : t.Answers a q) (h' : t.Answers b q') :
    t.AsksAlike a b ↔ q.outline = q'.outline := by
  have hpairs : Function.Injective fun o : OrderTerm => (o.column, o.direction.keyword) :=
    fun _ _ heq => orderTerm_ext (Prod.mk.inj heq).1 (Prod.mk.inj heq).2
  rw [Selection.outline_eq_iff]
  constructor
  · rintro ⟨hfilters, hundeleted, horder, hlimit, hoffset⟩
    rw [h.filters, h'.filters] at hfilters
    rw [h.undeleted, h'.undeleted] at hundeleted
    rw [h.order, h'.order] at horder
    rw [h.limit, h'.limit] at hlimit
    rw [h.offset, h'.offset] at hoffset
    exact ⟨h.table.trans h'.table.symm, Except.ok.inj hundeleted, hfilters,
      List.map_injective_iff.2 hpairs horder, Except.ok.inj hlimit, Except.ok.inj hoffset⟩
  · rintro ⟨-, hundeleted, hfilters, horder, hlimit, hoffset⟩
    exact
      { filters := by rw [h.filters, h'.filters, hfilters]
        undeleted := by rw [h.undeleted, h'.undeleted, hundeleted]
        order := by rw [h.order, h'.order, horder]
        limit := by rw [h.limit, h'.limit, hlimit]
        offset := by rw [h.offset, h'.offset, hoffset] }

end QueryTable

namespace ResolvedModel

open QueryTable

variable {source : DefinitionSource} {m : ResolvedModel} {a b : Named Value} {s s' : RowStatement}

/-- The columns of a request for rows are identifiers, if the model has columns at all. -/
theorem isIdentifier_of_mentioned (hm : source.resolve = .ok m) (hcolumns : m.columnNames ≠ [])
    (hs : RequestKind.select.statement m.queryTable a = .ok s) :
    ∀ c ∈ s.mentioned, isIdentifier c = true := by
  intro c hc
  refine (DefinitionSource.wellFormed_of_resolve hm).identifiers c ?_
  exact mem_columnNames_of_leadsTo hm (namesColumn_of_statement hcolumns hs) nofun
    ((Compiled.of_statement hs).columns c hc)

/-- The outline of the answer to a request that has identifiers for its columns. -/
theorem spelt_of_answers {q : Selection} {number : String → Prop} (hm : source.resolve = .ok m)
    (hq : m.queryTable.Answers a q)
    (hcolumns : ∀ c ∈ (RowStatement.select q).mentioned, isIdentifier c = true)
    (hnumbers : ∀ n : Int, number (toString n)) :
    q.outline.Spelt (fun c => isIdentifier c = true) number := by
  refine Selection.spelt_outline ?_ hcolumns hnumbers
  rw [hq.table]
  exact (DefinitionSource.names_of_resolve hm).2.2

/-- **One text, one request.** Two requests for rows to the table of a model that has columns have
one text exactly if they filter by the same columns in the same order, keep deleted rows out alike,
order by the same columns in the same directions and ask for the same numbers of rows. -/
theorem sql_eq_iff_asksAlike (hm : source.resolve = .ok m) (hcolumns : m.columnNames ≠ [])
    (hs : RequestKind.select.statement m.queryTable a = .ok s)
    (hs' : RequestKind.select.statement m.queryTable b = .ok s') :
    s.sql = s'.sql ↔ m.queryTable.AsksAlike a b := by
  have hids := isIdentifier_of_mentioned hm hcolumns hs
  have hids' := isIdentifier_of_mentioned hm hcolumns hs'
  obtain ⟨q, rfl, hq⟩ := exists_answer hs
  obtain ⟨q', rfl, hq'⟩ := exists_answer hs'
  have hspaceless : ∀ c, isIdentifier c = true → Spaceless c := fun _ => space_not_mem_identifier
  rw [asksAlike_iff hq hq']
  constructor
  · intro hsql
    refine Outline.text_injective
      ((spelt_of_answers hm hq hids spaceless_toString).imp hspaceless fun _ => id)
      ((spelt_of_answers hm hq' hids' spaceless_toString).imp hspaceless fun _ => id) ?_
    rw [Selection.text_outline hq.projection, Selection.text_outline hq'.projection]
    exact hsql
  · intro houtline
    change q.render = q'.render
    rw [← Selection.text_outline hq.projection, ← Selection.text_outline hq'.projection, houtline]

end ResolvedModel

/-! ## Two requests for tasks -/

/-- What two requests for rows give, where their texts are known. -/
theorem exists_of_texts_eq (source : DefinitionSource) (a b : Named Value) (text text' : String)
    (h : (do
      let m ← source.resolve
      let s ← RequestKind.select.statement m.queryTable a
      let s' ← RequestKind.select.statement m.queryTable b
      pure (m.columnNames.isEmpty, s.sql, s'.sql)).toOption = some (false, text, text')) :
    ∃ m s s', source.resolve = .ok m ∧ m.columnNames ≠ [] ∧
      RequestKind.select.statement m.queryTable a = .ok s ∧
      RequestKind.select.statement m.queryTable b = .ok s' ∧ s.sql = text ∧ s'.sql = text' := by
  obtain ⟨m, hm, hrest⟩ := bind_eq_ok.1 (eq_ok_of_toOption h)
  obtain ⟨s, hs, hrest⟩ := bind_eq_ok.1 hrest
  obtain ⟨s', hs', hrest⟩ := bind_eq_ok.1 hrest
  obtain ⟨hempty, htexts⟩ := Prod.mk.inj (pure_eq_ok.1 hrest)
  obtain ⟨htext, htext'⟩ := Prod.mk.inj htexts
  exact ⟨m, s, s', hm, List.isEmpty_eq_false_iff.1 hempty, hs, hs', htext, htext'⟩

/-- A request for the tasks of a title, the first by their dates. -/
def firstTasks (title : Value) (direction : String) (limit : Value) : Named Value :=
  [("where", .dict [(.str "title", title)]),
   ("order", .list [.tuple [.str "due_at", .str direction], .str "id"]), ("limit", limit)]

/-- The text of that request for one title and for another, with the direction and the limit
written in two ways. -/
theorem asksAlike_of_firstTasks :
    ∃ m s s', (DefinitionSource.built taskDefinition).resolve = .ok m ∧ m.columnNames ≠ [] ∧
      RequestKind.select.statement m.queryTable (firstTasks (.str "Pack") "desc" (.int 5)) = .ok s ∧
      RequestKind.select.statement m.queryTable (firstTasks .null "DESC" (.str "5")) = .ok s' ∧
      s.sql = "SELECT * FROM Task WHERE deleted_at IS NULL AND title = ? " ++
        "ORDER BY due_at DESC, id ASC LIMIT 5" ∧
      m.queryTable.AsksAlike (firstTasks (.str "Pack") "desc" (.int 5))
        (firstTasks .null "DESC" (.str "5")) := by
  obtain ⟨m, s, s', hm, hcolumns, hs, hs', htext, htext'⟩ :=
    exists_of_texts_eq (.built taskDefinition) (firstTasks (.str "Pack") "desc" (.int 5))
      (firstTasks .null "DESC" (.str "5"))
      ("SELECT * FROM Task WHERE deleted_at IS NULL AND title = ? " ++
        "ORDER BY due_at DESC, id ASC LIMIT 5")
      ("SELECT * FROM Task WHERE deleted_at IS NULL AND title = ? " ++
        "ORDER BY due_at DESC, id ASC LIMIT 5") (by decide +kernel)
  exact ⟨m, s, s', hm, hcolumns, hs, hs', htext,
    (ResolvedModel.sql_eq_iff_asksAlike hm hcolumns hs hs').1 (htext.trans htext'.symm)⟩

end Tablewright
