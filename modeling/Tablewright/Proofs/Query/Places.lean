import Tablewright.Proofs.Query.Layout

/-!
# The places of bound values

A statement binds one value for every place in its text, in the order of the places, each for the
column of its place (`places_eq`, `params_eq`). Which values these are leaves the text as it is
(`sql_eq_of_unbound_eq`), and unless the table, a function or an expression holds one, its question
marks are the places (`count_sql`).
-/

namespace Tablewright

/-! ## The columns of places -/

/-- Of parts that each hold one place, the places are the columns of the parts. -/
theorem places_parted_map {α : Type} {f : α → List Piece} {g : α → String}
    (h : ∀ a, (f a).filterMap Piece.place? = [g a]) (sep : String) (xs : List α) :
    (parted sep (xs.map f)).filterMap Piece.place? = xs.map g := by
  rw [filterMap_parted fun _ => rfl, List.flatMap_map, List.map_eq_flatMap]
  exact List.flatMap_congr fun a _ => h a

/-- Of parts that hold no place, no place is taken. -/
theorem places_parted_nil {α : Type} {f : α → List Piece}
    (h : ∀ a, (f a).filterMap Piece.place? = []) (sep : String) (xs : List α) :
    (parted sep (xs.map f)).filterMap Piece.place? = [] := by
  rw [filterMap_parted fun _ => rfl, List.flatMap_map]
  exact List.flatMap_eq_nil_iff.2 fun a _ => h a

/-- The places of filters that a write must meet are those of their columns. -/
theorem places_filterPieces (filters : List Binding) :
    (filterPieces filters).filterMap Piece.place? = filters.map Binding.column := by
  rw [filterPieces, List.filterMap_cons]
  exact places_parted_map (fun _ => rfl) _ filters

/-- A statement in two parts: the places of one are those of the values that are written, the places
of the other those of the filters, which follow the word for a condition. -/
structure RowStatement.Parts (s : RowStatement) (front back : List Piece) : Prop where
  /-- The parts make up the statement. -/
  pieces : s.pieces = front ++ back
  /-- What is written has its places in the first part. -/
  writes : front.filterMap Piece.place? = s.writes.map Binding.column
  /-- What is asked for has its places in the second. -/
  filters : back.filterMap Piece.place? = s.filters.map Binding.column
  /-- A condition is announced as one. -/
  condition : s.filters ≠ [] → back.head? = some (.words " WHERE ")

theorem Selection.exists_parts (s : Selection) :
    ∃ front back, (RowStatement.select s).Parts front back := by
  have hprojection : s.projection.pieces.filterMap Piece.place? = [] := by
    cases s.projection with
    | rows => rfl
    | aggregate function column? => cases column? <;> rfl
  have hconditions : (if s.conditions.isEmpty then []
        else .words " WHERE " :: parted " AND " s.conditionPieces).filterMap Piece.place? =
      s.filters.map Binding.column := by
    split
    case isTrue hempty =>
      have hfilters := (List.append_eq_nil_iff.1 (List.isEmpty_iff.1 hempty)).2
      rw [List.map_eq_nil_iff.1 hfilters]
      rfl
    case isFalse =>
      have hundeleted : (s.undeleted.map fun c => [.column c, .words " IS NULL"]).toList.flatMap
          (List.filterMap Piece.place?) = [] := by
        cases s.undeleted <;> rfl
      rw [List.filterMap_cons, Piece.place?, filterMap_parted fun _ => rfl, conditionPieces,
        List.flatMap_append, hundeleted, List.flatMap_map, List.map_eq_flatMap]
      rfl
  have horder : (if s.order.isEmpty then []
        else .words " ORDER BY " :: parted ", " (s.order.map OrderTerm.pieces)).filterMap
          Piece.place? = [] := by
    split
    · rfl
    · exact places_parted_nil (fun _ => rfl) _ s.order
  have hnumber : ∀ (word : String) (n? : Option Int),
      (n?.map fun n => Piece.words (word ++ toString n)).toList.filterMap Piece.place? = [] := by
    intro word n?
    cases n? <;> rfl
  refine ⟨.words "SELECT " :: s.projection.pieces ++ [.words (" FROM " ++ s.table)], s.tail, ?_,
    ?_, ?_, ?_⟩
  · exact List.append_cons _ _ _
  · rw [List.filterMap_append, List.filterMap_cons, hprojection]
    rfl
  · simp only [tail, List.filterMap_append, hconditions, horder, hnumber, List.append_nil]
    rfl
  · intro hfilters
    have hconditions : s.conditions.isEmpty ≠ true := fun hempty =>
      hfilters (List.map_eq_nil_iff.1 (List.append_eq_nil_iff.1 (List.isEmpty_iff.1 hempty)).2)
    rw [tail, if_neg hconditions]
    rfl

theorem ConflictRule.places_pieces (r : ConflictRule) :
    r.pieces.filterMap Piece.place? = [] := by
  have htargets := places_parted_nil (f := fun c => [.column c]) (fun _ => rfl) ", "
    r.targets
  unfold pieces
  split
  · simp only [List.filterMap_append, List.filterMap_cons, Piece.place?, htargets,
      List.filterMap_nil, List.append_nil]
  · have hupdates := places_parted_nil
      (f := fun c => [.column c, .words " = excluded.", .column c]) (fun _ => rfl) ", " r.updates
    simp only [List.filterMap_append, List.filterMap_cons, Piece.place?, htargets, hupdates,
      List.filterMap_nil, List.append_nil]

theorem Insertion.places_pieces (i : Insertion) :
    i.pieces.filterMap Piece.place? = i.values.map Binding.column := by
  have hvalues : i.valuePieces.filterMap Piece.place? = i.values.map Binding.column := by
    unfold valuePieces
    split
    case isTrue hempty =>
      rw [List.isEmpty_iff.1 hempty]
      rfl
    case isFalse =>
      have hcolumns := places_parted_nil
        (f := fun b : Binding => [.column b.column]) (fun _ => rfl) ", " i.values
      have hplaces := places_parted_map
        (f := fun b : Binding => [.place b.column]) (fun _ => rfl) ", " i.values
      simp only [List.filterMap_append, List.filterMap_cons, Piece.place?, hcolumns, hplaces,
        List.filterMap_nil, List.append_nil, List.nil_append]
  have hconflict : ((i.conflict.map fun r => Piece.words " " :: r.pieces).getD []).filterMap
      Piece.place? = [] := by
    cases i.conflict with
    | none => rfl
    | some r => exact r.places_pieces
  simp only [pieces, List.filterMap_append, List.filterMap_cons, Piece.place?, hvalues, hconflict,
    List.append_nil]

/-- The places of changes are those of the values that are bound. -/
theorem places_assignments (changes : List Assignment) :
    (parted ", " (changes.map Assignment.pieces)).filterMap Piece.place? =
      (changes.filterMap Assignment.binding?).map Binding.column := by
  have hchange : ∀ a : Assignment,
      a.pieces.filterMap Piece.place? = (a.binding?.map Binding.column).toList := by
    intro a
    cases a <;> rfl
  rw [filterMap_parted fun _ => rfl, List.flatMap_map, List.map_filterMap,
    List.filterMap_eq_flatMap_toList]
  exact List.flatMap_congr fun a _ => hchange a

theorem Removal.places_tail (r : Removal) :
    (if r.filters.isEmpty then [] else filterPieces r.filters).filterMap Piece.place? =
      r.filters.map Binding.column := by
  split
  case isTrue hempty =>
    rw [List.isEmpty_iff.1 hempty]
    rfl
  case isFalse => exact places_filterPieces r.filters

namespace RowStatement

/-- **Every statement has its values in two parts**: those that are written first. -/
theorem exists_parts (s : RowStatement) : ∃ front back, s.Parts front back := by
  cases s with
  | select s => exact s.exists_parts
  | insert i =>
    exact ⟨i.pieces, [], (List.append_nil _).symm, i.places_pieces, rfl,
      fun hfilters => absurd rfl hfilters⟩
  | update c =>
    exact ⟨.words ("UPDATE " ++ c.table ++ " SET ") ::
      parted ", " (c.assignments.map Assignment.pieces), filterPieces c.filters, rfl,
      places_assignments c.assignments, places_filterPieces c.filters, fun _ => rfl⟩
  | delete r =>
    refine ⟨[.words ("DELETE FROM " ++ r.table)],
      if r.filters.isEmpty then [] else filterPieces r.filters, rfl, rfl, r.places_tail,
      fun hfilters => ?_⟩
    have hsome : r.filters.isEmpty ≠ true := mt List.isEmpty_iff.1 hfilters
    rw [if_neg hsome]
    rfl

/-- **The places are those of the bound values, in order.** -/
theorem places_eq (s : RowStatement) : s.places = (s.writes ++ s.filters).map Binding.column := by
  obtain ⟨front, back, hparts⟩ := s.exists_parts
  rw [places, hparts.pieces, List.filterMap_append, hparts.writes, hparts.filters, List.map_append]

/-- The bound values are those that are written, then those of the filters. -/
theorem params_eq (s : RowStatement) : s.params = boundValues (s.writes ++ s.filters) := by
  rw [boundValues, List.map_append]
  cases s with
  | select s => rfl
  | insert i => exact (List.append_nil _).symm
  | update c =>
    rw [params, boundValues, writes, filters, List.map_filterMap]
    refine congrArg (· ++ c.filters.map Binding.value) (List.filterMap_congr fun a _ => ?_)
    cases a <;> rfl
  | delete r => rfl

end RowStatement

/-! ## Other values in the same places -/

/-- The binding without its value. -/
def Binding.unbound (b : Binding) : Binding :=
  { b with value := .null }

/-- The change without the value that is bound. -/
def Assignment.unbound : Assignment → Assignment
  | set b => .set b.unbound
  | add b => .add b.unbound
  | compute column expression => .compute column expression

namespace RowStatement

/-- The statement without the values that are bound. -/
def unbound : RowStatement → RowStatement
  | select s => .select { s with filters := s.filters.map Binding.unbound }
  | insert i => .insert { i with values := i.values.map Binding.unbound }
  | update c =>
    .update
      { c with
        assignments := c.assignments.map Assignment.unbound
        filters := c.filters.map Binding.unbound }
  | delete r => .delete { r with filters := r.filters.map Binding.unbound }

variable {s s' : RowStatement}

/-- **No piece depends on a bound value.** -/
theorem pieces_unbound (s : RowStatement) : s.unbound.pieces = s.pieces := by
  have hfilters : ∀ bs : List Binding,
      (bs.map Binding.unbound).map Binding.pieces = bs.map Binding.pieces := fun bs =>
    List.map_map.trans rfl
  have hequations : ∀ bs : List Binding,
      (bs.map Binding.unbound).map Binding.equation = bs.map Binding.equation := fun bs =>
    List.map_map.trans rfl
  cases s with
  | select s =>
    simp only [unbound, pieces, Selection.pieces, Selection.tail, Selection.conditionPieces,
      Selection.conditions, hfilters, hequations]
    rfl
  | insert i =>
    simp only [unbound, pieces, Insertion.pieces, Insertion.valuePieces, List.map_map,
      List.isEmpty_map]
    rfl
  | update c =>
    have hassignments : (c.assignments.map Assignment.unbound).map Assignment.pieces =
        c.assignments.map Assignment.pieces := by
      rw [List.map_map]
      refine List.map_congr_left fun a _ => ?_
      cases a <;> rfl
    simp only [unbound, pieces, Change.pieces, filterPieces, hfilters, hassignments]
  | delete r =>
    simp only [unbound, pieces, Removal.pieces, filterPieces, hfilters, List.isEmpty_map]

/-- **Statements that differ in bound values only have one text.** -/
theorem sql_eq_of_unbound_eq (h : s.unbound = s'.unbound) : s.sql = s'.sql := by
  rw [← String.toList_inj, toList_sql, toList_sql, ← pieces_unbound, h, pieces_unbound]

end RowStatement

/-- Bindings of the same columns are the same without their values. -/
theorem map_unbound_congr {bs bs' : List Binding}
    (h : bs.map Binding.column = bs'.map Binding.column) :
    bs.map Binding.unbound = bs'.map Binding.unbound := by
  have hunbound : ∀ bs : List Binding,
      bs.map Binding.unbound = (bs.map Binding.column).map fun c => ⟨c, .null⟩ := fun bs =>
    (List.map_map (l := bs)).symm ▸ rfl
  rw [hunbound, hunbound, h]

/-! ## Question marks -/

theorem wordsUnmarked_parted_map {α : Type} {f : α → List Piece} {sep : String} {xs : List α}
    (hsep : Unmarked sep) (h : ∀ a ∈ xs, WordsUnmarked (f a)) :
    WordsUnmarked (parted sep (xs.map f)) := by
  refine wordsUnmarked_parted hsep fun part hpart => ?_
  obtain ⟨a, ha, rfl⟩ := List.mem_map.1 hpart
  exact h a ha

theorem Binding.wordsUnmarked_pieces (b : Binding) : WordsUnmarked b.pieces :=
  wordsUnmarked_cons rfl (wordsUnmarked_words (by decide) (wordsUnmarked_cons rfl wordsUnmarked_nil))

theorem OrderTerm.wordsUnmarked_pieces (t : OrderTerm) : WordsUnmarked t.pieces := by
  refine wordsUnmarked_cons rfl (wordsUnmarked_words ?_ wordsUnmarked_nil)
  cases t.direction <;> decide

theorem Projection.wordsUnmarked_pieces {p : Projection}
    (h : ∀ f ∈ p.functions, Unmarked f) : WordsUnmarked p.pieces := by
  cases p with
  | rows => exact wordsUnmarked_words (by decide) wordsUnmarked_nil
  | aggregate function column? =>
    have hfunction := unmarked_append (h function List.mem_cons_self) (by decide : Unmarked "(")
    have hend := wordsUnmarked_words (by decide : Unmarked ") AS result") wordsUnmarked_nil
    cases column? with
    | none => exact wordsUnmarked_words hfunction (wordsUnmarked_words (by decide) hend)
    | some c => exact wordsUnmarked_words hfunction (wordsUnmarked_cons rfl hend)

theorem wordsUnmarked_filterPieces (filters : List Binding) :
    WordsUnmarked (filterPieces filters) :=
  wordsUnmarked_words (by decide)
    (wordsUnmarked_parted_map (by decide) fun b _ => b.wordsUnmarked_pieces)

theorem Selection.wordsUnmarked_pieces {s : Selection} (htable : Unmarked s.table)
    (hfunctions : ∀ f ∈ s.projection.functions, Unmarked f) : WordsUnmarked s.pieces := by
  have hconditions : WordsUnmarked (parted " AND " s.conditionPieces) := by
    refine wordsUnmarked_parted (by decide) fun part hpart => ?_
    rcases List.mem_append.1 hpart with hpart | hpart
    · obtain ⟨c, -, rfl⟩ := Option.map_eq_some_iff.1 (Option.mem_toList.1 hpart)
      exact wordsUnmarked_cons rfl (wordsUnmarked_words (by decide) wordsUnmarked_nil)
    · obtain ⟨b, -, rfl⟩ := List.mem_map.1 hpart
      exact b.wordsUnmarked_pieces
  have hnumber : ∀ {word : String} (n? : Option Int), Unmarked word →
      WordsUnmarked (n?.map fun n => Piece.words (word ++ toString n)).toList := by
    intro word n? hword
    cases n? with
    | none => exact wordsUnmarked_nil
    | some n =>
      exact wordsUnmarked_words (unmarked_append hword (unmarked_toString n)) wordsUnmarked_nil
  have htail : WordsUnmarked s.tail := by
    refine wordsUnmarked_append (wordsUnmarked_append (wordsUnmarked_append ?_ ?_)
      (hnumber _ (by decide))) (hnumber _ (by decide))
    · split
      · exact wordsUnmarked_nil
      · exact wordsUnmarked_words (by decide) hconditions
    · split
      · exact wordsUnmarked_nil
      · exact wordsUnmarked_words (by decide)
          (wordsUnmarked_parted_map (by decide) fun t _ => t.wordsUnmarked_pieces)
  exact wordsUnmarked_append
    (wordsUnmarked_words (by decide) (Projection.wordsUnmarked_pieces hfunctions))
    (wordsUnmarked_words (unmarked_append (by decide) htable) htail)

theorem ConflictRule.wordsUnmarked_pieces (r : ConflictRule) : WordsUnmarked r.pieces := by
  have htargets : WordsUnmarked (parted ", " (r.targets.map fun c => [.column c])) :=
    wordsUnmarked_parted_map (by decide) fun _ _ => wordsUnmarked_cons rfl wordsUnmarked_nil
  refine wordsUnmarked_append (wordsUnmarked_words (by decide) (wordsUnmarked_append htargets
    (wordsUnmarked_words (by decide) wordsUnmarked_nil))) ?_
  split
  · exact wordsUnmarked_words (by decide) wordsUnmarked_nil
  · refine wordsUnmarked_words (by decide) (wordsUnmarked_parted_map (by decide) fun _ _ => ?_)
    exact wordsUnmarked_cons rfl
      (wordsUnmarked_words (by decide) (wordsUnmarked_cons rfl wordsUnmarked_nil))

theorem Insertion.wordsUnmarked_pieces {i : Insertion} (htable : Unmarked i.table) :
    WordsUnmarked i.pieces := by
  have hvalues : WordsUnmarked i.valuePieces := by
    unfold valuePieces
    split
    · exact wordsUnmarked_words (by decide) wordsUnmarked_nil
    · have hcolumns : WordsUnmarked (parted ", " (i.values.map fun b => [.column b.column])) :=
        wordsUnmarked_parted_map (by decide) fun _ _ => wordsUnmarked_cons rfl wordsUnmarked_nil
      have hplaces : WordsUnmarked (parted ", " (i.values.map fun b => [.place b.column])) :=
        wordsUnmarked_parted_map (by decide) fun _ _ => wordsUnmarked_cons rfl wordsUnmarked_nil
      have hend := wordsUnmarked_words (by decide : Unmarked ")") wordsUnmarked_nil
      exact wordsUnmarked_append (wordsUnmarked_append (wordsUnmarked_words (by decide) hcolumns)
        (wordsUnmarked_words (by decide) hplaces)) hend
  have hconflict :
      WordsUnmarked ((i.conflict.map fun r => Piece.words " " :: r.pieces).getD []) := by
    cases i.conflict with
    | none => exact wordsUnmarked_nil
    | some r => exact wordsUnmarked_words (by decide) r.wordsUnmarked_pieces
  refine wordsUnmarked_append (wordsUnmarked_words ?_ (wordsUnmarked_words htable hvalues))
    hconflict
  cases i.orIgnore <;> decide

theorem Assignment.wordsUnmarked_pieces {a : Assignment}
    (h : ∀ e ∈ a.expression?, Unmarked e) : WordsUnmarked a.pieces := by
  cases a with
  | set b => exact b.wordsUnmarked_pieces
  | add b =>
    refine wordsUnmarked_cons rfl (wordsUnmarked_words (by decide) (wordsUnmarked_cons rfl ?_))
    exact wordsUnmarked_words (by decide) (wordsUnmarked_cons rfl wordsUnmarked_nil)
  | compute column expression =>
    exact wordsUnmarked_cons rfl
      (wordsUnmarked_words (unmarked_append (by decide) (h expression rfl)) wordsUnmarked_nil)

theorem Change.wordsUnmarked_pieces {c : Change} (htable : Unmarked c.table)
    (hexpressions : ∀ e ∈ c.assignments.filterMap Assignment.expression?, Unmarked e) :
    WordsUnmarked c.pieces := by
  have hstart : Unmarked ("UPDATE " ++ c.table ++ " SET ") :=
    unmarked_append (unmarked_append (by decide) htable) (by decide)
  have hassignments : WordsUnmarked (parted ", " (c.assignments.map Assignment.pieces)) :=
    wordsUnmarked_parted_map (by decide) fun a ha => Assignment.wordsUnmarked_pieces fun e he =>
      hexpressions e (List.mem_filterMap.2 ⟨a, ha, he⟩)
  exact wordsUnmarked_append (wordsUnmarked_words hstart hassignments)
    (wordsUnmarked_filterPieces c.filters)

theorem Removal.wordsUnmarked_pieces {r : Removal} (htable : Unmarked r.table) :
    WordsUnmarked r.pieces := by
  refine wordsUnmarked_words (unmarked_append (by decide) htable) ?_
  split
  · exact wordsUnmarked_nil
  · exact wordsUnmarked_filterPieces r.filters

namespace RowStatement

variable {s : RowStatement}

theorem wordsUnmarked_pieces (h : ∀ w ∈ s.terms, Unmarked w) : WordsUnmarked s.pieces := by
  cases s with
  | select s =>
    exact Selection.wordsUnmarked_pieces (h _ List.mem_cons_self) fun f hf =>
      h f (List.mem_cons_of_mem _ hf)
  | insert i => exact Insertion.wordsUnmarked_pieces (h _ List.mem_cons_self)
  | update c =>
    exact Change.wordsUnmarked_pieces (h _ List.mem_cons_self) fun e he =>
      h e (List.mem_cons_of_mem _ he)
  | delete r => exact Removal.wordsUnmarked_pieces (h _ List.mem_cons_self)

/-- **The question marks are as many as the bound values**, unless a name, a function or an
expression holds one. -/
theorem count_sql (hterms : ∀ w ∈ s.terms, Unmarked w) (hcolumns : ∀ c ∈ s.columns, Unmarked c) :
    s.sql.toList.count '?' = s.params.length := by
  rw [toList_sql, count_mark (wordsUnmarked_pieces hterms) hcolumns]
  change s.places.length = _
  rw [places_eq, params_eq, boundValues, List.length_map, List.length_map]

end RowStatement

/-! ## Columns -/

/-- The column of a projection, if it has one. -/
def Projection.columns : Projection → List String
  | rows => []
  | aggregate _ column? => column?.toList

/-- The columns of a statement, in whichever part of it they stand. -/
def RowStatement.mentioned : RowStatement → List String
  | select s =>
    s.projection.columns ++ s.undeleted.toList ++ s.filters.map Binding.column ++
      s.order.map OrderTerm.column
  | insert i =>
    i.values.map Binding.column ++ (i.conflict.map fun r => r.targets ++ r.updates).getD []
  | update c => c.assignments.map Assignment.column ++ c.filters.map Binding.column
  | delete r => r.filters.map Binding.column

/-- Of parts that each hold one column at most, the columns are those of the parts. -/
theorem mem_columns_parted_map {α : Type} {f : α → List Piece} {g : α → String}
    (h : ∀ a, ∀ c ∈ (f a).filterMap Piece.column?, c = g a) {sep : String} {xs : List α}
    {c : String} (hc : c ∈ (parted sep (xs.map f)).filterMap Piece.column?) : c ∈ xs.map g := by
  rw [filterMap_parted fun _ => rfl, List.flatMap_map, List.mem_flatMap] at hc
  obtain ⟨a, ha, hc⟩ := hc
  exact List.mem_map.2 ⟨a, ha, (h a c hc).symm⟩

/-- A part that may be left out adds no column by its first words. -/
theorem mem_columns_of_ite {p : Prop} [Decidable p] {w c : String} {ps : List Piece}
    (hc : c ∈ (if p then [] else .words w :: ps).filterMap Piece.column?) :
    c ∈ ps.filterMap Piece.column? := by
  split at hc
  · cases hc
  · exact hc

theorem Binding.mem_columns_pieces (b : Binding) :
    ∀ c ∈ b.pieces.filterMap Piece.column?, c = b.column := by
  simp [pieces, Piece.column?]

theorem OrderTerm.mem_columns_pieces (t : OrderTerm) :
    ∀ c ∈ t.pieces.filterMap Piece.column?, c = t.column := by
  simp [pieces, Piece.column?]

theorem Assignment.mem_columns_pieces (a : Assignment) :
    ∀ c ∈ a.pieces.filterMap Piece.column?, c = a.column := by
  cases a <;> simp [pieces, Binding.pieces, Piece.column?, column]

theorem mem_columns_filterPieces {filters : List Binding} {c : String}
    (hc : c ∈ (filterPieces filters).filterMap Piece.column?) :
    c ∈ filters.map Binding.column := by
  rw [filterPieces, List.filterMap_cons] at hc
  exact mem_columns_parted_map Binding.mem_columns_pieces hc

theorem Selection.mem_columns_pieces {s : Selection} {c : String}
    (hc : c ∈ s.pieces.filterMap Piece.column?) : c ∈ (RowStatement.select s).mentioned := by
  have hprojection : s.projection.pieces.filterMap Piece.column? = s.projection.columns := by
    cases s.projection with
    | rows => rfl
    | aggregate function column? => cases column? <;> rfl
  have hnumber : ∀ (word : String) (n? : Option Int),
      (n?.map fun n => Piece.words (word ++ toString n)).toList.filterMap Piece.column? = [] := by
    intro word n?
    cases n? <;> rfl
  simp only [pieces, tail, List.filterMap_append, List.filterMap_cons, Piece.column?, hprojection,
    hnumber, List.append_nil, List.mem_append] at hc
  simp only [RowStatement.mentioned, List.mem_append]
  rcases hc with hc | hc | hc
  · exact .inl (.inl (.inl hc))
  · replace hc := mem_columns_of_ite hc
    rw [filterMap_parted fun _ => rfl, List.mem_flatMap] at hc
    obtain ⟨part, hpart, hc⟩ := hc
    rcases List.mem_append.1 hpart with hpart | hpart
    · obtain ⟨name, hname, rfl⟩ := Option.map_eq_some_iff.1 (Option.mem_toList.1 hpart)
      obtain rfl := List.mem_singleton.1 hc
      exact .inl (.inl (.inr (Option.mem_toList.2 hname)))
    · obtain ⟨b, hb, rfl⟩ := List.mem_map.1 hpart
      exact .inl (.inr (List.mem_map.2 ⟨b, hb, (b.mem_columns_pieces c hc).symm⟩))
  · exact .inr (mem_columns_parted_map OrderTerm.mem_columns_pieces (mem_columns_of_ite hc))

theorem ConflictRule.mem_columns_pieces {r : ConflictRule} {c : String}
    (hc : c ∈ r.pieces.filterMap Piece.column?) : c ∈ r.targets ++ r.updates := by
  have htargets : ∀ c ∈ (parted ", " (r.targets.map fun c => [.column c])).filterMap
      Piece.column?, c ∈ r.targets := fun c hc =>
    List.map_id r.targets ▸ mem_columns_parted_map (g := id) (by simp [Piece.column?]) hc
  have hupdates : ∀ c ∈ (if r.updates.isEmpty then [.words "DO NOTHING"]
        else .words "DO UPDATE SET " ::
          parted ", " (r.updates.map fun c => [.column c, .words " = excluded.", .column c]))
        |>.filterMap Piece.column?, c ∈ r.updates := by
    intro c hc
    split at hc
    · cases hc
    · exact List.map_id r.updates ▸ mem_columns_parted_map (g := id) (by simp [Piece.column?]) hc
  simp only [pieces, List.filterMap_append, List.filterMap_cons, Piece.column?,
    List.filterMap_nil, List.append_nil, List.mem_append] at hc
  exact List.mem_append.2 (hc.imp (htargets c) (hupdates c))

theorem Insertion.mem_columns_pieces {i : Insertion} {c : String}
    (hc : c ∈ i.pieces.filterMap Piece.column?) : c ∈ (RowStatement.insert i).mentioned := by
  have hvalues : ∀ c ∈ i.valuePieces.filterMap Piece.column?, c ∈ i.values.map Binding.column := by
    intro c hc
    unfold valuePieces at hc
    split at hc
    · cases hc
    · simp only [List.filterMap_append, List.filterMap_cons, Piece.column?, List.filterMap_nil,
        List.append_nil, List.mem_append] at hc
      rcases hc with hc | hc
      · exact mem_columns_parted_map (by simp [Piece.column?]) hc
      · exact mem_columns_parted_map (by simp [Piece.column?]) hc
  have hconflict : ∀ c ∈ ((i.conflict.map fun r => Piece.words " " :: r.pieces).getD []).filterMap
      Piece.column?, c ∈ (i.conflict.map fun r => r.targets ++ r.updates).getD [] := by
    intro c hc
    cases hrule : i.conflict with
    | none =>
      rw [hrule] at hc
      cases hc
    | some r =>
      rw [hrule] at hc
      exact r.mem_columns_pieces hc
  simp only [pieces, List.filterMap_append, List.filterMap_cons, Piece.column?,
    List.mem_append] at hc
  exact List.mem_append.2 (hc.imp (hvalues c) (hconflict c))

theorem Change.mem_columns_pieces {c : Change} {name : String}
    (hc : name ∈ c.pieces.filterMap Piece.column?) : name ∈ (RowStatement.update c).mentioned := by
  simp only [pieces, List.filterMap_append, List.filterMap_cons, Piece.column?,
    List.mem_append] at hc
  exact List.mem_append.2
    (hc.imp (mem_columns_parted_map Assignment.mem_columns_pieces) mem_columns_filterPieces)

theorem Removal.mem_columns_pieces {r : Removal} {c : String}
    (hc : c ∈ r.pieces.filterMap Piece.column?) : c ∈ r.filters.map Binding.column := by
  unfold pieces at hc
  split at hc
  · cases hc
  · exact mem_columns_filterPieces hc

/-- **Every column that stands in the text stands in some part of the statement.** -/
theorem RowStatement.columns_subset (s : RowStatement) : s.columns ⊆ s.mentioned := by
  intro c hc
  cases s with
  | select s => exact s.mem_columns_pieces hc
  | insert i => exact i.mem_columns_pieces hc
  | update c => exact c.mem_columns_pieces hc
  | delete r => exact r.mem_columns_pieces hc

/-- The columns of filters are among those of the statement. -/
theorem RowStatement.filters_subset_mentioned (s : RowStatement) :
    s.filters.map Binding.column ⊆ s.mentioned := by
  intro c hc
  cases s with
  | select s => exact List.mem_append_left _ (List.mem_append_right _ hc)
  | insert i => cases hc
  | update c => exact List.mem_append_right _ hc
  | delete r => exact hc

end Tablewright
