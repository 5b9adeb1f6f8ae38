import Tablewright.Proofs.Number.Text
import Tablewright.Proofs.Schema.Statement
import Tablewright.Query.Statement

/-!
# The layout of statements about rows

The text of a statement is a row of pieces: words of the language, names of columns, and the places
of bound values, each of which belongs to a column (`toList_sql`). The places are those of the bound
values, in their order (`places_eq`), and nothing but a place is written as a question mark as long
as no name holds one (`count_mark`). No piece depends on a bound value (`pieces_unbound`).
-/

namespace Tablewright

/-! ## Pieces -/

/-- A piece of the text of a statement. -/
inductive Piece where
  /-- Words of the language, the name of a table, a number, or an expression. -/
  | words (text : String)
  /-- The name of a column. -/
  | column (name : String)
  /-- The place of the value that is bound for a column. -/
  | place (column : String)

namespace Piece

/-- The text of a piece. -/
def text : Piece → String
  | .words w => w
  | .column c => c
  | .place _ => "?"

/-- The column that a piece names or binds a value for. -/
def column? : Piece → Option String
  | .words _ => none
  | .column c => some c
  | .place c => some c

/-- The column that a piece binds a value for. -/
def place? : Piece → Option String
  | .words _ => none
  | .column _ => none
  | .place c => some c

end Piece

/-- No question mark stands in a text. -/
def Unmarked (s : String) : Prop :=
  '?' ∉ s.toList

instance (s : String) : Decidable (Unmarked s) :=
  inferInstanceAs (Decidable ('?' ∉ s.toList))

/-- No question mark stands in the words of some pieces. -/
def WordsUnmarked (ps : List Piece) : Prop :=
  ∀ w, .words w ∈ ps → Unmarked w

/-- The text of some pieces. -/
def layOut (pieces : List Piece) : List Char :=
  pieces.flatMap fun p => p.text.toList

/-- Parts of a text with the same words between them. -/
def parted (sep : String) : List (List Piece) → List Piece
  | [] => []
  | first :: rest => first ++ rest.flatMap fun part => .words sep :: part

variable {ps qs : List Piece} {sep : String} {parts : List (List Piece)}

theorem layOut_append (ps qs : List Piece) : layOut (ps ++ qs) = layOut ps ++ layOut qs :=
  List.flatMap_append

theorem layOut_cons (p : Piece) (ps : List Piece) :
    layOut (p :: ps) = p.text.toList ++ layOut ps :=
  List.flatMap_cons

theorem layOut_nil : layOut [] = [] := rfl

/-- **The text of parts with words between them** is that of their texts. -/
theorem layOut_parted {texts : List String} (h : parts.map layOut = texts.map String.toList) :
    layOut (parted sep parts) = (sep.intercalate texts).toList := by
  cases parts with
  | nil =>
    rw [List.map_nil, eq_comm, List.map_eq_nil_iff] at h
    rw [h]
    rfl
  | cons part parts =>
    cases texts with
    | nil => cases h
    | cons text texts =>
      obtain ⟨hfirst, hrest⟩ := List.cons.inj h
      have htail : layOut (parts.flatMap fun part => .words sep :: part) =
          texts.flatMap fun text => sep.toList ++ text.toList := by
        have hpart : ∀ part : List Piece,
            layOut (.words sep :: part) = sep.toList ++ layOut part := layOut_cons _
        clear h hfirst
        -- behind the first part each one brings its own separator
        induction parts generalizing texts with
        | nil =>
          rw [List.map_nil, eq_comm, List.map_eq_nil_iff] at hrest
          rw [hrest]
          rfl
        | cons part parts ih =>
          cases texts with
          | nil => cases hrest
          | cons text texts =>
            obtain ⟨hfirst, hrest⟩ := List.cons.inj hrest
            rw [List.flatMap_cons, layOut_append, hpart, hfirst, ih _ hrest, List.flatMap_cons]
      rw [parted, layOut_append, htail, hfirst, toList_intercalate_cons]

/-- What is taken from parted pieces, if nothing is taken from words. -/
theorem filterMap_parted {α : Type} {f : Piece → Option α} (hwords : ∀ t, f (.words t) = none) :
    (parted sep parts).filterMap f = parts.flatMap (·.filterMap f) := by
  cases parts with
  | nil => rfl
  | cons part parts =>
    rw [parted, List.filterMap_append, List.filterMap_flatMap, List.flatMap_cons]
    simp only [List.filterMap_cons, hwords]

/-- A piece of parted pieces is one of a part, or the words between. -/
theorem mem_parted {p : Piece} (h : p ∈ parted sep parts) :
    p = .words sep ∨ ∃ part ∈ parts, p ∈ part := by
  cases parts with
  | nil => cases h
  | cons part parts =>
    rcases List.mem_append.1 h with h | h
    · exact .inr ⟨part, List.mem_cons_self, h⟩
    · obtain ⟨other, hother, h⟩ := List.mem_flatMap.1 h
      rcases List.mem_cons.1 h with h | h
      · exact .inl h
      · exact .inr ⟨other, List.mem_cons_of_mem _ hother, h⟩

/-! ## Question marks -/

theorem unmarked_append {a b : String} (ha : Unmarked a) (hb : Unmarked b) : Unmarked (a ++ b) := by
  rw [Unmarked, String.toList_append, List.mem_append]
  exact fun h => h.elim ha hb

theorem unmarked_toString (n : Int) : Unmarked (toString n) := by
  intro hmark
  rcases isDigit_of_mem_toString hmark with h | h <;> exact absurd h (by decide)

theorem wordsUnmarked_nil : WordsUnmarked [] :=
  fun _ h => nomatch h

theorem wordsUnmarked_words {w : String} (hw : Unmarked w) (h : WordsUnmarked ps) :
    WordsUnmarked (.words w :: ps) := by
  intro w' hmem
  rcases List.mem_cons.1 hmem with heq | hmem
  · exact Piece.words.inj heq ▸ hw
  · exact h w' hmem

theorem wordsUnmarked_cons {p : Piece} {c : String} (hp : p.column? = some c)
    (h : WordsUnmarked ps) : WordsUnmarked (p :: ps) := by
  intro w hmem
  rcases List.mem_cons.1 hmem with rfl | hmem
  · cases hp
  · exact h w hmem

theorem wordsUnmarked_append (hp : WordsUnmarked ps) (hq : WordsUnmarked qs) :
    WordsUnmarked (ps ++ qs) :=
  fun w hmem => (List.mem_append.1 hmem).elim (hp w) (hq w)

theorem wordsUnmarked_parted (hsep : Unmarked sep) (h : ∀ part ∈ parts, WordsUnmarked part) :
    WordsUnmarked (parted sep parts) := by
  intro w hmem
  rcases mem_parted hmem with heq | ⟨part, hpart, hmem⟩
  · exact Piece.words.inj heq ▸ hsep
  · exact h part hpart w hmem

/-- **Where no word and no name of a column holds one, the question marks are the places.** -/
theorem count_mark (hwords : WordsUnmarked ps)
    (hcolumns : ∀ c ∈ ps.filterMap Piece.column?, Unmarked c) :
    (layOut ps).count '?' = (ps.filterMap Piece.place?).length := by
  induction ps with
  | nil => rfl
  | cons p ps ih =>
    have hrest := ih (fun w hmem => hwords w (List.mem_cons_of_mem p hmem)) fun c hmem =>
      hcolumns c (by
        obtain ⟨q, hq, hc⟩ := List.mem_filterMap.1 hmem
        exact List.mem_filterMap.2 ⟨q, List.mem_cons_of_mem p hq, hc⟩)
    rw [layOut_cons, List.count_append, hrest, List.filterMap_cons]
    -- only a place adds a question mark, on both sides
    cases p with
    | words w =>
      rw [Piece.text, List.count_eq_zero_of_not_mem (hwords w List.mem_cons_self), Nat.zero_add]
      rfl
    | column c =>
      have hc := hcolumns c (List.mem_filterMap.2 ⟨_, List.mem_cons_self, rfl⟩)
      rw [Piece.text, List.count_eq_zero_of_not_mem hc, Nat.zero_add]
      rfl
    | place c =>
      have hone : "?".toList.count '?' = 1 := by decide
      rw [Piece.text, hone, Nat.add_comm]
      rfl

/-! ## The pieces of a statement -/

/-- The pieces of an equation. -/
def Binding.pieces (b : Binding) : List Piece :=
  [.column b.column, .words " = ", .place b.column]

/-- The pieces of an ordering term. -/
def OrderTerm.pieces (t : OrderTerm) : List Piece :=
  [.column t.column, .words (" " ++ t.direction.keyword)]

/-- The pieces of a projection. -/
def Projection.pieces : Projection → List Piece
  | rows => [.words "*"]
  | aggregate function column? =>
    [.words (function ++ "("), (column?.map Piece.column).getD (.words "*"),
     .words ") AS result"]

/-- The function of a projection, if it has one. -/
def Projection.functions : Projection → List String
  | rows => []
  | aggregate function _ => [function]

namespace Selection

/-- The pieces of the conditions, in order. -/
def conditionPieces (s : Selection) : List (List Piece) :=
  (s.undeleted.map fun c => [.column c, .words " IS NULL"]).toList ++
    s.filters.map Binding.pieces

/-- The pieces behind the name of the table. -/
def tail (s : Selection) : List Piece :=
  (if s.conditions.isEmpty then []
    else .words " WHERE " :: parted " AND " s.conditionPieces) ++
    (if s.order.isEmpty then []
      else .words " ORDER BY " :: parted ", " (s.order.map OrderTerm.pieces)) ++
    (s.limit.map fun n => Piece.words (" LIMIT " ++ toString n)).toList ++
    (s.offset.map fun n => Piece.words (" OFFSET " ++ toString n)).toList

/-- The pieces of a selection. -/
def pieces (s : Selection) : List Piece :=
  .words "SELECT " :: s.projection.pieces ++ .words (" FROM " ++ s.table) :: s.tail

end Selection

/-- The pieces of a conflict rule. -/
def ConflictRule.pieces (r : ConflictRule) : List Piece :=
  .words "ON CONFLICT(" :: parted ", " (r.targets.map fun c => [.column c]) ++ [.words ") "] ++
    (if r.updates.isEmpty then [.words "DO NOTHING"]
      else
        .words "DO UPDATE SET " ::
          parted ", " (r.updates.map fun c => [.column c, .words " = excluded.", .column c]))

namespace Insertion

/-- The pieces of the values of a new row. -/
def valuePieces (i : Insertion) : List Piece :=
  if i.values.isEmpty then [.words " DEFAULT VALUES"]
  else
    .words " (" :: parted ", " (i.values.map fun b => [.column b.column]) ++
      .words ") VALUES (" :: parted ", " (i.values.map fun b => [.place b.column]) ++
      [.words ")"]

/-- The pieces of an insertion. -/
def pieces (i : Insertion) : List Piece :=
  .words (if i.orIgnore then "INSERT OR IGNORE INTO " else "INSERT INTO ") :: .words i.table ::
    i.valuePieces ++ (i.conflict.map fun r => Piece.words " " :: r.pieces).getD []

end Insertion

namespace Assignment

/-- The pieces of a change of one column. -/
def pieces : Assignment → List Piece
  | set b => b.pieces
  | add b =>
    [.column b.column, .words " = ", .column b.column, .words " + ", .place b.column]
  | compute column expression => [.column column, .words (" = " ++ expression)]

/-- The value that is bound, with its column, if one is. -/
def binding? : Assignment → Option Binding
  | set b => some b
  | add b => some b
  | compute .. => none

/-- The expression whose value a column takes, if it takes one. -/
def expression? : Assignment → Option String
  | compute _ expression => some expression
  | _ => none

end Assignment

/-- The pieces of filters that a write must meet. -/
def filterPieces (filters : List Binding) : List Piece :=
  .words " WHERE " :: parted " AND " (filters.map Binding.pieces)

/-- The pieces of a change of rows. -/
def Change.pieces (c : Change) : List Piece :=
  .words ("UPDATE " ++ c.table ++ " SET ") :: parted ", " (c.assignments.map Assignment.pieces) ++
    filterPieces c.filters

/-- The pieces of a removal. -/
def Removal.pieces (r : Removal) : List Piece :=
  .words ("DELETE FROM " ++ r.table) ::
    if r.filters.isEmpty then [] else filterPieces r.filters

namespace RowStatement

/-- The pieces of a statement. -/
def pieces : RowStatement → List Piece
  | select s => s.pieces
  | insert i => i.pieces
  | update c => c.pieces
  | delete r => r.pieces

/-- The values that are written, with their columns. -/
def writes : RowStatement → List Binding
  | select _ => []
  | insert i => i.values
  | update c => c.assignments.filterMap Assignment.binding?
  | delete _ => []

/-- The values that columns must have. -/
def filters : RowStatement → List Binding
  | select s => s.filters
  | insert _ => []
  | update c => c.filters
  | delete r => r.filters

/-- The columns of the places of bound values, in the order of the text. -/
def places (s : RowStatement) : List String :=
  s.pieces.filterMap Piece.place?

/-- The columns that stand in the text, or whose bound values do. -/
def columns (s : RowStatement) : List String :=
  s.pieces.filterMap Piece.column?

/-- What stands in the text beside the words of the language, numbers and columns. -/
def terms : RowStatement → List String
  | select s => s.table :: s.projection.functions
  | insert i => [i.table]
  | update c => c.table :: c.assignments.filterMap Assignment.expression?
  | delete r => [r.table]

end RowStatement

/-! ## Texts -/

theorem Binding.layOut_pieces (b : Binding) : layOut b.pieces = b.equation.toList := by
  simp only [pieces, layOut_cons, layOut_nil, Piece.text, equation, String.toList_append]
  rfl

theorem OrderTerm.layOut_pieces (t : OrderTerm) : layOut t.pieces = t.render.toList := by
  simp only [pieces, layOut_cons, layOut_nil, Piece.text, render, String.toList_append,
    List.append_nil, List.append_assoc]

theorem Projection.layOut_pieces (p : Projection) : layOut p.pieces = p.render.toList := by
  cases p with
  | rows => rfl
  | aggregate function column? =>
    cases column? <;>
      simp only [pieces, layOut_cons, layOut_nil, Piece.text, render, String.toList_append,
        Option.map_none, Option.map_some, Option.getD_none, Option.getD_some, List.append_nil,
        List.append_assoc]

/-- Parts that are laid out one by one. -/
theorem layOut_parted_map {α : Type} {f : α → List Piece} {g : α → String}
    (h : ∀ a, layOut (f a) = (g a).toList) (sep : String) (xs : List α) :
    layOut (parted sep (xs.map f)) = (sep.intercalate (xs.map g)).toList := by
  refine layOut_parted ?_
  rw [List.map_map, List.map_map]
  exact List.map_congr_left fun a _ => h a

/-- The text of filters that a write must meet. -/
theorem layOut_filterPieces (filters : List Binding) :
    layOut (filterPieces filters) =
      (" WHERE " ++ " AND ".intercalate (filters.map Binding.equation)).toList := by
  rw [filterPieces, layOut_cons, layOut_parted_map Binding.layOut_pieces, String.toList_append]
  rfl

/-- A clause with a number stands there only if the number is given. -/
theorem layOut_numberPiece (word : String) (n? : Option Int) :
    layOut (n?.map fun n => Piece.words (word ++ toString n)).toList =
      (match n? with
        | some n => word ++ toString n
        | none => "").toList := by
  cases n? with
  | none => rfl
  | some n => exact List.append_nil _

theorem Selection.layOut_pieces (s : Selection) : layOut s.pieces = s.render.toList := by
  have hconditions : layOut (parted " AND " s.conditionPieces) =
      (" AND ".intercalate s.conditions).toList := by
    refine layOut_parted ?_
    rw [conditionPieces, conditions, List.map_append, List.map_append, List.map_map, List.map_map]
    refine congrArg₂ _ ?_ (List.map_congr_left fun b _ => b.layOut_pieces)
    cases s.undeleted with
    | none => rfl
    | some c =>
      simp only [Option.map_some, Option.toList_some, List.map_cons, List.map_nil, layOut_cons,
        layOut_nil, Piece.text, String.toList_append, List.append_nil]
  have hwhere : layOut (if s.conditions.isEmpty then []
        else .words " WHERE " :: parted " AND " s.conditionPieces) =
      (if s.conditions.isEmpty then ""
        else " WHERE " ++ " AND ".intercalate s.conditions).toList := by
    split
    · rfl
    · rw [layOut_cons, hconditions, String.toList_append]
      rfl
  have horder : layOut (if s.order.isEmpty then []
        else .words " ORDER BY " :: parted ", " (s.order.map OrderTerm.pieces)) =
      (if s.order.isEmpty then ""
        else " ORDER BY " ++ ", ".intercalate (s.order.map OrderTerm.render)).toList := by
    split
    · rfl
    · rw [layOut_cons, layOut_parted_map OrderTerm.layOut_pieces, String.toList_append]
      rfl
  simp only [pieces, tail, render, layOut_append, layOut_cons, Piece.text,
    Projection.layOut_pieces, hwhere, horder, String.toList_append, List.append_assoc,
    List.append_cancel_left_eq]
  exact congrArg₂ _ (layOut_numberPiece _ _) (layOut_numberPiece _ _)

theorem ConflictRule.layOut_pieces (r : ConflictRule) : layOut r.pieces = r.render.toList := by
  have htargets : layOut (parted ", " (r.targets.map fun c => [.column c])) =
      (", ".intercalate r.targets).toList := by
    rw [layOut_parted_map (g := id) fun c => List.append_nil _, List.map_id]
  have hupdate : ∀ c : String, layOut [.column c, .words " = excluded.", .column c] =
      (c ++ " = excluded." ++ c).toList := by
    intro c
    simp only [layOut_cons, layOut_nil, Piece.text, String.toList_append, List.append_nil,
      List.append_assoc]
  unfold pieces render
  split
  · simp only [layOut_append, layOut_cons, layOut_nil, Piece.text, htargets, String.toList_append,
      List.append_nil, List.append_assoc]
  · simp only [layOut_append, layOut_cons, layOut_nil, Piece.text, htargets,
      layOut_parted_map hupdate, String.toList_append, List.append_nil, List.append_assoc]

/-- A rule for conflicts stands there only if it is given. -/
theorem layOut_conflictPieces (rule? : Option ConflictRule) :
    layOut ((rule?.map fun r => Piece.words " " :: r.pieces).getD []) =
      (match rule? with
        | some rule => " " ++ rule.render
        | none => "").toList := by
  cases rule? with
  | none => rfl
  | some r =>
    rw [Option.map_some, Option.getD_some, layOut_cons, r.layOut_pieces, String.toList_append]
    rfl

theorem Insertion.layOut_pieces (i : Insertion) : layOut i.pieces = i.render.toList := by
  have hcolumns : layOut (parted ", " (i.values.map fun b => [.column b.column])) =
      (", ".intercalate (i.values.map Binding.column)).toList :=
    layOut_parted_map (fun b => List.append_nil _) _ _
  have hplaces : layOut (parted ", " (i.values.map fun b => [.place b.column])) =
      (", ".intercalate (i.values.map fun _ => "?")).toList :=
    layOut_parted_map (fun b => List.append_nil _) _ _
  have hvalues : layOut i.valuePieces =
      (if i.values.isEmpty then " DEFAULT VALUES"
        else
          " (" ++ ", ".intercalate (i.values.map Binding.column) ++ ") VALUES (" ++
            ", ".intercalate (i.values.map fun _ => "?") ++ ")").toList := by
    unfold valuePieces
    split
    · rfl
    · simp only [layOut_append, layOut_cons, layOut_nil, Piece.text, hcolumns, hplaces,
        String.toList_append, List.append_nil, List.append_assoc]
  simp only [pieces, render, layOut_append, layOut_cons, Piece.text, hvalues, String.toList_append,
    List.append_assoc, List.append_cancel_left_eq]
  exact layOut_conflictPieces _

theorem Assignment.layOut_pieces (a : Assignment) : layOut a.pieces = a.render.toList := by
  cases a with
  | set b => exact b.layOut_pieces
  | add b =>
    simp only [pieces, layOut_cons, layOut_nil, Piece.text, render, String.toList_append,
      List.append_nil, List.append_assoc]
    rfl
  | compute column expression =>
    simp only [pieces, layOut_cons, layOut_nil, Piece.text, render, String.toList_append,
      List.append_nil, List.append_assoc]

theorem Change.layOut_pieces (c : Change) : layOut c.pieces = c.render.toList := by
  simp only [pieces, render, layOut_append, layOut_cons, Piece.text, layOut_filterPieces,
    layOut_parted_map Assignment.layOut_pieces, String.toList_append, List.append_assoc]

theorem Removal.layOut_pieces (r : Removal) : layOut r.pieces = r.render.toList := by
  unfold pieces render
  split
  · rw [String.append_empty]
    exact List.append_nil _
  · simp only [layOut_cons, Piece.text, layOut_filterPieces, String.toList_append,
      List.append_assoc]

namespace RowStatement

/-- **The text of a statement is that of its pieces.** -/
theorem toList_sql (s : RowStatement) : s.sql.toList = layOut s.pieces := by
  cases s with
  | select s => exact s.layOut_pieces.symm
  | insert i => exact i.layOut_pieces.symm
  | update c => exact c.layOut_pieces.symm
  | delete r => exact r.layOut_pieces.symm

end RowStatement

end Tablewright
