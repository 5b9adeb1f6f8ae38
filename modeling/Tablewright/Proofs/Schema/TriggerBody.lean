import Tablewright.Proofs.Schema.Trigger
import Tablewright.Proofs.Schema.Statement
import Tablewright.Proofs.Text.Ending
import Mathlib.Algebra.Order.BigOperators.Group.List
import Mathlib.Algebra.Order.Ring.Nat

/-!
# Bodies of triggers

Every piece of a trigger's body is to end with one semicolon, and a statement that says nothing is
to give no piece. That is so exactly if no statement ends in semicolons with blanks between them
(`Trigger.bodyText_of_create`): one that does keeps a semicolon of its own.
-/

namespace Tablewright

open Fallible

variable {s : String} {texts : List String}

/-! ## Single statements -/

/-- The characters of a statement behind the blanks before it. -/
def statementChars (s : String) : List Char :=
  s.toList.dropWhile Text.isBlank

/-- A statement without blanks around it and without the semicolons and blanks behind it. -/
def statementCore (s : String) : String :=
  String.ofList (Text.dropFillers (statementChars s))

theorem toList_bareStatement (s : String) :
    (bareStatement s).toList = Text.bareEnd (statementChars s) := by
  simp only [bareStatement, Text.trimEnd, Text.trimEndOf, Text.trim, String.toList_ofList]
  rfl

theorem toList_statementCore (s : String) :
    (statementCore s).toList = Text.dropFillers (statementChars s) :=
  String.toList_ofList

theorem splitEnd_statementChars_iff : Text.SplitEnd (statementChars s) ↔ Text.SplitEnd s.toList :=
  Text.splitEnd_dropWhile_iff

/-- **A statement is made bare of all semicolons at its end** exactly if no blanks stand between
them. -/
theorem bareStatement_eq_iff : bareStatement s = statementCore s ↔ ¬ Text.SplitEnd s.toList := by
  rw [← String.toList_inj, toList_bareStatement, toList_statementCore, Text.bareEnd_eq_iff,
    splitEnd_statementChars_iff]

/-- Nothing is left of a statement that says nothing. -/
theorem statementCore_eq_empty_iff :
    statementCore s = "" ↔ ∀ c ∈ s.toList, Text.isFiller c = true := by
  rw [← String.toList_inj, toList_statementCore, String.toList_empty, Text.dropFillers_eq_nil_iff]
  constructor
  · intro h c hc
    rw [← List.takeWhile_append_dropWhile (p := Text.isBlank) (l := s.toList)] at hc
    rcases List.mem_append.1 hc with hc | hc
    · exact Text.isFiller_of_isBlank (List.mem_takeWhile_imp hc)
    · exact h c hc
  · intro h c hc
    exact h c ((List.dropWhile_sublist _).subset hc)

theorem length_statementCore_le : (statementCore s).length ≤ (bareStatement s).length := by
  rw [← String.length_toList, ← String.length_toList, toList_bareStatement, toList_statementCore]
  exact Text.length_dropFillers_le

theorem length_statementCore_lt (h : Text.SplitEnd s.toList) :
    (statementCore s).length < (bareStatement s).length := by
  rw [← String.length_toList, ← String.length_toList, toList_bareStatement, toList_statementCore]
  exact Text.length_dropFillers_lt (splitEnd_statementChars_iff.2 h)

/-- Something is left of a statement that says something. -/
theorem bareStatement_ne_empty (h : (!s.toList.all Text.isFiller) = true) :
    bareStatement s ≠ "" := by
  intro hbare
  have hle := length_statementCore_le (s := s)
  have hcore : statementCore s = "" := by
    rw [hbare] at hle
    simpa using hle
  rw [Bool.not_eq_true', ← Bool.not_eq_true, List.all_eq_true] at h
  exact h (statementCore_eq_empty_iff.1 hcore)

/-! ## Pieces -/

/-- One semicolon ends a piece: before it stands neither a semicolon nor a blank. -/
def Terminated (piece : String) : Prop :=
  ∃ front c, piece.toList = front ++ [c, ';'] ∧ Text.isFiller c = false

/-- The pieces of a body that says some texts. -/
def bodyPieces (texts : List String) : List String :=
  (texts.filter (bareStatement · != "")).map (bareStatement · ++ ";")

/-- The pieces as they should be: the texts that say something, each with one semicolon. -/
def terminatedPieces (texts : List String) : List String :=
  (texts.filter fun s => !s.toList.all Text.isFiller).map (statementCore · ++ ";")

theorem mem_bodyPieces (hs : s ∈ texts) (h : bareStatement s ≠ "") :
    bareStatement s ++ ";" ∈ bodyPieces texts :=
  List.mem_map_of_mem (List.mem_filter.2 ⟨hs, bne_iff_ne.2 h⟩)

/-- The text of a body that is made of some pieces. -/
def bodyOf (pieces : List String) : String :=
  if pieces.isEmpty then "BEGIN END" else "BEGIN " ++ " ".intercalate pieces ++ " END"

/-- A statement that ends in semicolons with blanks between them keeps one. -/
theorem exists_bareStatement_of_splitEnd (h : Text.SplitEnd s.toList) :
    ∃ front, bareStatement s = front ++ ";" := by
  have hlast := Text.getLast?_bareEnd_iff.2 (splitEnd_statementChars_iff.2 h)
  rw [← toList_bareStatement] at hlast
  obtain ⟨front, hfront⟩ := List.getLast?_eq_some_iff.1 hlast
  refine ⟨String.ofList front, ?_⟩
  rw [← String.toList_inj, hfront, String.toList_append, String.toList_ofList]
  rfl

theorem bareStatement_ne_empty_of_splitEnd (h : Text.SplitEnd s.toList) :
    bareStatement s ≠ "" := by
  obtain ⟨front, hfront⟩ := exists_bareStatement_of_splitEnd h
  rw [hfront]
  simp

/-- A piece ends with one semicolon exactly if its statement has no such end. -/
theorem terminated_iff (h : bareStatement s ≠ "") :
    Terminated (bareStatement s ++ ";") ↔ ¬ Text.SplitEnd s.toList := by
  have hpiece : (bareStatement s ++ ";").toList = (bareStatement s).toList ++ [';'] := by
    rw [String.toList_append]
    rfl
  constructor
  · rintro ⟨front, c, hfront, hc⟩ hsplit
    obtain ⟨kept, hkept⟩ := exists_bareStatement_of_splitEnd hsplit
    rw [hpiece, hkept, String.toList_append, List.append_assoc] at hfront
    obtain ⟨-, hends⟩ := List.append_inj' hfront rfl
    obtain ⟨rfl, -⟩ := List.cons.inj hends
    exact absurd (Text.isFiller_semicolon.symm.trans hc) nofun
  · intro hsplit
    have hne : (bareStatement s).toList ≠ [] := by
      simpa using h
    obtain ⟨front, c, hfront⟩ := (List.eq_nil_or_concat' _).resolve_left hne
    refine ⟨front, c, by rw [hpiece, hfront, List.append_assoc]; rfl, ?_⟩
    have hcore := bareStatement_eq_iff.2 hsplit
    rw [hcore, toList_statementCore] at hfront
    have hlast : (Text.dropFillers (statementChars s)).getLast? = some c := by
      rw [hfront, List.getLast?_concat]
    exact Bool.eq_false_iff.2 (Text.not_of_getLast?_rdropWhile hlast)

/-! ## Texts of bodies -/

/-- How long the text of a body is. -/
theorem length_bodyOf (pieces : List String) :
    (bodyOf pieces).length = 9 + (pieces.map fun p => p.length + 1).sum := by
  unfold bodyOf
  cases pieces with
  | nil => rfl
  | cons piece rest =>
    -- the separator in front of all pieces is the blank behind the first word
    have hjoined := congrArg List.length
      (append_toList_intercalate " " (List.cons_ne_nil piece rest))
    rw [List.length_append, List.length_flatMap, String.length_toList, String.length_toList]
      at hjoined
    have hsum : ((piece :: rest).map fun p => p.length + 1).sum =
        ((piece :: rest).map fun p => (" ".toList ++ p.toList).length).sum := by
      refine congrArg List.sum (List.map_congr_left fun p _ => ?_)
      rw [List.length_append, String.length_toList, Nat.add_comm]
      rfl
    have hwords : "BEGIN ".length = 6 ∧ " END".length = 4 ∧ " ".length = 1 := by decide
    rw [List.isEmpty_cons, if_neg Bool.false_ne_true, String.length_append, String.length_append,
      hsum]
    omega

/-- What the pieces of some texts add to the length of a body, text by text. -/
theorem sum_pieces (kept : String → Bool) (piece : String → String) (texts : List String) :
    (((texts.filter kept).map piece).map fun p => p.length + 1).sum =
      (texts.map fun s => if kept s then (piece s).length + 1 else 0).sum := by
  induction texts with
  | nil => rfl
  | cons s texts ih =>
    rw [List.filter_cons, List.map_cons, List.sum_cons, ← ih]
    cases kept s with
    | false => rw [if_neg Bool.false_ne_true, if_neg Bool.false_ne_true, Nat.zero_add]
    | true => rw [if_pos rfl, if_pos rfl, List.map_cons, List.map_cons, List.sum_cons]

/-- The pieces come from the statements that are left. -/
theorem bodyPieces_eq_map (texts : List String) :
    bodyPieces texts = ((texts.map bareStatement).filter (· != "")).map (· ++ ";") := by
  simp only [bodyPieces, List.filter_map, List.map_map, Function.comp_def]

/-- What a statement that makes a trigger has for its body. -/
theorem CreateTrigger.bodyText_eq (made : CreateTrigger) :
    made.bodyText = bodyOf (made.body.map (· ++ ";")) := by
  unfold bodyText bodyOf
  rw [List.isEmpty_map]

/-- The pieces are as they should be if no statement has such an end. -/
theorem bodyPieces_eq (h : ∀ s ∈ texts, ¬ Text.SplitEnd s.toList) :
    bodyPieces texts = terminatedPieces texts := by
  have hsame : ∀ s ∈ texts, bareStatement s = statementCore s := by
    intro s hs
    exact bareStatement_eq_iff.2 (h s hs)
  have hkept : ∀ s ∈ texts, (bareStatement s != "") = !s.toList.all Text.isFiller := by
    intro s hs
    rw [Bool.eq_iff_iff, bne_iff_ne, hsame s hs, Ne, statementCore_eq_empty_iff, Bool.not_eq_true',
      ← Bool.not_eq_true, List.all_eq_true]
  unfold bodyPieces terminatedPieces
  rw [List.filter_congr hkept]
  refine List.map_congr_left fun s hs => ?_
  rw [hsame s (List.mem_of_mem_filter hs)]

/-- **The text of a body is as it should be** exactly if no statement ends in semicolons with blanks
between them: such a statement makes it longer. -/
theorem bodyOf_eq_iff :
    bodyOf (bodyPieces texts) = bodyOf (terminatedPieces texts) ↔
      ∀ s ∈ texts, ¬ Text.SplitEnd s.toList := by
  refine ⟨fun h s hs hsplit => ?_, fun h => congrArg bodyOf (bodyPieces_eq h)⟩
  have hlength := congrArg String.length h
  rw [length_bodyOf, length_bodyOf] at hlength
  unfold bodyPieces terminatedPieces at hlength
  rw [sum_pieces, sum_pieces] at hlength
  refine absurd (Nat.add_left_cancel hlength).symm (Nat.ne_of_lt ?_)
  refine List.sum_lt_sum _ _ (fun s _ => ?_) ⟨s, hs, ?_⟩
  · by_cases hcore : (!s.toList.all Text.isFiller) = true
    · have hbare : (bareStatement s != "") = true := bne_iff_ne.2 (bareStatement_ne_empty hcore)
      have hle := length_statementCore_le (s := s)
      rw [if_pos hcore, if_pos hbare, String.length_append, String.length_append]
      omega
    · rw [if_neg hcore]
      exact Nat.zero_le _
  · have hlt := length_statementCore_lt hsplit
    have hbare : (bareStatement s != "") = true :=
      bne_iff_ne.2 (bareStatement_ne_empty_of_splitEnd hsplit)
    rw [if_pos hbare, String.length_append, String.length_append]
    split <;> omega

/-- Every piece ends with one semicolon exactly if no statement has such an end. -/
theorem terminated_bodyPieces_iff :
    (∀ piece ∈ bodyPieces texts, Terminated piece) ↔ ∀ s ∈ texts, ¬ Text.SplitEnd s.toList := by
  constructor
  · intro h s hs hsplit
    have hne : bareStatement s ≠ "" := bareStatement_ne_empty_of_splitEnd hsplit
    exact (terminated_iff hne).1 (h _ (mem_bodyPieces hs hne)) hsplit
  · intro h piece hpiece
    obtain ⟨s, hs, rfl⟩ := List.mem_map.1 hpiece
    obtain ⟨hs, hne⟩ := List.mem_filter.1 hs
    exact (terminated_iff (bne_iff_ne.1 hne)).2 (h s hs)

/-! ## Triggers -/

namespace Trigger

variable {t : Trigger}

/-- **The bodies of triggers.** The text behind `BEGIN` is made of the statements that are left, in
order, each with a semicolon. It is made of well terminated pieces for the statements that say
something exactly if no statement ends in semicolons with blanks between them; one that does gives a
piece that ends in two semicolons. -/
theorem bodyText_of_create (h : t.IsDeclared) (hknown : t.IsKnown) (hsaid : t.said = .ok texts)
    (table : String) :
    ∃ made, t.create table = .ok made ∧ t.Makes table made ∧
      made.bodyText = bodyOf (bodyPieces texts) ∧
      (made.bodyText = bodyOf (terminatedPieces texts) ↔ ∀ s ∈ texts, ¬ Text.SplitEnd s.toList) ∧
      ((∀ piece ∈ bodyPieces texts, Terminated piece) ↔
        ∀ s ∈ texts, ¬ Text.SplitEnd s.toList) ∧
      ∀ s ∈ texts, Text.SplitEnd s.toList →
        ∃ front, front ++ ";;" ∈ bodyPieces texts ∧ bareStatement s = front ++ ";" := by
  obtain ⟨names, hnames⟩ := h.columns
  have hbody : (t.compiled table names texts).bodyText = bodyOf (bodyPieces texts) := by
    rw [CreateTrigger.bodyText_eq, bodyPieces_eq_map]
    simp only [compiled]
  refine ⟨t.compiled table names texts, create_of_isKnown h hknown hsaid hnames table,
    makes_compiled hknown hnames table texts, hbody, ?_, terminated_bodyPieces_iff, ?_⟩
  · rw [hbody]
    exact bodyOf_eq_iff
  · intro s hs hsplit
    obtain ⟨front, hfront⟩ := exists_bareStatement_of_splitEnd hsplit
    have hmem : bareStatement s ++ ";" ∈ bodyPieces texts :=
      mem_bodyPieces hs (bareStatement_ne_empty_of_splitEnd hsplit)
    rw [hfront, String.append_assoc] at hmem
    exact ⟨front, hmem, hfront⟩

/-- A trigger that does some statements whenever a row is there. -/
def tallying (texts : List String) : Trigger :=
  { name := .str "tally", timing := .str "AFTER", event := .str "INSERT"
    statements := .ofTexts texts }

/-- **Semicolons are taken away together, but not apart**: the first body is well terminated, and
the second is not. -/
theorem bodyText_of_tallying :
    (∃ made, (tallying ["  SELECT 1;; ", " ; ", "SELECT 2"]).create "Visit" = .ok made ∧
        made.bodyText = "BEGIN SELECT 1; SELECT 2; END") ∧
      ∃ made, (tallying ["SELECT 1; ;"]).create "Visit" = .ok made ∧
        made.bodyText ≠ bodyOf (terminatedPieces ["SELECT 1; ;"]) ∧
        ¬ ∀ piece ∈ bodyPieces ["SELECT 1; ;"], Terminated piece := by
  have hone : ∀ texts, (tallying texts).IsDeclared → (tallying texts).IsKnown →
      ∃ made, (tallying texts).create "Visit" = .ok made ∧
        (made.bodyText = bodyOf (terminatedPieces texts) ↔
          ∀ s ∈ texts, ¬ Text.SplitEnd s.toList) ∧
        ((∀ piece ∈ bodyPieces texts, Terminated piece) ↔
          ∀ s ∈ texts, ¬ Text.SplitEnd s.toList) := by
    intro texts hdeclared hknown
    obtain ⟨made, hmade, -, -, htext, hpieces, -⟩ :=
      bodyText_of_create hdeclared hknown (said_of_texts rfl) "Visit"
    exact ⟨made, hmade, htext, hpieces⟩
  constructor
  · obtain ⟨made, hmade, htext, -⟩ :=
      hone ["  SELECT 1;; ", " ; ", "SELECT 2"] (by decide +kernel) (by decide +kernel)
    have hbare : ∀ s ∈ ["  SELECT 1;; ", " ; ", "SELECT 2"],
        bareStatement s = statementCore s := by decide +kernel
    have htext := htext.2 fun s hs => bareStatement_eq_iff.1 (hbare s hs)
    exact ⟨made, hmade, htext.trans (by decide +kernel)⟩
  · obtain ⟨made, hmade, htext, hpieces⟩ :=
      hone ["SELECT 1; ;"] (by decide +kernel) (by decide +kernel)
    have hsplit : ¬ ∀ s ∈ ["SELECT 1; ;"], ¬ Text.SplitEnd s.toList := by
      intro h
      have hbare := bareStatement_eq_iff.2 (h _ List.mem_cons_self)
      exact absurd hbare (by decide +kernel)
    exact ⟨made, hmade, mt htext.1 hsplit, mt hpieces.1 hsplit⟩

end Trigger

end Tablewright
