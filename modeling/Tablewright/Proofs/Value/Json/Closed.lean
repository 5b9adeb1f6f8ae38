import Tablewright.Proofs.Text.Hex
import Tablewright.Proofs.Value.Json

/-!
# Where a JSON text ends

A JSON text closes the brackets and the texts that it opens, and no comma stands outside of them
(`isClosed_of_write`). So of two JSON texts with a comma behind them, neither begins with the other
(`eq_of_comma`).
-/

namespace Tablewright.Json

open Fallible

/-! ## Up to a comma -/

/-- Where a reader stands: outside of texts, inside of one, or inside of one behind a backslash. -/
inductive Position where
  | outside
  | inside
  | escaping
  deriving DecidableEq

/-- How many brackets are open behind a character. -/
def depthBehind (depth : Nat) (c : Char) : Nat :=
  if c = '[' ∨ c = '\x7b' then depth + 1
  else if c = ']' ∨ c = '\x7d' then depth - 1
  else depth

/-- What stands before the first comma outside of brackets and texts, where some brackets are open
already. -/
def beforeComma : Nat → Position → List Char → List Char
  | _, _, [] => []
  | depth, .escaping, c :: cs => c :: beforeComma depth .inside cs
  | depth, .inside, c :: cs =>
    c :: beforeComma depth
      (if c = '\\' then .escaping else if c = '"' then .outside else .inside) cs
  | depth, .outside, c :: cs =>
    if c = ',' ∧ depth = 0 then []
    else c :: beforeComma (depthBehind depth c) (if c = '"' then .inside else .outside) cs

/-- A piece of a text that leaves its reader inside that text. -/
def StaysInside (cs : List Char) : Prop :=
  ∀ depth rest, beforeComma depth .inside (cs ++ rest) = cs ++ beforeComma depth .inside rest

/-- Characters that open nothing that they do not close, with no comma outside of brackets. -/
def IsClosed (cs : List Char) : Prop :=
  ∀ depth rest, beforeComma depth .outside (cs ++ rest) = cs ++ beforeComma depth .outside rest

/-- The same of characters inside brackets, where commas may stand. -/
def IsClosedWithin (cs : List Char) : Prop :=
  ∀ depth rest, beforeComma (depth + 1) .outside (cs ++ rest) =
    cs ++ beforeComma (depth + 1) .outside rest

variable {cs ds : List Char}

/-! ## Texts -/

theorem StaysInside.append (hcs : StaysInside cs) (hds : StaysInside ds) :
    StaysInside (cs ++ ds) := by
  intro depth rest
  rw [List.append_assoc, hcs, hds, List.append_assoc]

/-- Inside a text all characters but two are passed over. -/
theorem staysInside_of_plain (h : ∀ c ∈ cs, c ≠ '\\' ∧ c ≠ '"') : StaysInside cs := by
  intro depth rest
  induction cs with
  | nil => rfl
  | cons c cs ih =>
    obtain ⟨⟨hslash, hquote⟩, hrest⟩ := List.forall_mem_cons.1 h
    rw [List.cons_append, beforeComma, if_neg hslash, if_neg hquote, ih hrest, List.cons_append]

/-- Whatever stands behind a backslash is passed over with it. -/
theorem staysInside_escape (c : Char) : StaysInside ['\\', c] :=
  fun _ _ => rfl

theorem staysInside_unitEscape (n : Nat) : StaysInside (unitEscape n) := by
  refine (staysInside_escape 'u').append (staysInside_of_plain fun c hc => ?_)
  have hdigit := Text.isLowerHex_of_mem_hexPadded hc
  constructor <;> rintro rfl <;> exact absurd hdigit (by decide)

theorem staysInside_escaped (c : Char) : StaysInside (escaped c) := by
  unfold escaped
  dsimp only
  split_ifs with hquote hslash
  · exact staysInside_escape _
  · exact staysInside_escape _
  · exact staysInside_escape _
  · exact staysInside_escape _
  · exact staysInside_escape _
  · exact staysInside_escape _
  · exact staysInside_escape _
  · refine staysInside_of_plain fun d hd => ?_
    rw [List.mem_singleton.1 hd]
    exact ⟨fun h => hslash (beq_iff_eq.2 h), fun h => hquote (beq_iff_eq.2 h)⟩
  · exact staysInside_unitEscape _
  · exact (staysInside_unitEscape _).append (staysInside_unitEscape _)

theorem staysInside_flatMap_escaped (cs : List Char) : StaysInside (cs.flatMap escaped) := by
  induction cs with
  | nil => exact fun _ _ => rfl
  | cons c cs ih => exact (staysInside_escaped c).append ih

/-! ## Closed texts -/

theorem IsClosed.within (h : IsClosed cs) : IsClosedWithin cs :=
  fun depth rest => h (depth + 1) rest

theorem IsClosed.append (hcs : IsClosed cs) (hds : IsClosed ds) : IsClosed (cs ++ ds) := by
  intro depth rest
  rw [List.append_assoc, hcs, hds, List.append_assoc]

theorem IsClosedWithin.append (hcs : IsClosedWithin cs) (hds : IsClosedWithin ds) :
    IsClosedWithin (cs ++ ds) := by
  intro depth rest
  rw [List.append_assoc, hcs, hds, List.append_assoc]

theorem isClosed_of_isInert (h : ∀ c ∈ cs, isInert c = true) : IsClosed cs := by
  intro depth rest
  induction cs with
  | nil => rfl
  | cons c cs ih =>
    obtain ⟨hc, hrest⟩ := List.forall_mem_cons.1 h
    have hne : ∀ d, isInert d = false → c ≠ d := by
      rintro d hd rfl
      exact absurd (hc.symm.trans hd) (by decide)
    have hdepth : depthBehind depth c = depth := by
      rw [depthBehind, if_neg (not_or.2 ⟨hne _ (by decide), hne _ (by decide)⟩),
        if_neg (not_or.2 ⟨hne _ (by decide), hne _ (by decide)⟩)]
    rw [List.cons_append, beforeComma, if_neg fun h => hne ',' (by decide) h.1, hdepth,
      if_neg (hne '"' (by decide)), ih hrest, List.cons_append]

theorem isClosed_quoted (s : String) : IsClosed (quoted s).toList := by
  intro depth rest
  have hopen : ∀ cs, beforeComma depth .outside ('"' :: cs) =
      '"' :: beforeComma depth .inside cs := fun cs => by
    simp [beforeComma, depthBehind]
  have hclose : beforeComma depth .inside ('"' :: rest) =
      '"' :: beforeComma depth .outside rest := by
    simp [beforeComma]
  have hbody := staysInside_flatMap_escaped s.toList depth ('"' :: rest)
  rw [quoted, String.toList_ofList]
  simp only [List.cons_append, List.append_assoc, List.nil_append]
  rw [hopen, hbody, hclose]

/-- A comma may stand inside brackets. -/
theorem isClosedWithin_comma : IsClosedWithin ", ".toList := by
  intro depth rest
  have htext : ", ".toList = [',', ' '] := by decide
  simp [htext, beforeComma, depthBehind]

/-- Closed texts with commas between them. -/
theorem isClosedWithin_intercalate {texts : List String}
    (h : ∀ text ∈ texts, IsClosed text.toList) :
    IsClosedWithin (", ".intercalate texts).toList := by
  induction texts with
  | nil => exact fun _ _ => rfl
  | cons text texts ih =>
    obtain ⟨htext, hrest⟩ := List.forall_mem_cons.1 h
    cases texts with
    | nil =>
      rw [String.intercalate_singleton]
      exact htext.within
    | cons next texts =>
      rw [String.intercalate_cons_cons, String.toList_append, String.toList_append]
      exact (htext.within.append isClosedWithin_comma).append (ih hrest)

/-- Brackets close what stands between them. -/
theorem isClosed_enclosed {opening closing : String} {texts : List String}
    (hbrackets : opening.toList = ['['] ∧ closing.toList = [']'] ∨
      opening.toList = ['\x7b'] ∧ closing.toList = ['\x7d'])
    (h : ∀ text ∈ texts, IsClosed text.toList) :
    IsClosed (Value.enclosed opening closing texts).toList := by
  intro depth rest
  have hopen : ∀ cs, beforeComma depth .outside (opening.toList ++ cs) =
      opening.toList ++ beforeComma (depth + 1) .outside cs := fun cs => by
    rcases hbrackets with ⟨hopening, -⟩ | ⟨hopening, -⟩ <;>
      simp [hopening, beforeComma, depthBehind]
  have hclose : beforeComma (depth + 1) .outside (closing.toList ++ rest) =
      closing.toList ++ beforeComma depth .outside rest := by
    rcases hbrackets with ⟨-, hclosing⟩ | ⟨-, hclosing⟩ <;>
      simp [hclosing, beforeComma, depthBehind]
  rw [Value.enclosed, String.toList_append, String.toList_append, List.append_assoc,
    List.append_assoc, hopen, isClosedWithin_intercalate h depth, hclose]
  simp only [List.append_assoc]

mutual

/-- **A JSON text is closed.** -/
theorem isClosed_of_write {v : Value} {t : String} (h : write v = .ok t) : IsClosed t.toList := by
  cases v with
  | null =>
    rw [← pure_eq_ok.1 h]
    exact isClosed_of_isInert (List.all_eq_true.1 (by decide))
  | bool b =>
    rw [← pure_eq_ok.1 h]
    exact isClosed_of_isInert (List.all_eq_true.1 (by cases b <;> decide))
  | int n =>
    rw [← pure_eq_ok.1 h]
    exact isClosed_of_isInert fun _ => isInert_of_mem_toString
  | float x =>
    rw [← pure_eq_ok.1 h]
    exact isClosed_of_isInert fun _ => isInert_of_mem_number
  | list items =>
    obtain ⟨texts, htexts, rfl⟩ := write_list_eq_ok.1 h
    exact isClosed_enclosed (.inl ⟨by decide, by decide⟩) (isClosed_of_writeItems htexts)
  | tuple items =>
    obtain ⟨texts, htexts, rfl⟩ := write_tuple_eq_ok.1 h
    exact isClosed_enclosed (.inl ⟨by decide, by decide⟩) (isClosed_of_writeItems htexts)
  | dict entries =>
    obtain ⟨texts, htexts, rfl⟩ := write_dict_eq_ok.1 h
    exact isClosed_enclosed (.inr ⟨by decide, by decide⟩) (isClosed_of_writeEntries htexts)
  | scalar s =>
    by_cases hown : hasOwnForm (.scalar s)
    · cases s with
      | float bits x =>
        obtain rfl : bits = 64 := beq_iff_eq.1 hown
        rw [← pure_eq_ok.1 h]
        exact isClosed_of_isInert fun _ => isInert_of_mem_number
      | _ => cases hown
    · rw [write_of_not_hasOwnForm (Bool.eq_false_iff.2 hown)] at h
      rw [← pure_eq_ok.1 h]
      exact isClosed_quoted _
  | _ =>
    rw [← pure_eq_ok.1 h]
    exact isClosed_quoted _

theorem isClosed_of_writeItems {items : List Value} {texts : List String}
    (h : items.mapM write = .ok texts) : ∀ text ∈ texts, IsClosed text.toList := by
  cases items with
  | nil =>
    rw [← pure_eq_ok.1 h]
    exact List.forall_mem_nil _
  | cons v items =>
    obtain ⟨text, rest, htext, hrest, rfl⟩ := mapM_cons_eq_ok.1 h
    exact List.forall_mem_cons.2 ⟨isClosed_of_write htext, isClosed_of_writeItems hrest⟩

theorem isClosed_of_writeEntries {entries : List (Value × Value)} {texts : List String}
    (h : entries.mapM writeEntry = .ok texts) : ∀ text ∈ texts, IsClosed text.toList := by
  cases entries with
  | nil =>
    rw [← pure_eq_ok.1 h]
    exact List.forall_mem_nil _
  | cons entry entries =>
    obtain ⟨k, v⟩ := entry
    obtain ⟨_, rest, htext, hrest, rfl⟩ := mapM_cons_eq_ok.1 h
    obtain ⟨key, s, -, hs, rfl⟩ := writeEntry_eq_ok.1 htext
    refine List.forall_mem_cons.2 ⟨?_, isClosed_of_writeEntries hrest⟩
    rw [String.toList_append, String.toList_append]
    have hcolon : IsClosed ": ".toList := isClosed_of_isInert (List.all_eq_true.1 (by decide))
    exact ((isClosed_quoted key).append hcolon).append (isClosed_of_write hs)

end

/-- Closed texts with a comma behind them are the same if what begins with them is. -/
theorem eq_of_comma (hcs : IsClosed cs) (hds : IsClosed ds) {rest rest' : List Char}
    (h : cs ++ ',' :: rest = ds ++ ',' :: rest') : cs = ds := by
  have hend : ∀ rest, beforeComma 0 .outside (',' :: rest) = [] := fun rest => by
    rw [beforeComma, if_pos ⟨rfl, rfl⟩]
  have hsame := congrArg (beforeComma 0 .outside) h
  rwa [hcs, hds, hend, hend, List.append_nil, List.append_nil] at hsame

end Tablewright.Json
