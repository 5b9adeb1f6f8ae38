import Tablewright.Proofs.Fallible
import Tablewright.Proofs.Number.Text
import Tablewright.Value.Storable

/-!
# Values that have a form in JSON

A mapping with keys of its own kind has no form in JSON. What the engine stores holds no other
values, so it always has one. Null, truth values, numbers, lists and mappings have forms of
their own; any other value is written as its text between quotes (`write_of_not_hasOwnForm`). A form
of its own never begins with a quote (`head?_ne_quote`).
-/

namespace Tablewright.Json

open Fallible

/-- A value that holds no others has a form in JSON. -/
theorem exists_write_of_flat {v : Value} (hlist : ∀ items, v ≠ .list items)
    (htuple : ∀ items, v ≠ .tuple items) (hdict : ∀ entries, v ≠ .dict entries) :
    ∃ text, write v = .ok text := by
  cases v with
  | list items => exact absurd rfl (hlist items)
  | tuple items => exact absurd rfl (htuple items)
  | dict entries => exact absurd rfl (hdict entries)
  | scalar s =>
    unfold write
    split <;> first | contradiction | exact ⟨_, rfl⟩
  | _ => exact ⟨_, rfl⟩

/-- **What the engine stores has a form in JSON.** -/
theorem exists_write_of_storable {v stored : Value} (h : v.storable = .ok stored) :
    ∃ text, write stored = .ok text := by
  fun_induction Value.storable v with
  | case10 | case11 | case12 | case13 =>
    obtain ⟨_, -, rfl⟩ := map_eq_ok.1 h
    exact exists_write_of_flat nofun nofun nofun
  | case14 s =>
    rw [← pure_eq_ok.1 h]
    cases s <;> exact exists_write_of_flat nofun nofun nofun
  | case17 _ _ _ ih => exact ih h
  | case18 v =>
    rw [← pure_eq_ok.1 h]
    exact exists_write_of_flat (by assumption) (by assumption) (by assumption)
  | _ =>
    rw [← pure_eq_ok.1 h]
    exact exists_write_of_flat nofun nofun nofun

/-! ## Collections -/

variable {v : Value} {t : String} {items : List Value} {entries : List (Value × Value)}

theorem writeItems_eq_mapM (items : List Value) : writeItems items = items.mapM write := by
  induction items with
  | nil => rfl
  | cons v items ih => rw [writeItems, ih, List.mapM_cons]

/-- A list has a form if all its items have one. -/
theorem exists_writeItems (h : ∀ v ∈ items, ∃ text, write v = .ok text) :
    ∃ texts, writeItems items = .ok texts := by
  rw [writeItems_eq_mapM]
  exact exists_mapM_eq_ok.2 h

/-- The text of an entry of a mapping. -/
def writeEntry (entry : Value × Value) : Except Fault String := do
  let key ← keyText entry.1
  let s ← write entry.2
  pure (quoted key ++ ": " ++ s)

theorem writeEntry_eq_ok {k : Value} : writeEntry (k, v) = .ok t ↔
    ∃ key s, keyText k = .ok key ∧ write v = .ok s ∧ quoted key ++ ": " ++ s = t := by
  rw [writeEntry]
  simp only [bind_eq_ok, pure_eq_ok, exists_and_left]

theorem writeEntries_eq_mapM (entries : List (Value × Value)) :
    writeEntries entries = entries.mapM writeEntry := by
  induction entries with
  | nil => rfl
  | cons entry entries ih =>
    rw [writeEntries, ih, List.mapM_cons]
    simp only [writeEntry, bind_assoc, pure_bind]

/-- What stands before one of some joined texts is the same whatever stands there and behind it. -/
theorem exists_intercalate_append (sep : String) (front : List String) :
    ∃ before, ∀ s rest, sep.intercalate (front ++ s :: rest) =
      before ++ sep.intercalate (s :: rest) := by
  induction front with
  | nil => exact ⟨"", fun s rest => by rw [List.nil_append, String.empty_append]⟩
  | cons t front ih =>
    obtain ⟨before, hbefore⟩ := ih
    refine ⟨t ++ sep ++ before, fun s rest => ?_⟩
    rw [List.cons_append, String.intercalate_cons_of_ne_nil (by simp), hbefore]
    simp only [String.append_assoc]

theorem write_list_eq_ok : write (.list items) = .ok t ↔
    ∃ texts, items.mapM write = .ok texts ∧ Value.enclosed "[" "]" texts = t := by
  rw [write, bind_eq_ok, writeItems_eq_mapM]
  simp only [pure_eq_ok]

theorem write_tuple_eq_ok : write (.tuple items) = .ok t ↔
    ∃ texts, items.mapM write = .ok texts ∧ Value.enclosed "[" "]" texts = t := by
  rw [write, bind_eq_ok, writeItems_eq_mapM]
  simp only [pure_eq_ok]

theorem write_dict_eq_ok : write (.dict entries) = .ok t ↔
    ∃ texts, entries.mapM writeEntry = .ok texts ∧
      Value.enclosed "\x7b" "\x7d" texts = t := by
  rw [write, bind_eq_ok, writeEntries_eq_mapM]
  simp only [pure_eq_ok]

/-! ## Forms -/

/-- JSON has a form for the value that is not a text between quotes. -/
def hasOwnForm : Value → Bool
  | .null => true
  | .bool _ => true
  | .int _ => true
  | .float _ => true
  | .scalar (.float bits _) => bits == 64
  | .list _ => true
  | .tuple _ => true
  | .dict _ => true
  | _ => false

/-- A character that neither begins nor ends nor divides anything in a JSON text. -/
def isInert (c : Char) : Bool :=
  !(['"', '\\', ',', '[', ']', '\x7b', '\x7d'].contains c)

variable {c : Char}

/-- **Any other value is written as its text**, between quotes. -/
theorem write_of_not_hasOwnForm (h : hasOwnForm v = false) : write v = .ok (quoted v.text) := by
  cases v with
  | scalar s =>
    cases s with
    | float bits x =>
      have hbits : bits ≠ 64 := beq_eq_false_iff_ne.1 h
      unfold write
      split <;> first | contradiction | simp_all [pure_eq_ok]
    | _ => rfl
  | null | bool _ | int _ | float _ | list _ | tuple _ | dict _ => cases h
  | _ => rfl

/-- A digit, a sign, a point and the letter of an exponent are inert. -/
theorem isInert_of_isNumeral (h : IsNumeral c) : isInert c = true := by
  by_contra hc
  simp only [isInert, Bool.not_eq_true', Bool.not_eq_false, List.contains_eq_mem,
    decide_eq_true_eq, List.mem_cons, List.not_mem_nil, or_false] at hc
  simp only [IsNumeral, List.mem_cons, List.not_mem_nil, or_false] at h
  rcases hc with rfl | rfl | rfl | rfl | rfl | rfl | rfl <;> revert h <;> decide

theorem isInert_of_mem_number {x : Binary} (h : c ∈ (number x).toList) : isInert c = true := by
  have hnan : ∀ c ∈ jsonNotation.nan.toList, isInert c = true := List.all_eq_true.1 (by decide)
  have hinfinity : ∀ c ∈ jsonNotation.infinity.toList, isInert c = true :=
    List.all_eq_true.1 (by decide)
  rcases mem_text h with h | h | h
  · exact hnan c h
  · exact hinfinity c h
  · exact isInert_of_isNumeral h

theorem isInert_of_mem_toString {n : Int} (h : c ∈ (toString n).toList) : isInert c = true := by
  rcases isDigit_of_mem_toString h with rfl | h
  · rfl
  · exact isInert_of_isNumeral (.inl h)

/-- A text of inert characters does not begin with a quote. -/
theorem head?_ne_quote_of_isInert (h : ∀ c ∈ t.toList, isInert c = true) :
    t.toList.head? ≠ some '"' := fun hhead =>
  absurd (h _ (List.mem_of_head? hhead)) (by decide)

/-- Nor does a text in brackets. -/
theorem head?_ne_quote_of_enclosed {opening closing : String} {items : List String}
    (hne : opening.toList ≠ []) (h : opening.toList.head? ≠ some '"') :
    (Value.enclosed opening closing items).toList.head? ≠ some '"' := by
  rwa [Value.enclosed, String.append_assoc, String.toList_append,
    List.head?_append_of_ne_nil _ hne]

/-- **A form of its own does not begin with a quote.** -/
theorem head?_ne_quote (h : hasOwnForm v = true) (hwrite : write v = .ok t) :
    t.toList.head? ≠ some '"' := by
  cases v with
  | null =>
    rw [← pure_eq_ok.1 hwrite]
    decide
  | bool b =>
    rw [← pure_eq_ok.1 hwrite]
    cases b <;> decide
  | int n =>
    rw [← pure_eq_ok.1 hwrite]
    exact head?_ne_quote_of_isInert fun _ => isInert_of_mem_toString
  | float x =>
    rw [← pure_eq_ok.1 hwrite]
    exact head?_ne_quote_of_isInert fun _ => isInert_of_mem_number
  | scalar s =>
    cases s with
    | float bits x =>
      obtain rfl : bits = 64 := beq_iff_eq.1 h
      rw [← pure_eq_ok.1 hwrite]
      exact head?_ne_quote_of_isInert fun _ => isInert_of_mem_number
    | _ => cases h
  | list items =>
    obtain ⟨texts, -, rfl⟩ := write_list_eq_ok.1 hwrite
    exact head?_ne_quote_of_enclosed (by decide) (by decide)
  | tuple items =>
    obtain ⟨texts, -, rfl⟩ := write_tuple_eq_ok.1 hwrite
    exact head?_ne_quote_of_enclosed (by decide) (by decide)
  | dict entries =>
    obtain ⟨texts, -, rfl⟩ := write_dict_eq_ok.1 hwrite
    exact head?_ne_quote_of_enclosed (by decide) (by decide)
  | _ => cases h

theorem head?_quoted (s : String) : (quoted s).toList.head? = some '"' := by
  rw [quoted, String.toList_ofList]
  rfl

/-- **What is written between quotes.** -/
theorem write_eq_quoted_iff {s : String} : write v = .ok (quoted s) ↔
    hasOwnForm v = false ∧ quoted v.text = quoted s := by
  constructor
  · intro h
    cases hown : hasOwnForm v with
    | true => exact absurd (head?_quoted s) (head?_ne_quote hown h)
    | false =>
      rw [write_of_not_hasOwnForm hown] at h
      exact ⟨rfl, Except.ok.inj h⟩
  · rintro ⟨hown, htext⟩
    rw [write_of_not_hasOwnForm hown, htext]

/-! ## Texts between quotes -/

theorem quoted_inj {s u : String} :
    quoted s = quoted u ↔ s.toList.flatMap escaped = u.toList.flatMap escaped := by
  rw [quoted, quoted, String.ofList_inj, List.cons_append, List.cons_append, List.cons_inj_right,
    List.append_cancel_right_eq]

theorem escaped_ne_nil (c : Char) : escaped c ≠ [] := by
  unfold escaped
  dsimp only
  split_ifs <;> exact List.cons_ne_nil _ _

/-- A text is not written as one of its beginnings. -/
theorem eq_of_quoted_append {s u : String} (h : quoted (s ++ u) = quoted s) : u = "" := by
  rw [quoted_inj, String.toList_append, List.flatMap_append, List.append_right_eq_self,
    List.flatMap_eq_nil_iff] at h
  cases hu : u.toList with
  | nil => exact String.toList_eq_nil_iff.1 hu
  | cons c cs => exact absurd (h c (hu ▸ List.mem_cons_self)) (escaped_ne_nil c)

end Tablewright.Json
