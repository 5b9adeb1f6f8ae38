import Tablewright.Proofs.Fallible
import Tablewright.Proofs.Text.Hex
import Tablewright.Schema.Literal

/-!
# Literals that read back

A text stands between quotes in its literal, with every quote inside written twice; bytes stand
between quotes as digits. A reader who takes two quotes for one and a single quote for the end finds
the end of a literal nowhere but at its last quote, and what is stored in between, whatever follows
(`readLiteral_of_literal`). So no two texts have one literal, nor any two sequences of bytes.
-/

namespace Tablewright

open Fallible

/-! ## What a literal says -/

/-- What a literal between quotes holds. -/
inductive Content where
  | text (s : List Char)
  | bytes (data : List UInt8)
  deriving DecidableEq

/-- What a stored value holds that is written between quotes. -/
def Value.content? : Value → Option Content
  | .str s => some (.text s.toList)
  | .bytes _ data => some (.bytes data)
  | _ => none

/-- Every quote in a body is one of a pair, and each pair stands for one quote of a text. -/
inductive Doubled : List Char → List Char → Prop
  /-- Nothing stands for nothing. -/
  | nil : Doubled [] []
  /-- Two quotes stand for one. -/
  | quote {body s : List Char} (h : Doubled body s) : Doubled ('\'' :: '\'' :: body) ('\'' :: s)
  /-- Any other character stands for itself. -/
  | other {c : Char} {body s : List Char} (hc : c ≠ '\'') (h : Doubled body s) :
      Doubled (c :: body) (c :: s)

/-- How a literal is written: a body of doubled quotes between two quotes, or digits in lower case
that read back, marked by a letter. -/
inductive Content.Written : Content → List Char → Prop
  /-- A text. -/
  | text {body s : List Char} (h : Doubled body s) : Written (.text s) ('\'' :: body ++ ['\''])
  /-- A sequence of bytes. -/
  | bytes {digits : List Char} {data : List UInt8} (hlower : ∀ c ∈ digits, Text.isLowerHex c = true)
      (h : Text.readHex digits = some data) :
      Written (.bytes data) ('X' :: '\'' :: digits ++ ['\''])

/-! ## Reading a literal -/

/-- Reads a text behind its opening quote: what it holds, and what follows it. -/
def readText : List Char → Option (List Char × List Char)
  | [] => none
  | '\'' :: '\'' :: rest => (readText rest).map fun r => ('\'' :: r.1, r.2)
  | '\'' :: rest => some ([], rest)
  | c :: rest => (readText rest).map fun r => (c :: r.1, r.2)

/-- Reads bytes behind their opening quote. -/
def readBytes (cs : List Char) : Option (List UInt8 × List Char) :=
  match cs.dropWhile (· != '\'') with
  | _ :: rest => (Text.readHex (cs.takeWhile (· != '\''))).map fun data => (data, rest)
  | [] => none

/-- Reads a literal at the start of a text: what it holds, and what follows it. -/
def readLiteral : List Char → Option (Content × List Char)
  | '\'' :: cs => (readText cs).map fun r => (.text r.1, r.2)
  | 'X' :: '\'' :: cs => (readBytes cs).map fun r => (.bytes r.1, r.2)
  | _ => none

variable {body s digits cs rest : List Char} {c : Content}

/-- A single quote ends a text. -/
theorem readText_end (h : rest.head? ≠ some '\'') : readText ('\'' :: rest) = some ([], rest) := by
  cases rest with
  | nil => rfl
  | cons c rest =>
    have hc : c ≠ '\'' := fun hc => h (congrArg some hc)
    rw [readText]
    rintro _ ⟨⟩
    exact hc rfl

/-- A body is read to its end, and no further. -/
theorem Doubled.readText_append (h : Doubled body s) (hrest : rest.head? ≠ some '\'') :
    readText (body ++ '\'' :: rest) = some (s, rest) := by
  induction h with
  | nil => exact readText_end hrest
  | quote _ ih => rw [List.cons_append, List.cons_append, readText, ih, Option.map_some]
  | @other c body s hc _ ih =>
    rw [List.cons_append, readText, ih, Option.map_some]
    · rintro _ ⟨⟩
      exact absurd rfl hc
    · exact fun h => hc h

/-- Digits are read up to the quote behind them. -/
theorem readBytes_append {data : List UInt8} (hlower : ∀ c ∈ digits, Text.isLowerHex c = true)
    (h : Text.readHex digits = some data) :
    readBytes (digits ++ '\'' :: rest) = some (data, rest) := by
  have hdigit : ∀ c ∈ digits, (c != '\'') = true := by
    intro c hc
    refine bne_iff_ne.2 ?_
    rintro rfl
    exact absurd (hlower _ hc) (by decide)
  rw [readBytes, List.dropWhile_append_of_pos hdigit, List.takeWhile_append_of_pos hdigit]
  simp [h]

/-- **A literal is read to its end**, and gives what is written in it. -/
theorem Content.Written.readLiteral_append (h : c.Written cs) (hrest : rest.head? ≠ some '\'') :
    readLiteral (cs ++ rest) = some (c, rest) := by
  cases h with
  | @text body s h =>
    have hbody : '\'' :: body ++ ['\''] ++ rest = '\'' :: (body ++ '\'' :: rest) := by simp
    rw [hbody, readLiteral, h.readText_append hrest, Option.map_some]
  | @bytes digits data hlower h =>
    have hdigits : 'X' :: '\'' :: digits ++ ['\''] ++ rest =
        'X' :: '\'' :: (digits ++ '\'' :: rest) := by simp
    rw [hdigits, readLiteral, readBytes_append hlower h, Option.map_some]

/-- A literal says one thing only. -/
theorem Content.Written.unique {c' : Content} (h : c.Written cs) (h' : c'.Written cs) : c = c' := by
  have hend : ([] : List Char).head? ≠ some '\'' := nofun
  have hread := h.readLiteral_append hend
  rw [h'.readLiteral_append hend] at hread
  exact (congrArg Prod.fst (Option.some_inj.1 hread)).symm

/-! ## Writing a literal -/

theorem doubled_doubleQuotes (s : List Char) : Doubled (doubleQuotes s) s := by
  induction s with
  | nil => exact Doubled.nil
  | cons c s ih =>
    rw [doubleQuotes]
    split
    · rename_i hc
      exact hc ▸ Doubled.quote ih
    · rename_i hc
      exact Doubled.other hc ih

/-- **The literal of a text or of bytes says what they hold.** -/
theorem written_storedLiteral {stored : Value} (h : stored.content? = some c) :
    c.Written (storedLiteral stored).toList := by
  cases stored with
  | str s =>
    rw [← Option.some_inj.1 h, storedLiteral, textLiteral, String.toList_ofList]
    exact Content.Written.text (doubled_doubleQuotes _)
  | bytes kind data =>
    rw [← Option.some_inj.1 h, storedLiteral, blobLiteral, String.toList_ofList]
    exact Content.Written.bytes (fun _ => Text.isLowerHex_of_mem_hexDigits)
      (Text.readHex_hexDigits data)
  | _ => cases h

/-- **Literals read back.** The literal of a value that is stored as a text or as bytes is written
between quotes, says what is stored, and is read to its last quote and not further, unless another
quote follows it. A value that is stored as something else that is written between quotes has
another literal. -/
theorem readLiteral_of_literal {v stored : Value} (h : v.storable = .ok stored)
    (hc : stored.content? = some c) :
    ∃ l, literal v = .ok l ∧ c.Written l.toList ∧
      (∀ rest, rest.head? ≠ some '\'' → readLiteral (l.toList ++ rest) = some (c, rest)) ∧
      ∀ w stored' c', w.storable = .ok stored' → stored'.content? = some c' →
        literal w = .ok l → c' = c := by
  have hwritten := written_storedLiteral hc
  refine ⟨storedLiteral stored, by rw [literal, h]; rfl, hwritten,
    fun rest hrest => hwritten.readLiteral_append hrest, ?_⟩
  intro w stored' c' hw hc' hl
  rw [literal, hw] at hl
  have hwritten' := written_storedLiteral hc'
  rw [Except.ok.inj hl] at hwritten'
  exact hwritten'.unique hwritten

/-- A text with quotes at its ends and in its middle, and bytes, behind the members of an
enumeration. -/
theorem readLiteral_of_moods :
    (∃ l, literal (.member "Mood" "SURE" (.str "'it''s'")) = .ok l ∧ l = "'''it''''s'''" ∧
        readLiteral (l ++ ", note TEXT").toList =
          some (.text "'it''s'".toList, ", note TEXT".toList)) ∧
      ∃ l, literal (.member "Mood" "RAW" (.bytes .view [1, 255])) = .ok l ∧ l = "X'01ff'" ∧
        readLiteral (l ++ ")").toList = some (.bytes [1, 255], ")".toList) := by
  constructor
  · obtain ⟨l, hl, -, hread, -⟩ := readLiteral_of_literal
      (v := .member "Mood" "SURE" (.str "'it''s'")) rfl rfl
    have htext : storedLiteral (.str "'it''s'") = l := Except.ok.inj hl
    refine ⟨l, hl, htext.symm.trans (by decide +kernel), ?_⟩
    rw [String.toList_append]
    exact hread _ (by decide)
  · obtain ⟨l, hl, -, hread, -⟩ := readLiteral_of_literal
      (v := .member "Mood" "RAW" (.bytes .view [1, 255])) rfl rfl
    have htext : storedLiteral (.bytes .view [1, 255]) = l := Except.ok.inj hl
    refine ⟨l, hl, htext.symm.trans (by decide +kernel), ?_⟩
    rw [String.toList_append]
    exact hread _ (by decide)

end Tablewright
