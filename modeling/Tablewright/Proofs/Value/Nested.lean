import Tablewright.Proofs.Value.Storable
import Mathlib.Data.List.DropRight

/-!
# Values inside of collections

A collection is stored as a JSON text. What JSON has no form for goes into that text as its plain
text, while alone it is stored in a form made for it. So it may make a difference whether a value is
put into a collection as it is or as what would be stored for it. For dates, times of day, time
stamps, decimals and identifiers it makes none; for a date with a time of day and for sized numbers
other than those of double precision it always does (`storable_within_iff`).
-/

namespace Tablewright.Value

open Fallible

/-! ## Collections with a gap -/

/-- A collection with a gap in the place of an item, or of the value under a key. -/
inductive Frame where
  | list (before after : List Value)
  | tuple (before after : List Value)
  | dict (before : List (Value × Value)) (key : Value) (after : List (Value × Value))

/-- The collection with a value in its gap. -/
def Frame.fill : Frame → Value → Value
  | list before after, v => .list (before ++ v :: after)
  | tuple before after, v => .tuple (before ++ v :: after)
  | dict before key after, v => .dict (before ++ (key, v) :: after)

/-- A value inside of collections that stand inside of each other, the outermost first. -/
def within (path : List Frame) (v : Value) : Value :=
  path.foldr Frame.fill v

theorem within_cons (frame : Frame) (path : List Frame) (v : Value) :
    within (frame :: path) v = frame.fill (within path v) :=
  rfl

variable {frame : Frame} {path : List Frame} {v stored : Value} {t : String}

/-! ## The text around a gap -/

/-- What stands around one of some texts between brackets is the same whatever that text. -/
theorem exists_enclosed_append (opening closing : String) (front back : List String) :
    ∃ before after, ∀ s, enclosed opening closing (front ++ s :: back) = before ++ s ++ after := by
  obtain ⟨before, hbefore⟩ := Json.exists_intercalate_append ", " front
  have hafter : ∃ after, ∀ s, ", ".intercalate (s :: back) = s ++ after := by
    cases back with
    | nil => exact ⟨"", fun s => by rw [String.intercalate_singleton, String.append_empty]⟩
    | cons u back =>
      exact ⟨", " ++ ", ".intercalate (u :: back), fun s => by
        rw [String.intercalate_cons_cons, String.append_assoc]⟩
  obtain ⟨after, hafter⟩ := hafter
  refine ⟨opening ++ before, after ++ closing, fun s => ?_⟩
  rw [enclosed, hbefore, hafter]
  simp only [String.append_assoc]

/-- So it is for texts that are computed for the items of a list. -/
theorem exists_enclosed_mapM {α : Type} {f : α → Except Fault String} {before after : List α}
    {x : α} {texts : List String} (h : (before ++ x :: after).mapM f = .ok texts)
    (opening closing : String) :
    (∃ s, f x = .ok s) ∧ ∃ front back, ∀ y s, f y = .ok s →
      ∃ texts, (before ++ y :: after).mapM f = .ok texts ∧
        enclosed opening closing texts = front ++ s ++ back := by
  obtain ⟨fronts, s, backs, hfronts, hs, hbacks, -⟩ := mapM_append_cons_eq_ok.1 h
  obtain ⟨front, back, henclosed⟩ := exists_enclosed_append opening closing fronts backs
  exact ⟨⟨s, hs⟩, front, back, fun y u hu =>
    ⟨_, mapM_append_cons_eq_ok.2 ⟨fronts, u, backs, hfronts, hu, hbacks, rfl⟩, henclosed u⟩⟩

/-- **A value is written by itself**: what is written around it does not depend on it. -/
theorem exists_write_fill (h : Json.write (frame.fill v) = .ok t) :
    (∃ s, Json.write v = .ok s) ∧ ∃ front back, ∀ w s, Json.write w = .ok s →
      Json.write (frame.fill w) = .ok (front ++ s ++ back) := by
  cases frame with
  | list before after =>
    obtain ⟨texts, htexts, -⟩ := Json.write_list_eq_ok.1 h
    obtain ⟨hv, front, back, hfill⟩ := exists_enclosed_mapM htexts "[" "]"
    exact ⟨hv, front, back, fun w s hw => Json.write_list_eq_ok.2 (hfill w s hw)⟩
  | tuple before after =>
    obtain ⟨texts, htexts, -⟩ := Json.write_tuple_eq_ok.1 h
    obtain ⟨hv, front, back, hfill⟩ := exists_enclosed_mapM htexts "[" "]"
    exact ⟨hv, front, back, fun w s hw => Json.write_tuple_eq_ok.2 (hfill w s hw)⟩
  | dict before key after =>
    obtain ⟨texts, htexts, -⟩ := Json.write_dict_eq_ok.1 h
    obtain ⟨⟨entry, hentry⟩, front, back, hfill⟩ := exists_enclosed_mapM htexts "\x7b" "\x7d"
    obtain ⟨name, s, hname, hs, -⟩ := Json.writeEntry_eq_ok.1 hentry
    refine ⟨⟨s, hs⟩, front ++ (Json.quoted name ++ ": "), back, fun w u hw => ?_⟩
    have hfilled := Json.write_dict_eq_ok.2
      (hfill (key, w) _ (Json.writeEntry_eq_ok.2 ⟨name, u, hname, hw, rfl⟩))
    rw [Frame.fill, hfilled]
    simp only [String.append_assoc]

/-- The same inside of any number of collections. -/
theorem exists_write_within (h : Json.write (within path v) = .ok t) :
    (∃ s, Json.write v = .ok s) ∧ ∃ front back, ∀ w s, Json.write w = .ok s →
      Json.write (within path w) = .ok (front ++ s ++ back) := by
  induction path generalizing t with
  | nil =>
    refine ⟨⟨t, h⟩, "", "", fun w s hw => ?_⟩
    rwa [String.empty_append, String.append_empty]
  | cons frame path ih =>
    obtain ⟨⟨inner, hinner⟩, opening, closing, hfill⟩ := exists_write_fill h
    obtain ⟨hv, front, back, hwithin⟩ := ih hinner
    refine ⟨hv, opening ++ front, back ++ closing, fun w s hw => ?_⟩
    rw [within_cons, hfill _ _ (hwithin w s hw)]
    simp only [String.append_assoc]

/-- A collection is stored as its JSON text. -/
theorem storable_within_cons (frame : Frame) (path : List Frame) (v : Value) :
    (within (frame :: path) v).storable = str <$> Json.write (within (frame :: path) v) := by
  cases frame <;> rfl

/-! ## What is stored in the place of a value -/

/-- The values that are stored in another form than the one they are held in: dates and times, sized
values, decimals, identifiers and the members of enumerations. A sized floating-point number is one
of its own format. -/
def IsConverted : Value → Prop
  | date _ | moment _ | time _ | instant _ _ | decimal _ | uuid _ | member _ _ _ => True
  | scalar (.bool _) => False
  | scalar (.float bits x) => x.convert (floatFormat bits) = x
  | scalar _ => True
  | _ => False

/-- The values that a collection writes as it writes what is stored for them. -/
def KeepsText : Value → Prop
  | date _ | time _ | instant _ _ | decimal _ | uuid _ => True
  | moment _ => False
  | scalar (.int _ _ _) => False
  | scalar (.float bits _) => bits = 64
  | scalar (.text s) => (Scalar.text s).unpadded = .text s
  | scalar (.binary _) => True
  | member type name v => ∃ stored, v.storable = .ok stored ∧ Json.hasOwnForm stored = false ∧
      Json.quoted stored.text = Json.quoted (type ++ "." ++ name)
  | _ => False

/-- A text is written in another way without the null characters at its end. -/
theorem quoted_unpadded_iff {s u : String} (h : (Scalar.text s).unpadded = .text u) :
    Json.quoted u = Json.quoted s ↔ u = s := by
  refine ⟨fun hquoted => ?_, fun heq => heq ▸ rfl⟩
  obtain ⟨rest, hrest⟩ := List.rdropWhile_prefix (· == Char.ofNat 0) s.toList
  have hs : s = u ++ String.ofList rest := by
    rw [← Scalar.text.inj h, ← String.ofList_append]
    exact String.ofList_toList.symm.trans (congrArg String.ofList hrest.symm)
  rw [hs] at hquoted ⊢
  rw [Json.eq_of_quoted_append hquoted.symm, String.append_empty]

/-- Between date and time of day stands a letter in the stored form, and a blank in the text. -/
theorem quoted_iso_ne (m : Moment) : Json.quoted m.iso ≠ Json.quoted (m.text " ") := by
  rw [ne_eq, Json.quoted_inj, Moment.iso, Moment.text, Moment.text]
  simp only [String.toList_append, List.flatMap_append, List.append_assoc,
    List.append_cancel_left_eq, List.append_cancel_right_eq]
  decide

/-- **What JSON writes for a value and for what is stored in its place.** -/
theorem write_stored_iff (hv : v.IsConverted) (h : v.storable = .ok stored) :
    Json.write stored = Json.write v ↔ v.KeepsText := by
  cases v with
  | date d | time d | decimal d | uuid d =>
    rw [← pure_eq_ok.1 h]
    exact iff_of_true rfl trivial
  | instant text unit =>
    rw [← pure_eq_ok.1 h]
    exact iff_of_true rfl trivial
  | moment m =>
    rw [← pure_eq_ok.1 h]
    exact iff_of_false (fun hwrite => quoted_iso_ne m (Except.ok.inj hwrite)) id
  | scalar s =>
    cases s with
    | bool b => cases hv
    | int signed bits n =>
      rw [← pure_eq_ok.1 h]
      exact iff_of_false (fun hwrite => Bool.noConfusion (Json.write_eq_quoted_iff.1 hwrite).1) id
    | float bits x =>
      rw [← pure_eq_ok.1 h]
      by_cases hbits : bits = 64
      · subst hbits
        refine iff_of_true ?_ rfl
        have hx : x.convert .double = x := hv
        change Json.write (float (x.convert .double)) = _
        rw [hx]
        rfl
      · refine iff_of_false (fun hwrite => ?_) hbits
        have hown : Json.hasOwnForm (scalar (.float bits x)) = false := beq_eq_false_iff_ne.2 hbits
        rw [Json.write_of_not_hasOwnForm hown, Json.write_eq_quoted_iff] at hwrite
        exact Bool.noConfusion hwrite.1
    | text s =>
      obtain ⟨u, hu⟩ : ∃ u, (Scalar.text s).unpadded = .text u := ⟨_, rfl⟩
      rw [KeepsText, hu, Scalar.text.injEq, ← quoted_unpadded_iff hu, ← pure_eq_ok.1 h, hu]
      exact ⟨Except.ok.inj, congrArg Except.ok⟩
    | binary data =>
      rw [← pure_eq_ok.1 h]
      exact iff_of_true rfl trivial
  | member type name v =>
    rw [Json.write_of_not_hasOwnForm (v := member type name v) rfl, Json.write_eq_quoted_iff]
    constructor
    · exact fun hwrite => ⟨stored, h, hwrite⟩
    · rintro ⟨stored', h', hwrite⟩
      obtain rfl : stored = stored' := Except.ok.inj (h.symm.trans h')
      exact hwrite
  | _ => cases hv

/-- **Which values a collection keeps as they are stored alone.** Where a value inside of a
collection is put in another form, what stands in its place in the stored text changes, unless it is
one of the values that keep their text. -/
theorem storable_within_iff {text : String} (hv : v.IsConverted) (hstored : v.storable = .ok stored)
    (h : (within (frame :: path) v).storable = .ok (.str text)) :
    ∃ text', (within (frame :: path) stored).storable = .ok (.str text') ∧
      (text' = text ↔ v.KeepsText) := by
  rw [storable_within_cons] at h ⊢
  obtain ⟨_, hwritten, htext⟩ := map_eq_ok.1 h
  obtain rfl := str.inj htext
  obtain ⟨⟨s, hs⟩, front, back, hwithin⟩ := exists_write_within hwritten
  obtain ⟨u, hu⟩ := Json.exists_write_of_storable hstored
  refine ⟨front ++ u ++ back, map_eq_ok.2 ⟨_, hwithin _ _ hu, rfl⟩, ?_⟩
  rw [Except.ok.inj (hwritten.symm.trans (hwithin _ _ hs)), ← write_stored_iff hv hstored, hu, hs,
    String.append_left_inj, String.append_right_inj, Except.ok.injEq]

/-- A list of a number and another value, under a name. -/
def agenda (v : Value) : Value :=
  within (.dict [] (str "on") [] :: [.list [int 1] []]) v

/-- A date with a time of day. -/
def opening : Moment :=
  ⟨⟨2024, 1, 2⟩, ⟨3, 4, 5, 0, none⟩⟩

/-- The agenda of the date is stored as that of its text. That of the date with its time of day is
not, nor is that of a number of 64 bits. -/
theorem storable_within_of_agenda :
    (∃ text, (agenda (date opening.date)).storable = .ok (str text) ∧
        (agenda (str opening.date.iso)).storable = .ok (str text)) ∧
      (∃ text text', (agenda (moment opening)).storable = .ok (str text) ∧
        (agenda (str opening.iso)).storable = .ok (str text') ∧ text' ≠ text) ∧
      ∃ text text', (agenda (scalar (.int true 64 7))).storable = .ok (str text) ∧
        (agenda (int 7)).storable = .ok (str text') ∧ text' ≠ text := by
  refine ⟨?_, ?_, ?_⟩
  · obtain ⟨text, h⟩ : ∃ text, (agenda (date opening.date)).storable = .ok (str text) := ⟨_, rfl⟩
    obtain ⟨text', hstored, hkeeps⟩ :=
      storable_within_iff (v := date opening.date) trivial rfl h
    obtain rfl := hkeeps.2 trivial
    exact ⟨text', h, hstored⟩
  · obtain ⟨text, h⟩ : ∃ text, (agenda (moment opening)).storable = .ok (str text) := ⟨_, rfl⟩
    obtain ⟨text', hstored, hkeeps⟩ :=
      storable_within_iff (v := moment opening) trivial rfl h
    exact ⟨text, text', h, hstored, hkeeps.1⟩
  · obtain ⟨text, h⟩ : ∃ text, (agenda (scalar (.int true 64 7))).storable = .ok (str text) :=
      ⟨_, rfl⟩
    obtain ⟨text', hstored, hkeeps⟩ :=
      storable_within_iff (v := scalar (.int true 64 7)) trivial rfl h
    exact ⟨text, text', h, hstored, hkeeps.1⟩

end Tablewright.Value
