import Tablewright.Proofs.Identifier
import Tablewright.Proofs.Schema.Naming
import Tablewright.Proofs.Text.Casing
import Tablewright.Proofs.Text.Lines

/-!
# Names that are made up for indexes

An index without a name gets one made of its table and its terms. What such a name shows of the
terms is their stem (`Index.stem`), and two of these names are the same exactly if the indexes are
alike in being unique and have one stem. So indexes over different terms get one name wherever the
stem does not tell the terms apart (`ResolvedModel.namesApart_iff`): it is cut, it does not show how
a term is ordered, and an underscore in an attribute looks like one between two of them. Short
attributes of letters and digits are told apart.
-/

namespace Tablewright

open Fallible

variable {m : ResolvedModel} {i i' : Index} {c c' : CreateIndex} {entries : List Index}
  {made : List CreateIndex} {s s' : String}

/-! ## Names -/

/-- What a made-up name shows of a term: its attribute or its expression. -/
def IndexTerm.shown? (t : IndexTerm) : Option String :=
  t.name.toOption.bind Value.text?

namespace Index

/-- Whether the name of an index is made up. -/
def isUnnamed (i : Index) : Bool :=
  !i.name.truthy

/-- What a made-up name shows of the terms, each on its own. -/
def shown (i : Index) : List String :=
  (i.terms.toOption.getD []).filterMap IndexTerm.shown?

/-- The part of a made-up name that tells of the terms. -/
def stem (i : Index) : String :=
  Text.lower (String.ofList (nameable ("_".intercalate i.shown)))

/-- The first word of a made-up name. -/
def opening (i : Index) : String :=
  if i.unique.truthy then "unique" else "idx"

/-- **The parts of a made-up name.** -/
theorem madeUpName_eq_ok {table name : String} (h : i.madeUpName table = .ok name) :
    name = i.opening ++ "_" ++ Text.lower table ++ "_" ++ i.stem := by
  obtain ⟨terms, hterms, h⟩ := bind_eq_ok.1 h
  obtain ⟨values, hvalues, h⟩ := bind_eq_ok.1 h
  obtain ⟨texts, htexts, h⟩ := bind_eq_ok.1 h
  obtain ⟨unique, hunique, h⟩ := bind_eq_ok.1 h
  have hshown : i.shown = texts := by
    have heach : List.Forall₂ (fun t s => (IndexTerm.shown? t).toList = [s]) terms texts := by
      refine forall₂_trans (fun t v s hv hs => ?_) (mapM_eq_ok.1 hvalues) (mapM_eq_ok.1 htexts)
      rw [IndexTerm.shown?, hv, Except.toOption, Option.bind_some, Value.asText_eq_ok.1 hs]
      rfl
    rw [shown, hterms, List.filterMap_eq_flatMap_toList]
    exact (flatMap_eq_of_forall₂ heach).trans (List.flatMap_singleton' texts)
  have hlower : Text.lower i.opening = i.opening := by
    unfold opening
    split <;> decide +kernel
  have hname := pure_eq_ok.1 h
  rw [← (Value.truth_eq_ok.1 hunique).2] at hname
  rw [← hname, Text.lower_append_underscore, Text.lower_append_underscore, stem, hshown]
  exact congrArg (· ++ "_" ++ Text.lower table ++ "_" ++ _) hlower

/-- What follows the first words of two names tells whether the names are the same. -/
theorem opening_append_inj :
    i.opening ++ s = i'.opening ++ s' ↔ i.unique.truthy = i'.unique.truthy ∧ s = s' := by
  have hapart : ∀ s s' : String, "unique" ++ s ≠ "idx" ++ s' := by
    intro s s' heq
    have hfirst := congrArg (fun t : String => t.toList.head?) heq
    simp [String.toList_append] at hfirst
  unfold opening
  cases i.unique.truthy <;> cases i'.unique.truthy <;>
    simp [String.append_right_inj, hapart, (hapart _ _).symm]

end Index

/-- The terms of an index as its statement writes them. -/
def CreateIndex.fieldList (c : CreateIndex) : String :=
  commas (c.terms.map IndexedTerm.render)

/-- The name of a statement for an index without one. -/
theorem Index.name_of_create (h : i.create m = .ok c) (hi : i.isUnnamed = true) :
    c.name = i.opening ++ "_" ++ Text.lower m.tableName ++ "_" ++ i.stem := by
  obtain ⟨unique, -, h⟩ := bind_eq_ok.1 h
  obtain ⟨ifNotExists, -, h⟩ := bind_eq_ok.1 h
  obtain ⟨named, hnamed, h⟩ := bind_eq_ok.1 h
  rw [isUnnamed, (Value.truth_eq_ok.1 hnamed).2] at hi
  obtain ⟨name, hname, h⟩ := ite_bind_eq_ok.1 h
  rw [if_neg (by simpa using hi)] at hname
  obtain ⟨terms, -, h⟩ := bind_eq_ok.1 h
  obtain ⟨values, -, h⟩ := bind_eq_ok.1 h
  obtain ⟨texts, -, h⟩ := bind_eq_ok.1 h
  obtain ⟨condition, -, h⟩ := bind_eq_ok.1 h
  rw [← pure_eq_ok.1 h]
  exact madeUpName_eq_ok hname

/-- **When two made-up names are the same.** -/
theorem Index.name_eq_iff (h : i.create m = .ok c) (h' : i'.create m = .ok c')
    (hi : i.isUnnamed = true) (hi' : i'.isUnnamed = true) :
    c.name = c'.name ↔ i.unique.truthy = i'.unique.truthy ∧ i.stem = i'.stem := by
  rw [name_of_create h hi, name_of_create h' hi']
  simp only [String.append_assoc, opening_append_inj, String.append_right_inj]

/-! ## Plain indexes -/

/-- The attribute of a term that is nothing but an attribute. -/
def IndexTerm.attribute? : IndexTerm → Option String
  | column name => some name
  | field f =>
    if f.expression.truthy || f.collate.truthy || f.order.truthy then none else f.name.text?
  | other _ => none

/-- An index by attributes of letters and digits, whose names are short together. -/
structure Index.IsPlain (i : Index) : Prop where
  /-- Its terms are attributes and nothing else. -/
  bare : ∀ t ∈ i.terms.toOption.getD [], t.attribute?.isSome = true
  /-- There are some. -/
  nonempty : i.shown ≠ []
  /-- The attributes are made of letters and digits. -/
  spelled : ∀ attr ∈ i.shown, ∀ d ∈ attr.toList, d.isAlphanum = true
  /-- Their names fit into the name of the index. -/
  short : ("_".intercalate i.shown).length ≤ shownNameLength

/-- Whether an index is plain can be computed. -/
theorem Index.isPlain_iff (i : Index) : i.IsPlain ↔
    (∀ t ∈ i.terms.toOption.getD [], t.attribute?.isSome = true) ∧ i.shown ≠ [] ∧
      (∀ attr ∈ i.shown, attr.toList.all Char.isAlphanum = true) ∧
      ("_".intercalate i.shown).length ≤ shownNameLength :=
  ⟨fun h => ⟨h.bare, h.nonempty, fun attr hattr => List.all_eq_true.2 (h.spelled attr hattr),
      h.short⟩,
    fun h => ⟨h.1, h.2.1, fun attr hattr => List.all_eq_true.1 (h.2.2.1 attr hattr), h.2.2.2⟩⟩

instance (i : Index) : Decidable i.IsPlain :=
  decidable_of_iff _ i.isPlain_iff.symm

/-- A letter or digit is a word character, and in lower case it is still no underscore. -/
theorem isAlphanum_facts {d : Char} (h : d.isAlphanum = true) :
    d.toNat < 128 ∧ Text.isWord d = true ∧ d.toLower ≠ '_' := by
  have htable : ∀ n < 128, (Char.ofNat n).isAlphanum = true →
      Text.isWord (Char.ofNat n) = true ∧ (Char.ofNat n).toLower ≠ '_' := by
    decide +kernel
  have hascii : d.toNat < 128 := toNat_lt_of_continues (by rw [continuesIdentifier, h]; rfl)
  have hd := htable d.toNat hascii
  rw [Char.ofNat_toNat] at hd
  exact ⟨hascii, hd h⟩

/-- A short text of word characters goes into a name as it is. -/
theorem nameable_eq_self (hword : ∀ d ∈ s.toList, Text.isWord d = true)
    (hshort : s.length ≤ shownNameLength) : nameable s = s.toList := by
  have hmap : (s.toList.map fun d => if Text.isWord d = true then d else '_') = s.toList :=
    (List.map_congr_left fun d hd => if_pos (hword d hd)).trans (List.map_id _)
  unfold nameable
  rw [hmap, List.take_of_length_le (by rwa [String.length_toList])]

namespace Index.IsPlain

/-- The stem of a plain index shows all its attributes, but for their case. -/
theorem stem_eq (h : i.IsPlain) : i.stem = "_".intercalate (i.shown.map Text.lower) := by
  have hword : ∀ d ∈ ("_".intercalate i.shown).toList, Text.isWord d = true := by
    refine Text.forall_mem_intercalate (List.all_eq_true.1 (by decide +kernel))
      fun attr hattr d hd => ?_
    exact (isAlphanum_facts (h.spelled attr hattr d hd)).2.1
  rw [stem, nameable_eq_self hword h.short, String.ofList_toList, Text.lower_intercalate_underscore]

/-- No underscore is in an attribute of a plain index. -/
theorem underscore_not_mem (h : i.IsPlain) :
    ∀ attr ∈ i.shown.map Text.lower, '_' ∉ attr.toList := by
  intro lowered hlowered hmem
  obtain ⟨attr, hattr, rfl⟩ := List.mem_map.1 hlowered
  rw [Text.toList_lower fun d hd => (isAlphanum_facts (h.spelled attr hattr d hd)).1] at hmem
  obtain ⟨d, hd, heq⟩ := List.mem_map.1 hmem
  exact (isAlphanum_facts (h.spelled attr hattr d hd)).2.2 heq

/-- **Stems tell plain indexes apart**, but for the case of their attributes. -/
theorem stem_eq_iff (h : i.IsPlain) (h' : i'.IsPlain) :
    i.stem = i'.stem ↔ i.shown.map Text.lower = i'.shown.map Text.lower := by
  rw [h.stem_eq, h'.stem_eq]
  exact Text.intercalate_inj (by simpa using h.nonempty) (by simpa using h'.nonempty)
    h.underscore_not_mem h'.underscore_not_mem

end Index.IsPlain

/-- What is not given is not written. -/
theorem given?_eq_none {v : Value} {text? : Option String} (hv : v.truthy = false)
    (h : given? v = .ok text?) : text? = none := by
  obtain ⟨given, hgiven, h⟩ := bind_eq_ok.1 h
  obtain rfl : v.truthy = given := (Value.truth_eq_ok.1 hgiven).2
  rw [← pure_eq_ok.1 h, hv]
  rfl

theorem action?_eq_none {v : Value} {text? : Option String} (hv : v.truthy = false)
    (h : action? v = .ok text?) : text? = none := by
  obtain ⟨given, hgiven, h⟩ := bind_eq_ok.1 h
  obtain rfl : v.truthy = given := (Value.truth_eq_ok.1 hgiven).2
  rw [hv] at h
  exact (pure_eq_ok.1 h).symm

/-- What an attribute is written as. -/
theorem text?_of_columnFor {key v : Value} {attr : String} (h : m.columnFor key = .ok v)
    (hkey : key.text? = some attr) : v.text? = some (m.columnOf attr) := by
  rw [ResolvedModel.columnFor, if_pos (Value.isHashable_of_text? hkey), hkey, Option.bind_some] at h
  rw [← pure_eq_ok.1 h, ResolvedModel.columnOf, Named.getOr]
  cases m.fieldMap.get? attr with
  | some column => rfl
  | none => exact hkey

/-- A term that is nothing but an attribute is written as its column. -/
theorem Index.term_of_attribute? {t : IndexTerm} {attr : String} {v : Value}
    {collate order : Option String} (h : Index.term m t = .ok (v, collate, order))
    (hattr : t.attribute? = some attr) :
    t.shown? = some attr ∧ v.text? = some (m.columnOf attr) ∧ collate = none ∧ order = none := by
  cases t with
  | column name =>
    cases hattr
    cases h
    exact ⟨rfl, rfl, rfl, rfl⟩
  | field f =>
    rw [IndexTerm.attribute?] at hattr
    split at hattr
    · cases hattr
    · rename_i hbare
      simp only [Bool.or_eq_true, not_or, Bool.not_eq_true] at hbare
      obtain ⟨⟨hexpression, hcollate⟩, horder⟩ := hbare
      obtain ⟨text, htext, h⟩ := bind_eq_ok.1 h
      obtain ⟨collate', hcollate', h⟩ := bind_eq_ok.1 h
      obtain rfl := given?_eq_none hcollate hcollate'
      obtain ⟨order', horder', h⟩ := bind_eq_ok.1
        (show (action? f.order >>= fun order => _) = _ from h)
      obtain rfl := action?_eq_none horder horder'
      obtain ⟨computed, hcomputed, hcolumn⟩ := bind_eq_ok.1 htext
      obtain rfl : f.expression.truthy = computed := (Value.truth_eq_ok.1 hcomputed).2
      rw [hexpression, if_neg Bool.false_ne_true] at hcolumn
      cases h
      exact ⟨hattr, text?_of_columnFor hcolumn hattr, rfl, rfl⟩
  | other v => cases hattr

/-- **How a plain index is written**: by the columns of its attributes. -/
theorem Index.IsPlain.fieldList_eq (h : i.create m = .ok c) (hi : i.IsPlain) :
    c.fieldList = commas (i.shown.map m.columnOf) := by
  obtain ⟨unique, -, h⟩ := bind_eq_ok.1 h
  obtain ⟨ifNotExists, -, h⟩ := bind_eq_ok.1 h
  obtain ⟨named, -, h⟩ := bind_eq_ok.1 h
  obtain ⟨name, -, h⟩ := ite_bind_eq_ok.1 h
  obtain ⟨terms, hterms, h⟩ := bind_eq_ok.1 h
  obtain ⟨values, hvalues, h⟩ := bind_eq_ok.1 h
  obtain ⟨texts, htexts, h⟩ := bind_eq_ok.1 h
  obtain ⟨condition, -, h⟩ := bind_eq_ok.1 h
  have hbare : ∀ t ∈ terms, ∃ attr, t.attribute? = some attr := by
    intro t ht
    exact Option.isSome_iff_exists.1 (hi.bare t (by rw [hterms]; exact ht))
  have heach : List.Forall₂ (fun (t : IndexTerm) (out : IndexedTerm) =>
      t.shown?.toList.map m.columnOf = [out.render]) terms texts := by
    refine forall₂_trans (fun t value out hterm hout => ?_)
      ((List.forall₂_and_left _ _).2 ⟨hbare, mapM_eq_ok.1 hvalues⟩) (mapM_eq_ok.1 htexts)
    obtain ⟨⟨attr, hattr⟩, hterm⟩ := hterm
    obtain ⟨hshown, htext, hcollate, horder⟩ := term_of_attribute? hterm hattr
    obtain ⟨s, hs, hout⟩ := bind_eq_ok.1 hout
    obtain rfl : s = m.columnOf attr :=
      Option.some_inj.1 ((Value.asText_eq_ok.1 hs).symm.trans htext)
    rw [← pure_eq_ok.1 hout, hshown, hcollate, horder]
    rfl
  have hshown : i.shown = terms.flatMap fun t => t.shown?.toList := by
    rw [shown, hterms]
    exact List.filterMap_eq_flatMap_toList _ _
  rw [← pure_eq_ok.1 h, CreateIndex.fieldList, hshown, List.map_flatMap,
    flatMap_eq_of_forall₂ heach, List.map_eq_flatMap]

/-! ## The indexes of a model -/

/-- Indexes whose names are made up have different names if their terms differ. -/
def NamesApart (indexes : List (Index × CreateIndex)) : Prop :=
  ∀ e ∈ indexes, ∀ e' ∈ indexes, e.1.isUnnamed = true → e'.1.isUnnamed = true →
    e.2.fieldList ≠ e'.2.fieldList → e.2.name ≠ e'.2.name

/-- Two indexes get one made-up name for different terms. -/
def Clash (e e' : Index × CreateIndex) : Prop :=
  e.1.isUnnamed = true ∧ e'.1.isUnnamed = true ∧ e.1.unique.truthy = e'.1.unique.truthy ∧
    e.1.stem = e'.1.stem ∧ e.2.fieldList ≠ e'.2.fieldList

instance (e e' : Index × CreateIndex) : Decidable (Clash e e') :=
  inferInstanceAs (Decidable (_ ∧ _ ∧ _ ∧ _ ∧ _))

/-- What indexes with made-up names show of their terms, one index after the other. -/
def shownByUnnamed (entries : List Index) : List String :=
  (entries.filter Index.isUnnamed).flatMap Index.shown

/-- Two lists that one function does not tell apart, seen through a function that tells no more. -/
theorem map_eq_map_of_map_eq_map {α β γ : Type} {f : α → β} {g : α → γ} {xs ys : List α}
    (h : xs.map f = ys.map f) (hg : ∀ x ∈ xs, ∀ y ∈ ys, f x = f y → g x = g y) :
    xs.map g = ys.map g := by
  induction xs generalizing ys with
  | nil => rw [List.map_eq_nil_iff.1 h.symm]
  | cons x xs ih =>
    cases ys with
    | nil => cases h
    | cons y ys =>
      rw [List.map_cons, List.map_cons, List.cons.injEq] at h
      rw [List.map_cons, List.map_cons, hg x List.mem_cons_self y List.mem_cons_self h.1,
        ih h.2 fun x hx y hy => hg x (List.mem_cons_of_mem _ hx) y (List.mem_cons_of_mem _ hy)]

namespace ResolvedModel

/-- Every statement is made of its index. -/
theorem create_of_mem_zip (hentries : m.allIndexes = .ok entries)
    (hmade : m.createIndexes = .ok made) {e : Index × CreateIndex} (he : e ∈ entries.zip made) :
    e.1.create m = .ok e.2 := by
  obtain ⟨all, hall, h⟩ := bind_eq_ok.1 hmade
  obtain rfl : entries = all := Except.ok.inj (hentries.symm.trans hall)
  exact (List.forall₂_iff_zip.1 (mapM_eq_ok.1 h)).2 he

/-- **When made-up names tell indexes apart**: exactly if no two indexes clash. Plain indexes do
not, if attributes that differ in case only stand for one column. -/
theorem namesApart_iff (hentries : m.allIndexes = .ok entries)
    (hmade : m.createIndexes = .ok made) :
    (NamesApart (entries.zip made) ↔
        ∀ e ∈ entries.zip made, ∀ e' ∈ entries.zip made, ¬ Clash e e') ∧
      ((∀ i ∈ entries, i.isUnnamed = true → i.IsPlain) →
        (∀ attr ∈ shownByUnnamed entries, ∀ attr' ∈ shownByUnnamed entries,
          Text.lower attr = Text.lower attr' → m.columnOf attr = m.columnOf attr') →
        NamesApart (entries.zip made)) := by
  have hclash : NamesApart (entries.zip made) ↔
      ∀ e ∈ entries.zip made, ∀ e' ∈ entries.zip made, ¬ Clash e e' := by
    refine forall₂_congr fun e he => forall₂_congr fun e' he' => ?_
    have hcreate := create_of_mem_zip hentries hmade he
    have hcreate' := create_of_mem_zip hentries hmade he'
    constructor
    · rintro hapart ⟨hi, hi', hunique, hstem, hfields⟩
      exact hapart hi hi' hfields ((Index.name_eq_iff hcreate hcreate' hi hi').2 ⟨hunique, hstem⟩)
    · intro hfree hi hi' hfields hname
      obtain ⟨hunique, hstem⟩ := (Index.name_eq_iff hcreate hcreate' hi hi').1 hname
      exact hfree ⟨hi, hi', hunique, hstem, hfields⟩
  refine ⟨hclash, fun hplain hcase => hclash.2 ?_⟩
  rintro e he e' he' ⟨hi, hi', -, hstem, hfields⟩
  have hmem := (List.of_mem_zip he).1
  have hmem' := (List.of_mem_zip he').1
  have hshown : ∀ {e : Index × CreateIndex}, e.1 ∈ entries → e.1.isUnnamed = true →
      ∀ attr ∈ e.1.shown, attr ∈ shownByUnnamed entries := fun hmem hi attr hattr =>
    List.mem_flatMap.2 ⟨_, List.mem_filter.2 ⟨hmem, hi⟩, hattr⟩
  have hlower := ((hplain _ hmem hi).stem_eq_iff (hplain _ hmem' hi')).1 hstem
  refine hfields ?_
  rw [Index.IsPlain.fieldList_eq (create_of_mem_zip hentries hmade he) (hplain _ hmem hi),
    Index.IsPlain.fieldList_eq (create_of_mem_zip hentries hmade he') (hplain _ hmem' hi'),
    map_eq_map_of_map_eq_map hlower fun attr hattr attr' hattr' =>
      hcase attr (hshown hmem hi attr hattr) attr' (hshown hmem' hi' attr' hattr')]

end ResolvedModel

/-- A model with indexes, on columns that are flagged or are not. -/
def itemDefinition (columns : List (String × Bool)) (indexes : List Value) : ModelDefinition :=
  { name := .str "Item"
    timestamps := .bool false
    columns := columns.map fun (name, flagged) =>
      (.str name, { type := .str "INTEGER", indexed := .bool flagged })
    indexes := indexes.map fun terms => { fields := terms } }

/-- What is decided by compiling the indexes of a definition holds of them. -/
theorem exists_indexes_of_decide (d : ModelDefinition)
    (p : ResolvedModel → List Index → List (Index × CreateIndex) → Prop)
    [∀ m entries indexes, Decidable (p m entries indexes)]
    (h : ((DefinitionSource.built d).resolve.toOption.map fun m =>
      decide (m.allIndexes.toOption.isSome = true ∧ m.createIndexes.toOption.isSome = true ∧
        p m (m.allIndexes.toOption.getD [])
          ((m.allIndexes.toOption.getD []).zip (m.createIndexes.toOption.getD [])))) = some true) :
    ∃ m entries made, (DefinitionSource.built d).resolve = .ok m ∧ m.allIndexes = .ok entries ∧
      m.createIndexes = .ok made ∧ p m entries (entries.zip made) := by
  obtain ⟨m, hm, hentries, hmade, hp⟩ := exists_resolve_of_decide d _ h
  obtain ⟨entries, hentries⟩ := Option.isSome_iff_exists.1 hentries
  obtain ⟨made, hmade⟩ := Option.isSome_iff_exists.1 hmade
  rw [hentries, hmade] at hp
  exact ⟨m, entries, made, hm, eq_ok_of_toOption hentries, eq_ok_of_toOption hmade, hp⟩

/-- **Short attributes are told apart, but not two that begin alike**, nor an attribute with an
underscore from two attributes, nor a column from itself in descending order. -/
theorem namesApart_of_items :
    (∃ m entries made, (DefinitionSource.built (itemDefinition [("a", false), ("b", false),
        ("c", true)] [.ofTexts ["a"], .ofTexts ["a", "b"]])).resolve = .ok m ∧
      m.allIndexes = .ok entries ∧ m.createIndexes = .ok made ∧ NamesApart (entries.zip made)) ∧
    (∃ m entries made, (DefinitionSource.built (itemDefinition
        [("aVeryLongColumnNameThatNobodyWouldTypeTwiceInOneRowFirst", true),
          ("aVeryLongColumnNameThatNobodyWouldTypeTwiceInOneRowSecond", true)] [])).resolve =
        .ok m ∧
      m.allIndexes = .ok entries ∧ m.createIndexes = .ok made ∧ ¬ NamesApart (entries.zip made)) ∧
    (∃ m entries made, (DefinitionSource.built (itemDefinition [("a", false), ("b", false),
        ("a_b", true)] [.ofTexts ["a", "b"]])).resolve = .ok m ∧
      m.allIndexes = .ok entries ∧ m.createIndexes = .ok made ∧ ¬ NamesApart (entries.zip made)) ∧
    ∃ m entries made, (DefinitionSource.built (itemDefinition [("a", true)]
        [.list [IndexField.toValue { name := .str "a", order := .str "desc" }]])).resolve = .ok m ∧
      m.allIndexes = .ok entries ∧ m.createIndexes = .ok made ∧
      ¬ NamesApart (entries.zip made) := by
  have hclash : ∀ d : ModelDefinition,
      (∃ m entries made, (DefinitionSource.built d).resolve = .ok m ∧ m.allIndexes = .ok entries ∧
        m.createIndexes = .ok made ∧
        ∃ e ∈ entries.zip made, ∃ e' ∈ entries.zip made, Clash e e') →
      ∃ m entries made, (DefinitionSource.built d).resolve = .ok m ∧ m.allIndexes = .ok entries ∧
        m.createIndexes = .ok made ∧ ¬ NamesApart (entries.zip made) := by
    rintro d ⟨m, entries, made, hm, hentries, hmade, e, he, e', he', hclash⟩
    refine ⟨m, entries, made, hm, hentries, hmade, fun hapart => ?_⟩
    exact (ResolvedModel.namesApart_iff hentries hmade).1.1 hapart e he e' he' hclash
  obtain ⟨m, entries, made, hm, hentries, hmade, hplain, hcase⟩ :=
    exists_indexes_of_decide
      (itemDefinition [("a", false), ("b", false), ("c", true)]
        [.ofTexts ["a"], .ofTexts ["a", "b"]])
      (fun m entries _ => (∀ i ∈ entries, i.isUnnamed = true → i.IsPlain) ∧
        ∀ attr ∈ shownByUnnamed entries, ∀ attr' ∈ shownByUnnamed entries,
          Text.lower attr = Text.lower attr' → m.columnOf attr = m.columnOf attr')
      (by decide +kernel)
  refine ⟨⟨m, entries, made, hm, hentries, hmade,
    (ResolvedModel.namesApart_iff hentries hmade).2 hplain hcase⟩, ?_, ?_, ?_⟩
  · exact hclash _ (exists_indexes_of_decide _
      (fun _ _ indexes => ∃ e ∈ indexes, ∃ e' ∈ indexes, Clash e e') (by decide +kernel))
  · exact hclash _ (exists_indexes_of_decide _
      (fun _ _ indexes => ∃ e ∈ indexes, ∃ e' ∈ indexes, Clash e e') (by decide +kernel))
  · exact hclash _ (exists_indexes_of_decide _
      (fun _ _ indexes => ∃ e ∈ indexes, ∃ e' ∈ indexes, Clash e e') (by decide +kernel))

end Tablewright
