import Tablewright.Proofs.Text.Surrogate
import Tablewright.Proofs.Value.Json.Closed
import Mathlib.Data.List.Chain
import Mathlib.Data.List.Pairwise

/-!
# The order in which a set is stored

A set is stored as a list of its members in the order of their texts. Members with one text stay in
the order in which the set lists them. So what is stored does not depend on that order exactly if
members with one text have one form in JSON (`storable_set_iff`). A number and the text of that
number are two members with one text, and have two forms.
-/

namespace Tablewright

open Fallible

variable {items items' : List Value}

/-! ## Sorting -/

/-- The members stand in the order of their texts. -/
def InTextOrder (items : List Value) : Prop :=
  items.Pairwise fun a b => Text.precedes a.text b.text = true

theorem inTextOrder_sortedByText (items : List Value) : InTextOrder (sortedByText items) := by
  unfold InTextOrder sortedByText
  apply List.pairwise_mergeSort
  · intro a b c
    exact Text.precedes_trans
  · intro a b
    exact Text.precedes_total a.text b.text

theorem sortedByText_perm (items : List Value) : (sortedByText items).Perm items :=
  List.mergeSort_perm items _

/-- What is in order stays as it is. -/
theorem InTextOrder.sortedByText_eq (h : InTextOrder items) : sortedByText items = items :=
  List.mergeSort_of_pairwise h

/-- The texts tell whether members are in order. -/
theorem inTextOrder_iff : InTextOrder items ↔
    (items.map Value.text).Pairwise fun s t => Text.precedes s t = true := by
  rw [InTextOrder, List.pairwise_map]

/-- **The texts come in one order**, whatever the order of the members. -/
theorem map_text_sortedByText (h : items'.Perm items) :
    (sortedByText items').map Value.text = (sortedByText items).map Value.text := by
  have hperm := (sortedByText_perm items').trans (h.trans (sortedByText_perm items).symm)
  exact (hperm.map Value.text).eq_of_pairwise (fun _ _ _ _ => Text.precedes_antisymm)
    (inTextOrder_iff.1 (inTextOrder_sortedByText items'))
    (inTextOrder_iff.1 (inTextOrder_sortedByText items))

/-! ## Members with one text -/

/-- Two members have one form in JSON if they have one text. -/
def FormFollowsText (a b : Value) : Prop :=
  a.text = b.text → Json.write a = Json.write b

instance : Std.Symm FormFollowsText where
  symm _ _ h htext := (h htext.symm).symm

/-- Of two such members the first may stand before the second. -/
def MayPrecede (a b : Value) : Prop :=
  Text.precedes a.text b.text = true ∧ FormFollowsText a b

/-- Between members with one text all members have that text. -/
instance : Trans MayPrecede MayPrecede MayPrecede where
  trans hab hbc := by
    refine ⟨Text.precedes_trans hab.1 hbc.1, fun htext => ?_⟩
    have hsame := Text.precedes_antisymm hab.1 (htext ▸ hbc.1)
    exact (hab.2 hsame).trans (hbc.2 (hsame ▸ htext))

/-- Then two lists of members with the same texts are written alike. -/
theorem mapM_write_eq {as bs : List Value} (h : ∀ a ∈ as, ∀ b ∈ bs, FormFollowsText a b)
    (htext : as.map Value.text = bs.map Value.text) : as.mapM Json.write = bs.mapM Json.write := by
  induction as generalizing bs with
  | nil => rw [List.map_eq_nil_iff.1 htext.symm]
  | cons a as ih =>
    cases bs with
    | nil => cases htext
    | cons b bs =>
      obtain ⟨hab, hrest⟩ := List.cons.inj htext
      rw [List.mapM_cons, List.mapM_cons, h a List.mem_cons_self b List.mem_cons_self hab,
        ih (fun a ha b hb => h a (List.mem_cons_of_mem _ ha) b (List.mem_cons_of_mem _ hb)) hrest]

/-- Neighbours in a list that may change places have one form in JSON. -/
theorem write_eq_of_swap {before after : List Value} {a b : Value} {text : String}
    (h : Json.write (.list (before ++ a :: b :: after)) = .ok text)
    (hswap : Json.write (.list (before ++ b :: a :: after)) = .ok text) :
    Json.write a = Json.write b := by
  obtain ⟨texts, htexts, rfl⟩ := Json.write_list_eq_ok.1 h
  obtain ⟨swapped, hswapped, heq⟩ := Json.write_list_eq_ok.1 hswap
  obtain ⟨front, s, behind, hfront, hs, hbehind, rfl⟩ := mapM_append_cons_eq_ok.1 htexts
  obtain ⟨t, back, ht, hback, rfl⟩ := mapM_cons_eq_ok.1 hbehind
  have hpieces : (before ++ b :: a :: after).mapM Json.write = .ok (front ++ t :: s :: back) :=
    mapM_append_cons_eq_ok.2
      ⟨front, t, _, hfront, ht, mapM_cons_eq_ok.2 ⟨s, back, hs, hback, rfl⟩, rfl⟩
  obtain rfl : front ++ t :: s :: back = swapped := Except.ok.inj (hpieces.symm.trans hswapped)
  -- The two texts are the same up to the place where the neighbours stand, and a comma ends each.
  obtain ⟨prefixed, hprefixed⟩ := Json.exists_intercalate_append ", " front
  have hjoined : (s ++ ", " ++ ", ".intercalate (t :: back)).toList =
      (t ++ ", " ++ ", ".intercalate (s :: back)).toList := by
    rw [Value.enclosed, Value.enclosed, String.append_left_inj, String.append_right_inj,
      hprefixed, hprefixed, String.append_right_inj, String.intercalate_cons_cons,
      String.intercalate_cons_cons] at heq
    rw [heq]
  have hcomma : ", ".toList = [',', ' '] := by decide
  rw [String.toList_append, String.toList_append, String.toList_append, String.toList_append,
    hcomma, List.append_assoc, List.append_assoc] at hjoined
  have hst := Json.eq_of_comma (Json.isClosed_of_write hs) (Json.isClosed_of_write ht) hjoined
  rw [hs, ht, String.toList_inj.1 hst]

/-- Members with one text may change places where they are neighbours in order. So if all orders are
stored alike, each two members have one form or two texts. -/
theorem formFollowsText_of_storable {frozen : Bool} {text : String}
    (h : ∀ items', items'.Perm items → (Value.set frozen items').storable = .ok (.str text)) :
    ∀ a ∈ items, ∀ b ∈ items, FormFollowsText a b := by
  have hwrite : ∀ items', items'.Perm items → InTextOrder items' →
      Json.write (.list items') = .ok text := by
    intro items' hperm horder
    have hstored := h items' hperm
    rw [Value.storable, horder.sortedByText_eq] at hstored
    obtain ⟨_, hwritten, htext⟩ := map_eq_ok.1 hstored
    rw [hwritten, Value.str.inj htext]
  have horder := inTextOrder_sortedByText items
  have hperm := sortedByText_perm items
  have hchain : (sortedByText items).IsChain MayPrecede := by
    refine List.isChain_iff_forall_rel_of_append_cons_cons.2 fun a b before after hsplit => ?_
    refine ⟨List.isChain_iff_forall_rel_of_append_cons_cons.1 horder.isChain hsplit,
      fun htext => ?_⟩
    rw [hsplit] at horder hperm
    have hswap : (before ++ b :: a :: after).Perm (before ++ a :: b :: after) :=
      (List.Perm.swap a b after).append_left before
    refine write_eq_of_swap (hwrite _ hperm horder) (hwrite _ (hswap.trans hperm) ?_)
    rw [inTextOrder_iff, List.map_append, List.map_cons, List.map_cons] at horder ⊢
    rwa [htext] at horder ⊢
  have hpairs : (sortedByText items).Pairwise FormFollowsText :=
    (List.isChain_iff_pairwise.1 hchain).imp And.right
  intro a ha b hb
  exact hpairs.forall_of_forall (fun _ _ _ => rfl) (hperm.mem_iff.2 ha) (hperm.mem_iff.2 hb)

/-- **What is stored for a set does not depend on the order of its members exactly if their texts
tell their forms in JSON.** -/
theorem storable_set_iff {frozen : Bool} {text : String}
    (h : (Value.set frozen items).storable = .ok (.str text)) :
    (∀ frozen' items', items'.Perm items →
        (Value.set frozen' items').storable = .ok (.str text)) ↔
      ∀ a ∈ items, ∀ b ∈ items, a.text = b.text → Json.write a = Json.write b := by
  constructor
  · intro hall
    exact formFollowsText_of_storable (hall frozen)
  · intro htells frozen' items' hperm
    have hmem : ∀ a ∈ sortedByText items', a ∈ items := fun a ha =>
      hperm.mem_iff.1 ((sortedByText_perm items').mem_iff.1 ha)
    have hmem' : ∀ b ∈ sortedByText items, b ∈ items := fun b hb =>
      (sortedByText_perm items).mem_iff.1 hb
    have hforms : (sortedByText items').mapM Json.write = (sortedByText items).mapM Json.write :=
      mapM_write_eq (fun a ha b hb => htells a (hmem a ha) b (hmem' b hb))
        (map_text_sortedByText hperm)
    rw [← h, Value.storable, Value.storable, Json.write, Json.write, Json.writeItems_eq_mapM,
      Json.writeItems_eq_mapM, hforms]

/-- A number and its text are stored in the order in which the set lists them; numbers alone are
stored in one order. -/
theorem storable_set_of_numbers :
    (¬∀ frozen' items', items'.Perm [.int 1, .str "1"] →
        (Value.set frozen' items').storable = .ok (.str "[1, \"1\"]")) ∧
      ∀ frozen' items', items'.Perm [.int 1, .int 2, .int 10] →
        (Value.set frozen' items').storable = .ok (.str "[1, 10, 2]") := by
  constructor
  · have hstored : (Value.set false [.int 1, .str "1"]).storable = .ok (.str "[1, \"1\"]") := by
      rw [Value.storable, InTextOrder.sortedByText_eq (by unfold InTextOrder; decide)]
      rfl
    intro hall
    have hforms := (storable_set_iff hstored).1 hall (.int 1) (by simp) (.str "1") (by simp) rfl
    exact absurd (Except.ok.inj hforms) (by decide)
  · have hstored : (Value.set true [.int 1, .int 10, .int 2]).storable =
        .ok (.str "[1, 10, 2]") := by
      rw [Value.storable, InTextOrder.sortedByText_eq (by unfold InTextOrder; decide)]
      rfl
    intro frozen' items' hperm
    have hint : ∀ a ∈ [Value.int 1, Value.int 10, Value.int 2], ∃ n, a = .int n := by simp
    refine (storable_set_iff hstored).2 (fun a ha b hb htext => ?_) frozen' items'
      (hperm.trans ((List.Perm.swap _ _ _).cons _))
    obtain ⟨m, rfl⟩ := hint a ha
    obtain ⟨n, rfl⟩ := hint b hb
    exact congrArg Except.ok htext

end Tablewright
