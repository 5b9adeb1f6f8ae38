import Tablewright.Proofs.Identifier
import Tablewright.Schema.Statement
import Mathlib.Data.List.Forall2

/-!
# The texts of statements

What can be read off the text of a statement that makes a table. Two such statements that differ in
the tables of their foreign keys alone have different texts, as long as the names of those tables
hold no parenthesis: the name ends where the first parenthesis stands.
-/

namespace Tablewright

/-! ## Joined texts -/

/-- The first of some joined texts comes as it is, every other behind the separator. -/
theorem toList_intercalate_cons (sep s : String) (rest : List String) :
    (sep.intercalate (s :: rest)).toList =
      s.toList ++ rest.flatMap fun t => sep.toList ++ t.toList := by
  induction rest generalizing s with
  | nil => rw [String.intercalate_singleton, List.flatMap_nil, List.append_nil]
  | cons t rest ih =>
    rw [String.intercalate_cons_cons, String.toList_append, String.toList_append, ih,
      List.flatMap_cons, List.append_assoc, List.append_assoc]

/-- So all of them come behind the separator if one is put in front. -/
theorem append_toList_intercalate (sep : String) {texts : List String} (h : texts ≠ []) :
    sep.toList ++ (sep.intercalate texts).toList =
      texts.flatMap fun t => sep.toList ++ t.toList := by
  cases texts with
  | nil => exact absurd rfl h
  | cons s rest => rw [toList_intercalate_cons, List.flatMap_cons, List.append_assoc]

/-- Texts are told apart up to a character that neither of them holds. -/
theorem append_cons_inj {c : Char} {xs ys s t : List Char} (hx : c ∉ xs) (hy : c ∉ ys)
    (h : xs ++ c :: s = ys ++ c :: t) : xs = ys ∧ s = t := by
  induction xs generalizing ys with
  | nil =>
    cases ys with
    | nil => exact ⟨rfl, (List.cons.inj h).2⟩
    | cons y ys => exact absurd ((List.cons.inj h).1 ▸ List.mem_cons_self) hy
  | cons x xs ih =>
    cases ys with
    | nil => exact absurd ((List.cons.inj h).1 ▸ List.mem_cons_self) hx
    | cons y ys =>
      obtain ⟨rfl, htail⟩ := List.cons.inj h
      obtain ⟨rfl, hrest⟩ := ih (fun hc => hx (List.mem_cons_of_mem _ hc))
        (fun hc => hy (List.mem_cons_of_mem _ hc)) htail
      exact ⟨rfl, hrest⟩

/-! ## Foreign keys -/

namespace ForeignKey

variable {k : ForeignKey} {ks ks' : List ForeignKey}

/-- What stands before the table in the text of a foreign key. -/
def opening (k : ForeignKey) : List Char :=
  ("FOREIGN KEY (" ++ k.column ++ ") REFERENCES ").toList

/-- What stands behind the table and the parenthesis that ends it. -/
def ending (k : ForeignKey) : List Char :=
  (k.key ++ ")").toList ++ k.actions.clauses.flatMap fun t => " ".toList ++ t.toList

theorem toList_render (k : ForeignKey) :
    k.render.toList = k.opening ++ (k.table.toList ++ '(' :: k.ending) := by
  rw [render, toList_intercalate_cons]
  simp only [opening, ending, String.toList_append, List.append_assoc]
  rfl

/-- Foreign keys of which one may stand for the other: they differ in the table at most, and if they
do, neither table has a parenthesis in its name. -/
def SameBut (k k' : ForeignKey) : Prop :=
  k' = { k with table := k'.table } ∧
    (k.table = k'.table ∨ '(' ∉ k.table.toList ∧ '(' ∉ k'.table.toList)

/-- **The texts of such foreign keys tell the tables apart.** -/
theorem eq_of_flatMap_render (h : List.Forall₂ SameBut ks ks') {rest : List Char}
    (heq : (ks.flatMap fun k => ", ".toList ++ k.render.toList) ++ rest =
      (ks'.flatMap fun k => ", ".toList ++ k.render.toList) ++ rest) : ks = ks' := by
  induction h with
  | nil => rfl
  | @cons k k' ks ks' hk _ ih =>
    obtain ⟨hshape, htable⟩ := hk
    have hopening : k'.opening = k.opening := by rw [hshape]; rfl
    have hending : k'.ending = k.ending := by rw [hshape]; rfl
    rw [List.flatMap_cons, List.flatMap_cons, toList_render, toList_render, hopening,
      hending] at heq
    simp only [List.append_assoc, List.cons_append, List.append_cancel_left_eq] at heq
    -- the first parenthesis ends the name of the table on both sides
    have htables : k.table = k'.table := by
      rcases htable with htable | ⟨hk, hk'⟩
      · exact htable
      · exact String.toList_inj.1 (append_cons_inj hk hk' heq).1
    rw [htables] at heq
    simp only [List.append_cancel_left_eq, List.cons.injEq, true_and] at heq
    rw [ih heq, hshape, ← htables]

end ForeignKey

/-! ## Tables -/

namespace CreateTable

/-- What stands before the parenthesis that opens the body. -/
def opening (t : CreateTable) : List Char :=
  ("CREATE TABLE " ++ wordIf t.ifNotExists "IF NOT EXISTS" ++ t.name ++ " ").toList

/-- What stands behind the parenthesis that closes the body. -/
def ending (t : CreateTable) : List Char :=
  (if t.options.isEmpty then "" else " " ++ commas t.options).toList

theorem toList_render (t : CreateTable) :
    t.render.toList = t.opening ++ '(' :: ((commas t.body).toList ++ ')' :: t.ending) := by
  have hrender : t.render = "CREATE TABLE " ++ wordIf t.ifNotExists "IF NOT EXISTS" ++ t.name ++
      " " ++ parenthesized t.body ++ (if t.options.isEmpty then "" else " " ++ commas t.options) :=
    rfl
  rw [hrender]
  simp only [parenthesized, opening, ending, String.toList_append, List.append_assoc]
  rfl

/-- **The text of a statement that makes a table tells its foreign keys**, the others being ones
that may stand for them. -/
theorem foreignKeys_eq_of_render {t : CreateTable} {ks : List ForeignKey}
    (h : List.Forall₂ ForeignKey.SameBut t.foreignKeys ks)
    (heq : t.render = { t with foreignKeys := ks }.render) : t.foreignKeys = ks := by
  have hchars := congrArg String.toList heq
  rw [toList_render, toList_render] at hchars
  have hopening : { t with foreignKeys := ks }.opening = t.opening := rfl
  have hending : { t with foreignKeys := ks }.ending = t.ending := rfl
  rw [hopening, hending] at hchars
  simp only [List.append_cancel_left_eq, List.cons.injEq, true_and,
    List.append_cancel_right_eq] at hchars
  by_cases hnone : t.foreignKeys = []
  · rw [hnone] at h ⊢
    exact (List.forall₂_nil_left_iff.1 h).symm
  · have hsome : ks ≠ [] := by
      rintro rfl
      exact hnone (List.forall₂_nil_right_iff.1 h)
    have hbody : t.body ≠ [] := by simp [body, hnone]
    have hbody' : { t with foreignKeys := ks }.body ≠ [] := by simp [body, hsome]
    -- with a separator in front, every part of the bodies comes behind one
    have hjoined := congrArg (", ".toList ++ ·) hchars
    simp only [commas] at hjoined
    rw [append_toList_intercalate _ hbody, append_toList_intercalate _ hbody'] at hjoined
    simp only [body, List.flatMap_append, List.flatMap_map, List.append_assoc,
      List.append_cancel_left_eq] at hjoined
    exact ForeignKey.eq_of_flatMap_render h hjoined

end CreateTable

/-! ## All statements -/

namespace SchemaStatement

theorem render_createTable (t : CreateTable) : (createTable t).render = t.render := rfl

theorem render_createIndex (i : CreateIndex) : (createIndex i).render = i.render := rfl

theorem render_createTrigger (t : CreateTrigger) : (createTrigger t).render = t.render := rfl

theorem render_createView (v : CreateView) : (createView v).render = v.render := rfl

theorem render_dropTable (name : String) :
    (dropTable name).render = "DROP TABLE IF EXISTS " ++ name := rfl

theorem render_dropView (name : String) :
    (dropView name).render = "DROP VIEW IF EXISTS " ++ name := rfl

end SchemaStatement

end Tablewright
