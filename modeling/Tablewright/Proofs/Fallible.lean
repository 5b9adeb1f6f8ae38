import Mathlib.Data.List.Forall2

/-!
# Computations that may fail

When a computation that is put together from others succeeds, and what it gives then: in sequence,
over a list item by item, and over a list with a part of it kept; and when two of them give related
things or fail alike. Everything that resolves or compiles a definition is read through these.
-/

namespace Tablewright

namespace Fallible

variable {ε α β : Type}

/-! ## In sequence -/

/-- **A sequence succeeds when both of its parts do.** -/
theorem bind_eq_ok {x : Except ε α} {f : α → Except ε β} {b : β} :
    (x >>= f) = .ok b ↔ ∃ a, x = .ok a ∧ f a = .ok b := by
  cases x <;> simp [bind, Except.bind]

/-- Behind a part that succeeds, a sequence goes on with what it gave. -/
theorem ok_bind {x : Except ε α} {a : α} (h : x = .ok a) (f : α → Except ε β) :
    (x >>= f) = f a := by
  rw [h]
  rfl

/-- A sequence that goes on in the same way after either of two parts. -/
theorem ite_bind_eq_ok {p : Prop} [Decidable p] {x y : Except ε α} {f : α → Except ε β} {b : β} :
    (if p then x >>= f else y >>= f) = .ok b ↔
      ∃ a, (if p then x else y) = .ok a ∧ f a = .ok b := by
  split <;> exact bind_eq_ok

/-- A computation that only gives a value succeeds with it. -/
theorem pure_eq_ok {a b : α} : (pure a : Except ε α) = .ok b ↔ a = b := by
  simp [pure, Except.pure]

/-- A function applied to the outcome of a computation. -/
theorem map_eq_ok {x : Except ε α} {f : α → β} {b : β} :
    (f <$> x) = .ok b ↔ ∃ a, x = .ok a ∧ f a = b := by
  cases x <;> simp [Functor.map, Except.map]

/-- What a computation gives, if it gives anything. -/
theorem eq_ok_of_toOption {x : Except ε α} {a : α} (h : x.toOption = some a) : x = .ok a := by
  cases x with
  | error e => cases h
  | ok b => exact congrArg _ (Option.some_inj.1 h)

/-! ## What a computation can only give -/

/-- Whatever the computation gives has the property. -/
def Gives (P : α → Prop) (x : Except ε α) : Prop :=
  ∀ a, x = .ok a → P a

variable {P : β → Prop}

theorem Gives.pure {b : β} (h : P b) : Gives P (Pure.pure b : Except ε β) := by
  intro a ha
  rwa [← pure_eq_ok.1 ha]

/-- A sequence gives what its last part does. -/
theorem Gives.bind {x : Except ε α} {f : α → Except ε β} (h : ∀ a, Gives P (f a)) :
    Gives P (x >>= f) := by
  intro b hb
  obtain ⟨a, -, hb⟩ := bind_eq_ok.1 hb
  exact h a b hb

theorem Gives.ite {p : Prop} [Decidable p] {x y : Except ε β} (hx : Gives P x) (hy : Gives P y) :
    Gives P (if p then x else y) := by
  split
  · exact hx
  · exact hy

/-! ## What a computation can only fail with -/

/-- Whatever the computation fails with has the property. -/
def FailsWith (P : ε → Prop) (x : Except ε α) : Prop :=
  ∀ e, x = .error e → P e

section

variable {Q : ε → Prop} {x : Except ε α}

theorem FailsWith.error {e : ε} (h : Q e) : FailsWith Q (.error e : Except ε α) := by
  rintro _ ⟨⟩
  exact h

theorem FailsWith.pure {a : α} : FailsWith Q (Pure.pure a : Except ε α) :=
  nofun

/-- What succeeds does not fail. -/
theorem FailsWith.of_ok (h : ∃ a, x = .ok a) : FailsWith Q x := by
  obtain ⟨a, rfl⟩ := h
  exact nofun

/-- A sequence fails where one of its parts does, the second on what the first gave. -/
theorem FailsWith.bind {f : α → Except ε β} (hx : FailsWith Q x)
    (hf : ∀ a, x = .ok a → FailsWith Q (f a)) : FailsWith Q (x >>= f) := by
  cases x with
  | error e => exact FailsWith.error (hx e rfl)
  | ok a => exact hf a rfl

/-- Behind a part that succeeds, a sequence fails where its rest does. -/
theorem FailsWith.bind_of_ok {f : α → Except ε β} (hx : ∃ a, x = .ok a)
    (hf : ∀ a, x = .ok a → FailsWith Q (f a)) : FailsWith Q (x >>= f) :=
  FailsWith.bind (.of_ok hx) hf

theorem FailsWith.ite {p : Prop} [Decidable p] {y : Except ε α} (hx : p → FailsWith Q x)
    (hy : ¬ p → FailsWith Q y) : FailsWith Q (if p then x else y) := by
  split
  · exact hx ‹_›
  · exact hy ‹_›

theorem FailsWith.map {f : α → β} (hx : FailsWith Q x) : FailsWith Q (f <$> x) := by
  cases x with
  | error e => exact FailsWith.error (hx e rfl)
  | ok a => exact nofun

/-- A list is computed item by item, and fails where an item does. -/
theorem FailsWith.mapM {f : α → Except ε β} {xs : List α} (h : ∀ x ∈ xs, FailsWith Q (f x)) :
    FailsWith Q (xs.mapM f) := by
  induction xs with
  | nil => exact FailsWith.pure
  | cons x xs ih =>
    rw [List.mapM_cons]
    rw [List.forall_mem_cons] at h
    exact FailsWith.bind h.1 fun _ _ => FailsWith.bind (ih h.2) fun _ _ => FailsWith.pure

end

/-! ## Item by item -/

/-- **A list is computed item by item** when every item is, in its place. -/
theorem mapM_eq_ok {f : α → Except ε β} {xs : List α} {ys : List β} :
    xs.mapM f = .ok ys ↔ List.Forall₂ (fun x y => f x = .ok y) xs ys := by
  induction xs generalizing ys with
  | nil =>
    rw [List.mapM_nil, pure_eq_ok, List.forall₂_nil_left_iff]
    exact eq_comm
  | cons x xs ih =>
    rw [List.mapM_cons, bind_eq_ok, List.forall₂_cons_left_iff]
    simp only [bind_eq_ok, pure_eq_ok, ih]
    constructor
    · rintro ⟨y, hy, zs, hzs, rfl⟩
      exact ⟨y, zs, hy, hzs, rfl⟩
    · rintro ⟨y, zs, hy, hzs, rfl⟩
      exact ⟨y, hy, zs, hzs, rfl⟩

/-- What is computed from each item and then changed. -/
theorem mapM_eq_ok_map {γ : Type} {f : α → Except ε β} {g : α → Except ε γ} {k : β → γ}
    (hg : ∀ x y, f x = .ok y → g x = .ok (k y)) {xs : List α} {ys : List β}
    (h : xs.mapM f = .ok ys) : xs.mapM g = .ok (ys.map k) :=
  mapM_eq_ok.2 (List.forall₂_map_right_iff.2 ((mapM_eq_ok.1 h).imp hg))

/-- Where every item comes back from what was made of it, so does the list. -/
theorem mapM_map_eq_ok {f : α → β} {g : β → Except ε α} {xs : List α}
    (h : ∀ x ∈ xs, g (f x) = .ok x) : (xs.map f).mapM g = .ok xs := by
  rw [mapM_eq_ok, List.forall₂_map_left_iff, List.forall₂_same]
  exact h

theorem mapM_cons_eq_ok {f : α → Except ε β} {x : α} {xs : List α} {ys : List β} :
    (x :: xs).mapM f = .ok ys ↔ ∃ y rest, f x = .ok y ∧ xs.mapM f = .ok rest ∧ y :: rest = ys := by
  rw [List.mapM_cons]
  simp only [bind_eq_ok, pure_eq_ok, exists_and_left]

/-- What is computed for a list has what is computed for each of its items in between. -/
theorem mapM_append_cons_eq_ok {f : α → Except ε β} {before after : List α} {x : α} {ys : List β} :
    (before ++ x :: after).mapM f = .ok ys ↔
      ∃ front y back, before.mapM f = .ok front ∧ f x = .ok y ∧ after.mapM f = .ok back ∧
        front ++ y :: back = ys := by
  rw [List.mapM_append]
  simp only [bind_eq_ok, pure_eq_ok, mapM_cons_eq_ok]
  constructor
  · rintro ⟨front, hfront, _, ⟨y, back, hy, hback, rfl⟩, rfl⟩
    exact ⟨front, y, back, hfront, hy, hback, rfl⟩
  · rintro ⟨front, y, back, hfront, hy, hback, rfl⟩
    exact ⟨front, hfront, _, ⟨y, back, hy, hback, rfl⟩, rfl⟩

/-- What an item is related to in its place. -/
theorem exists_of_mem_forall₂ {R : α → β → Prop} {xs : List α} {ys : List β}
    (h : List.Forall₂ R xs ys) {y : β} (hy : y ∈ ys) : ∃ x ∈ xs, R x y := by
  induction h with
  | nil => exact absurd hy List.not_mem_nil
  | cons hxy _ ih =>
    rcases List.mem_cons.1 hy with rfl | hy
    · exact ⟨_, List.mem_cons_self, hxy⟩
    · obtain ⟨x, hx, hxy⟩ := ih hy
      exact ⟨x, List.mem_cons_of_mem _ hx, hxy⟩

/-- Items that are related in two steps, each in its place. -/
theorem forall₂_trans {γ : Type} {R : α → β → Prop} {S : β → γ → Prop} {T : α → γ → Prop}
    (hT : ∀ x y z, R x y → S y z → T x z) {xs : List α} {ys : List β} {zs : List γ}
    (h : List.Forall₂ R xs ys) (h' : List.Forall₂ S ys zs) : List.Forall₂ T xs zs := by
  induction h generalizing zs with
  | nil =>
    cases h'
    exact List.Forall₂.nil
  | cons hxy _ ih =>
    obtain ⟨z, zs, hyz, hrest, rfl⟩ := List.forall₂_cons_left_iff.1 h'
    exact List.Forall₂.cons (hT _ _ _ hxy hyz) (ih hrest)

/-- What related items are made of, put together. -/
theorem flatMap_eq_of_forall₂ {γ : Type} {f : α → List γ} {g : β → List γ} {xs : List α}
    {ys : List β} (h : List.Forall₂ (fun x y => f x = g y) xs ys) :
    xs.flatMap f = ys.flatMap g := by
  induction h with
  | nil => rfl
  | cons hxy _ ih => rw [List.flatMap_cons, List.flatMap_cons, hxy, ih]

/-- Where a relation between items in their places comes down to a property of the first ones. -/
theorem forall₂_iff_of_forall₂ {R S : α → β → Prop} {P : α → Prop}
    (hS : ∀ x y, R x y → (S x y ↔ P x)) {xs : List α} {ys : List β} (h : List.Forall₂ R xs ys) :
    List.Forall₂ S xs ys ↔ ∀ x ∈ xs, P x := by
  induction h with
  | nil => simp
  | cons hxy _ ih => rw [List.forall₂_cons, List.forall_mem_cons, hS _ _ hxy, ih]

/-- A list is computed as soon as each of its items can be. -/
theorem exists_mapM_eq_ok {f : α → Except ε β} {xs : List α} :
    (∃ ys, xs.mapM f = .ok ys) ↔ ∀ x ∈ xs, ∃ y, f x = .ok y := by
  induction xs with
  | nil => simp [List.mapM_nil, pure_eq_ok]
  | cons x xs ih =>
    rw [List.mapM_cons]
    simp only [bind_eq_ok, pure_eq_ok, List.forall_mem_cons, ← ih]
    constructor
    · rintro ⟨_, y, hy, zs, hzs, -⟩
      exact ⟨⟨y, hy⟩, zs, hzs⟩
    · rintro ⟨⟨y, hy⟩, zs, hzs⟩
      exact ⟨y :: zs, y, hy, zs, hzs, rfl⟩

/-- **A list fails with its first item that fails**: those before it are computed. -/
theorem mapM_eq_error {f : α → Except ε β} {xs : List α} {e : ε} :
    xs.mapM f = .error e ↔ ∃ before x after, xs = before ++ x :: after ∧
      (∀ y ∈ before, ∃ b, f y = .ok b) ∧ f x = .error e := by
  induction xs with
  | nil =>
    rw [List.mapM_nil]
    refine ⟨nofun, ?_⟩
    rintro ⟨before, x, after, hsplit, -⟩
    exact absurd hsplit.symm (List.append_ne_nil_of_right_ne_nil _ (List.cons_ne_nil x after))
  | cons x xs ih =>
    rw [List.mapM_cons]
    cases hx : f x with
    | error e' =>
      constructor
      · rintro ⟨⟩
        exact ⟨[], x, xs, rfl, nofun, hx⟩
      · rintro ⟨before, y, after, hsplit, hbefore, hy⟩
        -- nothing stands before an item that fails
        cases before with
        | nil =>
          obtain ⟨rfl, -⟩ := List.cons.inj hsplit
          rw [Except.error.inj (hx.symm.trans hy)]
          rfl
        | cons z before =>
          obtain ⟨rfl, -⟩ := List.cons.inj hsplit
          obtain ⟨b, hb⟩ := hbefore _ List.mem_cons_self
          exact absurd (hx.symm.trans hb) nofun
    | ok b =>
      have hrest : (do let bs ← xs.mapM f; pure (b :: bs)) = .error e ↔ xs.mapM f = .error e := by
        cases xs.mapM f <;> simp [bind, Except.bind, pure, Except.pure]
      refine hrest.trans (ih.trans ?_)
      constructor
      · rintro ⟨before, y, after, rfl, hbefore, hy⟩
        exact ⟨x :: before, y, after, rfl, List.forall_mem_cons.2 ⟨⟨b, hx⟩, hbefore⟩, hy⟩
      · rintro ⟨before, y, after, hsplit, hbefore, hy⟩
        cases before with
        | nil =>
          obtain ⟨rfl, -⟩ := List.cons.inj hsplit
          exact absurd (hx.symm.trans hy) nofun
        | cons z before =>
          obtain ⟨rfl, rfl⟩ := List.cons.inj hsplit
          exact ⟨before, y, after, rfl, (List.forall_mem_cons.1 hbefore).2, hy⟩

/-- What an item of the outcome was computed from. -/
theorem exists_of_mem_mapM {f : α → Except ε β} {xs : List α} {ys : List β}
    (h : xs.mapM f = .ok ys) {y : β} (hy : y ∈ ys) : ∃ x ∈ xs, f x = .ok y :=
  exists_of_mem_forall₂ (mapM_eq_ok.1 h) hy

/-- What was computed from an item is in the outcome. -/
theorem mem_mapM_of_mem {f : α → Except ε β} {xs : List α} {ys : List β}
    (h : xs.mapM f = .ok ys) {x : α} (hx : x ∈ xs) : ∃ y ∈ ys, f x = .ok y :=
  exists_of_mem_forall₂ (mapM_eq_ok.1 h).flip hx

/-- What holds between the items of a list passes to what is computed from them. -/
theorem pairwise_of_mapM {f : α → Except ε β} {P : α → α → Prop} {Q : β → β → Prop}
    (hPQ : ∀ x x' y y', f x = .ok y → f x' = .ok y' → P x x' → Q y y') {xs : List α}
    {ys : List β} (h : xs.mapM f = .ok ys) (hp : xs.Pairwise P) : ys.Pairwise Q := by
  induction xs generalizing ys with
  | nil =>
    rw [List.mapM_nil, pure_eq_ok] at h
    rw [← h]
    exact List.Pairwise.nil
  | cons x xs ih =>
    rw [mapM_eq_ok, List.forall₂_cons_left_iff] at h
    obtain ⟨y, ys, hy, hys, rfl⟩ := h
    rw [← mapM_eq_ok] at hys
    obtain ⟨hfirst, hrest⟩ := List.pairwise_cons.1 hp
    refine List.pairwise_cons.2 ⟨fun y' hy' => ?_, ih hys hrest⟩
    obtain ⟨x', hx', hf⟩ := exists_of_mem_mapM hys hy'
    exact hPQ x x' y y' hy hf (hfirst x' hx')

/-! ## Two computations side by side -/

/-- Two computations give what is related, or fail alike. -/
inductive Agree (R : α → β → Prop) : Except ε α → Except ε β → Prop
  | ok {a : α} {b : β} (h : R a b) : Agree R (.ok a) (.ok b)
  | error (e : ε) : Agree R (.error e) (.error e)

section

variable {R : α → β → Prop} {x : Except ε α} {y : Except ε β} {xs : List α} {ys : List β}

/-- A computation agrees with itself. -/
theorem Agree.refl {R : α → α → Prop} (hR : ∀ a, R a a) (x : Except ε α) : Agree R x x := by
  cases x with
  | error e => exact .error e
  | ok a => exact .ok (hR a)

theorem Agree.imp {S : α → β → Prop} (h : Agree R x y) (hRS : ∀ a b, R a b → S a b) :
    Agree S x y := by
  cases h with
  | ok h => exact .ok (hRS _ _ h)
  | error e => exact .error e

/-- Computations that are to give the same are the same. -/
theorem Agree.eq {x y : Except ε α} (h : Agree Eq x y) : x = y := by
  cases h with
  | ok h => exact congrArg _ h
  | error e => rfl

theorem Agree.of_eq {x y : Except ε α} (h : x = y) : Agree Eq x y :=
  h ▸ Agree.refl (fun _ => rfl) x

/-- **Sequences agree** whose first parts do and whose second parts do on related values. -/
theorem Agree.bind {γ δ : Type} {S : γ → δ → Prop} {f : α → Except ε γ} {g : β → Except ε δ}
    (h : Agree R x y) (hf : ∀ a b, R a b → Agree S (f a) (g b)) :
    Agree S (x >>= f) (y >>= g) := by
  cases h with
  | ok h => exact hf _ _ h
  | error e => exact .error e

/-- Lists agree item by item. -/
theorem Agree.mapM {γ δ : Type} {S : γ → δ → Prop} {f : α → Except ε γ} {g : β → Except ε δ}
    (h : List.Forall₂ (fun a b => Agree S (f a) (g b)) xs ys) :
    Agree (List.Forall₂ S) (xs.mapM f) (ys.mapM g) := by
  induction h with
  | nil => exact .ok .nil
  | cons hab _ ih =>
    rw [List.mapM_cons, List.mapM_cons]
    exact hab.bind fun _ _ hS => ih.bind fun _ _ hrest => .ok (.cons hS hrest)

theorem mapM_eq_of_forall₂ {γ : Type} {f : α → Except ε γ} {g : β → Except ε γ}
    (h : List.Forall₂ (fun a b => f a = g b) xs ys) : xs.mapM f = ys.mapM g := by
  have hagree := Agree.mapM (h.imp fun _ _ => Agree.of_eq)
  rw [List.forall₂_eq_eq_eq] at hagree
  exact hagree.eq

end

/-! ## Step by step -/

/-- **What every step keeps, a run of them keeps.** -/
theorem foldlM_preserves {f : β → α → Except ε β} {P : β → Prop} {xs : List α} {a b : β}
    (hstep : ∀ a, P a → ∀ x ∈ xs, ∀ b, f a x = .ok b → P b) (ha : P a)
    (h : xs.foldlM f a = .ok b) : P b := by
  induction xs generalizing a with
  | nil =>
    rw [List.foldlM_nil, pure_eq_ok] at h
    exact h ▸ ha
  | cons x xs ih =>
    rw [List.foldlM_cons, bind_eq_ok] at h
    obtain ⟨c, hc, h⟩ := h
    exact ih (fun a ha y hy => hstep a ha y (List.mem_cons_of_mem x hy))
      (hstep a ha x List.mem_cons_self c hc) h

/-- **A run whose steps each ask something of their item** succeeds when all items meet it, and gives
what the steps give. -/
theorem foldlM_eq_ok {f : β → α → Except ε β} {P : α → Prop} {step : β → α → β}
    (hf : ∀ a x b, f a x = .ok b ↔ P x ∧ step a x = b) {xs : List α} {a b : β} :
    xs.foldlM f a = .ok b ↔ (∀ x ∈ xs, P x) ∧ xs.foldl step a = b := by
  induction xs generalizing a with
  | nil => simp [pure_eq_ok]
  | cons x xs ih =>
    rw [List.foldlM_cons, bind_eq_ok, List.foldl_cons, List.forall_mem_cons]
    constructor
    · rintro ⟨c, hc, h⟩
      obtain ⟨hx, rfl⟩ := (hf a x c).1 hc
      obtain ⟨hxs, hrun⟩ := ih.1 h
      exact ⟨⟨hx, hxs⟩, hrun⟩
    · rintro ⟨⟨hx, hxs⟩, hrun⟩
      exact ⟨step a x, (hf a x _).2 ⟨hx, rfl⟩, ih.2 ⟨hxs, hrun⟩⟩

/-! ## A part of a list -/

/-- The items kept by a test, behind those kept before, nearest first. -/
theorem filterAuxM_eq_ok {p : α → Except ε Bool} {q : α → Bool}
    (hq : ∀ x b, p x = .ok b → q x = b) {xs acc ys : List α}
    (h : List.filterAuxM p xs acc = .ok ys) : ys = (xs.filter q).reverse ++ acc := by
  induction xs generalizing acc with
  | nil =>
    rw [List.filterAuxM, pure_eq_ok] at h
    rw [← h, List.filter_nil, List.reverse_nil, List.nil_append]
  | cons x xs ih =>
    rw [List.filterAuxM, bind_eq_ok] at h
    obtain ⟨b, hb, h⟩ := h
    rw [ih h, List.filter_cons, hq x b hb]
    cases b with
    | false => rfl
    | true => simp

/-- **A test that succeeds on every item keeps those that pass it**, where `q` tells what it
answers. -/
theorem filterM_eq_ok {p : α → Except ε Bool} {q : α → Bool}
    (hq : ∀ x b, p x = .ok b → q x = b) {xs ys : List α} (h : xs.filterM p = .ok ys) :
    ys = xs.filter q := by
  rw [List.filterM, bind_eq_ok] at h
  obtain ⟨zs, hzs, hys⟩ := h
  rw [pure_eq_ok] at hys
  rw [← hys, filterAuxM_eq_ok hq hzs, List.append_nil, List.reverse_reverse]

/-- What a test keeps was there. -/
theorem filterM_subset {p : α → Except ε Bool} {xs ys : List α} (h : xs.filterM p = .ok ys) :
    ys ⊆ xs := by
  have hq : ∀ x b, p x = .ok b → (p x).toOption.getD false = b := by
    intro x b hb
    rw [hb]
    rfl
  rw [filterM_eq_ok hq h]
  exact List.filter_sublist.subset

/-- A test that answers for every item tells which to keep. -/
theorem exists_filterM_eq_ok {p : α → Except ε Bool} {xs : List α}
    (h : ∀ x ∈ xs, ∃ b, p x = .ok b) : ∃ ys, xs.filterM p = .ok ys := by
  have haux : ∀ acc, ∃ ys, List.filterAuxM p xs acc = .ok ys := by
    induction xs with
    | nil => exact fun acc => ⟨acc, rfl⟩
    | cons x xs ih =>
      intro acc
      obtain ⟨⟨b, hb⟩, hrest⟩ := List.forall_mem_cons.1 h
      rw [List.filterAuxM, ok_bind hb]
      exact ih hrest _
  obtain ⟨ys, hys⟩ := haux []
  exact ⟨ys.reverse, by rw [List.filterM, ok_bind hys]; rfl⟩

/-- **What is computed from the items that pass a test**, in order. -/
theorem filterMapM_eq_ok {f : α → Except ε (Option β)} {q : α → Bool} {R : α → β → Prop}
    (hf : ∀ x y, f x = .ok y → q x = y.isSome ∧ ∀ b, y = some b → R x b) {xs : List α}
    {ys : List β} (h : xs.filterMapM f = .ok ys) : List.Forall₂ R (xs.filter q) ys := by
  induction xs generalizing ys with
  | nil =>
    rw [List.filterMapM_nil, pure_eq_ok] at h
    exact h ▸ List.Forall₂.nil
  | cons x xs ih =>
    rw [List.filterMapM_cons, bind_eq_ok] at h
    obtain ⟨y, hy, h⟩ := h
    -- the test tells beforehand whether the item gives anything
    obtain ⟨hq, hR⟩ := hf x y hy
    cases y with
    | none =>
      rw [List.filter_cons, hq, Option.isSome_none, if_neg Bool.false_ne_true]
      exact ih h
    | some b =>
      obtain ⟨zs, hzs, h⟩ := bind_eq_ok.1 h
      rw [← pure_eq_ok.1 h, List.filter_cons, hq, Option.isSome_some, if_pos rfl]
      exact List.Forall₂.cons (hR b rfl) (ih hzs)

/-- Where a test tells which items count, only those are computed. -/
theorem filterMapM_eq_mapM {f : α → Except ε (Option β)} {q : α → Bool} {g : α → Except ε β}
    {xs : List α} (hf : ∀ x ∈ xs, f x = if q x then some <$> g x else pure none) :
    xs.filterMapM f = (xs.filter q).mapM g := by
  induction xs with
  | nil => rw [List.filterMapM_nil, List.filter_nil, List.mapM_nil]
  | cons x xs ih =>
    rw [List.forall_mem_cons] at hf
    rw [List.filterMapM_cons, hf.1, ih hf.2, List.filter_cons]
    cases q x with
    | false => rfl
    | true =>
      rw [if_pos rfl, if_pos rfl, List.mapM_cons]
      cases g x <;> rfl

/-- A test that succeeds for some item holds for it. -/
theorem exists_of_anyM_eq_true {p : α → Except ε Bool} {xs : List α}
    (h : xs.anyM p = .ok true) : ∃ x ∈ xs, p x = .ok true := by
  induction xs with
  | nil =>
    rw [List.anyM, pure_eq_ok] at h
    exact absurd h Bool.false_ne_true
  | cons x xs ih =>
    rw [List.anyM, bind_eq_ok] at h
    obtain ⟨b, hb, h⟩ := h
    cases b with
    | true => exact ⟨x, List.mem_cons_self, hb⟩
    | false =>
      obtain ⟨y, hy, hyp⟩ := ih h
      exact ⟨y, List.mem_cons_of_mem _ hy, hyp⟩

/-- A test that succeeds for no item fails for each. -/
theorem forall_of_anyM_eq_false {p : α → Except ε Bool} {xs : List α}
    (h : xs.anyM p = .ok false) : ∀ x ∈ xs, p x = .ok false := by
  induction xs with
  | nil => exact fun _ hx => absurd hx List.not_mem_nil
  | cons x xs ih =>
    rw [List.anyM, bind_eq_ok] at h
    obtain ⟨b, hb, h⟩ := h
    cases b with
    | true => exact absurd (pure_eq_ok.1 h) Bool.noConfusion
    | false => exact List.forall_mem_cons.2 ⟨hb, ih h⟩

end Fallible

end Tablewright
