import Tablewright.ResolvedModel
import Tablewright.Proofs.Identifier
import Tablewright.Proofs.Named
import Tablewright.Proofs.Value.Access

/-!
# Plans of columns

The columns and the attribute map of a model are made in passes: the declared columns first, then
the ones the settings ask for, then a few more spellings. `ColumnPlan.Declared` is what holds behind
the first pass, `ColumnPlan.Sound` what every later one keeps: attributes stand for columns, and a
column stands for itself. `ColumnPlan.keys` are the columns flagged as primary key.
-/

namespace Tablewright

open Fallible

variable {u : Bool} {n attr : String} {column : Column} {plan : ColumnPlan}

/-- What a name becomes in a model, depending on whether its columns are in snake case. -/
def settle (underscored : Bool) (name : String) : String :=
  if underscored then snakeCase name else name

/-- A settled name is settled. -/
theorem settle_settle (h : isIdentifier (settle u n) = true) :
    settle u (settle u n) = settle u n := by
  cases u with
  | false => rfl
  | true => exact snakeCase_snakeCase h

/-- The actions of a column are absent or known. -/
def Column.ActionsChecked (c : Column) : Prop :=
  checkAction c.onDelete = .ok () ∧ checkAction c.onUpdate = .ok ()

namespace ColumnPlan

/-! ## Declared columns -/

/-- What holds of a plan of declared columns: every attribute stands for the column it settles to,
and the columns' names are settled. -/
structure Declared (u : Bool) (plan : ColumnPlan) : Prop where
  /-- No column has the name of another. -/
  columnsNodup : plan.columns.names.Nodup
  /-- No attribute is there twice. -/
  fieldsNodup : plan.fieldMap.names.Nodup
  /-- The names of columns are identifiers. -/
  identifiers : ∀ c ∈ plan.columns.names, isIdentifier c = true
  /-- Attributes stand for columns. -/
  mapped : ∀ e ∈ plan.fieldMap, e.2 ∈ plan.columns.names
  /-- Which column an attribute stands for. -/
  settles : ∀ e ∈ plan.fieldMap, e.2 = settle u e.1
  /-- The names of columns are settled. -/
  settled : ∀ c ∈ plan.columns.names, settle u c = c

theorem declared_empty : Declared u {} where
  columnsNodup := List.nodup_nil
  fieldsNodup := List.nodup_nil
  identifiers := fun _ h => absurd h List.not_mem_nil
  mapped := fun _ h => absurd h List.not_mem_nil
  settles := fun _ h => absurd h List.not_mem_nil
  settled := fun _ h => absurd h List.not_mem_nil

/-- **What declaring a column does**: its attribute is a text and settles to an identifier, under
which the column is stored once its actions are checked. -/
theorem declare_eq_ok {settings : ModelSettings} {model : String} {v : Value} {plan' : ColumnPlan}
    (h : declare settings model plan (v, column) = .ok plan') :
    ∃ attr, v.text? = some attr ∧ isIdentifier (settle settings.underscored.truthy attr) = true ∧
      column.ActionsChecked ∧ plan' =
        { columns := plan.columns.put (settle settings.underscored.truthy attr) column
          fieldMap := plan.fieldMap.put attr (settle settings.underscored.truthy attr) } := by
  rw [declare] at h
  obtain ⟨u, hu, h⟩ := bind_eq_ok.1 h
  rw [(Value.truth_eq_ok.1 hu).2]
  have hplan : ∃ key name,
      (if u then (Value.str ∘ snakeCase) <$> v.asText else pure v) = .ok key ∧
      checkIdentifier ("column name in " ++ model) key = .ok name ∧ column.ActionsChecked ∧
      plan' = { columns := plan.columns.put name column
                fieldMap := plan.fieldMap.put ((v.text?).getD name) name } := by
    cases u <;>
      simp only [bind_eq_ok, pure_eq_ok, ite_eq_iff, if_true, if_false, Bool.false_eq_true,
        Column.ActionsChecked] at h ⊢
      <;> grind
  obtain ⟨key, name, hkey, hname, hactions, rfl⟩ := hplan
  obtain ⟨htext, hid⟩ := checkIdentifier_eq_ok hname
  cases u with
  | false =>
    rw [if_neg Bool.false_ne_true, pure_eq_ok] at hkey
    subst hkey
    exact ⟨name, htext, hid, hactions, by rw [htext]; rfl⟩
  | true =>
    rw [if_pos rfl, map_eq_ok] at hkey
    obtain ⟨attr, hattr, rfl⟩ := hkey
    have hsnake : name = snakeCase attr := (Option.some.inj htext).symm
    subst hsnake
    have hv : v.text? = some attr := Value.asText_eq_ok.1 hattr
    exact ⟨attr, hv, hid, hactions, by rw [hv]; rfl⟩

/-- A column stored under a settled identifier keeps the plan of declared columns one. -/
theorem Declared.put (h : Declared u plan) (hid : isIdentifier (settle u attr) = true) :
    Declared u
      { columns := plan.columns.put (settle u attr) column
        fieldMap := plan.fieldMap.put attr (settle u attr) } where
  columnsNodup := Named.nodup_names_put h.columnsNodup
  fieldsNodup := Named.nodup_names_put h.fieldsNodup
  identifiers c hc := by
    rcases Named.mem_names_put.1 hc with rfl | hc
    · exact hid
    · exact h.identifiers c hc
  mapped e he := by
    rw [Named.mem_names_put]
    rcases Named.mem_put he with rfl | he
    · exact Or.inl rfl
    · exact Or.inr (h.mapped e he)
  settles e he := by
    rcases Named.mem_put he with rfl | he
    · rfl
    · exact h.settles e he
  settled c hc := by
    rcases Named.mem_names_put.1 hc with rfl | hc
    · exact settle_settle hid
    · exact h.settled c hc

/-- **All the declared columns of a model make such a plan.** -/
theorem declared_declaredColumns {d : ModelDefinition} {model : String}
    (h : d.declaredColumns model = .ok plan) : Declared d.underscored.truthy plan := by
  refine foldlM_preserves (fun plan hplan entry _ plan' h => ?_) declared_empty h
  obtain ⟨attr, -, hid, -, rfl⟩ := declare_eq_ok h
  exact hplan.put hid

/-! ## All columns -/

/-- What every pass keeps. A column that is no attribute is there for good only if its name is
settled: the spellings added in the end are not. -/
structure Sound (u : Bool) (plan : ColumnPlan) : Prop where
  /-- No column has the name of another. -/
  columnsNodup : plan.columns.names.Nodup
  /-- The names of columns are identifiers. -/
  identifiers : ∀ c ∈ plan.columns.names, isIdentifier c = true
  /-- Attributes stand for columns. -/
  mapped : ∀ e ∈ plan.fieldMap, e.2 ∈ plan.columns.names
  /-- A column stands for itself. -/
  fixed : ∀ c ∈ plan.columns.names, plan.fieldMap.getOr c c = c
  /-- A column is an attribute or has a settled name. -/
  settled : ∀ c ∈ plan.columns.names, c ∈ plan.fieldMap.names ∨ settle u c = c

theorem Declared.sound (h : Declared u plan) : Sound u plan where
  columnsNodup := h.columnsNodup
  identifiers := h.identifiers
  mapped := h.mapped
  fixed c hc := by
    rw [Named.getOr]
    cases hget : plan.fieldMap.get? c with
    | none => rfl
    | some d =>
      have hd : d = settle u c := h.settles (c, d) (Named.mem_of_get? hget)
      rw [Option.getD_some, hd, h.settled c hc]
  settled c hc := Or.inr (h.settled c hc)

/-- A column stored under its own name stands for itself, and every other stays what it was. -/
theorem Sound.put (h : Sound u plan) (hid : isIdentifier n = true) :
    Sound u { columns := plan.columns.put n column, fieldMap := plan.fieldMap.put n n } where
  columnsNodup := Named.nodup_names_put h.columnsNodup
  identifiers c hc := by
    rcases Named.mem_names_put.1 hc with rfl | hc
    · exact hid
    · exact h.identifiers c hc
  mapped e he := by
    rw [Named.mem_names_put]
    rcases Named.mem_put he with rfl | he
    · exact Or.inl rfl
    · exact Or.inr (h.mapped e he)
  fixed c hc := by
    rw [Named.getOr, Named.get?_put]
    by_cases hn : n = c
    · rw [if_pos hn, Option.getD_some, hn]
    · rw [if_neg hn]
      exact h.fixed c ((Named.mem_names_put.1 hc).resolve_left (Ne.symm hn))
  settled c hc := by
    rw [Named.mem_names_put]
    rcases Named.mem_names_put.1 hc with rfl | hc
    · exact Or.inl (Or.inl rfl)
    · exact (h.settled c hc).imp Or.inr id

theorem Sound.ensure (h : Sound u plan) (hid : isIdentifier n = true) :
    Sound u (plan.ensure n column) := by
  rw [ColumnPlan.ensure]
  split
  · exact h
  · exact h.put hid

/-- **A spelling never takes a column's place.** A column of that name would have to be an attribute
already, since the spelling is not settled. -/
theorem Sound.spell {column? : Option String} (h : Sound u plan) (hattr : settle u attr ≠ attr)
    (hcolumn : ∀ c, column? = some c → c ∈ plan.columns.names) :
    Sound u (plan.spell attr column?) := by
  cases column? with
  | none => exact h
  | some column =>
    rw [ColumnPlan.spell]
    by_cases hthere : attr ∈ plan.fieldMap.names
    · rw [Named.putNew_of_mem hthere]
      exact h
    · have hne : ∀ c ∈ plan.columns.names, attr ≠ c := by
        rintro c hc rfl
        exact (h.settled attr hc).elim hthere hattr
      rw [Named.putNew_of_not_mem hthere]
      exact
        { columnsNodup := h.columnsNodup
          identifiers := h.identifiers
          mapped := fun e he => by
            rcases Named.mem_put he with rfl | he
            · exact hcolumn column rfl
            · exact h.mapped e he
          fixed := fun c hc => by
            rw [Named.getOr, Named.get?_put, if_neg (hne c hc)]
            exact h.fixed c hc
          settled := fun c hc =>
            (h.settled c hc).imp (fun h => Named.mem_names_put.2 (Or.inr h)) id }

/-- A column of a new name is put in front of all others. -/
theorem Declared.columns_putFirst (h : Declared u plan) (hnew : n ∉ plan.columns.names) :
    (plan.putFirst n column).columns = (n, column) :: plan.columns :=
  Named.union_eq_append (List.nodup_cons.2 ⟨hnew, h.columnsNodup⟩)

/-- No attribute has the name of a new column, if that is settled: it would stand for a column of
that name. -/
theorem Declared.not_mem_fields (h : Declared u plan) (hsettled : settle u n = n)
    (hnew : n ∉ plan.columns.names) : n ∉ plan.fieldMap.names := by
  intro hn
  obtain ⟨e, he, hen⟩ := List.mem_map.1 hn
  have hmapped : e.2 ∈ plan.columns.names := h.mapped e he
  rw [h.settles e he, hen, hsettled] at hmapped
  exact hnew hmapped

/-- A column of a new name is put in front of all attributes too. -/
theorem Declared.fieldMap_putFirst (h : Declared u plan) (hsettled : settle u n = n)
    (hnew : n ∉ plan.columns.names) :
    (plan.putFirst n column).fieldMap = (n, n) :: plan.fieldMap :=
  Named.union_eq_append (List.nodup_cons.2 ⟨h.not_mem_fields hsettled hnew, h.fieldsNodup⟩)

/-- **A column put in front of declared ones** gives a sound plan, if none of them has its name. -/
theorem Declared.sound_putFirst (h : Declared u plan) (hid : isIdentifier n = true)
    (hsettled : settle u n = n) (hnew : n ∉ plan.columns.names) :
    Sound u (plan.putFirst n column) := by
  have hcolumns : (plan.putFirst n column).columns = (n, column) :: plan.columns :=
    h.columns_putFirst hnew
  have hfields : (plan.putFirst n column).fieldMap = (n, n) :: plan.fieldMap :=
    h.fieldMap_putFirst hsettled hnew
  exact
    { columnsNodup := by rw [hcolumns]; exact List.nodup_cons.2 ⟨hnew, h.columnsNodup⟩
      identifiers := fun c hc => by
        rw [hcolumns, Named.names_cons] at hc
        rcases List.mem_cons.1 hc with rfl | hc
        · exact hid
        · exact h.identifiers c hc
      mapped := fun e he => by
        rw [hfields] at he
        rw [hcolumns, Named.names_cons]
        rcases List.mem_cons.1 he with rfl | he
        · exact List.mem_cons_self
        · exact List.mem_cons_of_mem n (h.mapped e he)
      fixed := fun c hc => by
        rw [hcolumns, Named.names_cons] at hc
        rw [hfields, Named.getOr, Named.get?_cons]
        by_cases hn : n = c
        · rw [if_pos hn, Option.getD_some, hn]
        · rw [if_neg hn]
          exact h.sound.fixed c ((List.mem_cons.1 hc).resolve_left (Ne.symm hn))
      settled := fun c hc => by
        rw [hcolumns, Named.names_cons] at hc
        rcases List.mem_cons.1 hc with rfl | hc
        · exact Or.inr hsettled
        · exact Or.inr (h.settled c hc) }

/-! ## Primary keys -/

/-- The columns flagged as primary key. -/
def keys (plan : ColumnPlan) : List String :=
  Named.names (plan.columns.filter fun e => e.2.primaryKey.truthy)

/-- The flags are read as conditions. -/
theorem flagged_eq_ok {names : List String} (h : plan.flagged = .ok names) : names = plan.keys := by
  obtain ⟨kept, hkept, hnames⟩ := bind_eq_ok.1 h
  rw [← pure_eq_ok.1 hnames, keys,
    filterM_eq_ok (fun e b hb => (Value.truth_eq_ok.1 hb).2) hkept]

theorem keys_subset (plan : ColumnPlan) : plan.keys ⊆ plan.columns.names :=
  List.map_subset _ List.filter_sublist.subset

/-- A column that is no primary key adds none. -/
theorem keys_ensure (h : column.primaryKey.truthy = false) :
    (plan.ensure n column).keys = plan.keys := by
  rw [ensure]
  split
  · rfl
  · rename_i hnew
    rw [Bool.not_eq_true, Named.has_eq_false] at hnew
    rw [keys, Named.put_of_not_mem hnew, List.filter_append, List.filter_singleton, h]
    simp [keys]

/-- A column put in front becomes a primary key if it is flagged as one. -/
theorem Declared.keys_putFirst (h : Declared u plan) (hnew : n ∉ plan.columns.names)
    (hflag : column.primaryKey.truthy = true) : (plan.putFirst n column).keys = n :: plan.keys := by
  rw [keys, h.columns_putFirst hnew, List.filter_cons, if_pos hflag, Named.names_cons, keys]

/-! ## Names that stay -/

theorem subset_ensure (plan : ColumnPlan) (n : String) (column : Column) :
    plan.columns.names ⊆ (plan.ensure n column).columns.names := by
  rw [ensure]
  split
  · exact fun _ h => h
  · exact fun _ h => Named.mem_names_put.2 (Or.inr h)

/-- A column that is ensured is there. -/
theorem mem_ensure (plan : ColumnPlan) (n : String) (column : Column) :
    n ∈ (plan.ensure n column).columns.names := by
  rw [ensure]
  split
  · exact Named.has_iff_mem_names.1 ‹_›
  · exact Named.mem_names_put.2 (Or.inl rfl)

/-- Ensuring a column leaves the ones that are there as they are. -/
theorem columns_get?_ensure {c : String} (h : c ∈ plan.columns.names) :
    (plan.ensure n column).columns.get? c = plan.columns.get? c := by
  rw [ensure]
  split
  · rfl
  · rename_i hnew
    have hne : n ≠ c := fun he => hnew (Named.has_iff_mem_names.2 (he ▸ h))
    rw [Named.get?_put, if_neg hne]

/-- What is found behind ensuring a column was there or is that column. -/
theorem of_columns_get?_ensure {c : String} {other : Column}
    (h : (plan.ensure n column).columns.get? c = some other) :
    plan.columns.get? c = some other ∨ other = column := by
  rw [ensure] at h
  split at h
  · exact Or.inl h
  · rw [Named.get?_put] at h
    split at h
    · exact Or.inr (Option.some.inj h).symm
    · exact Or.inl h

/-- Ensuring a column leaves attributes of other names as they are. -/
theorem fieldMap_get?_ensure (h : attr ≠ n) :
    (plan.ensure n column).fieldMap.get? attr = plan.fieldMap.get? attr := by
  rw [ensure]
  split
  · rfl
  · rw [Named.get?_put, if_neg h.symm]

/-- An attribute of the name of an ensured column stands for that column. -/
theorem Sound.fieldMap_get?_ensure_self (h : Sound u plan) (hn : n ∈ plan.fieldMap.names) :
    (plan.ensure n column).fieldMap.get? n = some n := by
  rw [ColumnPlan.ensure]
  split
  · rename_i hthere
    obtain ⟨c, hc⟩ := Named.exists_get?_of_mem hn
    have hfixed : plan.fieldMap.getOr n n = n := h.fixed n (Named.has_iff_mem_names.1 hthere)
    rw [Named.getOr, hc, Option.getD_some] at hfixed
    rw [hc, hfixed]
  · rw [Named.get?_put, if_pos rfl]

/-- A spelling leaves every attribute as it is. -/
theorem fieldMap_get?_spell {k c : String} {column? : Option String}
    (h : plan.fieldMap.get? k = some c) :
    (plan.spell attr column?).fieldMap.get? k = some c := by
  cases column? with
  | none => exact h
  | some _ => exact Named.get?_putNew h

/-- Spellings change no column. -/
@[simp] theorem columns_spell (plan : ColumnPlan) (attr : String) (column? : Option String) :
    (plan.spell attr column?).columns = plan.columns := by
  cases column? <;> rfl

end ColumnPlan

end Tablewright
