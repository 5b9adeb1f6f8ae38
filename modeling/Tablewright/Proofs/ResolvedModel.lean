import Tablewright.Proofs.ColumnPlan
import Tablewright.Session.Schema
import Mathlib.Data.List.ReduceOption

/-!
# What resolving settles

A resolved model is well-formed, whatever definition it comes from: at most one column is flagged as
primary key and the model knows which, the roles are columns, attributes stand for columns, and a
column stands for itself. Each pass of the resolution keeps what the ones before it settled
(`Stage`).
-/

namespace Tablewright

open Fallible

/-! ## Names -/

/-- The names of a model and of its table are the ones its settings give, and identifiers. -/
theorem ModelSettings.resolveNames_eq_ok {settings : ModelSettings} {name table : String}
    (h : settings.resolveNames = .ok (name, table)) :
    settings.name.text? = some name ∧ isIdentifier name = true ∧
      (∃ v, settings.resolveTableName = .ok v ∧ v.text? = some table) ∧
      isIdentifier table = true := by
  obtain ⟨named, -, h⟩ := bind_eq_ok.1 h
  cases named with
  | false =>
    obtain ⟨_, hrefused, _⟩ := bind_eq_ok.1 h
    cases hrefused
  | true =>
    obtain ⟨name', hname, h⟩ := bind_eq_ok.1 h
    obtain ⟨v, hv, h⟩ := bind_eq_ok.1 h
    obtain ⟨table', htable, h⟩ := bind_eq_ok.1 h
    cases h
    exact ⟨(checkIdentifier_eq_ok hname).1, (checkIdentifier_eq_ok hname).2,
      ⟨v, hv, (checkIdentifier_eq_ok htable).1⟩, (checkIdentifier_eq_ok htable).2⟩

/-! ## Well-formed models -/

namespace ResolvedModel

/-- The columns flagged as primary key. -/
def flaggedNames (m : ResolvedModel) : List String :=
  Named.names (m.columns.filter fun e => e.2.primaryKey.truthy)

/-- The columns that the settings ask for. -/
def roleNames (m : ResolvedModel) : List String :=
  [m.createdAt, m.updatedAt, m.deletedAt, m.version].reduceOption

/-- What holds of every resolved model. -/
structure WellFormed (m : ResolvedModel) : Prop where
  /-- No column has the name of another. -/
  nodup : m.columnNames.Nodup
  /-- The names of columns are identifiers. -/
  identifiers : ∀ c ∈ m.columnNames, isIdentifier c = true
  /-- At most one column is flagged as primary key, and it is the model's. -/
  flagged : m.flaggedNames = [] ∨ m.flaggedNames = [m.primaryKey]
  /-- The primary key is a column, unless a constraint declares the key. -/
  primaryKey : m.primaryKey ∈ m.columnNames ∨
    ∃ c ∈ m.definition.constraints, c.isPrimaryKey = .ok true
  /-- The columns that the settings ask for are there. -/
  roles : ∀ c ∈ m.roleNames, c ∈ m.columnNames
  /-- Attributes stand for columns. -/
  mapped : ∀ e ∈ m.fieldMap, e.2 ∈ m.columnNames
  /-- A column stands for itself. -/
  fixed : ∀ c ∈ m.columnNames, m.columnFor (.str c) = .ok (.str c)
  /-- What a key stands for stands for itself. -/
  idempotent : ∀ key column, m.columnFor key = .ok column → m.columnFor column = .ok column

end ResolvedModel

namespace ResolvedModel.WellFormed

variable {m : ResolvedModel} {c : String}

/-- The column that marks deleted rows is there. -/
theorem deletedAt_mem (h : m.WellFormed) (hc : m.deletedAt = some c) : c ∈ m.columnNames :=
  h.roles c (List.reduceOption_mem_iff.2 (by simp [← hc]))

/-- The column that counts changes is there. -/
theorem version_mem (h : m.WellFormed) (hc : m.version = some c) : c ∈ m.columnNames :=
  h.roles c (List.reduceOption_mem_iff.2 (by simp [← hc]))

end ResolvedModel.WellFormed

/-! ## The passes behind the declared columns -/

variable {u : Bool} {n : String} {column : Column} {plan plan' start : ColumnPlan}
  {roles roles' : RoleColumns} {d : ModelDefinition} {settings : ModelSettings}

/-- The columns that were settled for the settings so far. -/
def RoleColumns.names (r : RoleColumns) : List String :=
  [r.createdAt, r.updatedAt, r.deletedAt, r.version].reduceOption

theorem RoleColumns.mem_names {r : RoleColumns} {c : String} :
    c ∈ r.names ↔ r.createdAt = some c ∨ r.updatedAt = some c ∨ r.deletedAt = some c ∨
      r.version = some c := by
  simp [names, List.reduceOption_mem_iff, eq_comm]

/-- The columns that the passes add for roles. -/
def roleColumns : List Column :=
  [timeColumn, deletionColumn, versionColumn]

/-- None of them is a primary key. -/
theorem primaryKey_of_mem_roleColumns (h : column ∈ roleColumns) :
    column.primaryKey.truthy = false := by
  simp only [roleColumns, List.mem_cons, List.not_mem_nil, or_false] at h
  rcases h with rfl | rfl | rfl <;> rfl

/-- What each pass keeps: the plan is sound and the roles are columns. The plan from the start is
kept as it was, except that a role whose name is an attribute takes it. -/
structure Stage (u : Bool) (start plan : ColumnPlan) (roles : RoleColumns) : Prop where
  /-- The plan is sound. -/
  sound : plan.Sound u
  /-- Columns stay what they are. -/
  columns : ∀ c ∈ start.columns.names, plan.columns.get? c = start.columns.get? c
  /-- Attributes go on standing for what they stand for, unless a role has their name. -/
  fields : ∀ attr ∈ start.fieldMap.names, plan.fieldMap.get? attr =
    if attr ∈ roles.names then some attr else start.fieldMap.get? attr
  /-- What is added are columns for roles. -/
  added : ∀ c column, plan.columns.get? c = some column →
    c ∈ start.columns.names ∨ column ∈ roleColumns
  /-- The primary keys stay. -/
  keys : plan.keys = start.keys
  /-- The roles are columns. -/
  roles : ∀ c ∈ roles.names, c ∈ plan.columns.names

namespace Stage

theorem begin (h : plan.Sound u) : Stage u plan plan {} where
  sound := h
  roles := fun _ hc => absurd hc List.not_mem_nil
  columns := fun _ _ => rfl
  fields := fun _ _ => (if_neg List.not_mem_nil).symm
  added := fun _ _ hc => Or.inl (Named.mem_names_of_get? hc)
  keys := rfl

/-- No column is lost. -/
theorem grows (h : Stage u start plan roles) : start.columns.names ⊆ plan.columns.names := by
  intro c hc
  obtain ⟨column, hcolumn⟩ := Named.exists_get?_of_mem hc
  exact Named.mem_names_of_get? ((h.columns c hc).trans hcolumn)

/-- No attribute is lost. -/
theorem mem_fields {attr : String} (h : Stage u start plan roles)
    (hattr : attr ∈ start.fieldMap.names) : attr ∈ plan.fieldMap.names := by
  have hfield := h.fields attr hattr
  split at hfield
  · exact Named.mem_names_of_get? hfield
  · obtain ⟨c, hc⟩ := Named.exists_get?_of_mem hattr
    exact Named.mem_names_of_get? (hfield.trans hc)

/-- A column for a role may be ensured, and the role settled on it. -/
theorem ensureRole (h : Stage u start plan roles) (hcolumn : column ∈ roleColumns)
    (hid : isIdentifier n = true) (hroles : ∀ c, c ∈ roles'.names ↔ c ∈ roles.names ∨ c = n) :
    Stage u start (plan.ensure n column) roles' where
  sound := h.sound.ensure hid
  roles c hc := by
    rcases (hroles c).1 hc with hc | rfl
    · exact plan.subset_ensure n column (h.roles c hc)
    · exact plan.mem_ensure c column
  columns c hc := (ColumnPlan.columns_get?_ensure (h.grows hc)).trans (h.columns c hc)
  fields attr hattr := by
    by_cases hn : attr = n
    · -- the attribute of the role's name stands for the role's column, new or not
      subst hn
      rw [h.sound.fieldMap_get?_ensure_self (h.mem_fields hattr),
        if_pos ((hroles attr).2 (Or.inr rfl))]
    · have hsame : attr ∈ roles'.names ↔ attr ∈ roles.names := by
        rw [hroles, or_iff_left hn]
      rw [ColumnPlan.fieldMap_get?_ensure hn, h.fields attr hattr]
      simp only [hsame]
  added c other hother := by
    rcases ColumnPlan.of_columns_get?_ensure hother with hother | rfl
    · exact h.added c other hother
    · exact Or.inr hcolumn
  keys := (ColumnPlan.keys_ensure (primaryKey_of_mem_roleColumns hcolumn)).trans h.keys

/-- An unsettled spelling may be added for a column that is there. -/
theorem spell {attr : String} {column? : Option String} (h : Stage u start plan roles)
    (hattr : settle u attr ≠ attr) (hcolumn : ∀ c, column? = some c → c ∈ roles.names) :
    Stage u start (plan.spell attr column?) roles where
  sound := h.sound.spell hattr fun c hc => h.roles c (hcolumn c hc)
  roles := by rw [ColumnPlan.columns_spell]; exact h.roles
  columns := by rw [ColumnPlan.columns_spell]; exact h.columns
  fields k hk := by
    obtain ⟨c, hc⟩ := Named.exists_get?_of_mem (h.mem_fields hk)
    rw [ColumnPlan.fieldMap_get?_spell hc, ← hc, h.fields k hk]
  added := by rw [ColumnPlan.columns_spell]; exact h.added
  keys := by rw [ColumnPlan.keys, ColumnPlan.columns_spell]; exact h.keys

end Stage

/-- The name of a column that the settings ask for is an identifier. -/
theorem isIdentifier_of_settingColumn {given : Value} {usual : String}
    (h : settingColumn settings given usual = .ok n) : isIdentifier n = true := by
  rw [settingColumn] at h
  have hcheck : ∃ v, checkIdentifier "column name" v = .ok n := by
    obtain ⟨b, -, h⟩ := bind_eq_ok.1 h
    cases b with
    | true => exact ⟨given, h⟩
    | false =>
      obtain ⟨b, -, h⟩ := bind_eq_ok.1 h
      obtain ⟨v, -, h⟩ := bind_eq_ok.1 h
      exact ⟨v, h⟩
  obtain ⟨v, hv⟩ := hcheck
  exact (checkIdentifier_eq_ok hv).2

namespace ModelDefinition

/-- **What the pass for the primary key does**: it keeps the plan, or puts a new column in front;
the latter if nothing is flagged, the name is free and no constraint declares the key. -/
theorem withId_eq_ok {flagged : List String} (h : d.withId flagged plan = .ok start) :
    (flagged = [] ∧ "id" ∉ plan.columns.names ∧
      (∀ c ∈ d.constraints, c.isPrimaryKey = .ok false) ∧
      ∃ rowid, start = plan.putFirst "id" (idColumn rowid)) ∨
    start = plan ∧ (flagged = [] → "id" ∈ plan.columns.names ∨
      ∃ c ∈ d.constraints, c.isPrimaryKey = .ok true) := by
  rw [withId] at h
  obtain ⟨constrained, hconstrained, h⟩ := bind_eq_ok.1 h
  split at h
  · rename_i hadd
    obtain ⟨rowid, -, h⟩ := bind_eq_ok.1 h
    simp only [Bool.and_eq_true, List.isEmpty_iff, Bool.not_eq_true', Named.has_eq_false] at hadd
    obtain ⟨⟨hflagged, hfree⟩, rfl⟩ := hadd
    exact Or.inl ⟨hflagged, hfree, forall_of_anyM_eq_false hconstrained, !rowid,
      (pure_eq_ok.1 h).symm⟩
  · rename_i hkeep
    refine Or.inr ⟨(pure_eq_ok.1 h).symm, fun hflagged => ?_⟩
    -- nothing is flagged, so the name is taken or a constraint declares the key
    by_cases hid : "id" ∈ plan.columns.names
    · exact Or.inl hid
    · have htrue : constrained = true := by
        rw [hflagged, Named.has_eq_false.2 hid] at hkeep
        simpa using hkeep
      rw [htrue] at hconstrained
      exact Or.inr (exists_of_anyM_eq_true hconstrained)

/-- The name of the column for the primary key is settled. -/
theorem settle_id (u : Bool) : settle u "id" = "id" := by
  cases u <;> decide +kernel

/-- **The pass that may add a column for the primary key.** Behind it the only primary key is the
one flagged in the declared columns, or the added one. -/
theorem withId_spec (hplan : plan.Declared u) (h : d.withId plan.keys plan = .ok start) :
    start.Sound u ∧ plan.columns.names ⊆ start.columns.names ∧
      (start.keys = plan.keys ∨ plan.keys = [] ∧ start.keys = ["id"]) ∧
      (plan.keys = [] → "id" ∈ start.columns.names ∨
        ∃ c ∈ d.constraints, c.isPrimaryKey = .ok true) := by
  rcases withId_eq_ok h with ⟨hkeys, hnew, -, rowid, rfl⟩ | ⟨rfl, hdeclares⟩
  · have hnames :
        (plan.putFirst "id" (idColumn rowid)).columns.names = "id" :: plan.columns.names := by
      rw [hplan.columns_putFirst hnew, Named.names_cons]
    refine ⟨hplan.sound_putFirst (by decide +kernel) (settle_id u) hnew, ?_, Or.inr ⟨hkeys, ?_⟩,
      fun _ => Or.inl ?_⟩
    · rw [hnames]
      exact List.subset_cons_self _ _
    · rw [hplan.keys_putFirst hnew rfl, hkeys]
    · rw [hnames]
      exact List.mem_cons_self
  · exact ⟨hplan.sound, fun _ h => h, Or.inl rfl, hdeclares⟩

/-- The pass for the times of making and of the last change, which is the first for roles. -/
theorem withTimes_spec (h : Stage u start plan {})
    (hpass : d.withTimes plan {} = .ok (plan', roles')) :
    Stage u start plan' roles' ∧ roles'.deletedAt = none ∧ roles'.version = none := by
  obtain ⟨b, -, hpass⟩ := bind_eq_ok.1 hpass
  cases b with
  | false =>
    cases hpass
    exact ⟨h, rfl, rfl⟩
  | true =>
    obtain ⟨createdAt, hc, hpass⟩ := bind_eq_ok.1 hpass
    obtain ⟨updatedAt, hu, hpass⟩ := bind_eq_ok.1 hpass
    cases hpass
    -- the two columns are settled one after the other
    have hcreated : Stage u start (plan.ensure createdAt timeColumn)
        { createdAt := some createdAt } := by
      refine h.ensureRole List.mem_cons_self (isIdentifier_of_settingColumn hc) fun c => ?_
      grind [RoleColumns.mem_names]
    refine ⟨hcreated.ensureRole List.mem_cons_self (isIdentifier_of_settingColumn hu) fun c => ?_,
      rfl, rfl⟩
    grind [RoleColumns.mem_names]

/-- The pass for the time of deletion. -/
theorem withDeletion_spec (h : Stage u start plan roles) (hnone : roles.deletedAt = none)
    (hpass : d.withDeletion plan roles = .ok (plan', roles')) :
    Stage u start plan' roles' ∧ roles'.version = roles.version := by
  obtain ⟨b, -, hpass⟩ := bind_eq_ok.1 hpass
  cases b with
  | false =>
    cases hpass
    exact ⟨h, rfl⟩
  | true =>
    obtain ⟨deletedAt, hd, hpass⟩ := bind_eq_ok.1 hpass
    cases hpass
    refine ⟨h.ensureRole (by simp [roleColumns]) (isIdentifier_of_settingColumn hd) fun c => ?_,
      rfl⟩
    grind [RoleColumns.mem_names]

/-- The pass for the count of changes. -/
theorem withVersion_spec (h : Stage u start plan roles) (hnone : roles.version = none)
    (hpass : d.withVersion plan roles = .ok (plan', roles')) : Stage u start plan' roles' := by
  obtain ⟨b, -, hpass⟩ := bind_eq_ok.1 hpass
  cases b with
  | false =>
    cases hpass
    exact h
  | true =>
    obtain ⟨version, hv, hpass⟩ := bind_eq_ok.1 hpass
    cases hpass
    refine h.ensureRole (by simp [roleColumns]) (isIdentifier_of_settingColumn hv) fun c => ?_
    grind [RoleColumns.mem_names]

/-- The pass for the usual spellings: none of them is settled where the columns are in snake
case. -/
theorem withSpellings_spec (h : Stage d.underscored.truthy start plan roles)
    (hpass : d.withSpellings plan roles = .ok plan') :
    Stage d.underscored.truthy start plan' roles := by
  obtain ⟨b, hb, hpass⟩ := bind_eq_ok.1 hpass
  rw [(Value.truth_eq_ok.1 hb).2] at h ⊢
  cases b with
  | false =>
    cases hpass
    exact h
  | true =>
    cases hpass
    refine ((h.spell (by decide +kernel) fun c hc => ?_).spell (by decide +kernel)
      fun c hc => ?_).spell (by decide +kernel) fun c hc => ?_
    all_goals rw [RoleColumns.mem_names]
    · exact Or.inl hc
    · exact Or.inr (Or.inl hc)
    · exact Or.inr (Or.inr (Or.inl hc))

/-! ## Models -/

variable {m : ResolvedModel} {name table : String}

/-- What is left to see once all passes are through. -/
theorem wellFormed_of_stage (h : Stage u start ⟨m.columns, m.fieldMap⟩
      ⟨m.createdAt, m.updatedAt, m.deletedAt, m.version⟩)
    (hkeys : start.keys = [] ∨ start.keys = [m.primaryKey])
    (hprimary : m.primaryKey ∈ start.columns.names ∨
      ∃ c ∈ m.definition.constraints, c.isPrimaryKey = .ok true) : m.WellFormed := by
  have hfixed : ∀ c ∈ m.columnNames, m.columnFor (.str c) = .ok (.str c) := by
    intro c hc
    have hself : m.fieldMap.getOr c c = c := h.sound.fixed c hc
    rw [Named.getOr] at hself
    rw [ResolvedModel.columnFor, if_pos (Value.isHashable_of_text? rfl), Value.text?,
      Option.bind_some]
    cases hget : m.fieldMap.get? c with
    | none => rfl
    | some d =>
      rw [hget, Option.getD_some] at hself
      rw [hself]
      rfl
  exact
    { nodup := h.sound.columnsNodup
      identifiers := h.sound.identifiers
      flagged := by
        have hflagged : m.flaggedNames = start.keys := h.keys
        rwa [hflagged]
      primaryKey := hprimary.imp (fun hp => h.grows hp) id
      roles := h.roles
      mapped := h.sound.mapped
      fixed := hfixed
      idempotent := fun key column hcolumn => by
        rw [ResolvedModel.columnFor] at hcolumn
        split at hcolumn
        · rename_i hhash
          split at hcolumn
          · -- an attribute stands for a column, which stands for itself
            rename_i c hc
            cases hcolumn
            obtain ⟨s, -, hs⟩ := Option.bind_eq_some_iff.1 hc
            exact hfixed c (h.sound.mapped (s, c) (Named.mem_of_get? hs))
          · rename_i hnone
            cases hcolumn
            rw [ResolvedModel.columnFor, if_pos hhash, hnone]
            rfl
        · cases hcolumn }

/-- **What resolving does**: it goes through the passes, one after the other, and keeps what the
definition says but for its hooks, which are built. -/
theorem resolveWith_eq_ok (h : d.resolveWith name table = .ok m) :
    ∃ hooks declared start timed timedRoles deleted deletedRoles versioned roles plan,
      d.declaredColumns name = .ok declared ∧ declared.keys.length ≤ 1 ∧
      d.withId declared.keys declared = .ok start ∧
      d.withTimes start {} = .ok (timed, timedRoles) ∧
      d.withDeletion timed timedRoles = .ok (deleted, deletedRoles) ∧
      d.withVersion deleted deletedRoles = .ok (versioned, roles) ∧
      d.withSpellings versioned roles = .ok plan ∧
      m =
        { name := name
          tableName := table
          columns := plan.columns
          fieldMap := plan.fieldMap
          primaryKey := declared.keys.head?.getD "id"
          createdAt := roles.createdAt
          updatedAt := roles.updatedAt
          deletedAt := roles.deletedAt
          version := roles.version
          definition := { d with hooks := HookLists.toValue hooks }
          hooks := hooks } := by
  obtain ⟨hooks, -, h⟩ := bind_eq_ok.1 h
  obtain ⟨declared, hdeclared, h⟩ := bind_eq_ok.1 h
  obtain ⟨flagged, hflagged, h⟩ := bind_eq_ok.1 h
  obtain rfl : flagged = declared.keys := ColumnPlan.flagged_eq_ok hflagged
  have hfew : declared.keys.length ≤ 1 := by
    by_contra hmany
    rw [if_pos (by omega)] at h
    obtain ⟨_, hrefused, _⟩ := bind_eq_ok.1 h
    cases hrefused
  rw [if_neg (by omega)] at h
  obtain ⟨start, hstart, h⟩ := bind_eq_ok.1 h
  obtain ⟨⟨timed, timedRoles⟩, htimed, h⟩ := bind_eq_ok.1 h
  obtain ⟨⟨deleted, deletedRoles⟩, hdeleted, h⟩ := bind_eq_ok.1 h
  obtain ⟨⟨versioned, roles⟩, hversioned, h⟩ := bind_eq_ok.1 h
  obtain ⟨plan, hplan, h⟩ := bind_eq_ok.1 h
  exact ⟨hooks, declared, start, timed, timedRoles, deleted, deletedRoles, versioned, roles, plan,
    hdeclared, hfew, hstart, htimed, hdeleted, hversioned, hplan, (pure_eq_ok.1 h).symm⟩

/-- **What the passes make of the declared columns**: the one for the primary key comes first, and
the others keep what it leaves. -/
theorem exists_stage_of_resolveWith (h : d.resolveWith name table = .ok m) :
    ∃ declared start, d.declaredColumns name = .ok declared ∧ declared.keys.length ≤ 1 ∧
      d.withId declared.keys declared = .ok start ∧
      Stage d.underscored.truthy start ⟨m.columns, m.fieldMap⟩
        ⟨m.createdAt, m.updatedAt, m.deletedAt, m.version⟩ ∧
      m.primaryKey = declared.keys.head?.getD "id" ∧
      m.definition = { d with hooks := m.hooks.toValue } := by
  obtain ⟨hooks, declared, start, timed, timedRoles, deleted, deletedRoles, versioned, roles, plan,
    hdeclared, hfew, hstart, htimed, hdeleted, hversioned, hplan, rfl⟩ := resolveWith_eq_ok h
  have hsound : start.Sound d.underscored.truthy :=
    (withId_spec (ColumnPlan.declared_declaredColumns hdeclared) hstart).1
  obtain ⟨hstage, hdeletedAt, hversion⟩ := withTimes_spec (Stage.begin hsound) htimed
  obtain ⟨hstage, hkept⟩ := withDeletion_spec hstage hdeletedAt hdeleted
  exact ⟨declared, start, hdeclared, hfew, hstart,
    withSpellings_spec (withVersion_spec hstage (hkept.trans hversion) hversioned) hplan, rfl, rfl⟩

/-- **Resolving gives a well-formed model**, under whatever names. -/
theorem wellFormed_of_resolveWith (h : d.resolveWith name table = .ok m) : m.WellFormed := by
  obtain ⟨declared, start, hdeclared, hfew, hstart, hstage, hprimary, hdefinition⟩ :=
    exists_stage_of_resolveWith h
  obtain ⟨-, hgrows, hkeys, hid⟩ :=
    withId_spec (ColumnPlan.declared_declaredColumns hdeclared) hstart
  refine wellFormed_of_stage hstage ?_ ?_
  all_goals rw [hprimary]
  · rcases hkeys with hkeys | ⟨hnone, hkeys⟩
    · rw [hkeys]
      match declared.keys, hfew with
      | [], _ => exact Or.inl rfl
      | [key], _ => exact Or.inr rfl
    · rw [hkeys, hnone]
      exact Or.inr rfl
  · rw [hdefinition]
    match hdeclared : declared.keys with
    | [] => exact hid hdeclared
    | key :: _ =>
      refine Or.inl (hgrows (declared.keys_subset ?_))
      rw [hdeclared]
      exact List.mem_cons_self

/-- A definition that resolves does so to a well-formed model. -/
theorem wellFormed_of_resolve_eq_ok (h : d.resolve = .ok m) : m.WellFormed := by
  obtain ⟨⟨name, table⟩, -, h⟩ := bind_eq_ok.1 h
  exact wellFormed_of_resolveWith h

end ModelDefinition

/-- The definition, its parts built. -/
def DefinitionSource.definition : DefinitionSource → Except Fault ModelDefinition
  | literal _ => noAttribute
  | draft d => d.build
  | built d => pure d

/-- Building the parts leaves the settings as they are. -/
theorem ModelDraft.toModelSettings_of_build {draft : ModelDraft} {d : ModelDefinition}
    (h : draft.build = .ok d) : d.toModelSettings = draft.toModelSettings := by
  have hgives : Gives (fun d : ModelDefinition => d.toModelSettings = draft.toModelSettings)
      draft.build := by
    unfold ModelDraft.build ModelDefinition.build
    repeat refine Gives.bind fun _ => ?_
    exact Gives.pure rfl
  exact hgives d h

/-- A definition resolves to a model of the names it settles. -/
theorem ModelDefinition.names_of_resolveWith {d : ModelDefinition} {name table : String}
    {m : ResolvedModel} (h : d.resolveWith name table = .ok m) :
    m.name = name ∧ m.tableName = table := by
  obtain ⟨_, _, _, _, _, _, _, _, _, _, -, -, -, -, -, -, -, rfl⟩ := resolveWith_eq_ok h
  exact ⟨rfl, rfl⟩

/-- **How a definition is resolved**: its parts are built, and it is resolved under the names that
its settings give. -/
theorem DefinitionSource.exists_definition {source : DefinitionSource} {m : ResolvedModel}
    (h : source.resolve = .ok m) :
    ∃ d, source.definition = .ok d ∧ d.name = source.modelName ∧
      d.resolveNames = .ok (m.name, m.tableName) ∧
      d.resolveWith m.name m.tableName = .ok m := by
  cases source with
  | literal v => cases h
  | draft draft =>
    obtain ⟨⟨name, table⟩, hnames, h⟩ := bind_eq_ok.1 h
    obtain ⟨d, hbuilt, h⟩ := bind_eq_ok.1 h
    obtain ⟨rfl, rfl⟩ := ModelDefinition.names_of_resolveWith h
    have hsettings := ModelDraft.toModelSettings_of_build hbuilt
    exact ⟨d, hbuilt, congrArg ModelSettings.name hsettings, hsettings ▸ hnames, h⟩
  | built d =>
    obtain ⟨⟨name, table⟩, hnames, h⟩ := bind_eq_ok.1 h
    obtain ⟨rfl, rfl⟩ := ModelDefinition.names_of_resolveWith h
    exact ⟨d, rfl, rfl, hnames, h⟩

/-- **What names a model has**: the one its definition gives, and both are identifiers. -/
theorem DefinitionSource.names_of_resolve {source : DefinitionSource} {m : ResolvedModel}
    (h : source.resolve = .ok m) : source.modelName.text? = some m.name ∧
      isIdentifier m.name = true ∧ isIdentifier m.tableName = true := by
  obtain ⟨d, -, hname, hnames, -⟩ := DefinitionSource.exists_definition h
  obtain ⟨htext, hid, -, htable⟩ := ModelSettings.resolveNames_eq_ok hnames
  exact ⟨hname ▸ htext, hid, htable⟩

/-- **Every model that a definition resolves to is well-formed**, whatever form the definition
has. -/
theorem DefinitionSource.wellFormed_of_resolve {source : DefinitionSource} {m : ResolvedModel}
    (h : source.resolve = .ok m) : m.WellFormed := by
  cases source with
  | literal v => cases h
  | draft d =>
    obtain ⟨⟨name, table⟩, -, h⟩ := bind_eq_ok.1 h
    obtain ⟨definition, -, h⟩ := bind_eq_ok.1 h
    exact ModelDefinition.wellFormed_of_resolveWith h
  | built d => exact ModelDefinition.wellFormed_of_resolve_eq_ok h

/-- A definition is resolved under the names it settles, once its parts are built. -/
theorem DefinitionSource.exists_resolveWith {source : DefinitionSource} {m : ResolvedModel}
    (h : source.resolve = .ok m) :
    ∃ d name table, source.definition = .ok d ∧ d.resolveWith name table = .ok m := by
  obtain ⟨d, hd, -, -, hm⟩ := DefinitionSource.exists_definition h
  exact ⟨d, m.name, m.tableName, hd, hm⟩

/-- The primary key of a model is an identifier, whether or not it is a column. -/
theorem DefinitionSource.isIdentifier_primaryKey {source : DefinitionSource} {m : ResolvedModel}
    (h : source.resolve = .ok m) : isIdentifier m.primaryKey = true := by
  obtain ⟨d, name, table, -, h⟩ := DefinitionSource.exists_resolveWith h
  obtain ⟨_, declared, _, _, _, _, _, _, _, _, hdeclared, -, -, -, -, -, -, rfl⟩ :=
    ModelDefinition.resolveWith_eq_ok h
  change isIdentifier (declared.keys.head?.getD "id") = true
  cases hkeys : declared.keys with
  | nil => decide
  | cons key keys =>
    refine (ColumnPlan.declared_declaredColumns hdeclared).identifiers key
      (declared.keys_subset ?_)
    rw [hkeys]
    exact List.mem_cons_self

/-- A definition that makes every pass add something. -/
def taskDefinition : ModelDefinition :=
  { name := .str "Task"
    softDelete := .bool true
    underscored := .bool true
    version := .str "Revision"
    columns := [(.str "dueAt", { type := .str "DATE" }), (.str "Title", { type := .str "TEXT" })] }

/-- It resolves, to a well-formed model. -/
theorem exists_wellFormed_taskDefinition :
    ∃ m, (DefinitionSource.built taskDefinition).resolve = .ok m ∧ m.WellFormed := by
  have hok : (DefinitionSource.built taskDefinition).resolve.toOption.isSome = true := by
    decide +kernel
  cases hm : (DefinitionSource.built taskDefinition).resolve with
  | error f =>
    rw [hm] at hok
    cases hok
  | ok m => exact ⟨m, rfl, DefinitionSource.wellFormed_of_resolve hm⟩

end Tablewright
