import Tablewright.Proofs.DeclaredColumns

/-!
# Which names of a model are bare identifiers

The names of a model, its table and its columns are written into statements as they are. Some of
them the definition gives, and some are made: the plural of a table's name, the column for the
primary key, the usual names of the columns that the settings ask for. All of them pass the test for
identifiers, which lets a line feed through behind a bare identifier (`isIdentifier_iff`). A made
name never ends with one, a given name may, so the names of a model are bare exactly if the
definition gives none with a line feed (`DefinitionSource.bareNames_of_resolve`).
-/

namespace Tablewright

open Fallible

/-! ## What a definition gives -/

namespace ModelSettings

/-- The name given for the table, if it is taken as it is. -/
def givenTable (d : ModelSettings) : Option String :=
  if d.pluralizeTableName.truthy then none
  else if d.tableName.truthy then
    if d.freezeTableName.truthy then d.tableName.text? else none
  else d.name.text?

/-- The columns for times that the settings ask for: what is given as the name, and the usual
name. -/
def timeSettings (d : ModelSettings) : List (Value × String) :=
  if d.timestamps.truthy then [(d.createdAt, "createdAt"), (d.updatedAt, "updatedAt")] else []

/-- The column for the time of deletion, if the settings ask for it. -/
def deletionSettings (d : ModelSettings) : List (Value × String) :=
  if d.softDelete.truthy then [(d.deletedAt, "deletedAt")] else []

/-- The column that counts changes, if the settings ask for it. Only a text names it. -/
def versionSettings (d : ModelSettings) : List (Value × String) :=
  if d.version.truthy then [(if d.version.text?.isSome then d.version else .null, "version")]
  else []

/-- All the columns that the settings ask for. -/
def roleSettings (d : ModelSettings) : List (Value × String) :=
  d.timeSettings ++ d.deletionSettings ++ d.versionSettings

/-- The names given for the columns that the settings ask for. -/
def givenRoles (d : ModelSettings) : List String :=
  (d.roleSettings.filter fun s => s.1.truthy).filterMap fun s => s.1.text?

/-- The names of some columns that the settings ask for. -/
def settleRoles (d : ModelSettings) (asked : List (Value × String)) :
    Except Fault (List String) :=
  asked.mapM fun s => settingColumn d s.1 s.2

end ModelSettings

namespace ModelDefinition

/-- The names that a definition gives columns: what its attributes settle to, and the names of the
columns that the settings ask for. -/
def givenColumns (d : ModelDefinition) : List String :=
  (d.columns.map fun e => settle d.underscored.truthy e.1.display) ++ d.givenRoles

/-- The names that a definition gives. -/
def declaredNames (d : ModelDefinition) : List String :=
  d.name.text?.toList ++ d.givenTable.toList ++ d.givenColumns

end ModelDefinition

namespace ResolvedModel

/-- The names of a model, its table and its columns, those for its settings once more. -/
def statedNames (m : ResolvedModel) : List String :=
  m.name :: m.tableName :: (m.columnNames ++ m.roleNames)

/-- All names of a model are bare identifiers. -/
def BareNames (m : ResolvedModel) : Prop :=
  ∀ n ∈ m.statedNames, IsBareIdentifier n

end ResolvedModel

/-! ## The table's name -/

/-- A name that ends in a letter has no line feed behind it. -/
theorem isBareIdentifier_of_plural {s : String} (h : isIdentifier (s ++ "s") = true) :
    IsBareIdentifier (s ++ "s") := by
  obtain ⟨b, hb, heq | heq⟩ := isIdentifier_iff.1 h
  · rwa [heq]
  · have hlast := congrArg (fun t : String => t.toList.getLast?) heq
    simp at hlast

/-- **Where the table's name comes from**: it is the one given, or a made one that is bare. -/
theorem ModelSettings.givenTable_of_resolveTableName {d : ModelSettings} {v : Value}
    {table : String} (h : d.resolveTableName = .ok v) (htext : v.text? = some table)
    (hid : isIdentifier table = true) :
    d.givenTable = some table ∨ d.givenTable = none ∧ IsBareIdentifier table := by
  have hplural : ∀ given : Value, v = plural given → IsBareIdentifier table := by
    rintro given rfl
    obtain rfl : given.display ++ "s" = table := Option.some.inj htext
    exact isBareIdentifier_of_plural hid
  obtain ⟨pluralized, hpluralized, h⟩ := bind_eq_ok.1 h
  rw [givenTable, (Value.truth_eq_ok.1 hpluralized).2]
  cases pluralized with
  | true =>
    obtain ⟨given, -, h⟩ := bind_eq_ok.1 h
    exact Or.inr ⟨rfl, hplural given (pure_eq_ok.1 h).symm⟩
  | false =>
    obtain ⟨named, hnamed, h⟩ := bind_eq_ok.1 h
    rw [(Value.truth_eq_ok.1 hnamed).2]
    cases named with
    | true =>
      obtain ⟨frozen, hfrozen, h⟩ := bind_eq_ok.1 h
      rw [(Value.truth_eq_ok.1 hfrozen).2]
      cases frozen with
      | true =>
        obtain rfl : d.tableName = v := pure_eq_ok.1 h
        exact Or.inl htext
      | false => exact Or.inr ⟨rfl, hplural d.tableName (pure_eq_ok.1 h).symm⟩
    | false =>
      obtain rfl : d.name = v := pure_eq_ok.1 h
      exact Or.inl htext

/-! ## The columns for settings -/

/-- **Where the name of a column for a setting comes from**: a given one is taken, and otherwise the
usual one is settled. -/
theorem settingColumn_eq_ok {settings : ModelSettings} {given : Value} {usual n : String}
    (h : settingColumn settings given usual = .ok n) :
    if given.truthy then given.text? = some n else n = settle settings.underscored.truthy usual := by
  obtain ⟨b, hb, h⟩ := bind_eq_ok.1 h
  rw [(Value.truth_eq_ok.1 hb).2]
  cases b with
  | true => exact (checkIdentifier_eq_ok h).1
  | false =>
    obtain ⟨u, hu, h⟩ := bind_eq_ok.1 h
    obtain ⟨name, hname, h⟩ := bind_eq_ok.1 h
    obtain rfl := pure_eq_ok.1 hname
    rw [(Value.truth_eq_ok.1 hu).2]
    exact (Option.some.inj (checkIdentifier_eq_ok h).1).symm

/-- The usual names are bare, in snake case too. -/
theorem isBareIdentifier_usual (u : Bool) :
    ∀ usual ∈ ["createdAt", "updatedAt", "deletedAt", "version"],
      IsBareIdentifier (settle u usual) := by
  cases u <;> decide +kernel

namespace ModelSettings

variable {d : ModelSettings} {s : Value × String} {names : List String} {n : String}

theorem usual_of_mem_roleSettings (h : s ∈ d.roleSettings) :
    s.2 ∈ ["createdAt", "updatedAt", "deletedAt", "version"] := by
  simp only [roleSettings, timeSettings, deletionSettings, versionSettings, List.mem_append,
    List.mem_ite_nil_right, List.mem_cons, List.not_mem_nil, or_false] at h
  rcases h with (⟨-, rfl | rfl⟩ | ⟨-, rfl⟩) | ⟨-, rfl⟩ <;> simp

/-- A name that is given for a column is among the columns' names. -/
theorem givenRoles_subset (h : d.settleRoles d.roleSettings = .ok names) :
    d.givenRoles ⊆ names := by
  intro n hn
  obtain ⟨s, hs, htext⟩ := List.mem_filterMap.1 hn
  obtain ⟨hs, hgiven⟩ := List.mem_filter.1 hs
  obtain ⟨n', hn', hsettled⟩ := mem_mapM_of_mem h hs
  have hname := settingColumn_eq_ok hsettled
  rw [if_pos hgiven, htext] at hname
  rwa [Option.some.inj hname]

/-- The name of a column for a setting is given, or bare. -/
theorem given_or_bare_of_mem (h : d.settleRoles d.roleSettings = .ok names) (hn : n ∈ names) :
    n ∈ d.givenRoles ∨ IsBareIdentifier n := by
  obtain ⟨s, hs, hsettled⟩ := exists_of_mem_mapM h hn
  have hname := settingColumn_eq_ok hsettled
  by_cases hgiven : s.1.truthy = true
  · rw [if_pos hgiven] at hname
    exact Or.inl (List.mem_filterMap.2 ⟨s, List.mem_filter.2 ⟨hs, hgiven⟩, hname⟩)
  · rw [if_neg hgiven] at hname
    rw [hname]
    exact Or.inr (isBareIdentifier_usual _ _ (usual_of_mem_roleSettings hs))

end ModelSettings

/-- What a pass for settings adds: columns of the given names, which become roles. -/
structure AddsRoles (names : List String) (before after : ColumnPlan × RoleColumns) : Prop where
  /-- The columns behind the pass. -/
  columns : ∀ c, c ∈ after.1.columns.names ↔ c ∈ before.1.columns.names ∨ c ∈ names
  /-- The roles behind the pass. -/
  roles : ∀ c, c ∈ after.2.names ↔ c ∈ before.2.names ∨ c ∈ names

namespace AddsRoles

variable {plan : ColumnPlan} {roles roles' : RoleColumns} {n : String} {column : Column}

theorem refl (state : ColumnPlan × RoleColumns) : AddsRoles [] state state where
  columns := by simp
  roles := by simp

theorem trans {names names' : List String} {before between after : ColumnPlan × RoleColumns}
    (h : AddsRoles names before between) (h' : AddsRoles names' between after) :
    AddsRoles (names ++ names') before after where
  columns c := by rw [h'.columns, h.columns, List.mem_append, or_assoc]
  roles c := by rw [h'.roles, h.roles, List.mem_append, or_assoc]

/-- One column is ensured for one role. -/
theorem ensure (hroles : ∀ c, c ∈ roles'.names ↔ c ∈ roles.names ∨ c = n) :
    AddsRoles [n] (plan, roles) (plan.ensure n column, roles') where
  columns c := by
    rw [List.mem_singleton]
    change c ∈ (plan.ensure n column).columns.names ↔ _
    rw [ColumnPlan.ensure]
    split
    · rename_i hthere
      exact ⟨Or.inl, fun h => h.elim id fun hc => hc ▸ Named.has_iff_mem_names.1 hthere⟩
    · rw [Named.mem_names_put, or_comm]
  roles c := by rw [List.mem_singleton, hroles]

end AddsRoles

namespace ModelDefinition

variable {d : ModelDefinition} {name table : String} {m : ResolvedModel}
  {plan : ColumnPlan} {roles : RoleColumns} {after : ColumnPlan × RoleColumns}

/-- The pass for the times of making and of the last change. -/
theorem withTimes_adds (h : d.withTimes plan {} = .ok after) :
    ∃ names, d.settleRoles d.timeSettings = .ok names ∧ AddsRoles names (plan, {}) after := by
  obtain ⟨b, hb, h⟩ := bind_eq_ok.1 h
  rw [ModelSettings.timeSettings, (Value.truth_eq_ok.1 hb).2]
  cases b with
  | false =>
    obtain rfl := pure_eq_ok.1 h
    exact ⟨[], rfl, .refl _⟩
  | true =>
    obtain ⟨createdAt, hcreated, h⟩ := bind_eq_ok.1 h
    obtain ⟨updatedAt, hupdated, h⟩ := bind_eq_ok.1 h
    obtain rfl := pure_eq_ok.1 h
    have hfirst : AddsRoles [createdAt] (plan, {})
        (plan.ensure createdAt timeColumn, { createdAt := some createdAt }) := by
      refine .ensure fun c => ?_
      grind [RoleColumns.mem_names]
    refine ⟨[createdAt, updatedAt], mapM_eq_ok.2 (.cons hcreated (.cons hupdated .nil)),
      hfirst.trans (.ensure fun c => ?_)⟩
    grind [RoleColumns.mem_names]

/-- The pass for the time of deletion. -/
theorem withDeletion_adds (hnone : roles.deletedAt = none)
    (h : d.withDeletion plan roles = .ok after) :
    ∃ names, d.settleRoles d.deletionSettings = .ok names ∧
      AddsRoles names (plan, roles) after := by
  obtain ⟨b, hb, h⟩ := bind_eq_ok.1 h
  rw [ModelSettings.deletionSettings, (Value.truth_eq_ok.1 hb).2]
  cases b with
  | false =>
    obtain rfl := pure_eq_ok.1 h
    exact ⟨[], rfl, .refl _⟩
  | true =>
    obtain ⟨deletedAt, hdeleted, h⟩ := bind_eq_ok.1 h
    obtain rfl := pure_eq_ok.1 h
    refine ⟨[deletedAt], mapM_eq_ok.2 (.cons hdeleted .nil), .ensure fun c => ?_⟩
    grind [RoleColumns.mem_names]

/-- The pass for the count of changes. -/
theorem withVersion_adds (hnone : roles.version = none)
    (h : d.withVersion plan roles = .ok after) :
    ∃ names, d.settleRoles d.versionSettings = .ok names ∧
      AddsRoles names (plan, roles) after := by
  obtain ⟨b, hb, h⟩ := bind_eq_ok.1 h
  rw [ModelSettings.versionSettings, (Value.truth_eq_ok.1 hb).2]
  cases b with
  | false =>
    obtain rfl := pure_eq_ok.1 h
    exact ⟨[], rfl, .refl _⟩
  | true =>
    obtain ⟨version, hversion, h⟩ := bind_eq_ok.1 h
    obtain rfl := pure_eq_ok.1 h
    refine ⟨[version], mapM_eq_ok.2 (.cons hversion .nil), .ensure fun c => ?_⟩
    grind [RoleColumns.mem_names]

/-- **Which columns there are behind all passes**: those of the pass for the primary key, and one
for every setting that asks for a column. -/
theorem exists_roles_of_resolveWith (h : d.resolveWith name table = .ok m) :
    ∃ declared start names, d.declaredColumns name = .ok declared ∧
      d.withId declared.keys declared = .ok start ∧
      d.settleRoles d.roleSettings = .ok names ∧
      (∀ c, c ∈ m.columnNames ↔ c ∈ start.columns.names ∨ c ∈ names) ∧
      ∀ c, c ∈ m.roleNames ↔ c ∈ names := by
  obtain ⟨hooks, declared, start, timed, timedRoles, deleted, deletedRoles, versioned, roles, plan,
    hdeclared, -, hstart, htimed, hdeleted, hversioned, hplan, rfl⟩ := resolveWith_eq_ok h
  have hsound : start.Sound d.underscored.truthy :=
    (withId_spec (ColumnPlan.declared_declaredColumns hdeclared) hstart).1
  obtain ⟨hstage, hdeletedAt, hversion⟩ := withTimes_spec (Stage.begin hsound) htimed
  have hkept := (withDeletion_spec hstage hdeletedAt hdeleted).2
  obtain ⟨times, htimes, htimesAdded⟩ := withTimes_adds htimed
  obtain ⟨deletions, hdeletions, hdeletionsAdded⟩ := withDeletion_adds hdeletedAt hdeleted
  obtain ⟨versions, hversions, hversionsAdded⟩ :=
    withVersion_adds (hkept.trans hversion) hversioned
  have hadded := (htimesAdded.trans hdeletionsAdded).trans hversionsAdded
  have hspelled : plan.columns = versioned.columns := by
    obtain ⟨b, -, hplan⟩ := bind_eq_ok.1 hplan
    cases b <;> obtain rfl := pure_eq_ok.1 hplan <;> simp
  refine ⟨declared, start, times ++ deletions ++ versions, hdeclared, hstart, ?_, fun c => ?_,
    fun c => ?_⟩
  · exact mapM_eq_ok.2 (List.rel_append
      (List.rel_append (mapM_eq_ok.1 htimes) (mapM_eq_ok.1 hdeletions)) (mapM_eq_ok.1 hversions))
  · rw [← hadded.columns c, ← hspelled]
    rfl
  · have hnone : RoleColumns.names {} = [] := rfl
    change c ∈ roles.names ↔ _
    rw [hadded.roles c, hnone, or_iff_right List.not_mem_nil]

/-- **Where the names of columns come from**: they are given, or bare. -/
theorem given_or_bare_of_mem_columnNames {c : String} (h : d.resolveWith name table = .ok m)
    (hc : c ∈ m.columnNames) :
    c ∈ d.givenColumns ∨ IsBareIdentifier c := by
  obtain ⟨declared, start, names, hdeclared, hstart, hnames, hcolumns, -⟩ :=
    exists_roles_of_resolveWith h
  rw [givenColumns, List.mem_append]
  rcases (hcolumns c).1 hc with hc | hc
  · have hadded := ((ColumnPlan.declared_declaredColumns hdeclared).kept_withId hstart).2.2
    rcases hadded c hc with rfl | hc
    · exact Or.inr (by decide +kernel)
    · obtain ⟨e, he, rfl⟩ := (ColumnPlan.mem_names_declaredColumns hdeclared).1 hc
      exact Or.inl (Or.inl (List.mem_map_of_mem he))
  · exact (ModelSettings.given_or_bare_of_mem hnames hc).imp Or.inr id

/-- Every name given for a column is the name of one. -/
theorem givenColumns_subset (h : d.resolveWith name table = .ok m) :
    d.givenColumns ⊆ m.columnNames := by
  obtain ⟨declared, start, names, hdeclared, hstart, hnames, hcolumns, -⟩ :=
    exists_roles_of_resolveWith h
  have hgrows := (withId_spec (ColumnPlan.declared_declaredColumns hdeclared) hstart).2.1
  intro c hc
  rw [hcolumns]
  rcases List.mem_append.1 hc with hc | hc
  · obtain ⟨e, he, rfl⟩ := List.mem_map.1 hc
    exact Or.inl (hgrows (ColumnPlan.mem_columns_declaredColumns hdeclared he))
  · exact Or.inr (ModelSettings.givenRoles_subset hnames hc)

end ModelDefinition

/-! ## Models -/

/-- The names of a model are its own, its table's and its columns'. -/
theorem ResolvedModel.mem_statedNames {m : ResolvedModel} {n : String} (h : m.WellFormed) :
    n ∈ m.statedNames ↔ n = m.name ∨ n = m.tableName ∨ n ∈ m.columnNames := by
  rw [statedNames, List.mem_cons, List.mem_cons, List.mem_append,
    or_iff_left_of_imp (h.roles n)]

namespace ModelDefinition

variable {d : ModelDefinition} {m : ResolvedModel}

/-- Every declared name is one of the model's. -/
theorem declaredNames_subset (hnames : d.resolveNames = .ok (m.name, m.tableName))
    (h : d.resolveWith m.name m.tableName = .ok m) : d.declaredNames ⊆ m.statedNames := by
  obtain ⟨hname, -, ⟨v, hv, htext⟩, hid⟩ := ModelSettings.resolveNames_eq_ok hnames
  intro n hn
  simp only [declaredNames, List.mem_append, Option.mem_toList, hname] at hn
  rw [ResolvedModel.mem_statedNames (wellFormed_of_resolveWith h)]
  rcases hn with (hn | hn) | hn
  · exact Or.inl (Option.some.inj hn).symm
  · rcases ModelSettings.givenTable_of_resolveTableName hv htext hid with htable | ⟨htable, -⟩
    all_goals rw [htable] at hn
    · exact Or.inr (Or.inl (Option.some.inj hn).symm)
    · cases hn
  · exact Or.inr (Or.inr (givenColumns_subset h hn))

/-- **Where the names of a model come from**: they are declared, or bare. -/
theorem declared_or_bare_of_mem {n : String}
    (hnames : d.resolveNames = .ok (m.name, m.tableName))
    (h : d.resolveWith m.name m.tableName = .ok m) (hn : n ∈ m.statedNames) :
    n ∈ d.declaredNames ∨ IsBareIdentifier n := by
  obtain ⟨hname, -, ⟨v, hv, htext⟩, hid⟩ := ModelSettings.resolveNames_eq_ok hnames
  simp only [declaredNames, List.mem_append, Option.mem_toList]
  rcases (ResolvedModel.mem_statedNames (wellFormed_of_resolveWith h)).1 hn with rfl | rfl | hn
  · exact Or.inl (Or.inl (Or.inl hname))
  · exact (ModelSettings.givenTable_of_resolveTableName hv htext hid).imp
      (fun htable => Or.inl (Or.inr htable)) And.right
  · exact (given_or_bare_of_mem_columnNames h hn).imp Or.inr id

/-- Every name of a model passes the test for identifiers. -/
theorem isIdentifier_of_mem_statedNames {n : String}
    (hnames : d.resolveNames = .ok (m.name, m.tableName))
    (h : d.resolveWith m.name m.tableName = .ok m) (hn : n ∈ m.statedNames) :
    isIdentifier n = true := by
  obtain ⟨-, hname, -, htable⟩ := ModelSettings.resolveNames_eq_ok hnames
  have hformed := wellFormed_of_resolveWith h
  rcases (ResolvedModel.mem_statedNames hformed).1 hn with rfl | rfl | hn
  · exact hname
  · exact htable
  · exact hformed.identifiers n hn

end ModelDefinition

/-- **Which names of a model are bare identifiers.** Every name that the definition declares is one
of the model's; each of the model's is a bare identifier, or declared and a bare identifier but for
a line feed behind it; and all are bare exactly if no declared name has a line feed. -/
theorem DefinitionSource.bareNames_of_resolve {source : DefinitionSource} {m : ResolvedModel}
    (h : source.resolve = .ok m) :
    ∃ d, source.definition = .ok d ∧ d.declaredNames ⊆ m.statedNames ∧
      (∀ n ∈ m.statedNames, IsBareIdentifier n ∨
        n ∈ d.declaredNames ∧ ∃ b, IsBareIdentifier b ∧ n = b ++ "\n") ∧
      (m.BareNames ↔ ∀ n ∈ d.declaredNames, '\n' ∉ n.toList) := by
  obtain ⟨d, hd, -, hnames, hm⟩ := exists_definition h
  have hsubset := ModelDefinition.declaredNames_subset hnames hm
  have hcases : ∀ n ∈ m.statedNames, IsBareIdentifier n ∨
      n ∈ d.declaredNames ∧ ∃ b, IsBareIdentifier b ∧ n = b ++ "\n" := by
    intro n hn
    -- the test lets a line feed through, which only a declared name has
    obtain ⟨b, hb, rfl | hline⟩ :=
      isIdentifier_iff.1 (ModelDefinition.isIdentifier_of_mem_statedNames hnames hm hn)
    · exact Or.inl hb
    · exact (ModelDefinition.declared_or_bare_of_mem hnames hm hn).symm.imp id
        fun hdeclared => ⟨hdeclared, b, hb, hline⟩
  refine ⟨d, hd, hsubset, hcases, fun hbare n hn => ?_, fun hfree n hn => ?_⟩
  · exact (hbare n (hsubset hn)).newline_not_mem
  · rcases hcases n hn with hbare | ⟨hdeclared, b, -, rfl⟩
    · exact hbare
    · exact absurd (by simp) (hfree _ hdeclared)

/-- A definition that gives names with a line feed behind them, each kind of name once. -/
def pastedDefinition : ModelDefinition :=
  { name := .str "User\n"
    tableName := .str "people\n"
    freezeTableName := .bool true
    createdAt := .str "made\n"
    columns := [(.str "email\n", { type := .str "TEXT" })] }

/-- **Names that are all bare, and names that are not.** -/
theorem bareNames_of_definitions :
    (∃ m, (DefinitionSource.built taskDefinition).resolve = .ok m ∧ m.BareNames) ∧
      ∃ m, (DefinitionSource.built pastedDefinition).resolve = .ok m ∧ ¬ m.BareNames := by
  constructor
  · obtain ⟨m, hm, -⟩ := exists_resolve_of_decide taskDefinition (fun _ => True)
      (by decide +kernel)
    obtain ⟨d, hd, -, -, hbare⟩ := DefinitionSource.bareNames_of_resolve hm
    obtain rfl : taskDefinition = d := pure_eq_ok.1 hd
    exact ⟨m, hm, hbare.2 (by decide +kernel)⟩
  · obtain ⟨m, hm, -⟩ := exists_resolve_of_decide pastedDefinition (fun _ => True)
      (by decide +kernel)
    obtain ⟨d, hd, -, -, hbare⟩ := DefinitionSource.bareNames_of_resolve hm
    obtain rfl : pastedDefinition = d := pure_eq_ok.1 hd
    exact ⟨m, hm, fun hall => absurd (hbare.1 hall) (by decide +kernel)⟩

end Tablewright
