import Tablewright.Proofs.ResolvedModel

/-!
# Which declared columns are kept

A definition declares columns under attributes, and the model stores each under the name its
attribute settles to. Which column every attribute reaches, and which of the declared ones is stored
there, is the main statement (`DefinitionSource.keepsDeclared_of_resolve`). Two things lose a
column: in a model in snake case two attributes may settle to one name, whose column is then the one
declared last; and a role may be given the very spelling of an attribute, which from then on stands
for the column of the role.
-/

namespace Tablewright

open Fallible

/-! ## Plans of declared columns -/

namespace ColumnPlan

variable {settings : ModelSettings} {model : String} {start plan : ColumnPlan}
  {entries : List (Value × Column)} {u : Bool} {d : ModelDefinition}

/-- The columns of a definition under the names they are stored under. -/
def underNames (u : Bool) (entries : List (Value × Column)) : Named Column :=
  entries.map fun e => (settle u e.1.display, e.2)

/-- The attributes of a definition with the names of their columns. -/
def attributes (u : Bool) (entries : List (Value × Column)) : Named String :=
  entries.map fun e => (e.1.display, settle u e.1.display)

/-- **What declaring columns one after the other does**: every attribute is a text, the actions of
every column are checked, and the columns and the attributes are stored in that order. -/
theorem foldlM_declare_eq_ok (h : entries.foldlM (declare settings model) start = .ok plan) :
    (∀ e ∈ entries, e.1.text? = some e.1.display ∧ e.2.ActionsChecked) ∧
      plan =
        { columns := start.columns.union (underNames settings.underscored.truthy entries)
          fieldMap := start.fieldMap.union (attributes settings.underscored.truthy entries) } := by
  induction entries generalizing start with
  | nil => exact ⟨nofun, (pure_eq_ok.1 h).symm⟩
  | cons e entries ih =>
    rw [List.foldlM_cons] at h
    obtain ⟨next, hnext, h⟩ := bind_eq_ok.1 h
    obtain ⟨attr, htext, -, hactions, rfl⟩ := declare_eq_ok hnext
    have hdisplay : e.1.display = attr := Value.display_of_text? htext
    subst hdisplay
    obtain ⟨htexts, rfl⟩ := ih h
    constructor
    · intro e' he'
      rcases List.mem_cons.1 he' with rfl | he'
      · exact ⟨htext, hactions⟩
      · exact htexts e' he'
    · rfl

/-- The column that is found under a name is the one declared last. -/
theorem columns_get?_declaredColumns (h : d.declaredColumns model = .ok plan) (c : String) :
    plan.columns.get? c =
      Named.get? (underNames d.underscored.truthy d.columns).reverse c := by
  obtain ⟨-, rfl⟩ := foldlM_declare_eq_ok h
  rw [Named.get?_union]
  exact Option.or_none

/-- A declared attribute stands for the name it settles to. -/
theorem fieldMap_get?_declaredColumns (h : d.declaredColumns model = .ok plan)
    {e : Value × Column} (he : e ∈ d.columns) :
    plan.fieldMap.get? e.1.display = some (settle d.underscored.truthy e.1.display) := by
  have hdeclared : Declared d.underscored.truthy plan := declared_declaredColumns h
  -- an attribute always stands for what it settles to, so which entry is the last does not matter
  have hthere : e.1.display ∈ plan.fieldMap.names := by
    have hlast : e.1.display ∈ Named.names (attributes d.underscored.truthy d.columns).reverse :=
      List.mem_map.2 ⟨_, List.mem_reverse.2 (List.mem_map_of_mem he), rfl⟩
    obtain ⟨c, hc⟩ := Named.exists_get?_of_mem hlast
    obtain ⟨-, rfl⟩ := foldlM_declare_eq_ok h
    refine Named.mem_names_of_get? (a := c) ?_
    rw [Named.get?_union]
    exact Option.or_eq_some_iff.2 (Or.inl hc)
  obtain ⟨c, hc⟩ := Named.exists_get?_of_mem hthere
  have hsettles : c = settle d.underscored.truthy e.1.display :=
    hdeclared.settles (e.1.display, c) (Named.mem_of_get? hc)
  rw [hc, hsettles]

/-- A declared column is stored. -/
theorem mem_columns_declaredColumns (h : d.declaredColumns model = .ok plan)
    {e : Value × Column} (he : e ∈ d.columns) :
    settle d.underscored.truthy e.1.display ∈ plan.columns.names :=
  (declared_declaredColumns h).mapped _
    (Named.mem_of_get? (fieldMap_get?_declaredColumns h he))

/-- The columns of declared attributes are the only ones before others are added. -/
theorem mem_names_declaredColumns {c : String} (h : d.declaredColumns model = .ok plan) :
    c ∈ plan.columns.names ↔
      ∃ e ∈ d.columns, settle d.underscored.truthy e.1.display = c := by
  constructor
  · intro hc
    obtain ⟨column, hcolumn⟩ := Named.exists_get?_of_mem hc
    rw [columns_get?_declaredColumns h] at hcolumn
    obtain ⟨e, he, hentry⟩ := List.mem_map.1 (List.mem_reverse.1 (Named.mem_of_get? hcolumn))
    exact ⟨e, he, congrArg Prod.fst hentry⟩
  · rintro ⟨e, he, rfl⟩
    exact mem_columns_declaredColumns h he

/-- The pass for the primary key keeps declared columns and attributes, and adds one column at
most. -/
theorem Declared.kept_withId (hplan : Declared u plan)
    (h : d.withId plan.keys plan = .ok start) :
    (∀ c ∈ plan.columns.names, start.columns.get? c = plan.columns.get? c) ∧
      (∀ attr ∈ plan.fieldMap.names, start.fieldMap.get? attr = plan.fieldMap.get? attr) ∧
      ∀ c ∈ start.columns.names, c = "id" ∨ c ∈ plan.columns.names := by
  rcases ModelDefinition.withId_eq_ok h with ⟨-, hnew, -, rowid, rfl⟩ | ⟨rfl, -⟩
  · have hfree : "id" ∉ plan.fieldMap.names :=
      hplan.not_mem_fields (ModelDefinition.settle_id u) hnew
    rw [hplan.columns_putFirst hnew,
      hplan.fieldMap_putFirst (ModelDefinition.settle_id u) hnew]
    refine ⟨fun c hc => ?_, fun attr hattr => ?_, fun c hc => List.mem_cons.1 hc⟩
    · have hne : "id" ≠ c := fun he => hnew (he ▸ hc)
      rw [Named.get?_cons, if_neg hne]
    · have hne : "id" ≠ attr := fun he => hfree (he ▸ hattr)
      rw [Named.get?_cons, if_neg hne]
  · exact ⟨fun _ _ => rfl, fun _ _ => rfl, fun _ hc => Or.inr hc⟩

end ColumnPlan

/-! ## Models -/

namespace ResolvedModel

variable {m : ResolvedModel}

/-- The name under which a model stores the column of an attribute. -/
def storedName (m : ResolvedModel) (attr : Value) : String :=
  settle m.definition.underscored.truthy attr.display

/-- The declared columns under the names they are stored under, the last one first. -/
def latestDeclared (m : ResolvedModel) : Named Column :=
  (ColumnPlan.underNames m.definition.underscored.truthy m.definition.columns).reverse

/-- A role has the spelling of an attribute whose column has another name. -/
def Diverts (m : ResolvedModel) (attr : Value) : Prop :=
  attr.display ∈ m.roleNames ∧ m.storedName attr ≠ attr.display

instance (m : ResolvedModel) (attr : Value) : Decidable (m.Diverts attr) :=
  inferInstanceAs (Decidable (_ ∧ _))

/-- Where a declared column goes, and what its attribute stands for. -/
structure Places (m : ResolvedModel) (e : Value × Column) : Prop where
  /-- The attribute is a text. -/
  text : e.1.text? = some e.1.display
  /-- Of the columns declared under one name the last is stored. -/
  stored : m.columns.get? (m.storedName e.1) = m.latestDeclared.get? (m.storedName e.1)
  /-- The attribute stands for the name under which its column is stored. -/
  reached : ¬ m.Diverts e.1 → m.columnFor e.1 = .ok (.str (m.storedName e.1))
  /-- But a role that has the attribute's spelling takes it. -/
  diverted : m.Diverts e.1 → m.columnFor e.1 = .ok (.str e.1.display) ∧
    ∃ column ∈ roleColumns, m.columns.get? e.1.display = some column

/-- No declared column is lost: attributes stand for columns of their own, and each of these is the
one declared for it. -/
structure KeepsDeclared (m : ResolvedModel) : Prop where
  /-- No two attributes stand for one column. -/
  apart : m.definition.columns.Pairwise fun e e' => m.columnFor e.1 ≠ m.columnFor e'.1
  /-- The column that an attribute stands for is the declared one. -/
  same : ∀ e ∈ m.definition.columns, ∃ c,
    m.columnFor e.1 = .ok (.str c) ∧ m.columns.get? c = some e.2

/-- A key whose text is an attribute stands for the attribute's column. -/
theorem columnFor_of_get? {key : Value} {attr c : String} (htext : key.text? = some attr)
    (hget : m.fieldMap.get? attr = some c) : m.columnFor key = .ok (.str c) := by
  rw [columnFor, if_pos (Value.isHashable_of_text? htext), htext, Option.bind_some, hget]
  rfl

/-- What is kept of an attribute that a role takes is a column like those made for roles. -/
theorem KeepsDeclared.mem_roleColumns (h : m.KeepsDeclared) {e : Value × Column}
    (he : e ∈ m.definition.columns) (hplaces : m.Places e) (hdiverts : m.Diverts e.1) :
    e.2 ∈ roleColumns := by
  obtain ⟨hrole, column, hcolumn, hthere⟩ := hplaces.diverted hdiverts
  obtain ⟨c, hc, hsame⟩ := h.same e he
  rw [hrole] at hc
  cases hc
  rw [hthere] at hsame
  exact Option.some.inj hsame ▸ hcolumn

/-- Where no role takes an attribute, no column is lost exactly if no two are stored under one
name. -/
theorem keepsDeclared_iff_of_places (hplaces : ∀ e ∈ m.definition.columns, m.Places e)
    (hfree : ∀ e ∈ m.definition.columns, ¬ m.Diverts e.1) :
    m.KeepsDeclared ↔ (m.definition.columns.map fun e => m.storedName e.1).Nodup := by
  have hreached : ∀ e ∈ m.definition.columns,
      m.columnFor e.1 = .ok (.str (m.storedName e.1)) :=
    fun e he => (hplaces e he).reached (hfree e he)
  have hapart : (m.definition.columns.Pairwise fun e e' => m.columnFor e.1 ≠ m.columnFor e'.1) ↔
      (m.definition.columns.map fun e => m.storedName e.1).Nodup := by
    rw [List.Nodup, List.pairwise_map]
    refine List.Pairwise.iff_of_mem fun {e e'} he he' => ?_
    rw [hreached e he, hreached e' he']
    simp
  constructor
  · intro hkeeps
    exact hapart.1 hkeeps.apart
  · intro hnodup
    refine ⟨hapart.2 hnodup, fun e he => ⟨_, hreached e he, ?_⟩⟩
    -- where names are distinct the last entry of a name is the only one
    have hnames : (Named.names m.latestDeclared).Nodup := by
      rw [latestDeclared, Named.names, List.map_reverse, List.nodup_reverse]
      simpa [ColumnPlan.underNames, storedName, Function.comp_def] using hnodup
    have hentry : (m.storedName e.1, e.2) ∈ m.latestDeclared :=
      List.mem_reverse.2 (List.mem_map_of_mem he)
    rw [(hplaces e he).stored, Named.get?_of_mem hnames hentry]

end ResolvedModel

/-! ## Behind all passes -/

namespace ModelDefinition

variable {d : ModelDefinition} {name table : String} {m : ResolvedModel} {e : Value × Column}

/-- What a declared attribute stands for in the end: its own name if a role has it, and otherwise
the name it settles to. -/
theorem fieldMap_get?_of_resolveWith (h : d.resolveWith name table = .ok m) (he : e ∈ d.columns) :
    m.fieldMap.get? e.1.display =
      if e.1.display ∈ m.roleNames then some e.1.display
      else some (settle d.underscored.truthy e.1.display) := by
  obtain ⟨declared, start, hdeclared, -, hstart, hstage, -, -⟩ := exists_stage_of_resolveWith h
  obtain ⟨-, hfields, -⟩ := (ColumnPlan.declared_declaredColumns hdeclared).kept_withId hstart
  have hgot := ColumnPlan.fieldMap_get?_declaredColumns hdeclared he
  have hkept : start.fieldMap.get? e.1.display =
      some (settle d.underscored.truthy e.1.display) := by
    rw [hfields _ (Named.mem_names_of_get? hgot), hgot]
  rw [hstage.fields _ (Named.mem_names_of_get? hkept), hkept]
  rfl

/-- Under the name that a declared attribute settles to there is in the end the column declared last
for that name. -/
theorem columns_get?_of_resolveWith (h : d.resolveWith name table = .ok m) (he : e ∈ d.columns) :
    m.columns.get? (settle d.underscored.truthy e.1.display) =
      Named.get? (ColumnPlan.underNames d.underscored.truthy d.columns).reverse
        (settle d.underscored.truthy e.1.display) := by
  obtain ⟨declared, start, hdeclared, -, hstart, hstage, -, -⟩ := exists_stage_of_resolveWith h
  obtain ⟨hcolumns, -, -⟩ := (ColumnPlan.declared_declaredColumns hdeclared).kept_withId hstart
  have hthere := ColumnPlan.mem_columns_declaredColumns hdeclared he
  have hkept := hcolumns _ hthere
  obtain ⟨column, hcolumn⟩ := Named.exists_get?_of_mem hthere
  rw [hstage.columns _ (Named.mem_names_of_get? (hkept.trans hcolumn)), hkept]
  exact ColumnPlan.columns_get?_declaredColumns hdeclared _

/-- A column whose name is not settled was made for a role. -/
theorem mem_roleColumns_of_resolveWith (h : d.resolveWith name table = .ok m) {c : String}
    {column : Column} (hcolumn : m.columns.get? c = some column)
    (hc : settle d.underscored.truthy c ≠ c) : column ∈ roleColumns := by
  obtain ⟨declared, start, hdeclared, -, hstart, hstage, -, -⟩ := exists_stage_of_resolveWith h
  have hplan := ColumnPlan.declared_declaredColumns hdeclared
  obtain ⟨-, -, hadded⟩ := hplan.kept_withId hstart
  rcases hstage.added c column hcolumn with hthere | hrole
  · rcases hadded c hthere with rfl | hthere
    · exact absurd (settle_id _) hc
    · exact absurd (hplan.settled c hthere) hc
  · exact hrole

/-- **Where resolving puts every declared column.** -/
theorem places_of_resolveWith (h : d.resolveWith name table = .ok m)
    (he : e ∈ m.definition.columns) : m.Places e := by
  obtain ⟨declared, start, hdeclared, -, -, hstage, -, hdefinition⟩ :=
    exists_stage_of_resolveWith h
  have hname : m.storedName e.1 = settle d.underscored.truthy e.1.display := by
    rw [ResolvedModel.storedName, hdefinition]
  have hlatest : m.latestDeclared =
      (ColumnPlan.underNames d.underscored.truthy d.columns).reverse := by
    rw [ResolvedModel.latestDeclared, hdefinition]
  have hd : e ∈ d.columns := by rwa [hdefinition] at he
  have htext : e.1.text? = some e.1.display :=
    ((ColumnPlan.foldlM_declare_eq_ok hdeclared).1 e hd).1
  have hfield := fieldMap_get?_of_resolveWith h hd
  rw [← hname] at hfield
  refine ⟨htext, ?_, fun hfree => ?_, fun hdiverts => ⟨?_, ?_⟩⟩
  · rw [hname, hlatest]
    exact columns_get?_of_resolveWith h hd
  · refine ResolvedModel.columnFor_of_get? htext ?_
    rw [hfield]
    split
    · rename_i hrole
      have hsame : m.storedName e.1 = e.1.display := by
        by_contra hother
        exact hfree ⟨hrole, hother⟩
      rw [hsame]
    · rfl
  · exact ResolvedModel.columnFor_of_get? htext (by rw [hfield, if_pos hdiverts.1])
  · -- the role has a column, and its name is not settled, so no attribute was declared for it
    obtain ⟨column, hcolumn⟩ := Named.exists_get?_of_mem (hstage.roles _ hdiverts.1)
    have hother : settle d.underscored.truthy e.1.display ≠ e.1.display := hname ▸ hdiverts.2
    exact ⟨column, mem_roleColumns_of_resolveWith h hcolumn hother, hcolumn⟩

end ModelDefinition

/-- **When no declared column is lost**: where no role takes the spelling of an attribute, exactly
if no two attributes settle to one name. Where a role does, the column is lost that was declared for
the attribute, unless it is just like those made for roles. -/
theorem DefinitionSource.keepsDeclared_of_resolve {source : DefinitionSource} {m : ResolvedModel}
    (h : source.resolve = .ok m) :
    (∃ d, source.definition = .ok d ∧ m.definition.columns = d.columns) ∧
      (∀ e ∈ m.definition.columns, m.Places e) ∧
      ((∀ e ∈ m.definition.columns, ¬ m.Diverts e.1) →
        (m.KeepsDeclared ↔ (m.definition.columns.map fun e => m.storedName e.1).Nodup)) ∧
      ∀ e ∈ m.definition.columns, m.Diverts e.1 → m.KeepsDeclared → e.2 ∈ roleColumns := by
  obtain ⟨d, name, table, hd, hm⟩ := DefinitionSource.exists_resolveWith h
  obtain ⟨declared, start, -, -, -, -, -, hdefinition⟩ :=
    ModelDefinition.exists_stage_of_resolveWith hm
  have hplaces : ∀ e ∈ m.definition.columns, m.Places e :=
    fun e he => ModelDefinition.places_of_resolveWith hm he
  refine ⟨⟨d, hd, by rw [hdefinition]⟩, hplaces,
    ResolvedModel.keepsDeclared_iff_of_places hplaces, fun e he hdiverts hkeeps => ?_⟩
  exact hkeeps.mem_roleColumns he (hplaces e he) hdiverts

/-- Two attributes that settle to one name. -/
def spelledTwice : ModelDefinition :=
  { name := .str "User"
    timestamps := .bool false
    underscored := .bool true
    columns := [(.str "firstName", { type := .str "STRING" }),
      (.str "first_name", { type := .str "INTEGER" })] }

/-- A role with the spelling of an attribute. -/
def spelledByRole : ModelDefinition :=
  { name := .str "User"
    underscored := .bool true
    createdAt := .str "firstName"
    columns := [(.str "firstName", { type := .str "STRING" })] }

/-- What is decided by resolving a definition holds of the model. -/
theorem exists_resolve_of_decide (d : ModelDefinition) (p : ResolvedModel → Prop) [DecidablePred p]
    (h : ((DefinitionSource.built d).resolve.toOption.map fun m => decide (p m)) = some true) :
    ∃ m, (DefinitionSource.built d).resolve = .ok m ∧ p m := by
  obtain ⟨m, hm, hdecided⟩ := Option.map_eq_some_iff.1 h
  exact ⟨m, eq_ok_of_toOption hm, of_decide_eq_true hdecided⟩

/-- **Columns are kept, and one is lost in either way.** -/
theorem keepsDeclared_of_spellings :
    (∃ m, (DefinitionSource.built taskDefinition).resolve = .ok m ∧ m.KeepsDeclared) ∧
      (∃ m, (DefinitionSource.built spelledTwice).resolve = .ok m ∧ ¬ m.KeepsDeclared) ∧
      ∃ m, (DefinitionSource.built spelledByRole).resolve = .ok m ∧ ¬ m.KeepsDeclared := by
  refine ⟨?_, ?_, ?_⟩
  · obtain ⟨m, hm, hfree, hnodup⟩ := exists_resolve_of_decide taskDefinition
      (fun m => (∀ e ∈ m.definition.columns, ¬ m.Diverts e.1) ∧
        (m.definition.columns.map fun e => m.storedName e.1).Nodup) (by decide +kernel)
    exact ⟨m, hm, ((DefinitionSource.keepsDeclared_of_resolve hm).2.2.1 hfree).2 hnodup⟩
  · obtain ⟨m, hm, hfree, hmeet⟩ := exists_resolve_of_decide spelledTwice
      (fun m => (∀ e ∈ m.definition.columns, ¬ m.Diverts e.1) ∧
        ¬ (m.definition.columns.map fun e => m.storedName e.1).Nodup) (by decide +kernel)
    refine ⟨m, hm, fun hkeeps => ?_⟩
    exact hmeet (((DefinitionSource.keepsDeclared_of_resolve hm).2.2.1 hfree).1 hkeeps)
  · obtain ⟨m, hm, e, he, hdiverts, htype⟩ := exists_resolve_of_decide spelledByRole
      (fun m => ∃ e ∈ m.definition.columns, m.Diverts e.1 ∧ e.2.type.text? = some "STRING")
      (by decide +kernel)
    refine ⟨m, hm, fun hkeeps => ?_⟩
    have hrole : e.2 ∈ roleColumns :=
      (DefinitionSource.keepsDeclared_of_resolve hm).2.2.2 e he hdiverts hkeeps
    -- no column for a role has that type
    simp only [roleColumns, List.mem_cons, List.not_mem_nil, or_false] at hrole
    rcases hrole with hrole | hrole | hrole <;> rw [hrole] at htype <;> revert htype <;> decide

end Tablewright
