import Tablewright.Proofs.Schema.Naming

/-!
# Triggers

A trigger that lacks nothing is made, if it runs at a known time and reacts to a known event, both
read without regard to case and blanks. The first one that does not stops everything, and a trigger
that lacks something makes no difference (`ResolvedModel.makes_of_createTriggers`).
-/

namespace Tablewright

open Fallible

namespace Trigger

variable {t : Trigger} {table : String} {texts names : List String}

/-! ## What a trigger declares -/

/-- What the trigger does, told by texts; a text alone tells it by itself. -/
def said (t : Trigger) : Except Fault (List String) := do
  (← t.statementItems).mapM Value.asText

/-- The columns that the trigger names, none if there are none. -/
def namedColumns (t : Trigger) : Except Fault (List String) := do
  (← t.columns.orEmptyList).texts

/-- The parts of a trigger are of the kinds that they are declared with: what it does is told by
texts if it is told, the columns are texts, and the other parts answer for a condition, as every text
and every null does. -/
structure IsDeclared (t : Trigger) : Prop where
  /-- What it does is a text or a list of texts, or is left out. -/
  statements : t.statements.isNull = false → ∃ texts, t.said = .ok texts
  /-- The columns are texts. -/
  columns : ∃ names, t.namedColumns = .ok names
  /-- The name is there or not. -/
  name : t.name.hasTruth = true
  /-- So is the time. -/
  timing : t.timing.hasTruth = true
  /-- So is the event. -/
  event : t.event.hasTruth = true
  /-- So is the condition. -/
  condition : t.condition.hasTruth = true
  /-- Whether it may be there already is told. -/
  ifNotExists : t.ifNotExists.hasTruth = true

instance (t : Trigger) : Decidable t.IsDeclared :=
  letI : ∀ x : Except Fault (List String), Decidable (∃ a, x = .ok a) := fun
    | .ok a => isTrue ⟨a, rfl⟩
    | .error _ => isFalse nofun
  decidable_of_iff
    ((t.statements.isNull = false → ∃ texts, t.said = .ok texts) ∧
      (∃ names, t.namedColumns = .ok names) ∧ t.name.hasTruth = true ∧ t.timing.hasTruth = true ∧
      t.event.hasTruth = true ∧ t.condition.hasTruth = true ∧ t.ifNotExists.hasTruth = true)
    ⟨fun ⟨h₁, h₂, h₃, h₄, h₅, h₆, h₇⟩ => ⟨h₁, h₂, h₃, h₄, h₅, h₆, h₇⟩,
      fun ⟨h₁, h₂, h₃, h₄, h₅, h₆, h₇⟩ => ⟨h₁, h₂, h₃, h₄, h₅, h₆, h₇⟩⟩

/-- The trigger runs at a known time and reacts to a known event. -/
def IsKnown (t : Trigger) : Prop :=
  keywordText t.timing ∈ triggerTimings ∧ keywordText t.event ∈ triggerEvents

instance (t : Trigger) : Decidable t.IsKnown :=
  inferInstanceAs (Decidable (_ ∧ _))

/-- What is wrong with a trigger that does not: its time, or else its event. -/
def issue (t : Trigger) : Issue :=
  if keywordText t.timing ∈ triggerTimings then .triggerEvent t.event else .triggerTiming t.timing

/-- The trigger is restricted to changes of some columns. -/
def IsRestricted (t : Trigger) : Prop :=
  keywordText t.event = "UPDATE" ∧ t.columns.truthy = true

instance (t : Trigger) : Decidable t.IsRestricted :=
  inferInstanceAs (Decidable (_ ∧ _))

/-- **What is made of a trigger** that names some columns. -/
structure Makes (t : Trigger) (table : String) (made : CreateTrigger) : Prop where
  /-- The time is a known one, the one that the trigger gives. -/
  timing : made.timing = keywordText t.timing ∧ made.timing ∈ triggerTimings
  /-- So is the event. -/
  event : made.event = keywordText t.event ∧ made.event ∈ triggerEvents
  /-- Columns are listed exactly if it reacts to updates and names some, and then they are those. -/
  columns : ∃ names, t.namedColumns = .ok names ∧
    made.columns = if t.IsRestricted then some names else none
  /-- The text gives all this in order, the columns before the table. -/
  text : made.render = "CREATE TRIGGER " ++ wordIf t.ifNotExists.truthy "IF NOT EXISTS" ++
    t.name.display ++ " " ++ made.timing ++ " " ++ made.event ++ " " ++
    (match made.columns with
      | some names => "OF " ++ ", ".intercalate names ++ " "
      | none => "") ++
    "ON " ++ table ++ " " ++
    (if t.condition.truthy then "WHEN " ++ t.condition.display ++ " " else "") ++ made.bodyText

/-! ## Part by part -/

/-- A time is checked against the known ones. -/
theorem checkTiming_eq (v : Value) :
    checkTiming v =
      if keywordText v ∈ triggerTimings then .ok (keywordText v) else refuse (.triggerTiming v) := by
  unfold checkTiming
  exact if_congr List.contains_iff_mem rfl rfl

/-- An event is checked against the known ones. -/
theorem checkEvent_eq (v : Value) :
    checkEvent v =
      if keywordText v ∈ triggerEvents then .ok (keywordText v) else refuse (.triggerEvent v) := by
  unfold checkEvent
  exact if_congr List.contains_iff_mem rfl rfl

/-- A trigger is active exactly if it lacks nothing. -/
theorem isActive_of_isDeclared (h : t.IsDeclared) : t.isActive = .ok t.complete := by
  unfold isActive complete
  rw [ok_bind (Value.truth_of_hasTruth h.name)]
  cases t.name.truthy with
  | false => rfl
  | true =>
    rw [if_pos rfl, ok_bind (Value.truth_of_hasTruth h.timing)]
    cases t.timing.truthy with
    | false => rfl
    | true =>
      rw [if_pos rfl, ok_bind (Value.truth_of_hasTruth h.event)]
      cases t.event.truthy <;> rfl

/-- The statements are the texts without blanks around them and semicolons behind them, but for those
of which nothing is left. -/
theorem body_of_said (h : t.said = .ok texts) :
    t.body = .ok ((texts.map bareStatement).filter (· != "")) := by
  obtain ⟨items, hitems, htexts⟩ := bind_eq_ok.1 h
  have hbare : items.mapM (fun v => bareStatement <$> v.abilityText) =
      .ok (texts.map bareStatement) := by
    refine mapM_eq_ok.2 (List.forall₂_map_right_iff.2 ((mapM_eq_ok.1 htexts).imp ?_))
    intro v s hv
    have hability : v.abilityText = .ok s := Value.abilityText_of_text? (Value.asText_eq_ok.1 hv)
    rw [hability]
    rfl
  unfold body
  rw [ok_bind hitems, ok_bind hbare]
  rfl

/-- The columns that the trigger is restricted to. -/
theorem restriction_of_namedColumns (h : t.namedColumns = .ok names) :
    t.restriction (keywordText t.event) = .ok (if t.IsRestricted then some names else none) := by
  obtain ⟨columns, hcolumns, hnames⟩ := bind_eq_ok.1 h
  obtain ⟨given, hgiven, hchosen⟩ := bind_eq_ok.1 hcolumns
  have hchosen := pure_eq_ok.1 hchosen
  obtain ⟨hanswers, rfl⟩ := Value.truth_eq_ok.1 hgiven
  unfold restriction
  by_cases hupdate : keywordText t.event = "UPDATE"
  · rw [if_pos (beq_iff_eq.2 hupdate), ok_bind hgiven]
    by_cases hsome : t.columns.truthy = true
    · have hrestricted : t.IsRestricted := ⟨hupdate, hsome⟩
      rw [if_pos hsome] at hchosen
      subst hchosen
      rw [if_pos hsome, if_pos hrestricted, hnames]
      rfl
    · have hfree : ¬ t.IsRestricted := fun h => hsome h.2
      rw [if_neg hsome, if_neg hfree]
      rfl
  · have hfree : ¬ t.IsRestricted := fun h => hupdate h.1
    rw [if_neg (mt beq_iff_eq.1 hupdate), if_neg hfree]
    rfl

/-- Texts tell what they are. -/
theorem said_of_texts (h : t.statements = .ofTexts texts) : t.said = .ok texts := by
  have hitems : t.statementItems = .ok (texts.map .str) := by
    unfold statementItems
    rw [h]
    rfl
  unfold said
  rw [ok_bind hitems, mapM_eq_ok, List.forall₂_map_left_iff, List.forall₂_same]
  intro s _
  exact Value.asText_eq_ok.2 rfl

/-- An active trigger tells what it does. -/
theorem exists_said (h : t.IsDeclared) (hcomplete : t.complete = true) :
    ∃ texts, t.said = .ok texts := by
  unfold complete at hcomplete
  have hthere : t.statements.isNull = false := by
    simpa using (Bool.and_eq_true_iff.1 hcomplete).2
  exact h.statements hthere

/-! ## Single triggers -/

/-- What is made of a trigger of known time and event that names some columns and says some texts. -/
def compiled (t : Trigger) (table : String) (names texts : List String) : CreateTrigger :=
  { ifNotExists := t.ifNotExists.truthy
    name := t.name.display
    timing := keywordText t.timing
    event := keywordText t.event
    columns := if t.IsRestricted then some names else none
    table
    condition := if t.condition.truthy then some t.condition.display else none
    body := (texts.map bareStatement).filter (· != "") }

/-- **A trigger whose time and event are known is made.** -/
theorem create_of_isKnown (h : t.IsDeclared) (hknown : t.IsKnown) (hsaid : t.said = .ok texts)
    (hnames : t.namedColumns = .ok names) (table : String) :
    t.create table = .ok (t.compiled table names texts) := by
  have htiming : checkTiming t.timing = .ok (keywordText t.timing) := by
    rw [checkTiming_eq, if_pos hknown.1]
  have hevent : checkEvent t.event = .ok (keywordText t.event) := by
    rw [checkEvent_eq, if_pos hknown.2]
  have hcondition : given? t.condition =
      .ok (if t.condition.truthy then some t.condition.display else none) := by
    unfold given?
    rw [ok_bind (Value.truth_of_hasTruth h.condition)]
    rfl
  unfold create
  rw [ok_bind htiming, ok_bind hevent, ok_bind (Value.truth_of_hasTruth h.ifNotExists),
    ok_bind (restriction_of_namedColumns hnames), ok_bind hcondition, ok_bind (body_of_said hsaid)]
  rfl

/-- What is made gives the parts of the trigger. -/
theorem makes_compiled (hknown : t.IsKnown) (hnames : t.namedColumns = .ok names)
    (table : String) (texts : List String) : t.Makes table (t.compiled table names texts) where
  timing := ⟨rfl, hknown.1⟩
  event := ⟨rfl, hknown.2⟩
  columns := ⟨names, hnames, by simp only [compiled]⟩
  text := by
    unfold CreateTrigger.render commas compiled
    dsimp only
    generalize (if t.IsRestricted then some names else none) = columns
    cases t.condition.truthy <;> cases columns <;> rfl

/-- A trigger whose time or event is not known is refused. -/
theorem create_of_not_isKnown (h : ¬ t.IsKnown) (table : String) :
    t.create table = .error (.invalid t.issue) := by
  unfold create issue
  by_cases htiming : keywordText t.timing ∈ triggerTimings
  · have hevent : keywordText t.event ∉ triggerEvents := fun hevent => h ⟨htiming, hevent⟩
    rw [checkTiming_eq, checkEvent_eq, if_pos htiming, if_neg hevent, if_pos htiming]
    rfl
  · rw [checkTiming_eq, if_neg htiming, if_neg htiming]
    rfl

/-- **An active trigger is made exactly if its time and event are known.** -/
theorem exists_create_iff (h : t.IsDeclared) (hcomplete : t.complete = true) (table : String) :
    (∃ made, t.create table = .ok made) ↔ t.IsKnown := by
  by_cases hknown : t.IsKnown
  · obtain ⟨texts, hsaid⟩ := exists_said h hcomplete
    obtain ⟨names, hnames⟩ := h.columns
    exact iff_of_true ⟨_, create_of_isKnown h hknown hsaid hnames table⟩ hknown
  · refine iff_of_false ?_ hknown
    rintro ⟨made, hmade⟩
    rw [create_of_not_isKnown hknown] at hmade
    cases hmade

/-- What an active trigger is made into gives its parts. -/
theorem makes_of_create {made : CreateTrigger} (h : t.IsDeclared) (hcomplete : t.complete = true)
    (hmade : t.create table = .ok made) : t.Makes table made := by
  have hknown : t.IsKnown := (exists_create_iff h hcomplete table).1 ⟨made, hmade⟩
  obtain ⟨texts, hsaid⟩ := exists_said h hcomplete
  obtain ⟨names, hnames⟩ := h.columns
  rw [create_of_isKnown h hknown hsaid hnames] at hmade
  rw [← Except.ok.inj hmade]
  exact makes_compiled hknown hnames table texts

end Trigger

/-! ## All triggers of a model -/

namespace ResolvedModel

variable {m : ResolvedModel}

/-- The active triggers of a model, in order. -/
def activeTriggers (m : ResolvedModel) : List Trigger :=
  m.definition.triggers.filter Trigger.complete

/-- Triggers that lack something are left out before anything is made. -/
theorem createTriggers_eq (h : ∀ t ∈ m.definition.triggers, t.IsDeclared) :
    m.createTriggers = m.activeTriggers.mapM (Trigger.create m.tableName) := by
  refine filterMapM_eq_mapM fun t ht => ?_
  unfold Trigger.create?
  rw [ok_bind (Trigger.isActive_of_isDeclared (h t ht))]

/-- **What the triggers of a model are made into.** They are made exactly if every active one runs at
a known time and reacts to a known event; then there is one statement for each active one, in order,
and otherwise the first that does not is what is wrong. The others make no difference. -/
theorem makes_of_createTriggers (h : ∀ t ∈ m.definition.triggers, t.IsDeclared) :
    m.createTriggers = m.activeTriggers.mapM (Trigger.create m.tableName) ∧
      ((∃ made, m.createTriggers = .ok made) ↔ ∀ t ∈ m.activeTriggers, t.IsKnown) ∧
      (∀ made, m.createTriggers = .ok made →
        List.Forall₂ (fun t made => t.Makes m.tableName made) m.activeTriggers made) ∧
      ∀ fault, m.createTriggers = .error fault →
        ∃ before t after, m.activeTriggers = before ++ t :: after ∧
          (∀ t' ∈ before, t'.IsKnown) ∧ ¬ t.IsKnown ∧ fault = .invalid t.issue := by
  have hactive : ∀ t ∈ m.activeTriggers, t.IsDeclared ∧ t.complete = true := by
    intro t ht
    obtain ⟨hthere, hcomplete⟩ := List.mem_filter.1 ht
    exact ⟨h t hthere, hcomplete⟩
  have hone : ∀ t ∈ m.activeTriggers,
      ((∃ made, t.create m.tableName = .ok made) ↔ t.IsKnown) := by
    intro t ht
    exact Trigger.exists_create_iff (hactive t ht).1 (hactive t ht).2 m.tableName
  rw [createTriggers_eq h]
  refine ⟨rfl, ?_, ?_, ?_⟩
  · rw [exists_mapM_eq_ok]
    exact forall₂_congr hone
  · intro made hmade
    have hmakes : List.Forall₂ (fun t made => (t.IsDeclared ∧ t.complete = true) ∧
        t.create m.tableName = .ok made) m.activeTriggers made :=
      (List.forall₂_and_left _ _).2 ⟨hactive, mapM_eq_ok.1 hmade⟩
    exact hmakes.imp fun t made ht => Trigger.makes_of_create ht.1.1 ht.1.2 ht.2
  · intro fault hfault
    obtain ⟨before, t, after, hsplit, hbefore, ht⟩ := mapM_eq_error.1 hfault
    have hthere : t ∈ m.activeTriggers := by
      rw [hsplit]
      exact List.mem_append_right _ List.mem_cons_self
    have hunknown : ¬ t.IsKnown := by
      intro hknown
      obtain ⟨made, hmade⟩ := (hone t hthere).2 hknown
      exact absurd (hmade.symm.trans ht) nofun
    refine ⟨before, t, after, hsplit, fun t' ht' => ?_, hunknown, ?_⟩
    · have hmem : t' ∈ m.activeTriggers := by
        rw [hsplit]
        exact List.mem_append_left _ ht'
      exact (hone t' hmem).1 (hbefore t' ht')
    · rw [Trigger.create_of_not_isKnown hunknown] at ht
      exact (Except.error.inj ht).symm

end ResolvedModel

/-- A model of guests with triggers. -/
def guestDefinition (triggers : List Trigger) : ModelDefinition :=
  { name := .str "Guest"
    timestamps := .bool false
    columns := [(.str "email", { type := .str "STRING" })]
    triggers }

/-- A trigger that does nothing yet, at no known time. -/
def draftTrigger : Trigger :=
  { name := .str "draft", timing := .str "sometime", event := .str "INSERT" }

/-- A trigger on changes of a column. -/
def stampTrigger : Trigger :=
  { name := .str "stamp", timing := .str " after ", event := .str "Update"
    columns := .ofTexts ["email"], statements := .ofTexts ["SELECT 1;", "SELECT 2"] }

/-- A trigger that reacts to no known event. -/
def wipeTrigger : Trigger :=
  { name := .str "wipe", timing := .str "instead  of", event := .str "TRUNCATE"
    statements := .str "SELECT 1" }

/-- **A draft makes no difference**: a trigger beside it is made, and one that reacts to no known
event is what is wrong. -/
theorem makes_of_guestTriggers :
    (∃ m made, (DefinitionSource.built (guestDefinition [draftTrigger, stampTrigger])).resolve =
        .ok m ∧ m.createTriggers = .ok made ∧
        m.activeTriggers.map (·.name.text?) = [some "stamp"] ∧
        List.Forall₂ (fun t made => t.Makes m.tableName made) m.activeTriggers made) ∧
      ∃ m, ∃ t : Trigger, (DefinitionSource.built
          (guestDefinition [draftTrigger, stampTrigger, wipeTrigger])).resolve = .ok m ∧
        m.createTriggers = .error (.invalid t.issue) ∧ t.name.text? = some "wipe" := by
  constructor
  · obtain ⟨m, hm, hdeclared, hknown, hactive⟩ := exists_resolve_of_decide
      (guestDefinition [draftTrigger, stampTrigger])
      (fun m => (∀ t ∈ m.definition.triggers, t.IsDeclared) ∧ (∀ t ∈ m.activeTriggers, t.IsKnown) ∧
        m.activeTriggers.map (·.name.text?) = [some "stamp"]) (by decide +kernel)
    obtain ⟨-, hiff, hmakes, -⟩ := ResolvedModel.makes_of_createTriggers hdeclared
    obtain ⟨made, hmade⟩ := hiff.2 hknown
    exact ⟨m, made, hm, hmade, hactive, hmakes made hmade⟩
  · obtain ⟨m, hm, hdeclared, hunknown, hwipe⟩ := exists_resolve_of_decide
      (guestDefinition [draftTrigger, stampTrigger, wipeTrigger])
      (fun m => (∀ t ∈ m.definition.triggers, t.IsDeclared) ∧
        (¬ ∀ t ∈ m.activeTriggers, t.IsKnown) ∧
        ∀ t ∈ m.activeTriggers, t.IsKnown ∨ t.name.text? = some "wipe") (by decide +kernel)
    obtain ⟨-, hiff, -, hfails⟩ := ResolvedModel.makes_of_createTriggers hdeclared
    cases hmade : m.createTriggers with
    | ok made => exact absurd (hiff.1 ⟨made, hmade⟩) hunknown
    | error fault =>
      obtain ⟨before, t, after, hsplit, -, ht, rfl⟩ := hfails fault hmade
      have hthere : t ∈ m.activeTriggers := by
        rw [hsplit]
        exact List.mem_append_right _ List.mem_cons_self
      exact ⟨m, t, hm, hmade, (hwipe t hthere).resolve_left ht⟩

end Tablewright
