import Tablewright.CommandLine.Run
import Tablewright.Proofs.ModelFile
import Tablewright.Proofs.Session.SchemaText

/-!
# What is made and what is printed

Making the models of a file sends the statements of `schemaInTurn`: each model is defined on its
own, and knows those defined before it. Printing their schema compiles them together. So what is
sent is what is printed exactly when the references between the models are settled.
-/

namespace Tablewright

open Fallible

variable {s s' : Session} {d : Database}

/-- The tables are known by the names of the models. -/
theorem Database.names_tableNames (d : Database) : d.tableNames.names = d.models.names := by
  unfold Database.tableNames Named.names
  rw [List.map_map]
  rfl

/-- What the schema depends on in a session: the database, and the statements sent so far. -/
def Session.schemaView (s : Session) : Database × List String :=
  (s.database, schemaTexts s.world.trace)

namespace Action

/-! ## What does not count -/

/-- Printing sends nothing. -/
theorem keeps_print (line : String) : Keeps Session.schemaView (print line) :=
  (Keeps.lift _ _).bind fun _ _ => rfl

/-- What sends no statement about the schema does not count. -/
theorem Sends.keeps_schemaView {α : Type} {x : Action α} {events : List Event}
    (h : ∀ d, Sends d x events) (hevents : schemaTexts events = []) :
    Keeps Session.schemaView x := by
  intro s
  obtain ⟨hdatabase, sent, ⟨rest, rfl⟩, htrace, -⟩ := h s.database s rfl
  rw [schemaTexts_append, List.append_eq_nil_iff] at hevents
  rw [Session.schemaView, hdatabase, htrace, schemaTexts_append, hevents.1, List.append_nil]
  rfl

/-- Settings of the connection do not count. -/
theorem keeps_perform_pragma {lead : String} (h : "PRAGMA ".toList <+: lead.toList)
    (rest : String) : Keeps Session.schemaView (perform (lead ++ rest)) := by
  refine Sends.keeps_schemaView (fun d => sends_perform d (lead ++ rest)) ?_
  have hpragma : "PRAGMA ".toList.isPrefixOf (lead ++ rest).toList = true := by
    rw [List.isPrefixOf_iff_prefix, String.toList_append]
    exact h.trans (List.prefix_append _ _)
  have hnone : (Event.executed (lead ++ rest) []).schemaText? = none := by
    rw [Event.schemaText?, hpragma]
    rfl
  rw [schemaTexts, List.filterMap_cons, hnone]
  rfl

/-- A database is set up without a statement about the schema. -/
theorem keeps_setUp : Keeps Session.schemaView (setUp .own) := by
  have hconnect : ∀ location options, Keeps Session.schemaView (connect location options) :=
    fun location options => (Keeps.lift _ _).bind fun timeout =>
      (Sends.keeps_schemaView (fun d => sends_record d _) rfl).bind fun _ =>
        (Keeps.lift _ _).bind fun milliseconds =>
          (keeps_perform_pragma (by decide) _).bind fun _ =>
            (keeps_perform_pragma (by decide) _).bind fun _ => (Keeps.lift _ _).bind fun _ =>
              keeps_perform_pragma (by decide) _
  refine (Keeps.database _).bind fun d => (hconnect _ _).bind fun _ =>
    (Keeps.lift _ _).bind fun logged => Keeps.ite ?_ (Keeps.pure _ _)
  exact Keeps.pure _ _

end Action

namespace CommandLine

/-! ## Making the models -/

/-- What defining one model adds to the tables that are known and to the statements that were
sent. -/
theorem define_eq_ok {d : ModelDefinition} {m : ResolvedModel}
    (h : s.perform (Action.define (.built d)) = (.ok m, s')) :
    d.resolve = .ok m ∧ m.name ∉ s.database.tableNames.names ∧
      s'.database.tableNames = s.database.tableNames ++ [(m.name, m.tableName)] ∧
      ∃ own, m.schema s.database.tableNames.toMapping = .ok own ∧
        schemaTexts s'.world.trace =
          schemaTexts s.world.trace ++ own.map SchemaStatement.render := by
  have hdefined := Action.defined_of_perform_define h
  obtain ⟨read, own, hread, hresolve, hschema, htrace⟩ := hdefined.sent
  cases hread
  obtain ⟨-, -, htable⟩ := DefinitionSource.names_of_resolve hresolve
  have hwell : m.WellFormed := ModelDefinition.wellFormed_of_resolve_eq_ok hresolve
  refine ⟨hresolve, ?_, ?_, own, hschema, ?_⟩
  · rw [Database.names_tableNames]
    exact hdefined.isNew
  · rw [Database.tableNames, hdefined.models, List.map_append]
    rfl
  · rw [htrace, schemaTexts_append, schemaTexts_flatMap_schemaEvents]
    exact fun statement => ResolvedModel.creates_of_mem_schema htable hwell.identifiers hschema

/-- **What making some models sends**: their schemas, each compiled against the tables before it. -/
theorem defineAll_eq_ok {ds : List ModelDefinition} {u : Unit}
    (h : s.perform (defineAll ds) = (.ok u, s')) (hnd : s.database.tableNames.names.Nodup) :
    ∃ models statements, ds.mapM ModelDefinition.resolve = .ok models ∧
      schemaInTurn s.database.tableNames models = .ok statements ∧
      schemaTexts s'.world.trace =
        schemaTexts s.world.trace ++ statements.map SchemaStatement.render ∧
      (s.database.tableNames ++ tableEntries models : Named String).names.Nodup := by
  induction ds generalizing s with
  | nil =>
    cases h
    exact ⟨[], [], rfl, rfl, (List.append_nil _).symm, by rwa [tableEntries, List.map_nil,
      List.append_nil]⟩
  | cons d ds ih =>
    obtain ⟨v, t, hfirst, hrest⟩ := Session.perform_bind_eq_ok.1 h
    obtain ⟨m, t', hdefine, hprint⟩ := Session.perform_bind_eq_ok.1 hfirst
    -- the line that reports the model does not count
    have hview : t.schemaView = t'.schemaView := (Action.keeps_print _).of_perform hprint
    have hdatabase : t.database = t'.database := congrArg Prod.fst hview
    have htexts : schemaTexts t.world.trace = schemaTexts t'.world.trace := congrArg Prod.snd hview
    obtain ⟨hresolve, hnew, hnames, own, hown, hsent⟩ := define_eq_ok hdefine
    rw [← hdatabase] at hnames
    have hnd' : t.database.tableNames.names.Nodup := by
      rw [hnames, ← Named.put_of_not_mem hnew]
      exact Named.nodup_names_put hnd
    obtain ⟨models, statements, hmodels, hstatements, htrace, hall⟩ := ih hrest hnd'
    rw [hnames] at hstatements hall
    refine ⟨m :: models, own ++ statements, ?_, ?_, ?_, ?_⟩
    · rw [List.mapM_cons, ok_bind hresolve, ok_bind hmodels]
      rfl
    · rw [schemaInTurn, ok_bind hown, ok_bind hstatements]
      rfl
    · rw [htrace, htexts, hsent, List.map_append, List.append_assoc]
    · rwa [List.append_assoc] at hall

/-- Closing the connection behind a step that succeeds adds nothing that counts. -/
theorem closing_eq_ok {action : Action Unit} {u : Unit}
    (h : s.perform (closing action) = (.ok u, s')) :
    ∃ t, s.perform action = (.ok u, t) ∧
      schemaTexts s'.world.trace = schemaTexts t.world.trace := by
  -- the connection is closed whatever the step came to
  have hrun : s.perform (closing action) =
      ((s.perform action).1, ((s.perform action).2.perform Action.close).2) := rfl
  rcases hs : s.perform action with ⟨r, t⟩
  rw [hs] at hrun
  rw [hrun] at h
  cases h
  refine ⟨t, rfl, ?_⟩
  show schemaTexts (t.world.trace ++ [.closed]) = _
  rw [schemaTexts_append]
  exact List.append_nil _

/-- **What applying a file sends.** The announcements, the settings and the closing do not count. -/
theorem applyAll_eq_ok {files : Files} {ds : List ModelDefinition} {u : Unit}
    (h : s.perform (applyAll files ds none) = (.ok u, s'))
    (hnd : s.database.tableNames.names.Nodup) :
    ∃ models statements, ds.mapM ModelDefinition.resolve = .ok models ∧
      schemaInTurn s.database.tableNames models = .ok statements ∧
      schemaTexts s'.world.trace =
        schemaTexts s.world.trace ++ statements.map SchemaStatement.render ∧
      (s.database.tableNames ++ tableEntries models : Named String).names.Nodup := by
  obtain ⟨d, t, hd, h⟩ := Session.perform_bind_eq_ok.1 h
  cases hd
  obtain ⟨u₁, t₁, h₁, h⟩ := Session.perform_bind_eq_ok.1 h
  obtain ⟨u₂, t₂, h₂, h⟩ := Session.perform_bind_eq_ok.1 h
  obtain ⟨u₃, t₃, h₃, h⟩ := Session.perform_bind_eq_ok.1 h
  obtain ⟨u₄, t₄, h₄, h⟩ := Session.perform_bind_eq_ok.1 h
  have hview : t₄.schemaView = s.schemaView :=
    calc t₄.schemaView = t₃.schemaView := Action.keeps_setUp.of_perform h₄
      _ = t₂.schemaView := (Action.keeps_print _).of_perform h₃
      _ = t₁.schemaView := (Action.keeps_print _).of_perform h₂
      _ = s.schemaView := (Action.keeps_print _).of_perform h₁
  have hdatabase : t₄.database = s.database := congrArg Prod.fst hview
  have htexts : schemaTexts t₄.world.trace = schemaTexts s.world.trace := congrArg Prod.snd hview
  obtain ⟨t₅, hdefined, htrace⟩ := closing_eq_ok h
  obtain ⟨v, t₆, hall, hend⟩ := Session.perform_bind_eq_ok.1 hdefined
  cases hend
  rw [← hdatabase] at hnd ⊢
  rw [htrace, ← htexts]
  exact defineAll_eq_ok hall hnd

/-! ## Against what is printed -/

/-- After a fault no command is successful. -/
theorem status_afterFault_ne (o : Outcome) (f : Fault) : (o.afterFault f).status ≠ .ok 0 := by
  unfold Outcome.afterFault
  split <;> nofun

/-- A successful command has prepared the models and gone through all of them. -/
theorem runApply_eq_ok {files : Files} {environment : Environment} {world : World}
    {models database : Path} {views : Option Path} {verbose : Bool}
    (h : (runApply files environment world models database views verbose).status = .ok 0) :
    ∃ ds options u s', preparation files environment models verbose = .ok (ds, options) ∧
      Session.perform { database := { location := database.text, options }, world }
        (applyAll files ds views) = (.ok u, s') ∧
      (runApply files environment world models database views verbose).trace = s'.world.trace := by
  unfold runApply at h ⊢
  cases hprepared : preparation files environment models verbose with
  | error f =>
    rw [hprepared] at h
    exact absurd h (status_afterFault_ne _ f)
  | ok prepared =>
    obtain ⟨ds, options⟩ := prepared
    rw [hprepared] at h
    rcases hrun : Session.perform { database := { location := database.text, options }, world }
      (applyAll files ds views) with ⟨f | u, s'⟩
    · simp only [hrun] at h
      exact absurd h (status_afterFault_ne _ f)
    · exact ⟨ds, options, u, s', rfl, hrun, by simp only [hrun]⟩

/-- **What applying a file to a fresh database sends is what is printed for it**, exactly when no
model of the file refers to itself or to a later one whose table is called otherwise. -/
theorem schemaTexts_runApply_iff {files : Files} {environment : Environment} {world : World}
    {models database : Path} {verbose : Bool} {statements : List SchemaStatement}
    (hfresh : world.trace = []) (hprinted : schemaOf files models none = .ok statements)
    (happlied : (runApply files environment world models database none verbose).status = .ok 0) :
    ∃ resolved, files.resolvedModels models = .ok resolved ∧
      (schemaTexts (runApply files environment world models database none verbose).trace =
        statements.map SchemaStatement.render ↔ ReferencesSettled resolved) := by
  -- what is printed
  obtain ⟨fileDs, hfile, hprinted⟩ := bind_eq_ok.1 hprinted
  obtain ⟨printed, hprinted, hviews⟩ := bind_eq_ok.1 hprinted
  cases hviews
  obtain ⟨ds, hordered, hprinted⟩ := bind_eq_ok.1 hprinted
  obtain ⟨resolved, hresolved, hprinted⟩ := bind_eq_ok.1 hprinted
  obtain ⟨schemas, hschemas, hflatten⟩ := bind_eq_ok.1 hprinted
  -- what is sent
  obtain ⟨ds', options, u, s', hprepared, hrun, htrace⟩ := runApply_eq_ok happlied
  have hds : ds' = ds := by
    unfold preparation at hprepared
    rw [ok_bind hfile, ok_bind hordered] at hprepared
    obtain ⟨options', -, hprepared⟩ := bind_eq_ok.1 hprepared
    cases hprepared
    rfl
  rw [hds] at hrun
  obtain ⟨resolved', sent, hresolved', hsent, htexts, hnd⟩ := applyAll_eq_ok hrun List.nodup_nil
  rw [hresolved] at hresolved'
  cases hresolved'
  have hid : ∀ t ∈ resolved, isIdentifier t.name = true ∧ isIdentifier t.tableName = true := by
    intro t ht
    obtain ⟨d, -, hd⟩ := exists_of_mem_mapM hresolved ht
    have hbuilt : (DefinitionSource.built d).resolve = .ok t := hd
    exact (DefinitionSource.names_of_resolve hbuilt).2
  rw [tablesOf_eq hnd] at hschemas
  refine ⟨resolved, ?_, ?_⟩
  · rw [Files.resolvedModels, ok_bind hfile, ok_bind hordered, hresolved]
  · have hstart : schemaTexts world.trace = [] := by rw [hfresh]; rfl
    rw [htrace, htexts, hstart, List.nil_append, ← pure_eq_ok.1 hflatten]
    exact schemaInTurn_eq_iff rfl hnd hid hsent hschemas

/-- Every file holds one model, which refers to itself and whose table is called otherwise. -/
def staffFiles : Files where
  read _ := .ok <| (String.toList <|
    "\x7b\"name\":\"Worker\",\"table_name\":\"staff\",\"timestamps\":false," ++
    "\"relationships\":[\x7b\"kind\":\"belongs_to\",\"target\":\"Worker\"," ++
    "\"foreign_key\":\"boss\"\x7d]\x7d").map fun c => c.toNat.toUInt8
  list _ := .ok []

/-- A world in which nothing has happened yet. -/
def newYear : World := { now := ⟨⟨2024, 1, 1⟩, ⟨0, 0, 0, 0, none⟩⟩ }

/-- Whether a run succeeds and sends other texts about the schema than those of some statements. -/
def Outcome.sendsOther (run : Outcome) (statements : List SchemaStatement) : Bool :=
  run.status.toOption == some 0 &&
    decide (schemaTexts run.trace ≠ statements.map SchemaStatement.render)

/-- Applying such a file to a fresh database succeeds, but its reference is not settled. -/
theorem not_referencesSettled_staffFiles :
    ∃ statements resolved, newYear.trace = [] ∧
      schemaOf staffFiles ⟨"", ["staff.json"]⟩ none = .ok statements ∧
      (runApply staffFiles {} newYear ⟨"", ["staff.json"]⟩ ⟨"", ["app.db"]⟩ none false).status =
        .ok 0 ∧
      staffFiles.resolvedModels ⟨"", ["staff.json"]⟩ = .ok resolved ∧
      ¬ ReferencesSettled resolved := by
  have hruns : (schemaOf staffFiles ⟨"", ["staff.json"]⟩ none).toOption.any
      (runApply staffFiles {} newYear ⟨"", ["staff.json"]⟩ ⟨"", ["app.db"]⟩ none false).sendsOther =
        true := by
    decide +kernel
  obtain ⟨statements, hprinted, hrun⟩ := (Option.any_eq_true _ _).1 hruns
  rw [Outcome.sendsOther, Bool.and_eq_true, beq_iff_eq, decide_eq_true_iff] at hrun
  have hprinted := eq_ok_of_toOption hprinted
  have hstatus := eq_ok_of_toOption hrun.1
  obtain ⟨resolved, hresolved, hiff⟩ := schemaTexts_runApply_iff rfl hprinted hstatus
  exact ⟨statements, resolved, rfl, hprinted, hstatus, hresolved, fun hsettled =>
    hrun.2 (hiff.2 hsettled)⟩

end CommandLine

end Tablewright
