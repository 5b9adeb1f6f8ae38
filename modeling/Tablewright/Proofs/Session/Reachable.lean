import Tablewright.Proofs.Session.Emission

/-!
# The databases that can come to be

A database that was opened knows no models. What it comes to know it is told by defining models and
by registering relationships (`SchemaCall`), in whatever order, with whatever answers of the engine,
and whether or not a call succeeds. Each call keeps the database sound (`sound_of_call`), so every
database that can come to be is sound (`Reachable.sound`): its models have distinct names, stand
under them, and the relationships that their definitions declare are registered.
-/

namespace Tablewright

open Fallible

variable {α : Type} {s : Session} {d d' : Database} {m : ResolvedModel}

/-- A call that tells a database of a model or of a relationship. -/
inductive SchemaCall where
  /-- A model is defined. -/
  | define (source : DefinitionSource)
  /-- A relationship is registered, under whatever key. -/
  | associate (source : Value) (rel : Relationship)

/-- What the call does. -/
def SchemaCall.action : SchemaCall → Action Unit
  | define source => do
    let _ ← Action.define source
  | associate source rel => do
    let _ ← Action.associate source rel

namespace Action

/-! ## What opening keeps -/

/-- A step that only sends leaves the database alone. -/
theorem keeps_database_of_sends {x : Action α} {events : Database → List Event}
    (h : ∀ d, Sends d x (events d)) : Keeps Session.database x :=
  fun s => (h s.database s rfl).1

theorem keeps_database_connect (location : String) (options : Options) :
    Keeps Session.database (connect location options) := by
  have hsent : ∀ sql, Keeps Session.database (perform sql) := fun sql =>
    keeps_database_of_sends fun d => sends_perform d sql
  exact (Keeps.lift _ _).bind fun _ =>
    (keeps_database_of_sends fun d => sends_record d _).bind fun _ =>
      (Keeps.lift _ _).bind fun _ => (hsent _).bind fun _ => (hsent _).bind fun _ =>
        (Keeps.lift _ _).bind fun _ => hsent _

/-- **A database is set up as it is**, whatever its statements go through. -/
theorem keeps_database_setUp (kind : DriverKind) : Keeps Session.database (setUp kind) := by
  refine (Keeps.database _).bind fun d => ?_
  -- the check for the log is the same whatever stands before it
  have hlog : Keeps Session.database (do
      if ← d.options.logOps.truth then
        if kind = .hidden then refuse (.noLogConnection (.foreign "PlainDriver")) : Action Unit) :=
    (Keeps.lift _ _).bind fun logged => Keeps.ite
      (by split
          · exact Keeps.lift _ _
          · exact Keeps.pure _ ())
      (Keeps.pure _ ())
  cases kind with
  | own => exact (keeps_database_connect _ _).bind fun _ => hlog
  | given => exact hlog
  | hidden => exact hlog
  | unsuited => exact (Keeps.lift _ _).bind fun _ => hlog

end Action

namespace Database

/-! ## Sound databases -/

/-- A database whose models have distinct names and stand under them, and that knows the
relationships which their definitions declare. -/
structure Sound (d : Database) : Prop where
  /-- No two models have the same name. -/
  nodup : d.models.names.Nodup
  /-- Every model stands under its name. -/
  named : ∀ e ∈ d.models, e.2.name = e.1
  /-- What a definition declares is registered. -/
  registered : ∀ e ∈ d.models, e.2.definition.relationships ⊆ d.registry.lookup e.1

/-- The models of a database, in the order in which they were defined. -/
def allModels (d : Database) : List ResolvedModel :=
  d.models.map Prod.snd

theorem Sound.names_allModels (h : d.Sound) :
    d.allModels.map ResolvedModel.name = d.models.names := by
  rw [allModels, List.map_map]
  exact List.map_congr_left h.named

/-- A model of a sound database is found by its name. -/
theorem Sound.get?_eq_some (h : d.Sound) {name : String} :
    d.models.get? name = some m ↔ m ∈ d.allModels ∧ m.name = name := by
  rw [allModels, List.mem_map]
  constructor
  · intro hget
    have hmem := Named.mem_of_get? hget
    exact ⟨⟨_, hmem, rfl⟩, h.named _ hmem⟩
  · rintro ⟨⟨e, he, rfl⟩, rfl⟩
    rw [h.named e he]
    exact Named.get?_of_mem h.nodup he

/-- What is declared is registered. -/
theorem Sound.belongsTo (h : d.Sound) (hm : m ∈ d.allModels) {r : Relationship}
    (hr : r ∈ m.definition.relationships) (hkind : r.kind = .belongsTo) {target : String}
    (ht : r.target.text? = some target) : d.registry.BelongsTo m.name target := by
  obtain ⟨e, he, rfl⟩ := List.mem_map.1 hm
  rw [h.named e he]
  exact ⟨r, h.registered e he hr, hkind, ht⟩

/-- Registering more relationships keeps a database sound. -/
theorem Sound.of_registry_subset (h : d.Sound) (hmodels : d'.models = d.models)
    (hregistry : ∀ name, d.registry.lookup name ⊆ d'.registry.lookup name) : d'.Sound where
  nodup := hmodels ▸ h.nodup
  named := hmodels ▸ h.named
  registered e he := List.Subset.trans (h.registered e (hmodels ▸ he)) (hregistry e.1)

/-- Under whatever key a relationship is registered, no model loses one. -/
theorem lookup_subset_associate (d : Database) (key : Value) (rel : Relationship) (name : String) :
    d.registry.lookup name ⊆ (d.associate key rel).registry.lookup name := by
  unfold associate
  cases key.text? with
  | none => exact fun _ h => h
  | some model =>
    show _ ⊆ (d.registry.register model [rel]).lookup name
    rw [Registry.lookup_register]
    split
    · exact List.subset_append_left _ _
    · exact fun _ h => h

theorem models_associate (d : Database) (key : Value) (rel : Relationship) :
    (d.associate key rel).models = d.models := by
  unfold associate
  split <;> rfl

/-- A model that is defined makes a sound database a sound one. -/
theorem Sound.of_defined {source : DefinitionSource} {s' : Session} (h : s.database.Sound)
    (hdefined : s.Defined source m s') : s'.database.Sound := by
  have hgrows : ∀ name, s.database.registry.lookup name ⊆ s'.database.registry.lookup name := by
    intro name
    rw [hdefined.registry]
    split
    · exact List.subset_append_left _ _
    · exact fun _ h => h
  -- the relationships of the new model come behind what was registered for its name before
  have hown : m.definition.relationships ⊆ s'.database.registry.lookup m.name := by
    rw [hdefined.registry, if_pos rfl]
    exact List.subset_append_right _ _
  refine ⟨?_, ?_, ?_⟩
  · rw [hdefined.models, ← Named.put_of_not_mem hdefined.isNew]
    exact Named.nodup_names_put h.nodup
  all_goals rw [hdefined.models, List.forall_mem_append, List.forall_mem_singleton]
  · exact ⟨h.named, rfl⟩
  · exact ⟨fun e he => List.Subset.trans (h.registered e he) (hgrows e.1), hown⟩

/-- **Every call keeps a database sound**, whether it succeeds or not. -/
theorem sound_of_call (h : s.database.Sound) (call : SchemaCall) :
    (s.perform call.action).2.database.Sound := by
  cases call with
  | define source =>
    rw [SchemaCall.action, Session.perform_bind]
    rcases hs : s.perform (Action.define source) with ⟨e | m, t⟩
    · have hsame : t.database = s.database := (Action.unchanged_of_perform_define hs).1
      exact hsame ▸ h
    · exact h.of_defined (Action.defined_of_perform_define hs)
  | associate source rel =>
    rw [SchemaCall.action, Action.associate, bind_assoc, Session.perform_bind, Session.perform_lift]
    cases source.asKey with
    | error e => exact h
    | ok key =>
      exact h.of_registry_subset (models_associate _ _ _) (lookup_subset_associate _ _ _)

/-! ## Databases that can come to be -/

/-- A database that can come to be: opened, and then told of models and relationships, in whatever
worlds. -/
inductive Reachable : Database → Prop where
  /-- It was opened. -/
  | opened {location : String} {options : Options} {kind : DriverKind} {world : World}
      {s : Session} (h : Session.opened location options kind world = (.ok (), s)) :
      Reachable s.database
  /-- It was called, successfully or not. -/
  | called {s : Session} (h : Reachable s.database) (call : SchemaCall) :
      Reachable (s.perform call.action).2.database

/-- A database that knows no models is sound. -/
theorem sound_of_models_eq_nil (h : d.models = []) : d.Sound where
  nodup := by
    rw [h]
    exact List.nodup_nil
  named := by simp [h]
  registered := by simp [h]

/-- **Every database that can come to be is sound.** -/
theorem Reachable.sound (h : d.Reachable) : d.Sound := by
  induction h with
  | opened hopened =>
    refine sound_of_models_eq_nil ?_
    rw [(Action.keeps_database_setUp _).of_perform hopened]
  | called _ call ih => exact sound_of_call ih call

/-- A run of calls leads from a database that can come to be to another one. -/
theorem Reachable.after (h : s.database.Reachable) (calls : List SchemaCall) :
    (s.after SchemaCall.action calls).database.Reachable := by
  induction calls generalizing s with
  | nil => exact h
  | cons call calls ih => exact ih (h.called call)

end Database

end Tablewright
