import Tablewright.Proofs.Schema.ForeignKey
import Tablewright.Proofs.Schema.Statement

/-!
# Two ways to compile the models of a file

The schema of a file is compiled with every model knowing the tables of all. Where its models are
defined one after the other, each knows those of the models before it only (`schemaInTurn`), and a
table it does not know is referred to by the name of its model. So the texts are the same exactly
when no model refers to itself or to a later one whose table is called otherwise
(`ReferencesSettled`).
-/

namespace Tablewright

open Fallible

variable {m : ResolvedModel} {models : List ResolvedModel} {known : Named String} {r : Relationship}

/-- The models of a file, resolved, in the order of creation. -/
def Files.resolvedModels (files : Files) (p : Path) : Except Fault (List ResolvedModel) := do
  let ds ← ModelDefinition.inCreationOrder (← files.models p)
  ds.mapM ModelDefinition.resolve

/-- The names of models with those of their tables. -/
def tableEntries (models : List ResolvedModel) : Named String :=
  models.map fun m => (m.name, m.tableName)

/-- The statements that make models one after the other, each knowing the tables of those before it,
besides some that are known from the start. -/
def schemaInTurn (known : Named String) :
    List ResolvedModel → Except Fault (List SchemaStatement)
  | [] => pure []
  | m :: rest => do
    let own ← m.schema known.toMapping
    let others ← schemaInTurn (known ++ [(m.name, m.tableName)]) rest
    pure (own ++ others)

/-- No model refers to itself or to a later one whose table is called otherwise than the model. -/
def ReferencesSettled : List ResolvedModel → Prop
  | [] => True
  | m :: rest =>
    (∀ r ∈ m.references, ∀ t ∈ m :: rest, r.target.text? = some t.name → t.tableName = t.name) ∧
      ReferencesSettled rest

/-! ## One reference -/

/-- What is found among models is the table of one of them. -/
theorem exists_of_get?_tableEntries {n table : String}
    (h : (tableEntries models).get? n = some table) :
    ∃ t ∈ models, t.name = n ∧ t.tableName = table := by
  obtain ⟨t, ht, heq⟩ := List.mem_map.1 (Named.mem_of_get? h)
  exact ⟨t, ht, congrArg Prod.fst heq, congrArg Prod.snd heq⟩

/-- The table of a model is found under its name. -/
theorem get?_tableEntries {t : ResolvedModel} (hnd : (tableEntries models).names.Nodup)
    (h : t ∈ models) : (tableEntries models).get? t.name = some t.tableName :=
  Named.get?_of_mem hnd (List.mem_map.2 ⟨t, h, rfl⟩)

/-- **A reference leads to the same table whether later models are known or not**, exactly when no
later model of that name has a table called otherwise. -/
theorem tableIn_eq_iff (hnd : (known ++ tableEntries models : Named String).names.Nodup) :
    r.tableIn known = r.tableIn (known ++ tableEntries models) ↔
      ∀ t ∈ models, r.target.text? = some t.name → t.tableName = t.name := by
  rw [Named.names_append, List.nodup_append] at hnd
  obtain ⟨-, hlater, hapart⟩ := hnd
  unfold Relationship.tableIn
  cases htext : r.target.text? with
  | none => exact ⟨fun _ t _ => nofun, fun _ => rfl⟩
  | some s =>
    rw [Option.bind_some, Option.bind_some, Named.get?_append]
    cases hknown : known.get? s with
    | some table =>
      -- the target is known already, and so no later model has its name
      refine ⟨fun _ t ht hs => ?_, fun _ => rfl⟩
      have hbefore : s ∈ known.names := List.mem_map_of_mem (Named.mem_of_get? hknown)
      have hafter : t.name ∈ (tableEntries models).names :=
        List.mem_map_of_mem (List.mem_map.2 ⟨t, ht, rfl⟩)
      exact absurd (Option.some.inj hs) (hapart s hbefore t.name hafter)
    | none =>
      rw [Option.none_or, Option.getD_none, Value.display_of_text? htext]
      cases hfound : (tableEntries models).get? s with
      | none =>
        refine ⟨fun _ t ht hs => ?_, fun _ => rfl⟩
        rw [Option.some.inj hs, get?_tableEntries hlater ht] at hfound
        cases hfound
      | some table =>
        rw [Option.getD_some]
        obtain ⟨t, ht, hname, htable⟩ := exists_of_get?_tableEntries hfound
        constructor
        · rintro rfl t' ht' hs
          have heq := get?_tableEntries hlater ht'
          rw [← Option.some.inj hs, hfound] at heq
          rw [← Option.some.inj heq, Option.some.inj hs]
        · intro hall
          rw [← htable, hall t ht (by rw [hname]), hname]

/-- Where it does not, both tables have identifiers for names. -/
theorem tableIn_eq_or_isIdentifier
    (hid : ∀ t ∈ models, isIdentifier t.name = true ∧ isIdentifier t.tableName = true) :
    r.tableIn known = r.tableIn (known ++ tableEntries models) ∨
      isIdentifier (r.tableIn known) = true ∧
        isIdentifier (r.tableIn (known ++ tableEntries models)) = true := by
  unfold Relationship.tableIn
  cases htext : r.target.text? with
  | none => exact Or.inl rfl
  | some s =>
    rw [Option.bind_some, Option.bind_some, Named.get?_append]
    cases hknown : known.get? s with
    | some table => exact Or.inl rfl
    | none =>
      rw [Option.none_or, Option.getD_none, Value.display_of_text? htext]
      cases hfound : (tableEntries models).get? s with
      | none => exact Or.inl rfl
      | some table =>
        obtain ⟨t, ht, rfl, rfl⟩ := exists_of_get?_tableEntries hfound
        exact Or.inr (hid t ht)

/-! ## One model -/

/-- **The texts of two schemas of a model tell its references apart.** -/
theorem render_schema_eq_iff {statements statements' : List SchemaStatement}
    (hnd : (known ++ tableEntries models : Named String).names.Nodup)
    (hid : ∀ t ∈ models, isIdentifier t.name = true ∧ isIdentifier t.tableName = true)
    (h : m.schema known.toMapping = .ok statements)
    (h' : m.schema (known ++ tableEntries models : Named String).toMapping = .ok statements') :
    statements.length = statements'.length ∧
      (statements.map SchemaStatement.render = statements'.map SchemaStatement.render ↔
        ∀ r ∈ m.references, ∀ t ∈ models, r.target.text? = some t.name → t.tableName = t.name) := by
  obtain ⟨t, ks, rest, rfl, rfl, htables, htables', hrelated⟩ := ResolvedModel.schema_eq_ok h h'
  refine ⟨rfl, ?_⟩
  have hreferences : (∀ r ∈ m.references, ∀ t ∈ models,
        r.target.text? = some t.name → t.tableName = t.name) ↔
      t.foreignKeys.map (·.table) = ks.map (·.table) := by
    rw [htables, htables', List.map_inj_left]
    exact forall₂_congr fun r _ => (tableIn_eq_iff hnd).symm
  rw [hreferences, List.map_cons, List.map_cons]
  constructor
  · intro htexts
    -- tables that differ have identifiers for names, which hold no parenthesis
    have hapart : List.Forall₂ (fun s s' => s = s' ∨ '(' ∉ s.toList ∧ '(' ∉ s'.toList)
        (t.foreignKeys.map (·.table)) (ks.map (·.table)) := by
      rw [htables, htables', List.forall₂_map_left_iff, List.forall₂_map_right_iff,
        List.forall₂_same]
      exact fun r _ => (tableIn_eq_or_isIdentifier hid).imp id fun h =>
        ⟨parenthesis_not_mem_identifier h.1, parenthesis_not_mem_identifier h.2⟩
    rw [List.forall₂_map_left_iff, List.forall₂_map_right_iff] at hapart
    have hsame : List.Forall₂ ForeignKey.SameBut t.foreignKeys ks :=
      List.Forall₂.mp (fun k k' hshape htable => ⟨hshape, htable⟩) hrelated hapart
    have hkeys : t.foreignKeys = ks :=
      CreateTable.foreignKeys_eq_of_render hsame (List.cons.inj htexts).1
    rw [hkeys]
  · intro hsame
    have htable : List.Forall₂ (· = ·) (t.foreignKeys.map (·.table)) (ks.map (·.table)) := by
      rw [hsame]
      exact List.forall₂_refl _
    rw [List.forall₂_map_left_iff, List.forall₂_map_right_iff] at htable
    have hkeys : List.Forall₂ (· = ·) t.foreignKeys ks :=
      List.Forall₂.mp (fun k k' hshape htable => by rw [hshape, ← htable]) hrelated htable
    rw [List.forall₂_eq_eq_eq] at hkeys
    rw [← hkeys]

/-! ## All models of a file -/

/-- Distinct models are known by their names and tables. -/
theorem tablesOf_eq (hnd : (tableEntries models).names.Nodup) :
    ModelDefinition.tablesOf models = (tableEntries models).toMapping := by
  rw [← Named.ofPairs_toMapping hnd]
  unfold ModelDefinition.tablesOf tableEntries Named.toMapping
  rw [List.map_map]
  rfl

/-- **Defining models in turn gives the schema of all** exactly when their references are
settled. -/
theorem schemaInTurn_eq_iff {all : Named String} {statements : List SchemaStatement}
    {schemas : List (List SchemaStatement)} (hall : all = known ++ tableEntries models)
    (hnd : all.names.Nodup)
    (hid : ∀ t ∈ models, isIdentifier t.name = true ∧ isIdentifier t.tableName = true)
    (h : schemaInTurn known models = .ok statements)
    (h' : models.mapM (fun m => m.schema all.toMapping) = .ok schemas) :
    statements.map SchemaStatement.render = schemas.flatten.map SchemaStatement.render ↔
      ReferencesSettled models := by
  induction models generalizing known statements schemas with
  | nil =>
    cases h
    cases h'
    exact ⟨fun _ => trivial, fun _ => rfl⟩
  | cons m models ih =>
    obtain ⟨own, hown, h⟩ := bind_eq_ok.1 h
    obtain ⟨others, hothers, h⟩ := bind_eq_ok.1 h
    cases h
    rw [mapM_eq_ok, List.forall₂_cons_left_iff] at h'
    obtain ⟨own', others', hown', hothers', rfl⟩ := h'
    rw [← mapM_eq_ok] at hothers'
    subst hall
    obtain ⟨hlength, hfirst⟩ := render_schema_eq_iff hnd hid hown hown'
    -- the later models know the table of this one besides
    have hassoc : known ++ tableEntries (m :: models) =
        (known ++ [(m.name, m.tableName)]) ++ tableEntries models := by
      rw [List.append_assoc]
      rfl
    have hrest := ih hassoc (fun t ht => hid t (List.mem_cons_of_mem m ht)) hothers hothers'
    rw [ReferencesSettled, ← hfirst, ← hrest, List.flatten_cons, List.map_append, List.map_append]
    constructor
    · intro heq
      exact List.append_inj heq (by rw [List.length_map, List.length_map, hlength])
    · rintro ⟨hown, hothers⟩
      rw [hown, hothers]

end Tablewright
