import Tablewright.Proofs.Registry.CreationOrder

/-!
# What is registered

The relationships of a registry, each beside the model that has it. A registration adds its own and
keeps all others (`registered_register`); so a history leaves what its registrations give, up to the
order of the models (`registered_ofHistory`), and for one model in the order of registration
(`filter_registered`).
-/

namespace Tablewright

namespace Registry

variable {r : Registry}

/-- Every relationship beside the model that has it. -/
def registered (entries : List (String × List Relationship)) : List (String × Relationship) :=
  entries.flatMap fun entry => entry.2.map (entry.1, ·)

theorem registered_cons (entry : String × List Relationship)
    (entries : List (String × List Relationship)) :
    registered (entry :: entries) = entry.2.map (entry.1, ·) ++ registered entries :=
  List.flatMap_cons

/-- There are as many relationships as the registry counts. -/
theorem length_registered (r : Registry) : (registered r).length = r.size := by
  induction r with
  | nil => rfl
  | cons entry r ih =>
    rw [registered_cons, List.length_append, List.length_map, ih]
    rfl

/-! ## One registration -/

/-- A model is listed when it first has a registration, behind the others. -/
theorem models_register (r : Registry) (model : String) (rels : List Relationship) :
    (r.register model rels).models =
      if model ∈ r.models then r.models else r.models ++ [model] :=
  Named.names_put r model _

/-- **A registration adds its relationships and keeps all others.** -/
theorem registered_register (r : Registry) (model : String) (rels : List Relationship) :
    (registered (r.register model rels)).Perm (registered r ++ rels.map (model, ·)) := by
  induction r with
  | nil => simp [register, lookup, Named.getOr, Named.get?, Named.put, registered]
  | cons entry r ih =>
    obtain ⟨name, known⟩ := entry
    by_cases hname : name = model
    · -- the entry grows in place, so what is new comes before what later models have
      subst hname
      have hput : register ((name, known) :: r) name rels = (name, known ++ rels) :: r := by
        simp [register, lookup, Named.getOr, Named.get?_cons, Named.put]
      rw [hput, registered_cons, registered_cons, List.map_append, List.append_assoc,
        List.append_assoc]
      exact List.perm_append_comm.append_left _
    · have hput : register ((name, known) :: r) model rels =
          (name, known) :: register r model rels := by
        simp [register, lookup, Named.getOr, Named.get?_cons, Named.put, hname]
      rw [hput, registered_cons, registered_cons, List.append_assoc]
      exact ih.append_left _

/-- **A registration counts.** -/
theorem size_register (r : Registry) (model : String) (rels : List Relationship) :
    (r.register model rels).size = r.size + rels.length := by
  rw [← length_registered, (registered_register r model rels).length_eq, List.length_append,
    List.length_map, length_registered]

/-! ## A history of registrations -/

theorem ofHistory_concat (history : List (String × List Relationship))
    (call : String × List Relationship) :
    ofHistory (history ++ [call]) = (ofHistory history).register call.1 call.2 :=
  List.foldl_append

/-- After a history the registry has the relationships of its registrations. -/
theorem registered_ofHistory (history : List (String × List Relationship)) :
    (registered (ofHistory history)).Perm (registered history) := by
  induction history using List.reverseRecOn with
  | nil => exact List.Perm.refl _
  | append_singleton history call ih =>
    have happend : registered (history ++ [call]) =
        registered history ++ call.2.map (call.1, ·) := by
      simp [registered]
    rw [ofHistory_concat, happend]
    exact (registered_register _ _ _).trans (ih.append_right _)

/-- After a history the registry has the models of its registrations, each once. -/
theorem names_ofHistory (history : List (String × List Relationship)) :
    (ofHistory history).models.Nodup ∧
      ∀ name, name ∈ (ofHistory history).models ↔ name ∈ Named.names history := by
  induction history using List.reverseRecOn with
  | nil => exact ⟨List.nodup_nil, fun name => Iff.rfl⟩
  | append_singleton history call ih =>
    rw [ofHistory_concat]
    refine ⟨Named.nodup_names_put ih.1, fun name => ?_⟩
    rw [models, register, Named.mem_names_put, Named.names_append, List.mem_append, ← ih.2, or_comm,
      Named.names_cons, Named.names_nil, List.mem_singleton]
    exact Iff.rfl

/-! ## The relationships of one model -/

/-- Where models are distinct, a registry finds for each what stands beside it. -/
theorem lookup_of_mem (hnd : r.models.Nodup) {entry : String × List Relationship}
    (h : entry ∈ r) : r.lookup entry.1 = entry.2 := by
  rw [lookup, Named.getOr, Named.get?_of_mem hnd h, Option.getD_some]

/-- The number of relationships is that of all models together. -/
theorem size_eq_length (hnd : r.models.Nodup) :
    r.size = (r.models.flatMap r.lookup).length := by
  rw [← length_registered, registered, models, Named.names, List.flatMap_map, List.length_flatMap,
    List.length_flatMap]
  refine congrArg List.sum (List.map_congr_left fun entry hentry => ?_)
  rw [List.length_map, lookup_of_mem hnd hentry]

/-- What is registered for one model, one registration after the other. -/
theorem filter_registered (entries : List (String × List Relationship)) (source : String) :
    ((registered entries).filter (·.1 == source)).map Prod.snd =
      (entries.filter (·.1 = source)).flatMap (·.2) := by
  induction entries with
  | nil => rfl
  | cons entry entries ih =>
    rw [registered_cons, List.filter_append, List.map_append, ih]
    by_cases h : entry.1 = source
    · simp [h, List.filter_map, Function.comp_def]
    · simp [h, List.filter_map, Function.comp_def]

/-- Where models are distinct, what a registry finds for one of them is all it has for it. -/
theorem flatMap_filter_eq_lookup (hnd : r.models.Nodup) (source : String) :
    (r.filter (·.1 = source)).flatMap (·.2) = r.lookup source := by
  induction r with
  | nil => rfl
  | cons entry r ih =>
    rw [models, Named.names_cons, List.nodup_cons] at hnd
    rw [lookup, Named.getOr, Named.get?_cons]
    by_cases h : entry.1 = source
    · have hrest : r.filter (·.1 = source) = [] := by
        refine List.filter_eq_nil_iff.2 fun e he => ?_
        have hne : e.1 ≠ source := fun heq =>
          hnd.1 (h ▸ heq ▸ List.mem_map_of_mem (f := Prod.fst) he)
        simpa using hne
      rw [List.filter_cons_of_pos (by simpa using h), hrest, if_pos h, Option.getD_some,
        List.flatMap_cons, List.flatMap_nil, List.append_nil]
    · rw [List.filter_cons_of_neg (by simpa using h), if_neg h]
      exact ih hnd.2

end Registry

end Tablewright
