import Tablewright.Proofs.Fallible
import Tablewright.Proofs.Named
import Tablewright.Proofs.Registry.Arrange
import Tablewright.Proofs.Value.Access

/-!
# The order of creation

What the registry knows after a history of registrations (`lookup_ofHistory`), which of the given
models it makes wait for which (`precedes_iff_awaits`), and the order it answers with: where the
waiting has no cycle, the given models with every one behind those it belongs to; else the given
models as they are.
-/

namespace Tablewright

namespace Registry

open Relation

variable {r : Registry} {names : List String}

/-! ## Histories of registrations -/

/-- The registry after some registrations, each of relationships of one model. -/
def ofHistory (history : List (String × List Relationship)) : Registry :=
  history.foldl (fun r call => r.register call.1 call.2) []

/-- **A registration adds relationships to its own model and to no other.** -/
theorem lookup_register (r : Registry) (model name : String) (rels : List Relationship) :
    (r.register model rels).lookup name =
      if model = name then r.lookup name ++ rels else r.lookup name := by
  rw [register, lookup, Named.getOr, Named.get?_put]
  by_cases h : model = name
  · rw [if_pos h, if_pos h, h, Option.getD_some]
  · rw [if_neg h, if_neg h, lookup, Named.getOr]

/-- To what is known of a model, a run of registrations adds what those of that model give. -/
theorem lookup_foldl_register (history : List (String × List Relationship)) (r : Registry)
    (name : String) :
    (history.foldl (fun r call => r.register call.1 call.2) r).lookup name =
      r.lookup name ++ (history.filter (·.1 = name)).flatMap (·.2) := by
  induction history generalizing r with
  | nil => simp
  | cons call history ih =>
    rw [List.foldl_cons, ih, lookup_register]
    by_cases h : call.1 = name
    · rw [if_pos h, List.filter_cons_of_pos (by simpa using h), List.flatMap_cons,
        List.append_assoc]
    · rw [if_neg h, List.filter_cons_of_neg (by simpa using h)]

/-- **What a history has registered for a model**: what its registrations of that model give, one
after the other. -/
theorem lookup_ofHistory (history : List (String × List Relationship)) (name : String) :
    (ofHistory history).lookup name = (history.filter (·.1 = name)).flatMap (·.2) := by
  have hnothing : lookup ([] : Registry) name = [] := rfl
  rw [ofHistory, lookup_foldl_register, hnothing, List.nil_append]

/-! ## Waiting -/

/-- A model is registered as belonging to another one. -/
def BelongsTo (r : Registry) (name target : String) : Prop :=
  ∃ rel ∈ r.lookup name, rel.kind = .belongsTo ∧ rel.target.text? = some target

/-- One of the given models must wait for another one of them. -/
def Awaits (r : Registry) (names : List String) (target name : String) : Prop :=
  target ∈ names ∧ name ∈ names ∧ target ≠ name ∧ r.BelongsTo name target

/-- Whatever a given model belongs to can be looked for among the given ones. -/
def Searchable (r : Registry) (names : List String) : Prop :=
  ∀ name ∈ names, ∀ target ∈ r.dependencies name, ∃ key, target.memberKey = .ok key

/-- Ranks that rise from what is waited for to what waits leave no room for a cycle. -/
theorem not_transGen_of_rank {R : String → String → Prop} (rank : String → Nat)
    (h : ∀ target name, R target name → rank target < rank name) (name : String) :
    ¬ TransGen R name name := by
  have hrises : ∀ a b, TransGen R a b → rank a < rank b := by
    intro a b hab
    induction hab with
    | single hpair => exact h _ _ hpair
    | tail _ hpair ih => exact lt_trans ih (h _ _ hpair)
  exact fun hcycle => lt_irrefl _ (hrises name name hcycle)

/-- The targets of a model, without repetitions, are those of its `belongs_to` relationships. -/
theorem exists_mem_dependencies {name target : String} :
    (∃ v ∈ r.dependencies name, v.text? = some target) ↔ r.BelongsTo name target := by
  rw [dependencies, Value.exists_text?_mem_distinct]
  simp only [List.mem_map, List.mem_filter, decide_eq_true_eq, BelongsTo]
  constructor
  · rintro ⟨_, ⟨rel, ⟨hrel, hkind⟩, rfl⟩, ht⟩
    exact ⟨rel, hrel, hkind, ht⟩
  · rintro ⟨rel, hrel, hkind, ht⟩
    exact ⟨rel.target, ⟨rel, ⟨hrel, hkind⟩, rfl⟩, ht⟩

/-- **The models that a model waits for**: other given ones that it belongs to. -/
theorem mem_prerequisites {model target : String} {targets : List String}
    (h : r.prerequisites names model = .ok targets) :
    target ∈ targets ↔ target ∈ names ∧ target ≠ model ∧ r.BelongsTo model target := by
  rw [prerequisites, Fallible.bind_eq_ok] at h
  obtain ⟨keys, hkeys, h⟩ := h
  rw [Fallible.pure_eq_ok] at h
  rw [← h, ← exists_mem_dependencies, List.mem_filterMap]
  simp only [Option.filter_eq_some_iff, Bool.and_eq_true, List.contains_iff_mem, bne_iff_ne, ne_eq]
  constructor
  · rintro ⟨key, hkey, htext, hmem, hne⟩
    obtain ⟨v, hv, hvk⟩ := Fallible.exists_of_mem_mapM hkeys hkey
    exact ⟨hmem, hne, v, hv, (Value.text?_of_memberKey hvk).symm.trans htext⟩
  · rintro ⟨hmem, hne, v, hv, htext⟩
    obtain ⟨key, hkey, hvk⟩ := Fallible.mem_mapM_of_mem hkeys hv
    exact ⟨key, hkey, (Value.text?_of_memberKey hvk).trans htext, hmem, hne⟩

/-- **The pairs of the order are those of the waiting.** -/
theorem precedes_iff_awaits {pairs : List (String × String)} (h : r.precedence names = .ok pairs)
    {target name : String} : Precedes pairs target name ↔ r.Awaits names target name := by
  rw [precedence, Fallible.bind_eq_ok] at h
  obtain ⟨parts, hparts, h⟩ := h
  rw [Fallible.pure_eq_ok] at h
  rw [Precedes, ← h, List.mem_flatten]
  constructor
  · rintro ⟨part, hpart, hpair⟩
    obtain ⟨model, hmodel, hof⟩ := Fallible.exists_of_mem_mapM hparts hpart
    obtain ⟨targets, htargets, hof⟩ := Fallible.bind_eq_ok.1 hof
    rw [← Fallible.pure_eq_ok.1 hof, List.mem_map] at hpair
    obtain ⟨t, ht, hte⟩ := hpair
    obtain ⟨rfl, rfl⟩ := Prod.mk.inj hte
    obtain ⟨hmem, hne, hrel⟩ := (mem_prerequisites htargets).1 ht
    exact ⟨hmem, hmodel, hne, hrel⟩
  · rintro ⟨hmem, hname, hne, hrel⟩
    obtain ⟨part, hpart, hof⟩ := Fallible.mem_mapM_of_mem hparts hname
    obtain ⟨targets, htargets, hof⟩ := Fallible.bind_eq_ok.1 hof
    refine ⟨part, hpart, ?_⟩
    rw [← Fallible.pure_eq_ok.1 hof, List.mem_map]
    exact ⟨target, (mem_prerequisites htargets).2 ⟨hmem, hne, hrel⟩, rfl⟩

/-- The pairs are found exactly when all targets can be looked for. -/
theorem exists_precedence_iff : (∃ pairs, r.precedence names = .ok pairs) ↔ r.Searchable names := by
  have hpart : ∀ model, (∃ part, (do
      pure ((← r.prerequisites names model).map fun target => (target, model)) :
        Except Fault (List (String × String))) = .ok part) ↔
      ∀ target ∈ r.dependencies model, ∃ key, target.memberKey = .ok key := by
    intro model
    simp only [prerequisites, Fallible.bind_eq_ok, Fallible.pure_eq_ok]
    rw [← Fallible.exists_mapM_eq_ok]
    constructor
    · rintro ⟨_, _, ⟨keys, hkeys, -⟩, -⟩
      exact ⟨keys, hkeys⟩
    · rintro ⟨keys, hkeys⟩
      exact ⟨_, _, ⟨keys, hkeys, rfl⟩, rfl⟩
  simp only [precedence, Fallible.bind_eq_ok, Fallible.pure_eq_ok, Searchable]
  rw [← forall₂_congr fun model _ => hpart model, ← Fallible.exists_mapM_eq_ok]
  constructor
  · rintro ⟨_, parts, hparts, -⟩
    exact ⟨parts, hparts⟩
  · rintro ⟨parts, hparts⟩
    exact ⟨_, parts, hparts, rfl⟩

/-! ## The order -/

/-- Names that are distinct stand at their last places. -/
theorem lastPlaces_of_nodup (h : names.Nodup) : lastPlaces names = names := by
  induction names with
  | nil => rfl
  | cons name rest ih =>
    rw [List.nodup_cons] at h
    rw [lastPlaces, if_neg (by simpa using h.1), ih h.2]

/-- The order of creation is what the waiting lets distinct names be arranged in, if it does. -/
theorem exists_pairs_of_creationOrder (hnd : names.Nodup) {order : List String}
    (h : r.creationOrder names = .ok order) :
    ∃ pairs, Precedes pairs = r.Awaits names ∧ (arrange pairs names).getD names = order := by
  rw [creationOrder, Fallible.bind_eq_ok] at h
  obtain ⟨pairs, hpairs, h⟩ := h
  rw [Fallible.pure_eq_ok, lastPlaces_of_nodup hnd] at h
  exact ⟨pairs, funext fun _ => funext fun _ => propext (precedes_iff_awaits hpairs), h⟩

/-- The waiting does not lead out of the given names. -/
theorem mem_of_precedes {pairs : List (String × String)} (hpairs : Precedes pairs = r.Awaits names)
    (target name : String) (h : Precedes pairs target name) : target ∈ names ∧ name ∈ names := by
  rw [hpairs] at h
  exact ⟨h.1, h.2.1⟩

/-- **The order of creation** for any registry and distinct names: with every model behind those it
waits for where the waiting has no cycle, else as it was given. -/
theorem creationOrder_spec (hnd : names.Nodup) {order : List String}
    (h : r.creationOrder names = .ok order) :
    ((∀ name, ¬ TransGen (r.Awaits names) name name) → order.Perm names ∧
      ∀ target name, r.Awaits names target name → order.idxOf target < order.idxOf name) ∧
    ((∃ name, TransGen (r.Awaits names) name name) → order = names) := by
  obtain ⟨pairs, hpairs, h⟩ := exists_pairs_of_creationOrder hnd h
  have hmem := mem_of_precedes hpairs
  rw [← hpairs]
  refine ⟨fun hacyclic => ?_, fun ⟨name, hcycle⟩ => ?_⟩
  · obtain ⟨found, hfound⟩ :=
      Option.isSome_iff_exists.1 ((arrange_isSome_iff hnd hmem).2 hacyclic)
    rw [hfound, Option.getD_some] at h
    subst h
    have hperm : found.Perm names := perm_of_arrange hfound
    exact ⟨hperm, fun t n hpair => respects_of_arrange hnd hfound t n hpair
      (hperm.symm.subset (hmem t n hpair).1) (hperm.symm.subset (hmem t n hpair).2)⟩
  · have hnone : arrange pairs names = none := by
      rw [← Option.not_isSome_iff_eq_none, arrange_isSome_iff hnd hmem]
      exact fun hacyclic => hacyclic name hcycle
    rw [hnone, Option.getD_none] at h
    exact h.symm

/-- **Every model is there once in the order of creation**, with a cycle or without. -/
theorem perm_of_creationOrder (hnd : names.Nodup) {order : List String}
    (h : r.creationOrder names = .ok order) : order.Perm names := by
  obtain ⟨hacyclic, hcyclic⟩ := creationOrder_spec hnd h
  by_cases hcycle : ∃ name, TransGen (r.Awaits names) name name
  · rw [hcyclic hcycle]
  · exact (hacyclic fun name hname => hcycle ⟨name, hname⟩).1

/-- Where the waiting has no cycle, no model of the order belongs to one behind it. -/
theorem pairwise_of_creationOrder (hnd : names.Nodup) {order : List String}
    (h : r.creationOrder names = .ok order)
    (hacyclic : ∀ name, ¬ TransGen (r.Awaits names) name name) :
    order.Pairwise fun name target => ¬ r.BelongsTo name target := by
  obtain ⟨hperm, hbehind⟩ := (creationOrder_spec hnd h).1 hacyclic
  have hnodup : order.Nodup := hperm.nodup_iff.2 hnd
  rw [List.pairwise_iff_getElem]
  intro i j hi hj hij hbelongs
  have hne : order[j] ≠ order[i] := fun heq => by
    have := hnodup.getElem_inj_iff.1 heq
    omega
  have hlt := hbehind order[j] order[i]
    ⟨hperm.subset (List.getElem_mem hj), hperm.subset (List.getElem_mem hi), hne, hbelongs⟩
  rw [hnodup.idxOf_getElem, hnodup.idxOf_getElem] at hlt
  omega

/-- An order is found exactly when all targets can be looked for. -/
theorem exists_creationOrder_iff :
    (∃ order, r.creationOrder names = .ok order) ↔ r.Searchable names := by
  rw [← exists_precedence_iff]
  simp only [creationOrder, Fallible.bind_eq_ok, Fallible.pure_eq_ok]
  constructor
  · rintro ⟨_, pairs, hpairs, -⟩
    exact ⟨pairs, hpairs⟩
  · rintro ⟨pairs, hpairs⟩
    exact ⟨_, pairs, hpairs, rfl⟩

/-! ## The order after a history -/

/-- Some registration makes a model belong to another one. -/
def Registers (history : List (String × List Relationship)) (name target : String) : Prop :=
  ∃ call ∈ history, call.1 = name ∧
    ∃ rel ∈ call.2, rel.kind = .belongsTo ∧ rel.target.text? = some target

/-- The pairs of different models among the given ones of which the second was registered as
belonging to the first. -/
def Dependent (history : List (String × List Relationship)) (names : List String)
    (target name : String) : Prop :=
  target ∈ names ∧ name ∈ names ∧ target ≠ name ∧ Registers history name target

/-- Every registered relationship leads to a model by its name. -/
def LeadsToNames (history : List (String × List Relationship)) : Prop :=
  ∀ call ∈ history, ∀ rel ∈ call.2, rel.target.text?.isSome

/-- A model belongs to what some registration says. -/
theorem belongsTo_ofHistory {history : List (String × List Relationship)} {name target : String} :
    (ofHistory history).BelongsTo name target ↔ Registers history name target := by
  simp only [BelongsTo, Registers, lookup_ofHistory, List.mem_flatMap, List.mem_filter,
    decide_eq_true_eq]
  constructor
  · rintro ⟨rel, ⟨call, ⟨hcall, hname⟩, hrel⟩, hkind, ht⟩
    exact ⟨call, hcall, hname, rel, hrel, hkind, ht⟩
  · rintro ⟨call, hcall, hname, rel, hrel, hkind, ht⟩
    exact ⟨rel, ⟨call, ⟨hcall, hname⟩, hrel⟩, hkind, ht⟩

/-- The waiting after a history is that of the dependent pairs. -/
theorem awaits_ofHistory (history : List (String × List Relationship)) (names : List String) :
    (ofHistory history).Awaits names = Dependent history names := by
  funext target name
  simp only [Awaits, Dependent, belongsTo_ofHistory]

/-- Names can always be looked for. -/
theorem searchable_of_leadsToNames {history : List (String × List Relationship)}
    (h : LeadsToNames history) (names : List String) : (ofHistory history).Searchable names := by
  intro name _ target ht
  rw [dependencies] at ht
  obtain ⟨rel, hrel, rfl⟩ := List.mem_map.1 (Value.mem_of_mem_distinct ht)
  rw [lookup_ofHistory] at hrel
  obtain ⟨call, hcall, hmem⟩ := List.mem_flatMap.1 (List.mem_of_mem_filter hrel)
  obtain ⟨s, hs⟩ := Option.isSome_iff_exists.1 (h call (List.mem_of_mem_filter hcall) rel hmem)
  exact ⟨rel.target, Value.memberKey_of_text? hs⟩

/-- **The order of creation after any history of registrations**, for any distinct names. It is
found exactly when whatever the given models belong to can be looked for, so always when that is a
name. If no chain of dependent pairs leads back to where it began, it holds the given names, each
once, with the first of every dependent pair before the second; else it is the names as given. -/
theorem creationOrder_ofHistory (history : List (String × List Relationship))
    {names : List String} (hnd : names.Nodup) :
    ((∃ order, (ofHistory history).creationOrder names = .ok order) ↔
      (ofHistory history).Searchable names) ∧
    (LeadsToNames history → (ofHistory history).Searchable names) ∧
    ∀ order, (ofHistory history).creationOrder names = .ok order →
      ((∀ name, ¬ TransGen (Dependent history names) name name) → order.Perm names ∧
        ∀ target name, Dependent history names target name →
          order.idxOf target < order.idxOf name) ∧
      ((∃ name, TransGen (Dependent history names) name name) → order = names) := by
  refine ⟨exists_creationOrder_iff, fun h => searchable_of_leadsToNames h names, ?_⟩
  intro order horder
  rw [← awaits_ofHistory]
  exact creationOrder_spec hnd horder

/-- Registrations under which two models belong to each other, and one of them to itself and to a
model that is not given. -/
def mutualHistory : List (String × List Relationship) :=
  [("A", [{ kind := .belongsTo, target := .str "B" }, { kind := .belongsTo, target := .str "A" }]),
   ("B", [{ kind := .belongsTo, target := .str "A" }]),
   ("A", [{ kind := .belongsTo, target := .str "Ghost" },
    { kind := .hasMany, target := .str "C" }])]

/-- Models that belong to each other stay where they are. -/
theorem creationOrder_mutualHistory :
    ["A", "B", "C"].Nodup ∧
      (ofHistory mutualHistory).creationOrder ["A", "B", "C"] = .ok ["A", "B", "C"] := by
  have hnd : ["A", "B", "C"].Nodup := by decide
  refine ⟨hnd, ?_⟩
  obtain ⟨hfound, hnames, hspec⟩ := creationOrder_ofHistory mutualHistory hnd
  obtain ⟨order, horder⟩ :=
    hfound.2 (hnames (by simp [LeadsToNames, mutualHistory, Value.text?]))
  have hthere : Dependent mutualHistory ["A", "B", "C"] "A" "B" := by
    simp [Dependent, Registers, mutualHistory, Value.text?]
  have hback : Dependent mutualHistory ["A", "B", "C"] "B" "A" := by
    simp [Dependent, Registers, mutualHistory, Value.text?]
  rw [horder, (hspec order horder).2 ⟨"A", (TransGen.single hthere).tail hback⟩]

end Registry

end Tablewright
