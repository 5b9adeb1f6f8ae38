import Tablewright.ModelFile
import Tablewright.Proofs.Named
import Tablewright.Proofs.ResolvedModel
import Tablewright.Session.Schema

/-!
# The tables that foreign keys refer to

The schema of a model depends on what tables are known in one place only: the table that stands in
the foreign key of a relationship. `Relationship.tableIn` is that table, and two schemas of a model,
compiled against different tables, differ in it alone (`schema_eq_ok`).
-/

namespace Tablewright

open Fallible

variable {m : ResolvedModel} {known : Named String} {n t : String} {r : Relationship}

/-! ## Known tables as a mapping -/

namespace Named

/-- Names and texts as a mapping. -/
def toMapping (known : Named String) : Mapping :=
  known.map fun e => (.str e.1, .str e.2)

theorem toMapping_cons (e : String × String) (known : Named String) :
    toMapping (e :: known) = (.str e.1, .str e.2) :: toMapping known := rfl

/-- What is found in the mapping is what is found under the name that the key is. -/
theorem get?_toMapping (known : Named String) (key : Value) :
    known.toMapping.get? key = (key.text?.bind known.get?).map .str := by
  induction known with
  | nil => cases key.text? <;> rfl
  | cons e known ih =>
    have hsplit : Mapping.get? (toMapping (e :: known)) key =
        if key.same (.str e.1) = true then some (.str e.2)
        else Mapping.get? (toMapping known) key := by
      rw [toMapping_cons, Mapping.get?, List.find?_cons]
      by_cases h : key.same (.str e.1) = true <;> simp [h, Mapping.get?]
    rw [hsplit, ih]
    simp only [Value.same_str_iff]
    cases key.text? with
    | none => rfl
    | some s =>
      rw [Option.bind_some, Option.bind_some, get?_cons]
      by_cases hs : s = e.1
      · rw [if_pos (congrArg some hs), if_pos hs.symm, Option.map_some]
      · rw [if_neg fun h => hs (Option.some.inj h), if_neg (Ne.symm hs)]

theorem put_toMapping (known : Named String) (n t : String) :
    Mapping.put known.toMapping (.str n) (.str t) = (known.put n t).toMapping := by
  induction known with
  | nil => rfl
  | cons e known ih =>
    have hsame : Value.same (.str n) (.str e.1) = (e.1 == n) := by
      rw [Bool.eq_iff_iff, Value.same_str_iff, Value.text?, Option.some_inj, beq_iff_eq, eq_comm]
    rw [toMapping_cons, Mapping.put, hsame, put]
    split
    · rw [toMapping_cons]
    · rw [toMapping_cons, ih]

/-- Storing entries one after the other is storing them under their names. -/
theorem foldl_put_toMapping (before known : Named String) :
    known.toMapping.foldl (fun m e => Mapping.put m e.1 e.2) before.toMapping =
      (before.union known).toMapping := by
  induction known generalizing before with
  | nil => rfl
  | cons e known ih =>
    rw [toMapping_cons, List.foldl_cons, put_toMapping, ih]
    rfl

/-- Distinct names give a mapping entry by entry. -/
theorem ofPairs_toMapping (h : known.names.Nodup) :
    Mapping.ofPairs known.toMapping = known.toMapping := by
  have hrun : Mapping.ofPairs known.toMapping = (union [] known).toMapping :=
    foldl_put_toMapping [] known
  have hjoined : union [] known = known := union_eq_append h
  rw [hrun, hjoined]

end Named

/-! ## Foreign keys -/

namespace Relationship

/-- Whether the relationship puts a foreign key into the table, as far as that can be told. -/
def refers (r : Relationship) : Bool :=
  r.kind = .belongsTo && r.foreignKey.truthy

/-- The table that stands in its foreign key where some tables are known. -/
def tableIn (known : Named String) (r : Relationship) : String :=
  (r.target.text?.bind known.get?).getD r.target.display

theorem refers_of_hasForeignKey {b : Bool} (h : r.hasForeignKey = .ok b) : r.refers = b := by
  rw [hasForeignKey] at h
  rw [refers]
  by_cases hkind : r.kind = .belongsTo
  · rw [if_pos hkind] at h
    rw [decide_eq_true hkind, Bool.true_and, (Value.truth_eq_ok.1 h).2]
  · rw [if_neg hkind, pure_eq_ok] at h
    rw [decide_eq_false hkind, Bool.false_and, h]

/-- The table of a target is the one that is known for it, or else the target taken literally. -/
theorem display_of_tableOf {v : Value} (h : tableOf known.toMapping r.target = .ok v) :
    v.display = r.tableIn known := by
  obtain ⟨key, hkey, h⟩ := bind_eq_ok.1 h
  rw [← pure_eq_ok.1 h, Value.eq_of_asKey hkey, Named.get?_toMapping, tableIn]
  cases r.target.text?.bind known.get? with
  | none => rfl
  | some t => exact Value.display_of_text? rfl

/-- **Only the table of a foreign key depends on what tables are known.** -/
theorem foreignKeyClause_eq_ok {known' : Named String} {k k' : ForeignKey}
    (h : r.foreignKeyClause m known.toMapping = .ok k)
    (h' : r.foreignKeyClause m known'.toMapping = .ok k') :
    k.table = r.tableIn known ∧ k'.table = r.tableIn known' ∧
      k' = { k with table := k'.table } := by
  obtain ⟨table, htable, h⟩ := bind_eq_ok.1 h
  obtain ⟨column, hcolumn, h⟩ := bind_eq_ok.1 h
  obtain ⟨key, hkey, h⟩ := bind_eq_ok.1 h
  obtain ⟨actions, hactions, h⟩ := bind_eq_ok.1 h
  obtain ⟨table', htable', h'⟩ := bind_eq_ok.1 h'
  rw [ok_bind hcolumn, ok_bind hkey, ok_bind hactions] at h'
  rw [← pure_eq_ok.1 h, ← pure_eq_ok.1 h']
  exact ⟨display_of_tableOf htable, display_of_tableOf htable', rfl⟩

/-- Whether a relationship has a foreign key is told before any table is looked up. -/
theorem foreignKeyClause?_eq_ok {tables : Mapping} {k? : Option ForeignKey}
    (h : r.foreignKeyClause? m tables = .ok k?) :
    r.refers = k?.isSome ∧ ∀ k, k? = some k → r.foreignKeyClause m tables = .ok k := by
  obtain ⟨b, hb, h⟩ := bind_eq_ok.1 h
  rw [refers_of_hasForeignKey hb]
  cases b with
  | false =>
    cases h
    exact ⟨rfl, nofun⟩
  | true =>
    obtain ⟨k, hk, rfl⟩ := map_eq_ok.1 h
    exact ⟨rfl, fun k' hk' => by rw [hk, Option.some.inj hk']⟩

end Relationship

namespace ResolvedModel

variable {known' : Named String}

/-- The relationships that put a foreign key into the table, in order. -/
def references (m : ResolvedModel) : List Relationship :=
  m.definition.relationships.filter Relationship.refers

/-- The foreign keys of a model against two sets of tables. -/
theorem foreignKeys_eq_ok {ks ks' : List ForeignKey} (h : m.foreignKeys known.toMapping = .ok ks)
    (h' : m.foreignKeys known'.toMapping = .ok ks') :
    ks.map (·.table) = m.references.map (·.tableIn known) ∧
      ks'.map (·.table) = m.references.map (·.tableIn known') ∧
      List.Forall₂ (fun k k' => k' = { k with table := k'.table }) ks ks' := by
  have hks := filterMapM_eq_ok (fun r k? h => Relationship.foreignKeyClause?_eq_ok h) h
  have hks' := filterMapM_eq_ok (fun r k? h => Relationship.foreignKeyClause?_eq_ok h) h'
  unfold references
  generalize m.definition.relationships.filter Relationship.refers = references at hks hks' ⊢
  clear h h'
  induction hks generalizing ks' with
  | nil =>
    cases hks'
    exact ⟨rfl, rfl, List.Forall₂.nil⟩
  | cons hk _ ih =>
    cases hks' with
    | cons hk' hrest =>
      obtain ⟨htables, htables', hrelated⟩ := ih hrest
      obtain ⟨htable, htable', hshape⟩ := Relationship.foreignKeyClause_eq_ok hk hk'
      rw [List.map_cons, List.map_cons, List.map_cons, List.map_cons, htables, htables', htable,
        htable']
      exact ⟨rfl, rfl, List.Forall₂.cons hshape hrelated⟩

/-- The foreign keys of a model, one for each relationship that has one. -/
theorem forall₂_foreignKeys {known : Named String} {keys : List ForeignKey}
    (h : m.foreignKeys known.toMapping = .ok keys) :
    List.Forall₂ (fun r k => k.table = r.tableIn known) m.references keys := by
  have htables := (foreignKeys_eq_ok h h).1
  have hrelated : List.Forall₂ (fun t t' => t = t') (keys.map (·.table))
      (m.references.map (·.tableIn known)) := List.forall₂_eq_eq_eq.symm ▸ htables
  rw [List.forall₂_map_left_iff, List.forall₂_map_right_iff] at hrelated
  exact hrelated.flip

/-- The tables made for a model against two sets of tables. -/
theorem createTable_eq_ok {t t' : CreateTable} (h : m.createTable known.toMapping = .ok t)
    (h' : m.createTable known'.toMapping = .ok t') :
    t' = { t with foreignKeys := t'.foreignKeys } ∧
      m.foreignKeys known.toMapping = .ok t.foreignKeys ∧
      m.foreignKeys known'.toMapping = .ok t'.foreignKeys := by
  obtain ⟨columns, hcolumns, h⟩ := bind_eq_ok.1 h
  obtain ⟨keys, hkeys, h⟩ := bind_eq_ok.1 h
  obtain ⟨constraints, hconstraints, h⟩ := bind_eq_ok.1 h
  obtain ⟨ifNotExists, hifNotExists, h⟩ := bind_eq_ok.1 h
  obtain ⟨withoutRowid, hwithoutRowid, h⟩ := bind_eq_ok.1 h
  obtain ⟨strict, hstrict, h⟩ := bind_eq_ok.1 h
  unfold createTable at h'
  rw [ok_bind hcolumns] at h'
  obtain ⟨keys', hkeys', h'⟩ := bind_eq_ok.1 h'
  rw [ok_bind hconstraints, ok_bind hifNotExists, ok_bind hwithoutRowid, ok_bind hstrict] at h'
  rw [← pure_eq_ok.1 h, ← pure_eq_ok.1 h']
  exact ⟨rfl, hkeys, hkeys'⟩

/-- **The schemas of a model against two sets of tables** differ in the foreign keys of its table at
most, and there in the tables referred to. -/
theorem schema_eq_ok {statements statements' : List SchemaStatement}
    (h : m.schema known.toMapping = .ok statements)
    (h' : m.schema known'.toMapping = .ok statements') :
    ∃ (t : CreateTable) (ks : List ForeignKey) (rest : List SchemaStatement),
      statements = .createTable t :: rest ∧
      statements' = .createTable { t with foreignKeys := ks } :: rest ∧
      t.foreignKeys.map (·.table) = m.references.map (·.tableIn known) ∧
      ks.map (·.table) = m.references.map (·.tableIn known') ∧
      List.Forall₂ (fun k k' => k' = { k with table := k'.table }) t.foreignKeys ks := by
  obtain ⟨t, ht, h⟩ := bind_eq_ok.1 h
  obtain ⟨indexes, hindexes, h⟩ := bind_eq_ok.1 h
  obtain ⟨triggers, htriggers, h⟩ := bind_eq_ok.1 h
  obtain ⟨views, hviews, h⟩ := bind_eq_ok.1 h
  obtain ⟨t', ht', h'⟩ := bind_eq_ok.1 h'
  rw [ok_bind hindexes, ok_bind htriggers, ok_bind hviews] at h'
  obtain ⟨hshape, hkeys, hkeys'⟩ := createTable_eq_ok ht ht'
  obtain ⟨htables, htables', hrelated⟩ := foreignKeys_eq_ok hkeys hkeys'
  refine ⟨t, t'.foreignKeys, _, (pure_eq_ok.1 h).symm, ?_, htables, htables', hrelated⟩
  rw [← hshape]
  exact (pure_eq_ok.1 h').symm

end ResolvedModel

end Tablewright
