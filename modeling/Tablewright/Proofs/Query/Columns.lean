import Tablewright.Proofs.Query.Refusal

/-!
# Columns of statements

A statement about the table of a model that has columns stands on columns of the model only, and a
request that names anything else gives none (`ResolvedModel.columns_of_statement`). A table that
knows no column lets any name through, a selection by primary key takes the primary key as it is,
and a part of a request that cannot be read may be met before an unknown column is
(`not_columns_of_requests`).
-/

namespace Tablewright

open Fallible

namespace ResolvedModel

variable {source : DefinitionSource} {m : ResolvedModel} {kind : RequestKind} {a : Named Value}
  {s : RowStatement} {v : Value}

/-- A value names a column of the model. -/
def NamesColumn (m : ResolvedModel) (v : Value) : Prop :=
  ∃ c ∈ m.columnNames, v.text? = some c

/-- Where a request leads to a column of the model, whatever it names. -/
theorem mem_columnNames_of_leadsTo (hm : source.resolve = .ok m)
    (hnamed : ∀ v ∈ kind.named m.queryTable a, m.NamesColumn v)
    (hkey : kind = .selectByKey → m.primaryKey ∈ m.columnNames) {c : String}
    (h : kind.LeadsTo m.queryTable a c) : c ∈ m.columnNames := by
  rcases h with ⟨v, hv, rfl⟩ | ⟨hkind, rfl⟩ | hdeleted
  · obtain ⟨c, hc, htext⟩ := hnamed v hv
    rw [Value.display_of_text? htext]
    exact hc
  · exact hkey hkind
  · obtain ⟨d, name, table, -, hd⟩ := DefinitionSource.exists_resolveWith hm
    exact (ModelDefinition.wellFormed_of_resolveWith hd).deletedAt_mem hdeleted

/-- What a request names that gives a statement are columns of the model. -/
theorem namesColumn_of_statement (hcolumns : m.columnNames ≠ [])
    (h : kind.statement m.queryTable a = .ok s) :
    ∀ v ∈ kind.named m.queryTable a, m.NamesColumn v :=
  fun v hv => (known_iff hcolumns).1 ((Compiled.of_statement h).known v hv)

/-- **A statement stands on columns of the model, and a request that names anything else gives
none**: it is refused, as far as its parts can be read. -/
theorem columns_of_statement (hm : source.resolve = .ok m) (hcolumns : m.columnNames ≠ [])
    (kind : RequestKind) (a : Named Value) :
    (∀ s, kind.statement m.queryTable a = .ok s →
      s.sql.toList = layOut s.pieces ∧
      (∀ v ∈ kind.named m.queryTable a, m.NamesColumn v) ∧
      ((kind = .selectByKey → m.primaryKey ∈ m.columnNames) → ∀ c ∈ s.columns, c ∈ m.columnNames)) ∧
    ∀ v ∈ kind.named m.queryTable a, ¬ m.NamesColumn v →
      ∃ f, kind.statement m.queryTable a = .error f ∧ (kind.Readable a → f.IsIssue) := by
  constructor
  · intro s hs
    have hnamed := namesColumn_of_statement hcolumns hs
    refine ⟨s.toList_sql, hnamed, fun hkey c hc => ?_⟩
    exact mem_columnNames_of_leadsTo hm hnamed hkey
      ((Compiled.of_statement hs).columns c (s.columns_subset hc))
  · intro v hv hunknown
    cases hs : kind.statement m.queryTable a with
    | ok s => exact absurd (namesColumn_of_statement hcolumns hs v hv) hunknown
    | error f =>
      refine ⟨f, rfl, fun hreadable => RequestKind.refuses_statement ?_ hreadable f hs⟩
      intro w hw
      obtain ⟨c, -, htext⟩ := (known_iff hcolumns).1 hw
      exact ⟨c, htext⟩

end ResolvedModel

/-- A request for the rows that have a value in a column. -/
def rowsWith (column : String) : Named Value :=
  [("where", .dict [(.str column, .int 1)])]

/-- All parts of such a request can be read. -/
theorem readable_rowsWith (column : String) : RequestKind.select.Readable (rowsWith column) where
  condition :=
    { answers := rfl
      mapping := fun _ => ⟨_, rfl⟩
      keys := List.forall_mem_singleton.2 ⟨_, Value.memberKey_of_text? rfl⟩
      stored := List.forall_mem_singleton.2 ⟨_, rfl⟩ }
  values := .of_not_truthy rfl rfl
  updated := nofun
  deltas := .of_not_truthy rfl rfl
  expressions := (Value.IsStorable.of_not_truthy rfl rfl).toIsMapping
  order := .of_not_truthy rfl rfl
  conflict := .of_not_truthy rfl rfl
  limit := ⟨_, rfl⟩
  offset := ⟨_, rfl⟩
  withDeleted := rfl
  orIgnore := rfl
  key := ⟨_, rfl⟩
  function := nofun
  star := by
    change ∃ b, Value.null.equals (.str "*") = .ok b
    simp only [Value.equals, Value.isTensor, Bool.or_self, Bool.false_eq_true, if_false]
    exact ⟨_, rfl⟩
  column := ⟨_, rfl⟩

/-- What a model and the statement of a request to its table stand on, where both are known. -/
theorem exists_of_columns_eq (source : DefinitionSource) (kind : RequestKind) (a : Named Value)
    (columns names : List String)
    (h : (do
      let m ← source.resolve
      let s ← kind.statement m.queryTable a
      pure (s.columns, m.columnNames)).toOption = some (columns, names)) :
    ∃ m s, source.resolve = .ok m ∧ kind.statement m.queryTable a = .ok s ∧
      s.columns = columns ∧ m.columnNames = names := by
  obtain ⟨m, hm, hrest⟩ := bind_eq_ok.1 (eq_ok_of_toOption h)
  obtain ⟨s, hs, hrest⟩ := bind_eq_ok.1 hrest
  obtain ⟨hcolumns, hnames⟩ := Prod.mk.inj (pure_eq_ok.1 hrest)
  exact ⟨m, s, hm, hs, hcolumns, hnames⟩

/-- The tasks of a title can be asked for, and those of a ghost are refused. -/
theorem columns_of_taskRows :
    ∃ m s f, (DefinitionSource.built taskDefinition).resolve = .ok m ∧ m.columnNames ≠ [] ∧
      RequestKind.select.statement m.queryTable (rowsWith "title") = .ok s ∧
      (∀ c ∈ s.columns, c ∈ m.columnNames) ∧ ¬ m.NamesColumn (.str "ghost") ∧
      RequestKind.select.statement m.queryTable (rowsWith "ghost") = .error f ∧ f.IsIssue := by
  obtain ⟨m, s, hm, hs, -, hnames⟩ := exists_of_columns_eq (.built taskDefinition) .select
    (rowsWith "title") ["deleted_at", "title", "title"]
    ["id", "due_at", "title", "created_at", "updated_at", "deleted_at", "Revision"]
    (by decide +kernel)
  have hcolumns : m.columnNames ≠ [] := by
    rw [hnames]
    exact List.cons_ne_nil _ _
  have hunknown : ¬ m.NamesColumn (.str "ghost") := by
    rintro ⟨c, hc, htext⟩
    rw [hnames, ← Option.some_inj.1 htext] at hc
    exact absurd hc (by decide)
  obtain ⟨f, hf, hissue⟩ := (ResolvedModel.columns_of_statement hm hcolumns .select
    (rowsWith "ghost")).2 (.str "ghost") (List.mem_singleton.2 rfl) hunknown
  exact ⟨m, s, f, hm, hcolumns, hs,
    ((ResolvedModel.columns_of_statement hm hcolumns .select (rowsWith "title")).1 s hs).2.2 nofun,
    hunknown, hf, hissue (readable_rowsWith "ghost")⟩

/-! ## Where other names get through -/

/-- A model whose key is declared by a constraint, with the columns that are declared. -/
def keyedDefinition (columns : List String) : ModelDefinition :=
  { name := .str "Link"
    timestamps := .bool false
    columns := columns.map fun c => (.str c, { type := .str "INTEGER" })
    constraints := [{ type := .str "primary_key", columns := .ofTexts columns }] }

/-- **Other names get through** where the model has no columns, and where rows are asked for by a
primary key that is no column; and a value that cannot be stored is met before an unknown column
behind it. -/
theorem not_columns_of_requests :
    (∃ m s, (DefinitionSource.built (keyedDefinition [])).resolve = .ok m ∧
      RequestKind.select.statement m.queryTable (rowsWith "ghost") = .ok s ∧
      "ghost" ∈ s.columns ∧ "ghost" ∉ m.columnNames) ∧
    (∃ m s, (DefinitionSource.built (keyedDefinition ["a", "b"])).resolve = .ok m ∧
      RequestKind.selectByKey.statement m.queryTable [("value", .int 1)] = .ok s ∧
      "id" ∈ s.columns ∧ "id" ∉ m.columnNames) ∧
    ∃ m f, (DefinitionSource.built (keyedDefinition ["a", "b"])).resolve = .ok m ∧
      RequestKind.select.statement m.queryTable
        [("where", .dict [(.str "a", .dict [(.tuple [.int 1], .int 2)]), (.str "ghost", .int 1)])] =
        .error f ∧ ¬ f.IsIssue := by
  refine ⟨?_, ?_, ?_⟩
  · obtain ⟨m, s, hm, hs, hcolumns, hnames⟩ := exists_of_columns_eq (.built (keyedDefinition []))
      .select (rowsWith "ghost") ["ghost", "ghost"] [] (by decide +kernel)
    exact ⟨m, s, hm, hs, hcolumns ▸ List.mem_cons_self, hnames ▸ List.not_mem_nil⟩
  · obtain ⟨m, s, hm, hs, hcolumns, hnames⟩ := exists_of_columns_eq
      (.built (keyedDefinition ["a", "b"])) .selectByKey [("value", .int 1)] ["id", "id"]
      ["a", "b"] (by decide +kernel)
    exact ⟨m, s, hm, hs, hcolumns ▸ List.mem_cons_self, hnames ▸ by decide⟩
  · have hrun : (do
        let m ← (DefinitionSource.built (keyedDefinition ["a", "b"])).resolve
        pure (match RequestKind.select.statement m.queryTable
            [("where",
              .dict [(.str "a", .dict [(.tuple [.int 1], .int 2)]), (.str "ghost", .int 1)])] with
          | .error (.misuse _) => true
          | _ => false)).toOption = some true := by
      decide +kernel
    obtain ⟨m, hm, hrest⟩ := bind_eq_ok.1 (eq_ok_of_toOption hrun)
    have hmisuse := pure_eq_ok.1 hrest
    split at hmisuse
    · rename_i misuse hf
      exact ⟨m, .misuse misuse, hm, hf, fun ⟨issue, hissue⟩ => nomatch hissue⟩
    · cases hmisuse

end Tablewright
