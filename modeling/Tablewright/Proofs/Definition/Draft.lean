import Tablewright.Proofs.Definition.Built
import Tablewright.Proofs.Identifier
import Tablewright.Proofs.Named

/-!
# Early and late building

A literal has its parts built at once; in a draft they wait until the names of the model are
settled. A literal that gives the parts under their own names, each in the form of the part
(`Mapping.IsPlain`), has the very fields that a draft of it has. So both are built from the same
values, and it makes no difference when (`Mapping.IsPlain.resolve_iff`).
-/

namespace Tablewright

open Fallible

variable {m : Mapping} {fields : Named Value} {d : ModelDefinition} {draft : ModelDraft}
  {r : ResolvedModel}

/-! ## Keys that are names of parts -/

/-- The names of the parts of which there may be several. -/
def ModelDefinition.listNames : List String :=
  ["relationships", "indexes", "constraints", "triggers", "views"]

/-- What a definition is built from is the items of these parts. -/
theorem ModelDefinition.BuiltFrom.of_items {columns : Except Fault Mapping}
    {items items' : String → Except Fault (List Value)} (h : d.BuiltFrom columns items)
    (hsame : ∀ name ∈ listNames, items name = items' name) : d.BuiltFrom columns items' where
  columns := h.columns
  relationships := hsame "relationships" (by decide) ▸ h.relationships
  indexes := hsame "indexes" (by decide) ▸ h.indexes
  constraints := hsame "constraints" (by decide) ▸ h.constraints
  triggers := hsame "triggers" (by decide) ▸ h.triggers
  views := hsame "views" (by decide) ▸ h.views

/-- A literal that gives parts of a model under their own names: the columns as a mapping, what
there may be several of as a list, and no hooks. -/
structure Mapping.IsPlain (m : Mapping) : Prop where
  /-- Every key is the name of a part other than the hooks. -/
  named : ∀ e ∈ m, ∃ name ∈ ModelDefinition.fieldNames, e.1.text? = some name ∧ name ≠ "hooks"
  /-- No name is given twice. -/
  apart : m.Pairwise fun e e' => e.1.text? ≠ e'.1.text?
  /-- The columns are a mapping. -/
  columns : ∀ e ∈ m, e.1.text? = some "columns" → ∃ entries, e.2 = .dict entries
  /-- What there may be several of is a list. -/
  lists : ∀ e ∈ m, ∀ name ∈ ModelDefinition.listNames, e.1.text? = some name →
    ∃ items, e.2 = .list items

/-- The fields of a model that a plain literal gives. -/
structure PlainFields (fields : Named Value) : Prop where
  /-- They are fields of a model, but not its hooks. -/
  known : ∀ name ∈ fields.names, name ∈ ModelDefinition.fieldNames ∧ name ≠ "hooks"
  /-- None is given twice. -/
  nodup : fields.names.Nodup
  /-- The columns are a mapping. -/
  columns : ∀ v, fields.get? "columns" = some v → ∃ entries, v = .dict entries
  /-- What there may be several of is a list. -/
  lists : ∀ name ∈ ModelDefinition.listNames, ∀ v, fields.get? name = some v →
    ∃ items, v = .list items

/-- An entry of a mapping, under the text that is its key. -/
def readField (e : Value × Value) : Except Fault (String × Value) := do
  pure (← e.1.asText, e.2)

/-- The entries of a mapping, under the texts that are its keys. -/
def Mapping.readFields (m : Mapping) : Except Fault (Named Value) :=
  m.mapM readField

theorem readField_eq_ok {e : Value × Value} {f : String × Value} :
    readField e = .ok f ↔ e.1.text? = some f.1 ∧ e.2 = f.2 := by
  obtain ⟨name, v⟩ := f
  simp only [readField, bind_eq_ok, pure_eq_ok, Value.asText_eq_ok, Prod.mk.injEq]
  constructor
  · rintro ⟨name', htext, rfl, hv⟩
    exact ⟨htext, hv⟩
  · rintro ⟨htext, hv⟩
    exact ⟨name, htext, rfl, hv⟩

/-- **A plain literal gives plain fields.** -/
theorem Mapping.IsPlain.exists_fields (h : m.IsPlain) :
    ∃ fields, m.readFields = .ok fields ∧ PlainFields fields := by
  obtain ⟨fields, hfields⟩ : ∃ fields, m.readFields = .ok fields := by
    refine exists_mapM_eq_ok.2 fun e he => ?_
    obtain ⟨name, -, htext, -⟩ := h.named e he
    exact ⟨(name, e.2), readField_eq_ok.2 ⟨htext, rfl⟩⟩
  -- a field comes from an entry with its name as key
  have hfrom : ∀ f ∈ fields, ∃ e ∈ m, e.1.text? = some f.1 ∧ e.2 = f.2 := by
    intro f hf
    obtain ⟨e, he, hread⟩ := exists_of_mem_mapM hfields hf
    exact ⟨e, he, readField_eq_ok.1 hread⟩
  refine ⟨fields, hfields, ?_, ?_, ?_, ?_⟩
  · intro name hname
    obtain ⟨f, hf, rfl⟩ := List.mem_map.1 hname
    obtain ⟨e, he, htext, -⟩ := hfrom f hf
    obtain ⟨name, hknown, hname, hhooks⟩ := h.named e he
    obtain rfl := Option.some.inj (htext.symm.trans hname)
    exact ⟨hknown, hhooks⟩
  · refine List.pairwise_map.2 (pairwise_of_mapM ?_ hfields h.apart)
    intro e e' f f' hf hf' hne heq
    rw [(readField_eq_ok.1 hf).1, (readField_eq_ok.1 hf').1] at hne
    exact hne (congrArg some heq)
  · intro v hv
    obtain ⟨e, he, htext, rfl⟩ := hfrom _ (Named.mem_of_get? hv)
    exact h.columns e he htext
  · intro name hname v hv
    obtain ⟨e, he, htext, rfl⟩ := hfrom _ (Named.mem_of_get? hv)
    exact h.lists e he name hname htext

/-! ## The fields of a literal -/

/-- The names of the parts are in snake case: they are identifiers without capital letters. -/
theorem snakeCase_of_mem_fieldNames {name : String} (h : name ∈ ModelDefinition.fieldNames) :
    snakeCase name = name := by
  have hnames : ∀ name ∈ ModelDefinition.fieldNames,
      isIdentifier name = true ∧ name.toList.all (fun c => !c.isUpper) = true := by
    decide +kernel
  obtain ⟨hid, hsmall⟩ := hnames name h
  refine snakeCase_eq_self hid fun c hc => ?_
  simpa using List.all_eq_true.1 hsmall c hc

/-- Keys in snake case are left as they are. -/
theorem snakeKeys_of_readFields (hread : m.readFields = .ok fields) (hnd : fields.names.Nodup)
    (hsnake : ∀ name ∈ fields.names, snakeCase name = name) :
    snakeKeys (.dict m) = .ok fields := by
  have hpairs : m.mapM (fun e => do pure (snakeCase (← e.1.asText), e.2)) = .ok fields := by
    have hmap : fields.map (fun f => (snakeCase f.1, f.2)) = fields := by
      refine (List.map_congr_left fun f hf => ?_).trans (List.map_id fields)
      exact Prod.ext (hsnake f.1 (List.mem_map_of_mem hf)) rfl
    rw [← hmap]
    refine mapM_eq_ok_map (fun e f hf => ?_) hread
    rw [ok_bind (Value.asText_eq_ok.2 (readField_eq_ok.1 hf).1), (readField_eq_ok.1 hf).2]
    rfl
  exact (ok_bind hpairs _).trans (congrArg _ (Named.ofPairs_eq_self hnd))

namespace PlainFields

/-- A plain literal has no options and uses no other library's words. -/
theorem not_mem (h : PlainFields fields) {name : String}
    (hname : name ∉ ModelDefinition.fieldNames ∨ name = "hooks") : name ∉ fields.names :=
  fun hmem => hname.elim (· (h.known name hmem).1) (h.known name hmem).2

/-- **Its fields are those that its keys name.** -/
theorem canonical_eq_ok (h : PlainFields fields) (hread : m.readFields = .ok fields) :
    ModelDefinition.canonical (.dict m) = .ok fields := by
  have hsnake := snakeKeys_of_readFields hread h.nodup fun name hname =>
    snakeCase_of_mem_fieldNames (h.known name hname).1
  have hoptions : "options" ∉ fields.names := h.not_mem (.inl (by decide))
  have hattributes : "attributes" ∉ fields.names := h.not_mem (.inl (by decide))
  have hparanoid : "paranoid" ∉ fields.names := h.not_mem (.inl (by decide))
  have hempty : (Named.getOr fields "options" .null).orEmptyMapping = .ok (.dict []) := by
    rw [Named.getOr, Named.get?_of_not_mem hoptions]
    rfl
  have hunion : Named.union [] (fields.erase "options") = fields := by
    rw [Named.erase_of_not_mem hoptions]
    exact Named.ofPairs_eq_self h.nodup
  -- there are no options to merge, and nothing is moved
  have hnone : snakeKeys (.dict []) = .ok [] := rfl
  unfold ModelDefinition.canonical
  rw [ok_bind hsnake, ok_bind hempty, ok_bind hnone, hunion]
  exact congrArg Except.ok ((congrArg (Named.rename · "paranoid" "soft_delete")
    (Named.rename_of_not_mem hattributes)).trans (Named.rename_of_not_mem hparanoid))

/-! ## The same parts -/

/-- The columns of a literal are those of a draft: what stands for none there is none here. -/
theorem columns_eq (h : PlainFields fields) :
    (do (← (fields.getOr "columns" .null).orEmptyMapping).entries) =
      (fields.getOr "columns" (.dict [])).entries := by
  rw [Named.getOr, Named.getOr]
  cases hv : fields.get? "columns" with
  | none => rfl
  | some v =>
    obtain ⟨entries, rfl⟩ := h.columns v hv
    cases entries <;> rfl

/-- So are the items of its lists. -/
theorem items_eq (h : PlainFields fields) {name : String}
    (hname : name ∈ ModelDefinition.listNames) :
    (do (← (fields.getOr name .null).orEmptyList).items) =
      (fields.getOr name (.list [])).items := by
  rw [Named.getOr, Named.getOr]
  cases hv : fields.get? name with
  | none => rfl
  | some v =>
    obtain ⟨items, rfl⟩ := h.lists name hname v hv
    cases items <;> rfl

/-- The draft that the fields make with settings that were read from them. -/
def toDraft (fields : Named Value) (settings : ModelSettings) : ModelDraft :=
  { settings with
    columns := fields.getOr "columns" (.dict [])
    relationships := fields.getOr "relationships" (.list [])
    indexes := fields.getOr "indexes" (.list [])
    constraints := fields.getOr "constraints" (.list [])
    triggers := fields.getOr "triggers" (.list [])
    views := fields.getOr "views" (.list []) }

/-- A draft refuses none of the fields. -/
theorem ofMapping_eq (h : PlainFields fields) (hread : m.readFields = .ok fields) :
    ModelDraft.ofMapping m = toDraft fields <$> ModelSettings.ofFields fields := by
  have hknown : onlyKnown ModelDefinition.fieldNames fields = .ok () := by
    refine if_pos (List.all_eq_true.2 fun name hname => ?_)
    exact List.contains_iff_mem.2 (h.known name hname).1
  have hhooks : fields.getOr "hooks" (HookLists.toValue {}) = HookLists.toValue {} := by
    rw [Named.getOr, Named.get?_of_not_mem (h.not_mem (.inr rfl))]
    rfl
  have hfields : ModelDraft.ofMapping m = ModelDraft.ofFields fields := ok_bind hread _
  rw [hfields, ModelDraft.ofFields, ok_bind hknown]
  cases ModelSettings.ofFields fields with
  | error e => rfl
  | ok settings =>
    exact congrArg (fun hooks => Except.ok { toDraft fields settings with hooks }) hhooks

/-- The draft has the lists of the fields. -/
theorem getOr_toDraft {name : String} (hname : name ∈ ModelDefinition.listNames)
    (settings : ModelSettings) :
    (toDraft fields settings).toFields.getOr name .null = fields.getOr name (.list []) := by
  simp only [ModelDefinition.listNames, List.mem_cons, List.not_mem_nil, or_false] at hname
  rcases hname with rfl | rfl | rfl | rfl | rfl <;> rfl

/-- **A literal and a draft that have the same fields are built alike.** -/
theorem ofLiteral_eq_ok_iff (h : PlainFields fields) (hread : m.readFields = .ok fields) :
    ModelDefinition.ofLiteral (.dict m) = .ok d ↔
      ∃ draft, ModelDraft.ofMapping m = .ok draft ∧ draft.build = .ok d := by
  have hnone : fields.get? "hooks" = none := Named.get?_of_not_mem (h.not_mem (.inr rfl))
  have hitems : ∀ settings, ∀ name ∈ ModelDefinition.listNames,
      (do (← (fields.getOr name .null).orEmptyList).items) =
        ((toDraft fields settings).toFields.getOr name .null).items := fun settings name hname =>
    (h.items_eq hname).trans (congrArg _ (getOr_toDraft hname settings).symm)
  rw [ModelDefinition.ofLiteral_eq_ok, h.canonical_eq_ok hread, h.ofMapping_eq hread]
  simp only [Except.ok.injEq, exists_eq_left', map_eq_ok, exists_exists_and_eq_and,
    ModelDraft.build_eq_ok, hnone, h.columns_eq]
  constructor
  · rintro ⟨hbuilt, hhooks, hsettings⟩
    exact ⟨_, hsettings, hbuilt.of_items (hitems _), Except.ok.inj hhooks, rfl⟩
  · rintro ⟨settings, hsettings, hbuilt, hhooks, hsame⟩
    obtain rfl : settings = d.toModelSettings := hsame
    exact ⟨hbuilt.of_items fun name hname => (hitems _ name hname).symm, congrArg _ hhooks,
      hsettings⟩

end PlainFields

/-! ## The same models -/

/-- It makes no difference to a draft whether its names or its parts come first. -/
theorem ModelDraft.resolve_eq_ok :
    draft.resolve = .ok r ↔ ∃ d, draft.build = .ok d ∧ d.resolve = .ok r := by
  constructor
  · intro h
    obtain ⟨names, hnames, h⟩ := bind_eq_ok.1 h
    obtain ⟨d, hbuild, h⟩ := bind_eq_ok.1 h
    refine ⟨d, hbuild, bind_eq_ok.2 ⟨names, ?_, h⟩⟩
    rwa [toModelSettings_of_build hbuild]
  · rintro ⟨d, hbuild, h⟩
    obtain ⟨names, hnames, h⟩ := bind_eq_ok.1 h
    rw [toModelSettings_of_build hbuild] at hnames
    exact bind_eq_ok.2 ⟨names, hnames, bind_eq_ok.2 ⟨d, hbuild, h⟩⟩

namespace Mapping

/-- The model of a literal whose parts are built when it is read. -/
def resolveEarly (m : Mapping) : Except Fault ResolvedModel := do
  (DefinitionSource.built (← ModelDefinition.ofLiteral (.dict m))).resolve

/-- The same with the parts built once more when the definition is resolved. -/
def resolveTwice (m : Mapping) : Except Fault ResolvedModel := do
  (DefinitionSource.draft (← ModelDefinition.ofLiteral (.dict m)).toDraft).resolve

/-- The model of a literal whose parts are built when it is resolved. -/
def resolveLate (m : Mapping) : Except Fault ResolvedModel := do
  (DefinitionSource.draft (← ModelDraft.ofMapping m)).resolve

/-- Built parts may be built again. -/
theorem resolveTwice_eq_ok : m.resolveTwice = .ok r ↔ m.resolveEarly = .ok r := by
  refine bind_eq_ok.trans (Iff.trans ?_ bind_eq_ok.symm)
  refine exists_congr fun d => and_congr_right fun hd => Iff.of_eq (congrArg (· = _) ?_)
  exact ModelDefinition.resolve_toDraft (ModelDefinition.proper_of_ofLiteral hd)

/-- **It makes no difference when the parts are built.** A plain literal whose parts are built when
it is read resolves to a model exactly if it does with its parts built when it is resolved, and then
to the same one. -/
theorem IsPlain.resolve_iff (h : m.IsPlain) (r : ResolvedModel) :
    (m.resolveEarly = .ok r ↔ m.resolveLate = .ok r) ∧
      (m.resolveTwice = .ok r ↔ m.resolveLate = .ok r) := by
  obtain ⟨fields, hread, hfields⟩ := h.exists_fields
  have hbuilt : m.resolveEarly = .ok r ↔ m.resolveLate = .ok r := by
    simp only [resolveEarly, resolveLate, bind_eq_ok, DefinitionSource.resolve,
      ModelDraft.resolve_eq_ok, hfields.ofLiteral_eq_ok_iff hread]
    constructor
    · rintro ⟨d, ⟨draft, hdraft, hd⟩, hr⟩
      exact ⟨draft, hdraft, d, hd, hr⟩
    · rintro ⟨draft, hdraft, d, hd, hr⟩
      exact ⟨d, ⟨draft, hdraft, hd⟩, hr⟩
  exact ⟨hbuilt, resolveTwice_eq_ok.trans hbuilt⟩

end Mapping

/-- A literal with parts of several kinds, each in another form. -/
def ledgerLiteral : Mapping :=
  [(.str "name", .str "Ledger"), (.str "underscored", .bool true),
    (.str "columns", .dict
      [(.str "bookedOn", .str "DATE"),
        (.str "amount", .dict [(.str "type", .str "REAL"), (.str "defaultValue", .int 0)]),
        (.str "note", ({ collate := .str "NOCASE" } : Column).toValue)]),
    (.str "relationships", .list [.dict
      [(.str "type", .str "belongsTo"), (.str "targetModel", .str "Account")]]),
    (.str "indexes", .list [.dict [(.str "columns", .list
      [.str "bookedOn", .dict [(.str "name", .str "amount"), (.str "order", .str "DESC")]])]]),
    (.str "soft_delete", .bool true)]

theorem isPlain_ledgerLiteral : ledgerLiteral.IsPlain where
  named := by decide
  apart := by decide
  columns := by simp [ledgerLiteral, Value.text?]
  lists := by simp [ledgerLiteral, Value.text?, ModelDefinition.listNames]

/-- **Built early or late, it is the same model.** -/
theorem resolve_iff_ledger : ledgerLiteral.IsPlain ∧
    ∃ m : ResolvedModel, ledgerLiteral.resolveLate = .ok m ∧
      m.columnNames =
        ["id", "booked_on", "amount", "note", "created_at", "updated_at", "deleted_at"] ∧
      ledgerLiteral.resolveEarly = .ok m ∧ ledgerLiteral.resolveTwice = .ok m := by
  have hdecided : (do pure (← ledgerLiteral.resolveLate).columnNames : Except Fault _).toOption =
      some ["id", "booked_on", "amount", "note", "created_at", "updated_at", "deleted_at"] := by
    decide +kernel
  obtain ⟨m, hm, hcolumns⟩ := bind_eq_ok.1 (eq_ok_of_toOption hdecided)
  obtain ⟨hearly, htwice⟩ := isPlain_ledgerLiteral.resolve_iff m
  exact ⟨isPlain_ledgerLiteral, m, hm, pure_eq_ok.1 hcolumns, hearly.2 hm, htwice.2 hm⟩

end Tablewright
