import Tablewright.Proofs.Definition.Built
import Tablewright.Proofs.Named

/-!
# Spellings of keys

Wherever a key of a literal is the name of a part, it is put into snake case before anything is
looked up by it. What a literal gives is therefore the same however these keys are spelled, at all
levels at once (`ModelDefinition.ofLiteral_eq_of_spelled`). The names of columns are no such keys,
nor are the keys in a reference or a rule.
-/

namespace Tablewright

open Fallible

variable {R : String → Value → Value → Prop} {v w a b : Value}

/-! ## Two spellings of a literal -/

/-- Two entries of a mapping that are the same, or are the same but for the spelling: the keys have
one form in snake case, and the values are related in the way of that form. -/
inductive SpelledEntry (R : String → Value → Value → Prop) : Value × Value → Value × Value → Prop
  | same (e : Value × Value) : SpelledEntry R e e
  | key {k k' v v' : Value} {s s' name : String} (hk : k.text? = some s)
      (hk' : k'.text? = some s') (hs : snakeCase s = name) (hs' : snakeCase s' = name)
      (hv : R name v v') : SpelledEntry R (k, v) (k', v')

/-- Two mappings that are the same but for the spelling of their keys, and in the values as these
are related. -/
inductive Spelled (R : String → Value → Value → Prop) : Value → Value → Prop
  | same (v : Value) : Spelled R v v
  | dict {m m' : Mapping} (h : List.Forall₂ (SpelledEntry R) m m') :
      Spelled R (.dict m) (.dict m')

/-- Two sequences of related items. -/
inductive SpelledItems (R : Value → Value → Prop) : Value → Value → Prop
  | same (v : Value) : SpelledItems R v v
  | list {xs ys : List Value} (h : List.Forall₂ R xs ys) : SpelledItems R (.list xs) (.list ys)
  | tuple {xs ys : List Value} (h : List.Forall₂ R xs ys) : SpelledItems R (.tuple xs) (.tuple ys)

/-- Two spellings of a part without parts: a column, a relationship, a term of an index, a
constraint, a trigger, a view, or the hooks. -/
def SpelledPart : Value → Value → Prop :=
  Spelled fun _ => Eq

/-- Two spellings of the columns; the names of the columns stay as they are. -/
inductive SpelledColumns : Value → Value → Prop
  | same (v : Value) : SpelledColumns v v
  | dict {m m' : Mapping} (h : List.Forall₂ (fun e e' => e.1 = e'.1 ∧ SpelledPart e.2 e'.2) m m') :
      SpelledColumns (.dict m) (.dict m')

/-- Two spellings of what an index has under a name. -/
def indexSpelling : String → Value → Value → Prop
  | "fields" | "columns" => SpelledItems SpelledPart
  | _ => Eq

/-- Two spellings of what a model has under a name. -/
def modelSpelling : String → Value → Value → Prop
  | "columns" | "attributes" => SpelledColumns
  | "relationships" | "constraints" | "triggers" | "views" => SpelledItems SpelledPart
  | "indexes" => SpelledItems (Spelled indexSpelling)
  | "hooks" => SpelledPart
  | _ => Eq

/-- Two spellings of what a literal has under a name: its options have what a model has. -/
def literalSpelling : String → Value → Value → Prop
  | "options" => Spelled modelSpelling
  | name => modelSpelling name

/-- Two spellings of a literal. -/
def SpelledLiteral : Value → Value → Prop :=
  Spelled literalSpelling

/-! ## What is the same -/

theorem indexSpelling_refl (name : String) (v : Value) : indexSpelling name v v := by
  unfold indexSpelling
  split
  · exact .same v
  · exact .same v
  · exact rfl

theorem modelSpelling_refl (name : String) (v : Value) : modelSpelling name v v := by
  unfold modelSpelling
  split
  case h_9 => exact rfl
  all_goals exact .same v

theorem literalSpelling_refl (name : String) (v : Value) : literalSpelling name v v := by
  unfold literalSpelling
  split
  · exact .same v
  · exact modelSpelling_refl name v

/-- Apart from its options, a literal has what a model has. -/
theorem literalSpelling_eq {name : String} (h : name ≠ "options") :
    literalSpelling name = modelSpelling name := by
  unfold literalSpelling
  split
  · exact absurd rfl h
  · rfl

/-! ## Lookups -/

/-- **The entries under their keys in snake case are related**, or the keys are refused alike. -/
theorem Spelled.snakeKeys_agree (h : Spelled R v w) (hR : ∀ name v, R name v v) :
    Agree (Named.Related R) (snakeKeys v) (snakeKeys w) := by
  cases h with
  | same => exact Agree.refl (Named.Related.refl hR) _
  | dict h =>
    refine Agree.bind (R := Named.Related R) (Agree.mapM (h.imp fun e e' he => ?_))
      fun _ _ hpairs => .ok hpairs.ofPairs
    -- what is no text is refused on both sides, for such a key is in no other spelling
    cases he with
    | same => exact Agree.refl (fun f => ⟨rfl, hR f.1 f.2⟩) _
    | key hk hk' hs hs' hv =>
      subst hs
      simp only [Value.asText, hk, hk']
      exact .ok ⟨hs'.symm, hv⟩

/-- Where only the keys may differ, nothing does. -/
theorem SpelledPart.snakeKeys_eq (h : SpelledPart v w) : snakeKeys v = snakeKeys w :=
  Agree.eq ((h.snakeKeys_agree fun _ _ => rfl).imp fun _ _ => Named.Related.eq)

/-- One of two values is as good as absent exactly if the other is. -/
theorem Spelled.truth_eq (h : Spelled R v w) : v.truth = w.truth := by
  cases h with
  | same => rfl
  | dict h => cases h <;> rfl

theorem SpelledItems.truth_eq {R : Value → Value → Prop} (h : SpelledItems R v w) :
    v.truth = w.truth := by
  cases h with
  | same => rfl
  | list h => cases h <;> rfl
  | tuple h => cases h <;> rfl

theorem SpelledColumns.truth_eq (h : SpelledColumns v w) : v.truth = w.truth := by
  cases h with
  | same => rfl
  | dict h => cases h <;> rfl

/-- The first of two values or the second, in both spellings. -/
theorem agree_orElse {R : Value → Value → Prop} (htruth : v.truth = w.truth) (h : R v w)
    (hab : R a b) : Agree R (v.orElse a) (w.orElse b) := by
  refine Agree.bind (Agree.of_eq htruth) fun first _ hfirst => ?_
  rw [← hfirst]
  cases first with
  | true => exact .ok h
  | false => exact .ok hab

/-- The items are related one by one. -/
theorem SpelledItems.items_agree {R : Value → Value → Prop} (h : SpelledItems R v w)
    (hR : ∀ v, R v v) : Agree (List.Forall₂ R) v.items w.items := by
  cases h with
  | same => exact Agree.refl (fun xs => List.forall₂_same.2 fun x _ => hR x) _
  | list h => exact .ok h
  | tuple h => exact .ok h

theorem SpelledColumns.entries_agree (h : SpelledColumns v w) :
    Agree (List.Forall₂ fun e e' => e.1 = e'.1 ∧ SpelledPart e.2 e'.2) v.entries w.entries := by
  cases h with
  | same =>
    exact Agree.refl (fun m => List.forall₂_same.2 fun e _ => ⟨rfl, .same e.2⟩) _
  | dict h => exact .ok h

/-- What is made of the items, of which there may be none. -/
theorem SpelledItems.mapM_eq {α : Type} {R : Value → Value → Prop} {f : Value → Except Fault α}
    (h : SpelledItems R v w) (hR : ∀ v, R v v) (hf : ∀ v w, R v w → f v = f w) :
    (v.orEmptyList >>= Value.items >>= List.mapM f) =
      (w.orEmptyList >>= Value.items >>= List.mapM f) := by
  have hitems : Agree (List.Forall₂ R) (v.orEmptyList >>= Value.items)
      (w.orEmptyList >>= Value.items) :=
    (agree_orElse h.truth_eq h (.same _)).bind fun _ _ hgiven => hgiven.items_agree hR
  exact Agree.eq (hitems.bind fun _ _ hxs => Agree.of_eq (mapM_eq_of_forall₂ (hxs.imp hf)))

/-! ## Parts -/

/-- **A part that is read by its keys in snake case** is the same in both spellings. -/
theorem SpelledPart.eq_of_dict {α : Type} {f : Value → Except Fault α}
    {g : Named Value → Except Fault α}
    (hf : ∀ m : Mapping, f (.dict m) = snakeKeys (.dict m) >>= g) (h : SpelledPart v w) :
    f v = f w := by
  have hkeys := h.snakeKeys_eq
  cases h with
  | same => rfl
  | @dict m m' h => rw [hf, hf, hkeys]

theorem Column.ofValue_eq (h : SpelledPart v w) : Column.ofValue v = Column.ofValue w :=
  h.eq_of_dict fun _ => rfl

theorem Relationship.ofValue_eq (h : SpelledPart v w) :
    Relationship.ofValue v = Relationship.ofValue w :=
  h.eq_of_dict fun _ => rfl

theorem IndexTerm.declare_eq (h : SpelledPart v w) : declare v = declare w :=
  h.eq_of_dict fun _ => rfl

theorem Constraint.ofValue_eq (h : SpelledPart v w) : ofValue v = ofValue w :=
  h.eq_of_dict fun _ => rfl

theorem Trigger.ofValue_eq (h : SpelledPart v w) : ofValue v = ofValue w :=
  h.eq_of_dict fun _ => rfl

theorem View.ofValue_eq (h : SpelledPart v w) : ofValue v = ofValue w :=
  h.eq_of_dict fun _ => rfl

theorem literalHooks_eq (h : SpelledPart v w) :
    ModelDefinition.literalHooks (some v) = ModelDefinition.literalHooks (some w) :=
  h.eq_of_dict (f := fun v => ModelDefinition.literalHooks (some v)) fun _ => rfl

/-- What is made of the columns, of which there may be none. -/
theorem SpelledColumns.buildColumns_eq (h : SpelledColumns v w) :
    (v.orEmptyMapping >>= Value.entries >>= ModelDefinition.buildColumns) =
      (w.orEmptyMapping >>= Value.entries >>= ModelDefinition.buildColumns) := by
  have hentries := (agree_orElse h.truth_eq h (.same (.dict []))).bind
    fun _ _ hgiven => hgiven.entries_agree
  refine Agree.eq (hentries.bind fun m m' hm => Agree.of_eq (mapM_eq_of_forall₂ ?_))
  refine hm.imp fun ⟨attr, spec⟩ ⟨attr', spec'⟩ ⟨hattr, hspec⟩ => ?_
  obtain rfl : attr = attr' := hattr
  exact congrArg (· >>= _) (Column.ofValue_eq hspec)

/-- **An index is the same** with its terms under either name and each of them in any spelling. -/
theorem Index.ofValue_eq (h : Spelled indexSpelling v w) : ofValue v = ofValue w := by
  have hkeys := h.snakeKeys_agree indexSpelling_refl
  cases h with
  | same => rfl
  | dict h =>
    refine Agree.eq (hkeys.bind fun f g hfg => Agree.of_eq ?_)
    have hgiven : SpelledItems SpelledPart (f.getOr "fields" .null) (g.getOr "fields" .null) :=
      hfg.getOr (k := "fields") (indexSpelling_refl _ _)
    have hother : SpelledItems SpelledPart (f.getOr "columns" .null) (g.getOr "columns" .null) :=
      hfg.getOr (k := "columns") (indexSpelling_refl _ _)
    have hterms : (literalTerms f >>= Value.items >>= List.mapM IndexTerm.declare) =
        (literalTerms g >>= Value.items >>= List.mapM IndexTerm.declare) := by
      simp only [literalTerms, bind_assoc]
      refine Agree.eq ((agree_orElse hgiven.truth_eq hgiven hother).bind fun _ _ hvw => ?_)
      simp only [← bind_assoc]
      exact Agree.of_eq (hvw.mapM_eq .same fun _ _ => IndexTerm.declare_eq)
    have hfields : ∀ terms, { ofFields f with fields := terms } =
        ({ ofFields g with fields := terms } : Index) := by
      intro terms
      simp only [ofFields, Named.getOr, hfg.get?_eq (k := "unique") rfl,
        hfg.get?_eq (k := "name") rfl, hfg.get?_eq (k := "where") rfl,
        hfg.get?_eq (k := "if_not_exists") rfl]
    simp only [← bind_assoc]
    rw [hterms]
    simp only [hfields]

/-! ## Models -/

/-- The parts of a literal are related, however it is spelled. -/
theorem canonical_agree (h : SpelledLiteral v w) :
    Agree (Named.Related modelSpelling) (ModelDefinition.canonical v)
      (ModelDefinition.canonical w) := by
  refine (h.snakeKeys_agree literalSpelling_refl).bind fun f g hfg => ?_
  have hgiven : Spelled modelSpelling (f.getOr "options" .null) (g.getOr "options" .null) :=
    hfg.getOr (k := "options") (literalSpelling_refl _ _)
  refine (agree_orElse hgiven.truth_eq hgiven (.same _)).bind fun a b hab => ?_
  refine (hab.snakeKeys_agree modelSpelling_refl).bind fun options options' hoptions => ?_
  -- without the options, what a literal has is what a model has
  have hrest : Named.Related modelSpelling (f.erase "options") (g.erase "options") :=
    hfg.erase fun _ _ _ hk hab => literalSpelling_eq hk ▸ hab
  have hcolumns := (hoptions.union hrest).rename (n := "attributes") (k := "columns")
    fun _ _ hab => hab
  exact .ok (hcolumns.rename fun _ _ hab => hab)

/-- What is declared about a model as a whole is in no other spelling. -/
theorem ModelSettings.ofFields_eq {f g : Named Value} (h : Named.Related modelSpelling f g) :
    ofFields f = ofFields g := by
  simp only [ofFields, required, Named.getOr, h.get?_eq (k := "name") rfl,
    h.get?_eq (k := "table_name") rfl, h.get?_eq (k := "pluralize_tablename") rfl,
    h.get?_eq (k := "freeze_table_name") rfl, h.get?_eq (k := "without_rowid") rfl,
    h.get?_eq (k := "strict") rfl, h.get?_eq (k := "soft_delete") rfl,
    h.get?_eq (k := "timestamps") rfl, h.get?_eq (k := "underscored") rfl,
    h.get?_eq (k := "if_not_exists") rfl, h.get?_eq (k := "created_at") rfl,
    h.get?_eq (k := "updated_at") rfl, h.get?_eq (k := "deleted_at") rfl,
    h.get?_eq (k := "version") rfl]

/-- The hooks of a model, if it has any. -/
theorem literalHooks_get?_eq {f g : Named Value} (h : Named.Related modelSpelling f g) :
    ModelDefinition.literalHooks (f.get? "hooks") =
      ModelDefinition.literalHooks (g.get? "hooks") := by
  obtain ⟨hf, hg⟩ | ⟨a, b, hf, hg, hab⟩ := h.get? "hooks"
  · rw [hf, hg]
  · rw [hf, hg]
    exact literalHooks_eq hab

/-- **What a literal gives does not depend on the spelling of its keys**: in two spellings it gives
the same definition or is refused in the same way. -/
theorem ModelDefinition.ofLiteral_eq_of_spelled (h : SpelledLiteral v w) :
    ofLiteral v = ofLiteral w := by
  refine Agree.eq ((canonical_agree h).bind fun f g hfg => Agree.of_eq ?_)
  have hcolumns : SpelledColumns (f.getOr "columns" .null) (g.getOr "columns" .null) :=
    hfg.getOr (k := "columns") (modelSpelling_refl _ _)
  have hitems : ∀ name ∈ ["relationships", "constraints", "triggers", "views"],
      SpelledItems SpelledPart (f.getOr name .null) (g.getOr name .null) := by
    intro name hname
    simp only [List.mem_cons, List.not_mem_nil, or_false] at hname
    have hgiven := hfg.getOr (k := name) (modelSpelling_refl _ .null)
    rcases hname with rfl | rfl | rfl | rfl <;> exact hgiven
  have hindexes : SpelledItems (Spelled indexSpelling) (f.getOr "indexes" .null)
      (g.getOr "indexes" .null) :=
    hfg.getOr (k := "indexes") (modelSpelling_refl _ _)
  -- each part is taken out and built in one step
  simp only [← bind_assoc]
  rw [hcolumns.buildColumns_eq,
    (hitems "relationships" (by decide)).mapM_eq .same fun _ _ => Relationship.ofValue_eq,
    hindexes.mapM_eq .same fun _ _ => Index.ofValue_eq,
    (hitems "constraints" (by decide)).mapM_eq .same fun _ _ => Constraint.ofValue_eq,
    (hitems "triggers" (by decide)).mapM_eq .same fun _ _ => Trigger.ofValue_eq,
    (hitems "views" (by decide)).mapM_eq .same fun _ _ => View.ofValue_eq,
    literalHooks_get?_eq hfg, ModelSettings.ofFields_eq hfg]

/-- An entry under a text and one under another spelling of it. -/
theorem SpelledEntry.ofTexts {s s' : String} (name : String)
    (h : snakeCase s = name ∧ snakeCase s' = name) (hv : R name v w) :
    SpelledEntry R (.str s, v) (.str s', w) :=
  .key rfl rfl h.1 h.2 hv

/-- A literal with its keys in other spellings, at every level. -/
def respelledEntryLiteral : Value :=
  .dict
    [(.str "Name", .str "Entry"), (.str "table_name", .str "ledger"),
      (.str "Attributes", .dict
        [(.str "bookedOn", .str "DATE"),
          (.str "amount", .dict [(.str "Type", .str "REAL"), (.str "default_value", .int 0)])]),
      (.str "RELATIONSHIPS", .list [.dict
        [(.str "type", .str "belongsTo"), (.str "target_model", .str "Account"),
          (.str "As", .str "account")]]),
      (.str "Indexes", .list [.dict [(.str "COLUMNS", .list [.str "bookedOn"])]]),
      (.str "Options", .dict
        [(.str "Underscored", .bool true), (.str "paranoid", .bool true),
          (.str "VERSION", .bool true)])]

theorem spelledLiteral_entry : SpelledLiteral entryLiteral respelledEntryLiteral := by
  have hamount : SpelledPart (.dict [(.str "type", .str "REAL"), (.str "defaultValue", .int 0)])
      (.dict [(.str "Type", .str "REAL"), (.str "default_value", .int 0)]) :=
    .dict (.cons (.ofTexts "type" (by decide +kernel) rfl)
      (.cons (.ofTexts "default_value" (by decide +kernel) rfl) .nil))
  have hrelationship : SpelledPart
      (.dict [(.str "type", .str "belongsTo"), (.str "targetModel", .str "Account"),
        (.str "as", .str "account")])
      (.dict [(.str "type", .str "belongsTo"), (.str "target_model", .str "Account"),
        (.str "As", .str "account")]) :=
    .dict (.cons (.same _) (.cons (.ofTexts "target_model" (by decide +kernel) rfl)
      (.cons (.ofTexts "as" (by decide +kernel) rfl) .nil)))
  have hindex : Spelled indexSpelling (.dict [(.str "columns", .list [.str "bookedOn"])])
      (.dict [(.str "COLUMNS", .list [.str "bookedOn"])]) :=
    .dict (.cons (.ofTexts "columns" (by decide +kernel) (indexSpelling_refl _ _)) .nil)
  have hoptions : Spelled modelSpelling
      (.dict [(.str "underscored", .bool true), (.str "paranoid", .bool true),
        (.str "version", .bool true)])
      (.dict [(.str "Underscored", .bool true), (.str "paranoid", .bool true),
        (.str "VERSION", .bool true)]) :=
    .dict (.cons (.ofTexts "underscored" (by decide +kernel) rfl) (.cons (.same _)
      (.cons (.ofTexts "version" (by decide +kernel) rfl) .nil)))
  have hcolumns : literalSpelling "attributes"
      (.dict [(.str "bookedOn", .str "DATE"),
        (.str "amount", .dict [(.str "type", .str "REAL"), (.str "defaultValue", .int 0)])])
      (.dict [(.str "bookedOn", .str "DATE"),
        (.str "amount", .dict [(.str "Type", .str "REAL"), (.str "default_value", .int 0)])]) :=
    SpelledColumns.dict (.cons ⟨rfl, .same _⟩ (.cons ⟨rfl, hamount⟩ .nil))
  exact .dict (.cons (.ofTexts "name" (by decide +kernel) (literalSpelling_refl _ _))
    (.cons (.ofTexts "table_name" (by decide +kernel) (literalSpelling_refl _ _))
    (.cons (.ofTexts "attributes" (by decide +kernel) hcolumns)
    (.cons (.ofTexts "relationships" (by decide +kernel)
      (SpelledItems.list (.cons hrelationship .nil)))
    (.cons (.ofTexts "indexes" (by decide +kernel) (SpelledItems.list (.cons hindex .nil)))
    (.cons (.ofTexts "options" (by decide +kernel) hoptions) .nil))))))

/-- **It gives the definition that it gave before.** -/
theorem ofLiteral_eq_of_spelled_entry : SpelledLiteral entryLiteral respelledEntryLiteral ∧
    ∃ d, ModelDefinition.ofLiteral entryLiteral = .ok d ∧
      ModelDefinition.ofLiteral respelledEntryLiteral = .ok d := by
  have hdecided : (do
      let d ← ModelDefinition.ofLiteral entryLiteral
      pure d.columns.length : Except Fault _).toOption = some 2 := by
    decide +kernel
  obtain ⟨d, hd, -⟩ := bind_eq_ok.1 (eq_ok_of_toOption hdecided)
  exact ⟨spelledLiteral_entry, d, hd,
    ModelDefinition.ofLiteral_eq_of_spelled spelledLiteral_entry ▸ hd⟩

end Tablewright
