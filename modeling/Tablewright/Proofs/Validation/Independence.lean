import Tablewright.Proofs.Named
import Tablewright.Proofs.Value.Access
import Tablewright.Validation.Row

/-!
# Rules do not see each other

A value is checked against each rule of its column as if the column had no other: what is wrong with
it is what is wrong by each rule alone, in the order of the rules (`checkValue_eq_flatten`). So it
matters neither in which order the rules are given nor how their names are spelled, and a rule that
is added takes no message away (`flatten_of_checkValue`).
-/

namespace Tablewright

open Fallible

/-! ## The rules of a mapping -/

/-- The active entries of a mapping, each under the name in snake case that its key has. -/
def activeRules (m : Mapping) : Named Value :=
  (m.filter fun e => Rule.isActive e.2).filterMap fun e =>
    e.1.text?.map fun k => (snakeCase k, e.2)

/-- The keys of active entries are texts, as only these have a snake case. -/
def HasTextKeys (m : Mapping) : Prop :=
  ∀ e ∈ m, Rule.isActive e.2 = true → e.1.text? ≠ none

/-- The entries of a mapping whose keys name a rule. -/
def onlyRule (rule : Rule) (m : Mapping) : Mapping :=
  m.filter fun e => e.1.text?.map snakeCase == some rule.name

/-- The column with other rules. -/
def Column.withRules (c : Column) (m : Mapping) : Column :=
  { c with validate := .dict m }

namespace Rule

theorem mem_all (rule : Rule) : rule ∈ all := by
  rcases rule with (_ | _ | _ | _ | _) | _ | _ | _ | _ | _ | _ | _ | _ <;> decide

theorem nodup_all : all.Nodup := by
  decide

/-- **No two rules have one name.** -/
theorem name_injective {rule rule' : Rule} (h : rule.name = rule'.name) : rule = rule' := by
  have hall : ∀ r ∈ all, ∀ r' ∈ all, r.name = r'.name → r = r' := by decide
  exact hall rule (mem_all rule) rule' (mem_all rule') h

end Rule

variable {m m' : Mapping} {c : Column} {given given' : Named Value} {rule : Rule}

/-- The entries of one rule have its name, and keep the others out. -/
theorem activeRules_onlyRule :
    activeRules (onlyRule rule m) = (activeRules m).filter fun e => e.1 == rule.name := by
  rw [activeRules, activeRules, onlyRule, List.filter_filterMap, List.filter_filter,
    List.filterMap_filter, List.filterMap_filter]
  refine List.filterMap_congr fun e _ => ?_
  cases e.1.text? with
  | none => simp
  | some k =>
    by_cases hactive : Rule.isActive e.2 = true <;> by_cases hname : snakeCase k = rule.name <;>
      simp [hactive, hname, Option.filter]

theorem HasTextKeys.onlyRule (h : HasTextKeys m) : HasTextKeys (onlyRule rule m) :=
  fun e he => h e (List.mem_filter.1 he).1

theorem orEmptyMapping_dict : (Value.dict m).orEmptyMapping = .ok (.dict m) := by
  cases m <;> rfl

/-- **The rules of a column are the active ones**, of two with one name the later one, provided that
their keys are texts. -/
theorem rules_eq_ok (hm : c.validate.orEmptyMapping = .ok (.dict m)) :
    c.rules = .ok given ↔ HasTextKeys m ∧ given = Named.ofPairs (activeRules m) := by
  have hnames : ∀ entries : Mapping, ∀ pairs : Named Value,
      (entries.mapM fun e => do pure (snakeCase (← e.1.asText), e.2) : Except Fault _) = .ok pairs ↔
        (∀ e ∈ entries, e.1.text? ≠ none) ∧
          pairs = entries.filterMap fun e => e.1.text?.map fun k => (snakeCase k, e.2) := by
    intro entries
    induction entries with
    | nil =>
      intro pairs
      rw [List.mapM_nil, pure_eq_ok]
      simp [eq_comm]
    | cons e entries ih =>
      intro pairs
      rw [mapM_cons_eq_ok, List.forall_mem_cons, List.filterMap_cons]
      simp only [ih, bind_eq_ok, pure_eq_ok, Value.asText_eq_ok]
      cases htext : e.1.text? with
      | none => simp
      | some k => simp [eq_comm]
  rw [Column.rules, ok_bind hm]
  change ((m.filter fun e => Rule.isActive e.2).mapM (fun e => do
    pure (snakeCase (← e.1.asText), e.2)) >>= fun pairs => pure (Named.ofPairs pairs)) = _ ↔ _
  simp only [bind_eq_ok, pure_eq_ok, hnames, List.mem_filter, and_imp]
  constructor
  · rintro ⟨pairs, ⟨hkeys, rfl⟩, rfl⟩
    exact ⟨hkeys, rfl⟩
  · rintro ⟨hkeys, rfl⟩
    exact ⟨_, ⟨hkeys, rfl⟩, rfl⟩

/-! ## One rule after the other -/

variable {v : Value} {number : Option Binary} {rules rules' : List Rule} {messages : List Value}

/-- What is wrong with a value by a rule that is given, if it is. -/
def ruleMessages (v : Value) (number : Option Binary) (given : Named Value) (rule : Rule) :
    Except Fault (List Value) :=
  match given.get? rule.name with
  | some g => Option.toList <$> rule.apply v number g
  | none => pure []

theorem checkRules_cons : checkRules v number given (rule :: rules) = (do
    let first ← ruleMessages v number given rule
    let others ← checkRules v number given rules
    pure (first ++ others)) := by
  rw [checkRules, ruleMessages]
  cases given.get? rule.name with
  | none => rfl
  | some g =>
    dsimp only
    cases rule.apply v number g <;> rfl

/-- **Each rule is applied by itself**, and their messages are put together. -/
theorem checkRules_eq_flatten :
    checkRules v number given rules =
      List.flatten <$> rules.mapM (ruleMessages v number given) := by
  induction rules with
  | nil => rfl
  | cons rule rules ih =>
    rw [checkRules_cons, ih, List.mapM_cons]
    cases ruleMessages v number given rule with
    | error e => rfl
    | ok first => cases rules.mapM (ruleMessages v number given) <;> rfl

theorem checkRules_append : checkRules v number given (rules ++ rules') = (do
    let first ← checkRules v number given rules
    let others ← checkRules v number given rules'
    pure (first ++ others)) := by
  simp only [checkRules_eq_flatten, List.mapM_append]
  cases rules.mapM (ruleMessages v number given) with
  | error e => rfl
  | ok parts =>
    cases rules'.mapM (ruleMessages v number given) with
    | error e => rfl
    | ok parts' => exact congrArg Except.ok List.flatten_append

/-- The shape of a text is checked without its number. -/
theorem checkRules_shapes (v : Value) (number : Option Binary) (given : Named Value) :
    checkRules v number given Rule.shapes = checkRules v none given Rule.shapes :=
  rfl

/-- A rule looks at nothing but how it is given itself. -/
theorem checkRules_congr
    (h : ∀ rule ∈ rules, given'.get? rule.name = given.get? rule.name) :
    checkRules v number given' rules = checkRules v number given rules := by
  induction rules with
  | nil => rfl
  | cons rule rules ih =>
    rw [List.forall_mem_cons] at h
    rw [checkRules_cons, checkRules_cons, ih h.2, ruleMessages, ruleMessages, h.1]

theorem ruleMessages_of_none (h : given.get? rule.name = none) :
    ruleMessages v number given rule = pure [] := by
  rw [ruleMessages, h]

/-- Where no rule is given, nothing is wrong. -/
theorem checkRules_of_none (h : ∀ rule ∈ rules, given.get? rule.name = none) :
    checkRules v number given rules = pure [] := by
  induction rules with
  | nil => rfl
  | cons rule rules ih =>
    rw [List.forall_mem_cons] at h
    rw [checkRules_cons, ih h.2, ruleMessages_of_none h.1]
    rfl

/-- Where one rule is given, its messages are all. -/
theorem checkRules_of_only (hrule : rule ∈ rules) (hnd : rules.Nodup)
    (h : ∀ r ∈ rules, r ≠ rule → given.get? r.name = none) :
    checkRules v number given rules = ruleMessages v number given rule := by
  induction rules with
  | nil => exact absurd hrule List.not_mem_nil
  | cons first rules ih =>
    rw [List.nodup_cons] at hnd
    rw [List.forall_mem_cons] at h
    rw [checkRules_cons]
    rcases List.mem_cons.1 hrule with rfl | hrule
    · have hrest : ∀ r ∈ rules, given.get? r.name = none := fun r hr =>
        h.2 r hr fun he => hnd.1 (he ▸ hr)
      rw [checkRules_of_none hrest]
      cases ruleMessages v number given rule with
      | error e => rfl
      | ok messages => exact congrArg Except.ok (List.append_nil messages)
    · have hfirst : first ≠ rule := fun he => hnd.1 (he ▸ hrule)
      rw [ih hrule hnd.2 h.2, ruleMessages_of_none (h.1 hfirst)]
      cases ruleMessages v number given rule <;> rfl

/-- **More rules give more messages.** -/
theorem sublist_of_checkRules {messages' : List Value}
    (hmore : ∀ rule ∈ rules, ∀ g, given.get? rule.name = some g → given'.get? rule.name = some g)
    (h : checkRules v number given rules = .ok messages)
    (h' : checkRules v number given' rules = .ok messages') : messages.Sublist messages' := by
  induction rules generalizing messages messages' with
  | nil =>
    rw [← pure_eq_ok.1 h]
    exact List.nil_sublist _
  | cons rule rules ih =>
    rw [List.forall_mem_cons] at hmore
    rw [checkRules_cons] at h h'
    obtain ⟨first, hfirst, h⟩ := bind_eq_ok.1 h
    obtain ⟨others, hothers, h⟩ := bind_eq_ok.1 h
    obtain ⟨first', hfirst', h'⟩ := bind_eq_ok.1 h'
    obtain ⟨others', hothers', h'⟩ := bind_eq_ok.1 h'
    rw [← pure_eq_ok.1 h, ← pure_eq_ok.1 h']
    refine List.Sublist.append ?_ (ih hmore.2 hothers hothers')
    cases hgiven : given.get? rule.name with
    | none =>
      rw [ruleMessages_of_none hgiven] at hfirst
      rw [← pure_eq_ok.1 hfirst]
      exact List.nil_sublist _
    | some g =>
      rw [ruleMessages, hgiven] at hfirst
      rw [ruleMessages, hmore.1 g hgiven, hfirst] at hfirst'
      rw [Except.ok.inj hfirst']

/-! ## A column -/

variable {n : String} {g : Value}

/-- What is found among the entries of one name. -/
theorem get?_filter_name (m : Named Value) (n k : String) :
    Named.get? (m.filter fun e => e.1 == n) k = if k = n then m.get? k else none := by
  induction m with
  | nil => split <;> rfl
  | cons e m ih =>
    rw [List.filter_cons, Named.get?_cons]
    by_cases he : e.1 = n
    · rw [if_pos (beq_iff_eq.2 he), Named.get?_cons, ih]
      by_cases hk : e.1 = k
      · rw [if_pos hk, if_pos hk, if_pos (hk.symm.trans he)]
      · rw [if_neg hk, if_neg hk]
    · rw [if_neg (mt beq_iff_eq.1 he), ih]
      by_cases hk : k = n
      · rw [if_pos hk, if_pos hk, if_neg fun h => he (h.trans hk)]
      · rw [if_neg hk, if_neg hk]

/-- The rules of a column with the entries of one rule only. -/
theorem get?_onlyRule (m : Mapping) (rule r : Rule) :
    (Named.ofPairs (activeRules (onlyRule rule m))).get? r.name =
      if r = rule then (Named.ofPairs (activeRules m)).get? r.name else none := by
  rw [Named.get?_ofPairs, Named.get?_ofPairs, activeRules_onlyRule, ← List.filter_reverse,
    get?_filter_name]
  refine if_congr ⟨Rule.name_injective, congrArg _⟩ rfl rfl

/-- Where the names of the rules are distinct, what is given is what the mapping holds. -/
theorem get?_ofPairs_activeRules (hnd : (activeRules m).names.Nodup) :
    (Named.ofPairs (activeRules m)).get? n = some g ↔ (n, g) ∈ activeRules m := by
  have hrev : Named.names (activeRules m).reverse = (activeRules m).names.reverse :=
    List.map_reverse
  rw [Named.get?_ofPairs, ← Named.mem_iff_get? (hrev ▸ List.nodup_reverse.2 hnd),
    List.mem_reverse]

theorem checkValue_of_rules (hv : v.isNull = false) (h : c.rules = .ok given) :
    checkValue v c = (do
      let misshapen ← checkRules v none given Rule.shapes
      let number ← v.measure?
      let others ← checkRules v number given Rule.afterMeasure
      pure (misshapen ++ others)) := by
  rw [checkValue, if_neg (Bool.eq_false_iff.1 hv), ok_bind h]

/-- **A value is checked by its number and the rules of its column**, and by nothing else. -/
theorem checkValue_eq_ok (hv : v.isNull = false) (h : c.rules = .ok given) :
    checkValue v c = .ok messages ↔
      ∃ number, v.measure? = .ok number ∧ checkRules v number given Rule.all = .ok messages := by
  rw [checkValue_of_rules hv h]
  simp only [Rule.all, checkRules_append, bind_eq_ok]
  constructor
  · rintro ⟨misshapen, hmisshapen, number, hnumber, hothers⟩
    exact ⟨number, hnumber, misshapen, (checkRules_shapes v number given).trans hmisshapen, hothers⟩
  · rintro ⟨number, hnumber, misshapen, hmisshapen, hothers⟩
    rw [checkRules_shapes] at hmisshapen
    exact ⟨misshapen, hmisshapen, number, hnumber, hothers⟩

/-- Only where the rules can be read is a value checked. -/
theorem exists_rules_of_checkValue (hv : v.isNull = false) (h : checkValue v c = .ok messages) :
    ∃ given, c.rules = .ok given := by
  rw [checkValue, if_neg (Bool.eq_false_iff.1 hv)] at h
  exact (bind_eq_ok.1 h).imp fun _ h => h.1

/-- The rules of a column that is given other ones. -/
theorem rules_withRules (h : HasTextKeys m) :
    (c.withRules m).rules = .ok (Named.ofPairs (activeRules m)) :=
  (rules_eq_ok orEmptyMapping_dict).2 ⟨h, rfl⟩

/-- What is wrong with a value by one rule of a column. -/
theorem checkValue_onlyRule (hv : v.isNull = false) (hkeys : HasTextKeys m) :
    checkValue v (c.withRules (onlyRule rule m)) = .ok messages ↔
      ∃ number, v.measure? = .ok number ∧
        ruleMessages v number (Named.ofPairs (activeRules m)) rule = .ok messages := by
  rw [checkValue_eq_ok hv (rules_withRules hkeys.onlyRule)]
  refine exists_congr fun number => and_congr_right fun _ => ?_
  rw [checkRules_of_only rule.mem_all Rule.nodup_all fun r _ hne => by
      rw [get?_onlyRule, if_neg hne],
    ruleMessages, ruleMessages, get?_onlyRule, if_pos rfl]

/-- **A value is checked against each rule alone.** -/
theorem checkValue_eq_flatten (hv : v.isNull = false)
    (hm : c.validate.orEmptyMapping = .ok (.dict m)) (hkeys : HasTextKeys m) :
    checkValue v c = .ok messages ↔ ∃ parts,
      Rule.all.mapM (fun rule => checkValue v (c.withRules (onlyRule rule m))) = .ok parts ∧
        parts.flatten = messages := by
  rw [checkValue_eq_ok hv ((rules_eq_ok hm).2 ⟨hkeys, rfl⟩)]
  simp only [checkRules_eq_flatten, map_eq_ok, mapM_eq_ok, checkValue_onlyRule hv hkeys]
  constructor
  · rintro ⟨number, hnumber, parts, hparts, hflat⟩
    exact ⟨parts, hparts.imp fun _ _ h => ⟨number, hnumber, h⟩, hflat⟩
  · rintro ⟨parts, hparts, hflat⟩
    -- there is a first rule, and it has measured the value
    obtain ⟨_, _, ⟨number, hnumber, -⟩, -⟩ := List.forall₂_cons_left_iff.1 hparts
    refine ⟨number, hnumber, parts, hparts.imp fun _ _ h => ?_, hflat⟩
    obtain ⟨number', hnumber', h⟩ := h
    rwa [Except.ok.inj (hnumber.symm.trans hnumber')]

/-- **Rules do not see each other.** Where a value is checked against the rules of a column, each
active rule under a name of its own, the messages are those of each rule alone, in the order of the
rules. Whatever else the column is given in their place: the same active rules, in another order and
spelling and among others that are no rules or not active, have the same messages; and with more
rules no message is missing. -/
theorem flatten_of_checkValue (hv : v.isNull = false)
    (hm : c.validate.orEmptyMapping = .ok (.dict m)) (hnd : (activeRules m).names.Nodup)
    (h : checkValue v c = .ok messages) :
    (∃ parts, Rule.all.mapM (fun rule => checkValue v (c.withRules (onlyRule rule m))) = .ok parts ∧
      parts.flatten = messages) ∧
    ∀ m', (activeRules m').names.Nodup →
      (HasTextKeys m' →
        (∀ (rule : Rule) g, (rule.name, g) ∈ activeRules m' ↔ (rule.name, g) ∈ activeRules m) →
        checkValue v (c.withRules m') = .ok messages) ∧
      ∀ messages',
        (∀ (rule : Rule) g, (rule.name, g) ∈ activeRules m → (rule.name, g) ∈ activeRules m') →
        checkValue v (c.withRules m') = .ok messages' → messages.Sublist messages' := by
  obtain ⟨given, hgiven⟩ := exists_rules_of_checkValue hv h
  obtain ⟨hkeys, rfl⟩ := (rules_eq_ok hm).1 hgiven
  obtain ⟨number, hnumber, hcheck⟩ := (checkValue_eq_ok hv hgiven).1 h
  refine ⟨(checkValue_eq_flatten hv hm hkeys).1 h, fun m' hnd' => ⟨fun hkeys' hsame => ?_, ?_⟩⟩
  · refine (checkValue_eq_ok hv (rules_withRules hkeys')).2 ⟨number, hnumber, ?_⟩
    rw [checkRules_congr fun rule _ => Option.ext fun g => ?_, hcheck]
    rw [get?_ofPairs_activeRules hnd', get?_ofPairs_activeRules hnd, hsame]
  · intro messages' hmore h'
    obtain ⟨given', hgiven'⟩ := exists_rules_of_checkValue hv h'
    obtain ⟨number', hnumber', hcheck'⟩ := (checkValue_eq_ok hv hgiven').1 h'
    obtain ⟨hkeys', rfl⟩ := (rules_eq_ok orEmptyMapping_dict).1 hgiven'
    rw [Except.ok.inj (hnumber'.symm.trans hnumber)] at hcheck'
    refine sublist_of_checkRules (fun rule _ g => ?_) hcheck hcheck'
    rw [get?_ofPairs_activeRules hnd, get?_ofPairs_activeRules hnd']
    exact hmore rule g

/-- The rules for a code: letters only, three to five of them, and a number that is not too small;
another rule is off. -/
def codeRules : Mapping :=
  [(.str "min", .dict [(.str "args", .int 2), (.str "msg", .str "Too small")]),
    (.str "isAlpha", .bool true), (.str "isNumeric", .bool false),
    (.str "len", .list [.int 3, .int 5])]

/-- The same in another order and spelling, with a rule that is none and another one that is off. -/
def respelledRules : Mapping :=
  [(.str "len", .list [.int 3, .int 5]), (.str "isSecret", .bool true),
    (.str "is_alpha", .bool true), (.str "notIn", .null),
    (.str "Min", .dict [(.str "args", .int 2), (.str "msg", .str "Too small")])]

theorem flatten_of_codes :
    ∃ messages, checkValue (.str "a1") { validate := .dict codeRules } = .ok messages ∧
      messages.map Value.text =
        ["Must contain only letters", "Too small", "Length must be between 3 and 5"] ∧
      (∃ parts, Rule.all.mapM (fun rule => checkValue (.str "a1")
          (Column.withRules { validate := .dict codeRules } (onlyRule rule codeRules))) =
        .ok parts ∧ parts.flatten = messages) ∧
      checkValue (.str "a1") { validate := .dict respelledRules } = .ok messages ∧
      ∀ messages', checkValue (.str "a1")
          { validate := .dict ((.str "isInt", .bool true) :: codeRules) } = .ok messages' →
        messages.Sublist messages' := by
  have htexts : (checkValue (.str "a1") { validate := .dict codeRules }).toOption.map
      (·.map Value.text) =
        some ["Must contain only letters", "Too small", "Length must be between 3 and 5"] := by
    decide +kernel
  obtain ⟨messages, hok, htexts⟩ := Option.map_eq_some_iff.1 htexts
  have hcheck := eq_ok_of_toOption hok
  have hactive : activeRules codeRules =
      [("min", .dict [(.str "args", .int 2), (.str "msg", .str "Too small")]),
        ("is_alpha", .bool true), ("len", .list [.int 3, .int 5])] := rfl
  have hrespelled : activeRules respelledRules =
      [("len", .list [.int 3, .int 5]), ("is_secret", .bool true), ("is_alpha", .bool true),
        ("min", .dict [(.str "args", .int 2), (.str "msg", .str "Too small")])] := rfl
  have hkeys : HasTextKeys respelledRules := by
    simp [HasTextKeys, respelledRules, Value.text?]
  have hno : ∀ rule ∈ Rule.all, rule.name ≠ "is_secret" := by decide
  have hsame : ∀ (rule : Rule) g,
      (rule.name, g) ∈ activeRules respelledRules ↔ (rule.name, g) ∈ activeRules codeRules := by
    intro rule g
    rw [hactive, hrespelled]
    simp only [List.mem_cons, Prod.mk.injEq, hno rule rule.mem_all, false_and, false_or,
      List.not_mem_nil, or_false]
    exact or_rotate.trans or_left_comm
  have hadded : activeRules ((.str "isInt", .bool true) :: codeRules) =
      ("is_int", .bool true) :: activeRules codeRules := rfl
  have hlaw := flatten_of_checkValue rfl orEmptyMapping_dict (by rw [hactive]; decide) hcheck
  refine ⟨messages, hcheck, htexts, hlaw.1,
    (hlaw.2 respelledRules (by rw [hrespelled]; decide)).1 hkeys hsame, fun messages' hmore => ?_⟩
  exact (hlaw.2 _ (by rw [hadded, hactive]; decide)).2 messages'
    (fun _ _ h => hadded ▸ List.mem_cons_of_mem _ h) hmore

end Tablewright
