import Tablewright.Proofs.Number.Rounding
import Tablewright.Proofs.Validation.Independence

/-!
# Values too large to be measured

But for the shape of a text, a value is measured before any rule is looked at, and an integer beyond
the range of double precision cannot be (`exists_measure?_iff`). A column that has no rules refuses
such an integer too, and lets every other value pass (`checkValue_of_inactive`).
-/

namespace Tablewright

open Fallible

variable {m : Mapping} {c : Column} {given : Named Value} {v : Value}

/-- An integer that is beyond double precision: it is at least half a unit above the largest
number. -/
def Value.IsTooLarge : Value → Prop
  | .int n => 2 ^ 1024 - 2 ^ 970 ≤ n.natAbs
  | _ => False

theorem measure?_of_isTooLarge (h : v.IsTooLarge) : v.measure? = .error (.misuse .tooLarge) := by
  cases v with
  | int n =>
    rw [Value.measure?, Binary.ofInt?_eq_none_iff.2 h]
    rfl
  | _ => cases h

/-- **All else can be measured**, as a number or as none. -/
theorem exists_measure?_iff : (∃ number, v.measure? = .ok number) ↔ ¬ v.IsTooLarge := by
  constructor
  · rintro ⟨number, hnumber⟩ h
    rw [measure?_of_isTooLarge h] at hnumber
    cases hnumber
  · intro h
    cases hv : v with
    | int n =>
      obtain ⟨x, hx⟩ := Option.ne_none_iff_exists'.1 (mt Binary.ofInt?_eq_none_iff.1 (hv ▸ h))
      rw [Value.measure?, hx]
      exact ⟨_, rfl⟩
    | tensor t =>
      obtain ⟨element, shape, items⟩ := t
      match items with
      | [] => exact ⟨_, rfl⟩
      | [s] => exact ⟨_, rfl⟩
      | _ :: _ :: _ => exact ⟨_, rfl⟩
    | _ => exact ⟨_, rfl⟩

/-- Where the shape of a text is no matter, a value is measured first of all. -/
theorem checkValue_of_no_shape (hv : v.isNull = false) (h : c.rules = .ok given)
    (hshape : ∀ rule ∈ Rule.shapes, given.get? rule.name = none) :
    checkValue v c =
      v.measure? >>= fun number => checkRules v number given Rule.afterMeasure := by
  rw [checkValue_of_rules hv h, checkRules_of_none hshape]
  cases v.measure? with
  | error e => rfl
  | ok number => exact bind_pure (checkRules v number given Rule.afterMeasure)

/-- The rules of a column of which none is active. -/
theorem rules_of_inactive (hm : c.validate.orEmptyMapping = .ok (.dict m))
    (h : ∀ e ∈ m, Rule.isActive e.2 = false) : c.rules = .ok [] := by
  have hnone : m.filter (fun e => Rule.isActive e.2) = [] :=
    List.filter_eq_nil_iff.2 fun e he => Bool.eq_false_iff.1 (h e he)
  refine (rules_eq_ok hm).2 ⟨fun e he hactive => ?_, ?_⟩
  · rw [h e he] at hactive
    cases hactive
  · rw [activeRules, hnone]
    rfl

/-- **Without rules every value passes that is not too large.** In a column of which no rule is
active, nothing is wrong with a value that is not null, unless it is an integer beyond double
precision: that one is refused for its size, though no rule asks for a number. -/
theorem checkValue_of_inactive (hv : v.isNull = false)
    (hm : c.validate.orEmptyMapping = .ok (.dict m))
    (h : ∀ e ∈ m, Rule.isActive e.2 = false) :
    (checkValue v c = .ok [] ↔ ¬ v.IsTooLarge) ∧
      (v.IsTooLarge → checkValue v c = .error (.misuse .tooLarge)) := by
  have hcheck : checkValue v c = v.measure? >>= fun _ => pure [] := by
    rw [checkValue_of_no_shape hv (rules_of_inactive hm h) fun _ _ => rfl]
    exact congrArg _ (funext fun _ => checkRules_of_none fun _ _ => rfl)
  rw [hcheck, ← exists_measure?_iff]
  refine ⟨?_, fun hlarge => ?_⟩
  · simp only [bind_eq_ok, pure_eq_ok, and_true]
  · rw [measure?_of_isTooLarge hlarge]
    rfl

/-- Rules that are all off. -/
def disabledRules : Mapping :=
  [(.str "isEmail", .bool false), (.str "min", .null)]

/-- A text that is no email address, and an integer of 401 digits. -/
theorem checkValue_of_disabledRules :
    checkValue (.str "ann") { validate := .dict disabledRules } = .ok [] ∧
      checkValue (.int (10 ^ 400)) { validate := .dict disabledRules } =
        .error (.misuse .tooLarge) := by
  have hinactive : ∀ e ∈ disabledRules, Rule.isActive e.2 = false := by
    simp [disabledRules, Rule.isActive]
  have hlarge : (Value.int (10 ^ 400)).IsTooLarge := by
    change 2 ^ 1024 - 2 ^ 970 ≤ (10 ^ 400 : ℤ).natAbs
    decide +kernel
  exact ⟨(checkValue_of_inactive rfl orEmptyMapping_dict hinactive).1.2 not_false,
    (checkValue_of_inactive rfl orEmptyMapping_dict hinactive).2 hlarge⟩

end Tablewright
