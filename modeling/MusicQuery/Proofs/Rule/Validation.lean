import Mathlib.Tactic.Common
import MusicQuery.Rule.Validation

namespace MusicQuery

section Checks

variable {ε α : Type} {x : Except ε Unit} {y : Except ε α}

lemma then_eq_ok {a : α} : (x >>= fun _ => y) = .ok a ↔ x = .ok () ∧ y = .ok a := by
  cases x with
  | error e => simp [bind, Except.bind]
  | ok u => simp [bind, Except.bind]

lemma then_of_ok (h : x = .ok ()) : (x >>= fun _ => y) = y := by
  rw [h]
  rfl

lemma then_of_error {e : ε} (h : x = .error e) : (x >>= fun _ => y) = .error e := by
  rw [h]
  rfl

lemma check_eq_ok {p : Prop} [Decidable p] {e : ε} :
    (if p then Except.ok () else Except.error e) = Except.ok () ↔ p := by
  split <;> simp [*]

end Checks

namespace Rule

def operator? : Rule → Option Operator
  | text r => some r.operator
  | number r => some r.operator
  | plays r => some r.operator
  | file r => some r.operator
  | group _ _ => none

def isAtHome : Rule → Bool
  | text r => r.field ∈ RuleFamily.text.fields
  | number r => r.field ∈ RuleFamily.number.fields
  | plays r => r.field ∈ RuleFamily.plays.fields
  | file r => r.field ∈ RuleFamily.file.fields
  | group _ _ => true

def allowed : Rule → List Operator
  | text _ => Operator.ofText
  | number _ => Operator.ofOrder
  | plays _ => Operator.ofOrder
  | file r => if r.field = .format then Operator.ofFormat else Operator.ofOrder
  | group _ _ => []

def hasFirst : Rule → Bool
  | plays r => if r.field = .lastPlayed then r.date.isSome else r.number.isSome
  | file r => if r.field = .format then !(r.formats.getD []).isEmpty else r.date.isSome
  | _ => true

def hasSecond : Rule → Bool
  | number r => r.secondValue.isSome
  | plays r => if r.field = .lastPlayed then r.secondDate.isSome else r.secondNumber.isSome
  | file r => r.secondDate.isSome
  | _ => true

variable {r : Rule} {op : Operator}

lemma checkIf_eq_ok {p : Prop} [Decidable p] {x : Except RuleError Unit} :
    (if p then x else pure PUnit.unit) = .ok () ↔ (p → x = .ok ()) := by
  by_cases hp : p
  · simp [hp]
  · simp [hp, pure, Except.pure]

/-- What the check of a leaf asks for: a field of its family, an operator for that field, and the operands. -/
lemma validate_eq_ok (hop : r.operator? = some op) :
    r.validate = .ok () ↔ r.isAtHome = true ∧ op ∈ r.allowed ∧ r.hasFirst = true ∧
      (op = .between → r.hasSecond = true) := by
  cases r with
  | group junction members => cases hop
  | text r =>
    obtain rfl := Option.some.inj hop
    rw [validate, TextRule.validate, then_eq_ok, checkField, checkOperator, check_eq_ok, check_eq_ok]
    simp [isAtHome, allowed, hasFirst, hasSecond]
  | number r =>
    obtain rfl := Option.some.inj hop
    rw [validate, NumberRule.validate, then_eq_ok, then_eq_ok, checkField, checkOperator, checkOperand, checkIf_eq_ok,
      check_eq_ok, check_eq_ok, check_eq_ok]
    simp [isAtHome, allowed, hasFirst, hasSecond]
  | plays r =>
    obtain rfl := Option.some.inj hop
    rw [validate, PlayRule.validate, then_eq_ok, then_eq_ok, checkField, checkOperator, check_eq_ok, check_eq_ok]
    by_cases hf : r.field = .lastPlayed
    · rw [if_pos hf, then_eq_ok, checkIf_eq_ok, checkOperand, checkOperand, check_eq_ok, check_eq_ok]
      simp [isAtHome, allowed, hasFirst, hasSecond, hf]
    · rw [if_neg hf, then_eq_ok, checkIf_eq_ok, checkOperand, checkOperand, check_eq_ok, check_eq_ok]
      simp [isAtHome, allowed, hasFirst, hasSecond, hf]
  | file r =>
    obtain rfl := Option.some.inj hop
    rw [validate, FileRule.validate, then_eq_ok, checkField, check_eq_ok]
    by_cases hf : r.field = .format
    · have hlist : (if (r.formats.getD []).isEmpty = true then throw .missingFormat else pure PUnit.unit) =
          (Except.ok () : Except RuleError Unit) ↔ (r.formats.getD []).isEmpty = false := by
        cases (r.formats.getD []).isEmpty <;> simp [pure, Except.pure, throw, throwThe, MonadExceptOf.throw]
      have hsecond : r.operator ∈ Operator.ofFormat → r.operator = .between → (file r).hasSecond = true :=
        fun ho hb => absurd (hb ▸ ho) (by decide)
      rw [if_pos hf, then_eq_ok, checkOperator, check_eq_ok, hlist]
      simp [isAtHome, allowed, hasFirst, hf]
      exact fun _ ho _ => hsecond ho
    · rw [if_neg hf, then_eq_ok, then_eq_ok, checkIf_eq_ok, checkOperator, checkOperand, checkOperand, check_eq_ok,
        check_eq_ok, check_eq_ok]
      simp [isAtHome, allowed, hasFirst, hasSecond, hf]

lemma validateAll_eq_ok {rs : List Rule} : validateAll rs = .ok () ↔ ∀ r ∈ rs, r.validate = .ok () := by
  induction rs with
  | nil => exact iff_of_true rfl (fun _ hr => (List.not_mem_nil hr).elim)
  | cons r rs ih => rw [validateAll, then_eq_ok, ih, List.forall_mem_cons]

end Rule

end MusicQuery
