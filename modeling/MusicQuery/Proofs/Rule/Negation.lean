import Mathlib.Tactic.Lemma
import MusicQuery.Rule.Match
import MusicQuery.Rule.Validation

namespace MusicQuery.Rule

mutual

theorem negate_negate : ∀ r : Rule, r.negate.negate = r
  | text r => by rw [negate, negate, Bool.not_not]
  | number r => by rw [negate, negate, Bool.not_not]
  | plays r => by rw [negate, negate, Bool.not_not]
  | file r => by rw [negate, negate, Bool.not_not]
  | group junction members => by rw [negate, negate, Junction.dual_dual, negateAll_negateAll members]

theorem negateAll_negateAll : ∀ rs : List Rule, negateAll (negateAll rs) = rs
  | [] => rfl
  | r :: rs => by rw [negateAll, negateAll, negate_negate r, negateAll_negateAll rs]

end

mutual

theorem validate_negate : ∀ r : Rule, r.negate.validate = r.validate
  | text _ => rfl
  | number _ => rfl
  | plays _ => rfl
  | file _ => rfl
  | group _ members => validateAll_negateAll members

theorem validateAll_negateAll : ∀ rs : List Rule, validateAll (negateAll rs) = validateAll rs
  | [] => rfl
  | r :: rs => by rw [negateAll, validateAll, validateAll, validate_negate r, validateAll_negateAll rs]

end

mutual

theorem hasRelativeDates_negate : ∀ r : Rule, r.negate.hasRelativeDates = r.hasRelativeDates
  | text _ => rfl
  | number _ => rfl
  | plays _ => rfl
  | file _ => rfl
  | group _ members => someHasRelativeDates_negateAll members

theorem someHasRelativeDates_negateAll :
    ∀ rs : List Rule, someHasRelativeDates (negateAll rs) = someHasRelativeDates rs
  | [] => rfl
  | r :: rs => by
    rw [negateAll, someHasRelativeDates, someHasRelativeDates, hasRelativeDates_negate r,
      someHasRelativeDates_negateAll rs]

end

section Outcome

variable (now : Instant) (t : Track)

mutual

theorem holds_negate : ∀ r : Rule, r.negate.holds now t = !r.holds now t
  | text r => Bool.not_xor r.negated (r.holds t)
  | number r => Bool.not_xor r.negated (r.holds t)
  | plays r => Bool.not_xor r.negated (r.holds now t)
  | file r => Bool.not_xor r.negated (r.holds now t)
  | group .and members => anyHolds_negateAll members
  | group .or members => allHold_negateAll members

theorem anyHolds_negateAll : ∀ rs : List Rule, anyHolds now t (negateAll rs) = !allHold now t rs
  | [] => rfl
  | r :: rs => by
    rw [negateAll, anyHolds, allHold, holds_negate r, anyHolds_negateAll rs, Bool.not_and]

theorem allHold_negateAll : ∀ rs : List Rule, allHold now t (negateAll rs) = !anyHolds now t rs
  | [] => rfl
  | r :: rs => by
    rw [negateAll, allHold, anyHolds, holds_negate r, allHold_negateAll rs, Bool.not_or]

end

end Outcome

end MusicQuery.Rule
