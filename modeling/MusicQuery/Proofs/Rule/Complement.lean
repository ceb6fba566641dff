import MusicQuery.Proofs.Rule.Kept
import MusicQuery.Proofs.Rule.Replacement
import MusicQuery.Query

namespace MusicQuery

namespace Rule

lemma hasNonFiniteNumbers_negate (r : Rule) : r.negate.hasNonFiniteNumbers = r.hasNonFiniteNumbers := by
  rw [hasNonFiniteNumbers_eq_any, hasNonFiniteNumbers_eq_any, numbers_negate]

end Rule

lemma Query.isSome_key? (q : Query) :
    q.key?.isSome = !(q.rule.hasRelativeDates || q.rule.hasNonFiniteNumbers || q.isRandom) := by
  rw [key?]
  split
  · next h =>
    rw [h]
    rfl
  · next h =>
    rw [Bool.eq_false_iff.mpr h]
    rfl

namespace Rule

lemma isSome_key?_negate (r : Rule) (sorting : Option Sorting) (limit : Option UInt64) :
    (Query.key? ⟨r.negate, sorting, limit⟩).isSome = (Query.key? ⟨r, sorting, limit⟩).isSome := by
  rw [Query.isSome_key?, Query.isSome_key?, hasRelativeDates_negate, hasNonFiniteNumbers_negate]
  rfl

/-- The complement of a rule, whether that makes sense or not, holds of exactly the other tracks at every clock; it has
the same first fault, asks for the clock and for unwritten numbers as the rule does, and can be kept if that can; and the
complement of the complement is the rule. -/
theorem negate_complements (r : Rule) :
    r.negate.negate = r ∧
    r.negate.validate = r.validate ∧
    r.negate.hasRelativeDates = r.hasRelativeDates ∧
    r.negate.hasNonFiniteNumbers = r.hasNonFiniteNumbers ∧
    (∀ sorting limit, (Query.key? ⟨r.negate, sorting, limit⟩).isSome = (Query.key? ⟨r, sorting, limit⟩).isSome) ∧
    ∀ now t, r.negate.holds now t = !r.holds now t :=
  ⟨negate_negate r, validate_negate r, hasRelativeDates_negate r, hasNonFiniteNumbers_negate r, isSome_key?_negate r,
    fun now t => holds_negate now t r⟩

end Rule

end MusicQuery
