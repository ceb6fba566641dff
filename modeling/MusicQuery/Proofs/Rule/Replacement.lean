import Mathlib.Tactic.Common
import MusicQuery.Proofs.Rule.Json
import MusicQuery.Proofs.Rule.Negation
import MusicQuery.Proofs.Rule.Validation

namespace MusicQuery.Rule

/-- Somewhere in a rule a part is replaced, and the rest stays. -/
inductive Replaced (E : Rule → Rule → Prop) : Rule → Rule → Prop
  | here {r s : Rule} : E r s → Replaced E r s
  | member (junction : Junction) (before after : List Rule) {r s : Rule} : Replaced E r s →
      Replaced E (group junction (before ++ r :: after)) (group junction (before ++ s :: after))

variable {E : Rule → Rule → Prop} {r s : Rule}

lemma Replaced.ne (h : Replaced E r s) (hE : ∀ a b, E a b → a ≠ b) : r ≠ s := by
  induction h with
  | here h => exact hE _ _ h
  | member junction before after _ ih =>
    intro heq
    have hlists := List.append_cancel_left (Rule.group.inj heq).2
    exact ih (List.cons.inj hlists).1

lemma mem_allNumbers {rs : List Rule} {x : Binary64} : x ∈ allNumbers rs ↔ ∃ r ∈ rs, x ∈ r.numbers := by
  induction rs with
  | nil => simp [allNumbers]
  | cons r rs ih => rw [allNumbers, List.mem_append, ih, List.exists_mem_cons_iff]

mutual

theorem numbers_negate : ∀ r : Rule, r.negate.numbers = r.numbers
  | text _ => rfl
  | number _ => rfl
  | plays _ => rfl
  | file _ => rfl
  | group _ members => allNumbers_negateAll members

theorem allNumbers_negateAll : ∀ rs : List Rule, allNumbers (negateAll rs) = allNumbers rs
  | [] => rfl
  | r :: rs => by rw [negateAll, allNumbers, allNumbers, numbers_negate r, allNumbers_negateAll rs]

end

/-- A rule that passes its check, and none of its numbers is NaN. -/
def IsSound (r : Rule) : Prop := r.validate = .ok () ∧ ∀ x ∈ r.numbers, x.isNaN = false

lemma isSound_negate : r.negate.IsSound ↔ r.IsSound := by
  rw [IsSound, validate_negate, numbers_negate, IsSound]

lemma isSound_group {junction : Junction} {members : List Rule} :
    (group junction members).IsSound ↔ ∀ r ∈ members, r.IsSound := by
  constructor
  · intro h r hr
    exact ⟨validateAll_eq_ok.mp h.1 r hr, fun x hx => h.2 x (mem_allNumbers.mpr ⟨r, hr, hx⟩)⟩
  · intro h
    refine ⟨validateAll_eq_ok.mpr fun r hr => (h r hr).1, fun x hx => ?_⟩
    obtain ⟨r, hr, hx⟩ := mem_allNumbers.mp hx
    exact (h r hr).2 x hx

/-- The other rule says the same of every track, at every clock. -/
def Restates (r s : Rule) : Prop := r.IsSound → s.IsSound ∧ ∀ now t, s.holds now t = r.holds now t

lemma Restates.negate (h : r.Restates s) : r.negate.Restates s.negate := by
  intro hr
  obtain ⟨hs, hholds⟩ := h (isSound_negate.mp hr)
  refine ⟨isSound_negate.mpr hs, fun now t => ?_⟩
  rw [holds_negate, holds_negate, hholds]

lemma Replaced.restates (h : Replaced E r s) (hE : ∀ a b, E a b → a.Restates b) : r.Restates s := by
  induction h with
  | here h => exact hE _ _ h
  | @member junction before after r s _ ih =>
    intro hsound
    have hmembers := isSound_group.mp hsound
    obtain ⟨hs, hholds⟩ := ih (hmembers r (by simp))
    refine ⟨isSound_group.mpr fun m hm => ?_, fun now t => ?_⟩
    · simp only [List.mem_append, List.mem_cons] at hm
      rcases hm with hm | rfl | hm
      · exact hmembers m (by simp [hm])
      · exact hs
      · exact hmembers m (by simp [hm])
    · cases junction with
      | and => simp only [holds, allHold_eq_all, List.all_append, List.all_cons, hholds]
      | or => simp only [holds, anyHolds_eq_any, List.any_append, List.any_cons, hholds]

end MusicQuery.Rule
