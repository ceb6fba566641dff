import MusicQuery.Proofs.Index.Bisection

namespace MusicQuery.SortedIndex

section Lookup

variable {α : Type} [LE α] [LT α] [DecidableLE α] [DecidableLT α]
variable [Std.IsLinearOrder α] [Std.LawfulOrderLT α] {ix : SortedIndex α}

lemma checkedWithin?_eq (h : ix.entries.Pairwise fun a b => a.1 ≤ b.1) (bounds : Bounds α) :
    ix.checkedWithin? bounds = some (ix.within bounds) := by
  obtain ⟨lower, upper⟩ := bounds
  cases lower with
  | none =>
    cases upper with
    | none => rfl
    | some high => exact congrArg (Option.map ids) (checkedBelow?_eq h high.value high.inclusive)
  | some low =>
    have habove := checkedAbove?_eq h low.value low.inclusive
    obtain ⟨low, lowInclusive⟩ := low
    cases upper with
    | none => cases lowInclusive <;> exact congrArg (Option.map ids) habove
    | some high =>
      obtain ⟨high, highInclusive⟩ := high
      -- Only two inclusive bounds are looked up together, the other pairs filter what lies above the lower one.
      let filtered (found : List (α × TrackId)) : List TrackId :=
        ids (found.filter fun e => if highInclusive then e.1 ≤ high else e.1 < high)
      cases lowInclusive with
      | false => cases highInclusive <;> exact congrArg (Option.map filtered) habove
      | true =>
        cases highInclusive with
        | false => exact congrArg (Option.map filtered) habove
        | true => exact congrArg (Option.map ids) (checkedBetween?_eq h low high)

end Lookup

section Numbers

open withinNumbers

variable {ix : SortedIndex NumericKey}

lemma checkedWithinNumbers?_eq (h : ix.entries.Pairwise fun a b => a.1 ≤ b.1) (bounds : Bounds Binary64) :
    ix.checkedWithinNumbers? bounds = some (ix.withinNumbers bounds) := by
  rw [checkedWithinNumbers?, withinNumbers]
  cases keyBound? bounds.lower with
  | none => rfl
  | some lower =>
    cases keyBound? bounds.upper with
    | none => rfl
    | some upper => exact checkedWithin?_eq h ⟨lower, upper⟩

lemma withinNumbers_of_nan (h : ix.entries.Pairwise fun a b => a.1 ≤ b.1) {bounds : Bounds Binary64}
    {b : Bound Binary64} (hb : b ∈ bounds.lower ∨ b ∈ bounds.upper) (hn : b.value.isNaN = true) :
    ix.withinNumbers bounds = [] := by
  rw [withinNumbers_eq_filter h, List.filter_eq_nil_iff.mpr]
  · rfl
  · intro e _
    rw [not_admits_nan hb hn]
    exact Bool.false_ne_true

end Numbers

/-- In an ordered index halving finds, for bounds of every shape and in either order, the ids of the entries that
satisfy both, as they stand. Bounds on numbers are compared as numbers, and one that is NaN lets nothing through. -/
theorem within_exact {α : Type} [LE α] [LT α] [DecidableLE α] [DecidableLT α] [Std.IsLinearOrder α]
    [Std.LawfulOrderLT α] (ix : SortedIndex α) (h : ix.isSorted = true) (bounds : Bounds α)
    (numbers : SortedIndex NumericKey) (hnumbers : numbers.isSorted = true) (limits : Bounds Binary64) :
    (ix.checkedWithin? bounds = some (ix.within bounds) ∧
      ix.within bounds = ids (ix.entries.filter fun e =>
        (bounds.lower.all fun b => if b.inclusive then b.value ≤ e.1 else b.value < e.1) &&
          bounds.upper.all fun b => if b.inclusive then e.1 ≤ b.value else e.1 < b.value)) ∧
    (numbers.checkedWithinNumbers? limits = some (numbers.withinNumbers limits) ∧
      numbers.withinNumbers limits = ids (numbers.entries.filter fun e =>
        (limits.lower.all fun b => if b.inclusive then b.value.le e.1.value else b.value.lt e.1.value) &&
          limits.upper.all fun b => if b.inclusive then e.1.value.le b.value else e.1.value.lt b.value) ∧
      ∀ b, b ∈ limits.lower ∨ b ∈ limits.upper → b.value.isNaN = true → numbers.withinNumbers limits = []) := by
  have hsorted := isAscending_iff.mp h
  have hascending := isAscending_iff.mp hnumbers
  refine ⟨⟨checkedWithin?_eq hsorted bounds, within_eq_filter hsorted bounds⟩,
    checkedWithinNumbers?_eq hascending limits, withinNumbers_eq_filter hascending limits, ?_⟩
  intro b hb hn
  exact withinNumbers_of_nan hascending hb hn

theorem within_exact_of_mixed_bounds :
    let zero : NumericKey := ⟨.zero, by decide, by decide⟩
    let five : NumericKey := ⟨⟨0x4014000000000000⟩, by decide, by decide⟩
    let ix : SortedIndex NumericKey := ⟨[(zero, 2), (five, 1), (five, 3)]⟩
    let found (lower upper : Bound NumericKey) := ix.checkedWithin? ⟨some lower, some upper⟩
    let foundNumbers (lower upper : Bound Binary64) := ix.checkedWithinNumbers? ⟨some lower, some upper⟩
    ix.isSorted = true ∧ found ⟨zero, false⟩ ⟨five, true⟩ = some [1, 3] ∧
      foundNumbers ⟨.negativeZero, true⟩ ⟨five.value, false⟩ = some [2] ∧
      found ⟨five, true⟩ ⟨zero, false⟩ = some [] ∧
      Binary64.nan.isNaN = true ∧ ix.withinNumbers ⟨some ⟨.zero, true⟩, some ⟨.nan, true⟩⟩ = [] := by
  intro zero five ix found foundNumbers
  have hsorted : ix.isSorted = true := by decide
  have hexact (bounds : Bounds NumericKey) (limits : Bounds Binary64) :=
    within_exact ix hsorted bounds ix hsorted limits
  obtain ⟨⟨hmixed, hids⟩, hnumbers, hnumberIds, -⟩ :=
    hexact ⟨some ⟨zero, false⟩, some ⟨five, true⟩⟩ ⟨some ⟨.negativeZero, true⟩, some ⟨five.value, false⟩⟩
  obtain ⟨⟨hcrossed, hnone⟩, -, -, hnan⟩ :=
    hexact ⟨some ⟨five, true⟩, some ⟨zero, false⟩⟩ ⟨some ⟨.zero, true⟩, some ⟨.nan, true⟩⟩
  have hisNaN : Binary64.nan.isNaN = true := by decide
  refine ⟨hsorted, ?_, ?_, ?_, hisNaN, hnan ⟨.nan, true⟩ (.inr rfl) hisNaN⟩
  · rw [hids] at hmixed
    exact hmixed.trans (by decide)
  · rw [hnumberIds] at hnumbers
    exact hnumbers.trans (by decide)
  · rw [hnone] at hcrossed
    exact hcrossed.trans (by decide)

end MusicQuery.SortedIndex
