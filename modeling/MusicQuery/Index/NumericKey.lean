import MusicQuery.Binary64.Basic

namespace MusicQuery

namespace Binary64

theorem isNaN_addZero (x : Binary64) (h : x.isNaN = false) : x.addZero.isNaN = false := by
  unfold addZero
  split
  · decide
  · simp [h]

theorem addZero_addZero (x : Binary64) (h : x.isNaN = false) : x.addZero.addZero = x.addZero := by
  by_cases hz : x.magnitude = 0
  · simp [addZero, hz, show zero.magnitude = 0 by decide]
  · simp [addZero, hz, h]

end Binary64

/-- A number that has a place among the others: not NaN, and never the negative zero. -/
structure NumericKey where
  value : Binary64
  value_isNaN : value.isNaN = false
  value_addZero : value.addZero = value
deriving DecidableEq

namespace NumericKey

def ofNumber? (x : Binary64) : Option NumericKey :=
  if h : x.isNaN = false then some ⟨x.addZero, Binary64.isNaN_addZero x h, Binary64.addZero_addZero x h⟩ else none

instance : LE NumericKey := ⟨fun a b => a.value.totalRank ≤ b.value.totalRank⟩

instance : LT NumericKey := ⟨fun a b => a.value.totalRank < b.value.totalRank⟩

instance (a b : NumericKey) : Decidable (a ≤ b) := inferInstanceAs (Decidable (a.value.totalRank ≤ b.value.totalRank))

instance (a b : NumericKey) : Decidable (a < b) := inferInstanceAs (Decidable (a.value.totalRank < b.value.totalRank))

end NumericKey

end MusicQuery
