import Mathlib.Tactic.Lemma
import MusicQuery.Index.NumericKey

namespace MusicQuery

namespace Binary64

lemma bits_toNat (x : Binary64) : x.bits.toNat = x.magnitude + if x.negative then signBit else 0 := by
  have hb : x.bits.toNat < 2 * signBit := x.bits.toNat_lt
  simp only [magnitude, negative, decide_eq_true_eq]
  have hs : 0 < signBit := by decide
  split
  · rw [Nat.mod_eq_sub_mod (by assumption), Nat.mod_eq_of_lt (by omega)]
    omega
  · rw [Nat.mod_eq_of_lt (by omega), Nat.add_zero]

lemma eq_of_magnitude {x y : Binary64} (hm : x.magnitude = y.magnitude) (hn : x.negative = y.negative) : x = y := by
  have hx := bits_toNat x
  have hy := bits_toNat y
  rw [hm, hn, ← hy] at hx
  cases x
  cases y
  exact congrArg Binary64.mk (UInt64.toNat_inj.mp hx)

lemma rank_addZero {x : Binary64} (h : x.isNaN = false) : x.addZero.rank = x.rank := by
  by_cases hz : x.magnitude = 0
  · simp [addZero, hz, rank]
    decide
  · simp [addZero, hz, h]

lemma magnitude_ofMagnitude {n : Bool} {m : Nat} (h : m < signBit) : (ofMagnitude n m).magnitude = m := by
  have hs : 2 * signBit = 2 ^ 64 := by decide
  have hlt : m + (if n then signBit else 0) < 2 ^ 64 := by split <;> omega
  simp only [magnitude, ofMagnitude, UInt64.toNat_ofNat', Nat.mod_eq_of_lt hlt]
  split
  · rw [Nat.add_mod_right, Nat.mod_eq_of_lt h]
  · rw [Nat.add_zero, Nat.mod_eq_of_lt h]

lemma isNaN_of_addZero {x : Binary64} (h : x.addZero.isNaN = false) : x.isNaN = false := by
  cases hx : x.isNaN with
  | false => rfl
  | true =>
    have hm : infinityMagnitude < x.magnitude := of_decide_eq_true hx
    have hz : x.magnitude ≠ 0 := Nat.ne_zero_of_lt hm
    have hs : infinityMagnitude + 2 * quietBit = signBit := by decide
    simp only [addZero, if_neg hz, hx, Bool.true_and, decide_eq_true_eq] at h
    split at h
    · next hq =>
      rw [isNaN, magnitude_ofMagnitude (by omega)] at h
      have hn := of_decide_eq_false h
      omega
    · exact hx.symm.trans h

lemma magnitude_pos {x : Binary64} (h : x.addZero = x) (hn : x.negative = true) : 0 < x.magnitude := by
  rcases Nat.eq_zero_or_pos x.magnitude with hz | hz
  · have he : x = zero := by rw [← h, addZero, if_pos hz]
    rw [he] at hn
    exact absurd hn (by decide)
  · exact hz

lemma totalRank_le_iff {x y : Binary64} (hx : x.addZero = x) (hy : y.addZero = y) :
    x.totalRank ≤ y.totalRank ↔ x.rank ≤ y.rank := by
  have hpx := magnitude_pos hx
  have hpy := magnitude_pos hy
  simp only [totalRank, rank]
  cases hnx : x.negative with
  | false =>
    cases hny : y.negative with
    | false => simp
    | true =>
      have := hpy hny
      simp only [Bool.false_eq_true, if_false, if_true]
      omega
  | true =>
    have := hpx hnx
    cases hny : y.negative with
    | false =>
      simp only [Bool.false_eq_true, if_false, if_true]
      omega
    | true =>
      simp only [if_true]
      omega

lemma totalRank_lt_iff {x y : Binary64} (hx : x.addZero = x) (hy : y.addZero = y) :
    x.totalRank < y.totalRank ↔ x.rank < y.rank := by
  rw [← Int.not_le, ← Int.not_le, totalRank_le_iff hy hx]

lemma eq_of_rank {x y : Binary64} (hx : x.addZero = x) (hy : y.addZero = y) (h : x.rank = y.rank) : x = y := by
  have hpx := magnitude_pos hx
  have hpy := magnitude_pos hy
  simp only [rank] at h
  cases hnx : x.negative with
  | false =>
    cases hny : y.negative with
    | false =>
      refine eq_of_magnitude ?_ (hnx.trans hny.symm)
      simp only [hnx, hny, Bool.false_eq_true, if_false] at h
      omega
    | true =>
      have := hpy hny
      simp only [hnx, hny, Bool.false_eq_true, if_false, if_true] at h
      omega
  | true =>
    have := hpx hnx
    cases hny : y.negative with
    | false =>
      simp only [hnx, hny, Bool.false_eq_true, if_false, if_true] at h
      omega
    | true =>
      refine eq_of_magnitude ?_ (hnx.trans hny.symm)
      simp only [hnx, hny, if_true] at h
      omega

lemma eq_of_eq {x y : Binary64} (h : x.addZero.eq y.addZero = true) : x.addZero = y.addZero := by
  simp only [eq, Bool.and_eq_true, Bool.not_eq_true', decide_eq_true_eq] at h
  obtain ⟨⟨hx, hy⟩, hr⟩ := h
  exact eq_of_rank (addZero_addZero x (isNaN_of_addZero hx)) (addZero_addZero y (isNaN_of_addZero hy)) hr

end Binary64

namespace NumericKey

lemma le_iff_rank {a b : NumericKey} : a ≤ b ↔ a.value.rank ≤ b.value.rank :=
  Binary64.totalRank_le_iff a.value_addZero b.value_addZero

lemma lt_iff_rank {a b : NumericKey} : a < b ↔ a.value.rank < b.value.rank :=
  Binary64.totalRank_lt_iff a.value_addZero b.value_addZero

lemma eq_of_value {a b : NumericKey} (h : a.value = b.value) : a = b := by
  cases a
  cases b
  cases h
  rfl

lemma eq_of_rank {a b : NumericKey} (h : a.value.rank = b.value.rank) : a = b :=
  eq_of_value (Binary64.eq_of_rank a.value_addZero b.value_addZero h)

instance : Std.IsLinearOrder NumericKey where
  le_refl a := Int.le_refl a.value.totalRank
  le_trans a b c hab hbc := by
    rw [le_iff_rank] at *
    omega
  le_antisymm _ _ hab hba := eq_of_rank (Int.le_antisymm (le_iff_rank.mp hab) (le_iff_rank.mp hba))
  le_total a b := Int.le_total a.value.totalRank b.value.totalRank

instance : Std.LawfulOrderLT NumericKey where
  lt_iff a b := by
    rw [lt_iff_rank, le_iff_rank, le_iff_rank]
    omega

lemma ofNumber?_eq_some {x : Binary64} {k : NumericKey} :
    ofNumber? x = some k ↔ x.isNaN = false ∧ k.value = x.addZero := by
  rw [ofNumber?]
  split
  · next h =>
    refine ⟨fun hk => ⟨h, ?_⟩, fun hk => congrArg some (eq_of_value hk.2.symm)⟩
    rw [← Option.some.inj hk]
  · next h => simp [h]

lemma ofNumber?_value (k : NumericKey) : ofNumber? k.value = some k :=
  ofNumber?_eq_some.mpr ⟨k.value_isNaN, k.value_addZero.symm⟩

lemma ofNumber?_eq_none {x : Binary64} : ofNumber? x = none ↔ x.isNaN = true := by
  rw [ofNumber?]
  split <;> simp_all

lemma rank_of_ofNumber? {x : Binary64} {k : NumericKey} (h : ofNumber? x = some k) : k.value.rank = x.rank := by
  obtain ⟨hx, hk⟩ := ofNumber?_eq_some.mp h
  rw [hk, Binary64.rank_addZero hx]

variable {x y : Binary64} {j k : NumericKey}

lemma le_iff_le (hj : ofNumber? x = some j) (hk : ofNumber? y = some k) : j ≤ k ↔ x.le y = true := by
  rw [le_iff_rank, rank_of_ofNumber? hj, rank_of_ofNumber? hk]
  simp [Binary64.le, (ofNumber?_eq_some.mp hj).1, (ofNumber?_eq_some.mp hk).1]

lemma lt_iff_lt (hj : ofNumber? x = some j) (hk : ofNumber? y = some k) : j < k ↔ x.lt y = true := by
  rw [lt_iff_rank, rank_of_ofNumber? hj, rank_of_ofNumber? hk]
  simp [Binary64.lt, (ofNumber?_eq_some.mp hj).1, (ofNumber?_eq_some.mp hk).1]

end NumericKey

end MusicQuery
