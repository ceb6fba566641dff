import Mathlib.Order.WithBot
import MusicQuery.Proofs.Binary64.Order
import MusicQuery.Proofs.Binary64.Shortest

namespace MusicQuery.Binary64

section Magnitude

variable {m k : Nat}

def magnitudeValue (m : Nat) : ℚ := significand m * 2 ^ exponent m

lemma magnitudeValue_eq (m : Nat) : magnitudeValue m = (4 * significand m : Nat) * 2 ^ (exponent m - 2) := by
  rw [magnitudeValue, zpow_sub₀ two_ne_zero]
  push_cast
  ring

lemma lowerLimit_le_value (m : Nat) : lowerLimit m ≤ magnitudeValue m := by
  have hend : (lowerEnd m : ℚ) ≤ (4 * significand m : Nat) := by exact_mod_cast Nat.sub_le _ _
  rw [lowerLimit, magnitudeValue_eq]
  gcongr

lemma value_lt_upperLimit (m : Nat) : magnitudeValue m < upperLimit m := by
  have hend : ((4 * significand m : Nat) : ℚ) < upperEnd m := by exact_mod_cast Nat.lt_add_of_pos_right two_pos
  rw [upperLimit, magnitudeValue_eq]
  gcongr

lemma strictMono_magnitudeValue : StrictMono magnitudeValue := fun m k h =>
  calc magnitudeValue m < upperLimit m := value_lt_upperLimit m
    _ ≤ lowerLimit k := upperLimit_le h
    _ ≤ magnitudeValue k := lowerLimit_le_value k

lemma magnitudeValue_zero : magnitudeValue 0 = 0 := by simp [magnitudeValue, significand, leadingBit]

lemma magnitudeValue_nonneg (m : Nat) : 0 ≤ magnitudeValue m :=
  magnitudeValue_zero ▸ strictMono_magnitudeValue.monotone (Nat.zero_le m)

end Magnitude

def toRat (x : Binary64) : ℚ := if x.negative then -magnitudeValue x.magnitude else magnitudeValue x.magnitude

def toExtended (x : Binary64) : WithBot (WithTop ℚ) :=
  if x.isFinite then ((x.toRat : WithTop ℚ) : WithBot (WithTop ℚ)) else if x.negative then ⊥ else ⊤

variable {x y : Binary64}

lemma toRat_lt_iff : x.toRat < y.toRat ↔ x.rank < y.rank := by
  have hx := magnitudeValue_nonneg x.magnitude
  have hy := magnitudeValue_nonneg y.magnitude
  have hlt {m k : Nat} : magnitudeValue m < magnitudeValue k ↔ m < k := strictMono_magnitudeValue.lt_iff_lt
  have hpos {m : Nat} : 0 < magnitudeValue m ↔ 0 < m := by rw [← magnitudeValue_zero, hlt]
  simp only [toRat, rank]
  cases x.negative with
  | false =>
    cases y.negative with
    | false =>
      simp only [Bool.false_eq_true, if_false, hlt]
      omega
    | true =>
      simp only [Bool.false_eq_true, if_false, if_true]
      exact iff_of_false (by linarith) (by omega)
  | true =>
    cases y.negative with
    | false =>
      -- Below zero and from zero on: only the two zeros are not told apart.
      simp only [Bool.false_eq_true, if_false, if_true]
      have hsum : -magnitudeValue x.magnitude < magnitudeValue y.magnitude ↔
          0 < magnitudeValue x.magnitude ∨ 0 < magnitudeValue y.magnitude := by
        constructor
        · intro h
          by_contra hnone
          rw [not_or, not_lt, not_lt] at hnone
          linarith [hnone.1, hnone.2]
        · rintro (h | h) <;> linarith
      rw [hsum, hpos, hpos]
      omega
    | true =>
      simp only [if_true, neg_lt_neg_iff, hlt]
      omega

lemma neg_lt_rank (h : x.isFinite = true) : -(infinityMagnitude : Int) < x.rank ∧ x.rank < infinityMagnitude := by
  have hm : x.magnitude < infinityMagnitude := of_decide_eq_true h
  rw [rank]
  split <;> omega

lemma rank_of_infinite (hx : x.isNaN = false) (h : x.isFinite = false) :
    x.rank = if x.negative then -(infinityMagnitude : Int) else infinityMagnitude := by
  have hle : ¬ infinityMagnitude < x.magnitude := of_decide_eq_false hx
  have hge : ¬ x.magnitude < infinityMagnitude := of_decide_eq_false h
  rw [rank, show x.magnitude = infinityMagnitude by omega]

lemma toExtended_of_finite (h : x.isFinite = true) :
    x.toExtended = ((x.toRat : WithTop ℚ) : WithBot (WithTop ℚ)) := if_pos h

lemma toExtended_of_infinite (h : x.isFinite = false) : x.toExtended = if x.negative then ⊥ else ⊤ := by
  rw [toExtended, if_neg (by simp [h])]

lemma toExtended_lt_iff (hx : x.isNaN = false) (hy : y.isNaN = false) :
    x.toExtended < y.toExtended ↔ x.rank < y.rank := by
  have hinf : 0 < infinityMagnitude := by decide
  cases hfx : x.isFinite with
  | true =>
    have hbounds := neg_lt_rank hfx
    rw [toExtended_of_finite hfx]
    cases hfy : y.isFinite with
    | true => rw [toExtended_of_finite hfy, WithBot.coe_lt_coe, WithTop.coe_lt_coe, toRat_lt_iff]
    | false =>
      rw [toExtended_of_infinite hfy, rank_of_infinite hy hfy]
      cases y.negative with
      | true => exact iff_of_false not_lt_bot (by simp only [if_true]; omega)
      | false => exact iff_of_true (WithBot.coe_lt_coe.mpr (WithTop.coe_lt_top _)) hbounds.2
  | false =>
    rw [toExtended_of_infinite hfx, rank_of_infinite hx hfx]
    cases hfy : y.isFinite with
    | true =>
      have hbounds := neg_lt_rank hfy
      rw [toExtended_of_finite hfy]
      cases x.negative with
      | true => exact iff_of_true (WithBot.bot_lt_coe _) hbounds.1
      | false => exact iff_of_false not_top_lt (by simp only [Bool.false_eq_true, if_false]; omega)
    | false =>
      rw [toExtended_of_infinite hfy, rank_of_infinite hy hfy]
      have hends : -(infinityMagnitude : Int) < infinityMagnitude := by omega
      cases x.negative <;> cases y.negative <;> simp [hends]

lemma lt_iff_toExtended (hx : x.isNaN = false) (hy : y.isNaN = false) :
    x.lt y = true ↔ x.toExtended < y.toExtended := by
  rw [toExtended_lt_iff hx hy]
  simp [lt, hx, hy]

lemma eq_iff_toExtended (hx : x.isNaN = false) (hy : y.isNaN = false) :
    x.eq y = true ↔ x.toExtended = y.toExtended := by
  have hrank : x.eq y = true ↔ x.rank = y.rank := by simp [eq, hx, hy]
  rw [hrank, eq_iff_le_not_lt, eq_iff_le_not_lt, ← not_lt, ← not_lt, toExtended_lt_iff hx hy, toExtended_lt_iff hy hx]

end MusicQuery.Binary64
