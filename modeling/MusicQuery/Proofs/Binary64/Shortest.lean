import Mathlib.Algebra.Order.Field.Power
import Mathlib.Algebra.Order.Field.Rat
import Mathlib.Tactic.LinearCombination
import Mathlib.Tactic.Positivity
import MusicQuery.Binary64.Shortest
import MusicQuery.Proofs.Text.Digits

namespace MusicQuery.Binary64

section Rounding

def lowerLimit (m : Nat) : ℚ := lowerEnd m * 2 ^ (exponent m - 2)

def upperLimit (m : Nat) : ℚ := upperEnd m * 2 ^ (exponent m - 2)

/-- A number half way between two doubles rounds to the one with the even significand. -/
def RoundsTo (m : Nat) (v : ℚ) : Prop :=
  if significand m % 2 = 0 then lowerLimit m ≤ v ∧ v ≤ upperLimit m else lowerLimit m < v ∧ v < upperLimit m

variable {m k : Nat} {v : ℚ}

lemma RoundsTo.within (h : RoundsTo m v) : lowerLimit m ≤ v ∧ v ≤ upperLimit m := by
  rw [RoundsTo] at h
  split at h
  · exact h
  · exact ⟨h.1.le, h.2.le⟩

lemma significand_parity (m : Nat) : significand m % 2 = m % 2 := by
  rw [significand]
  split
  · rfl
  · simp only [leadingBit]
    omega

lemma lowerEnd_lt_upperEnd (m : Nat) : lowerEnd m < upperEnd m := by
  simp only [lowerEnd, upperEnd]
  split <;> omega

lemma lowerLimit_lt_upperLimit (m : Nat) : lowerLimit m < upperLimit m := by
  have h : (lowerEnd m : ℚ) < upperEnd m := by exact_mod_cast lowerEnd_lt_upperEnd m
  exact mul_lt_mul_of_pos_right h (by positivity)

lemma upperEnd_cases (m : Nat) :
    upperEnd m = lowerEnd (m + 1) ∧ exponent (m + 1) = exponent m ∨
      upperEnd m = 2 * lowerEnd (m + 1) ∧ exponent (m + 1) = exponent m + 1 := by
  simp only [upperEnd, lowerEnd, exponent, significand, Bool.and_eq_true, decide_eq_true_eq]
  split_ifs <;> simp only [leadingBit, and_true] at * <;> omega

lemma upperLimit_eq (m : Nat) : upperLimit m = lowerLimit (m + 1) := by
  rw [upperLimit, lowerLimit]
  rcases upperEnd_cases m with ⟨hend, hexp⟩ | ⟨hend, hexp⟩
  · rw [hend, hexp]
  · have hpow : (2 : ℚ) ^ (exponent m + 1 - 2) = 2 * 2 ^ (exponent m - 2) := by
      rw [show exponent m + 1 - 2 = 1 + (exponent m - 2) by ring, zpow_add₀ two_ne_zero, zpow_one]
    rw [hend, hexp, hpow]
    push_cast
    ring

lemma upperLimit_le (h : m < k) : upperLimit m ≤ lowerLimit k := by
  induction k, h using Nat.le_induction with
  | base => exact (upperLimit_eq m).le
  | succ k _ ih => exact ih.trans ((lowerLimit_lt_upperLimit k).le.trans (upperLimit_eq k).le)

lemma not_roundsTo_of_lt (h : m < k) (hm : RoundsTo m v) : ¬ RoundsTo k v := by
  intro hk
  have hlow := hk.within.1
  have hhigh := hm.within.2
  rcases Nat.lt_or_eq_of_le h with hfar | rfl
  · have hnext := lowerLimit_lt_upperLimit (m + 1)
    have hle := upperLimit_le hfar
    have heq := upperLimit_eq m
    linarith
  · -- Two neighbours share only the point half way, which needs both significands even.
    have heq := upperLimit_eq m
    have hpm := significand_parity m
    have hpk := significand_parity (m + 1)
    rw [RoundsTo] at hm hk
    split at hm
    · next heven =>
      have hodd : ¬ significand (m + 1) % 2 = 0 := by omega
      rw [if_neg hodd] at hk
      linarith
    · linarith

theorem roundsTo_unique (hm : RoundsTo m v) (hk : RoundsTo k v) : m = k := by
  rcases Nat.lt_trichotomy m k with h | h | h
  · exact absurd hk (not_roundsTo_of_lt h hm)
  · exact h
  · exact absurd hm (not_roundsTo_of_lt h hk)

end Rounding

section Grid

variable {m k : Nat} {e : Int}

lemma powers_eq (b : ℚ) (hb : b ≠ 0) (e : Int) : b ^ e.toNat = b ^ (-e).toNat * b ^ e := by
  rw [← zpow_natCast, ← zpow_natCast, ← zpow_add₀ hb]
  congr 1
  omega

/-- The integer scale on which quarters of the unit of a magnitude are compared with the grid `10 ^ e`. -/
def gridScale (m : Nat) (e : Int) : Nat × Nat :=
  scale (1 <<< (exponent m - 2).toNat) (1 <<< (-(exponent m - 2)).toNat) (-e)

lemma gridScale_pos (m : Nat) (e : Int) : 0 < (gridScale m e).1 ∧ 0 < (gridScale m e).2 := by
  simp [gridScale, scale, Nat.shiftLeft_eq]

lemma gridScale_eq (m : Nat) (e : Int) :
    ((gridScale m e).1 : ℚ) * 10 ^ e = (gridScale m e).2 * 2 ^ (exponent m - 2) := by
  have htwo := powers_eq 2 two_ne_zero (exponent m - 2)
  have hten := powers_eq 10 (by norm_num) (-e)
  have hinv : (10 : ℚ) ^ (-e) * 10 ^ e = 1 := by rw [← zpow_add₀ (by norm_num), neg_add_cancel, zpow_zero]
  simp only [gridScale, scale, Nat.shiftLeft_eq, Nat.pow_eq]
  push_cast
  rw [htwo, hten]
  linear_combination (2 ^ (-(exponent m - 2)).toNat * 2 ^ (exponent m - 2) * 10 ^ (-(-e)).toNat) * hinv

lemma gridScale_unit (m : Nat) (e : Int) :
    ∃ r : ℚ, 0 < r ∧ (gridScale m e).1 = r * 2 ^ (exponent m - 2) ∧ (gridScale m e).2 = r * 10 ^ e := by
  have hden : (0 : ℚ) < (gridScale m e).2 := by exact_mod_cast (gridScale_pos m e).2
  have hten : (0 : ℚ) < 10 ^ e := by positivity
  refine ⟨(gridScale m e).2 / 10 ^ e, div_pos hden hten, ?_, ?_⟩
  · rw [div_mul_eq_mul_div, ← gridScale_eq, mul_div_cancel_right₀ _ hten.ne']
  · rw [div_mul_cancel₀ _ hten.ne']

lemma gridScale_lt_iff (m n k : Nat) (e : Int) :
    n * (gridScale m e).1 < k * (gridScale m e).2 ↔ (n : ℚ) * 2 ^ (exponent m - 2) < k * 10 ^ e := by
  obtain ⟨r, hr, hnum, hden⟩ := gridScale_unit m e
  rw [← Nat.cast_lt (α := ℚ), Nat.cast_mul, Nat.cast_mul, hnum, hden, mul_left_comm, mul_left_comm (k : ℚ),
    mul_lt_mul_iff_right₀ hr]

lemma lt_gridScale_iff (m n k : Nat) (e : Int) :
    k * (gridScale m e).2 < n * (gridScale m e).1 ↔ (k : ℚ) * 10 ^ e < n * 2 ^ (exponent m - 2) := by
  obtain ⟨r, hr, hnum, hden⟩ := gridScale_unit m e
  rw [← Nat.cast_lt (α := ℚ), Nat.cast_mul, Nat.cast_mul, hnum, hden, mul_left_comm, mul_left_comm (n : ℚ),
    mul_lt_mul_iff_right₀ hr]

def onGrid (m num den k : Nat) : Bool :=
  if significand m % 2 = 0 then lowerEnd m * num ≤ k * den && k * den ≤ upperEnd m * num
  else lowerEnd m * num < k * den && k * den < upperEnd m * num

lemma onGrid_iff (m k : Nat) (e : Int) :
    onGrid m (gridScale m e).1 (gridScale m e).2 k = true ↔ RoundsTo m (k * 10 ^ e) := by
  rw [onGrid, RoundsTo, lowerLimit, upperLimit]
  split
  · rw [Bool.and_eq_true, decide_eq_true_eq, decide_eq_true_eq, ← Nat.not_lt, ← Nat.not_lt, lt_gridScale_iff,
      gridScale_lt_iff, not_lt, not_lt]
  · rw [Bool.and_eq_true, decide_eq_true_eq, decide_eq_true_eq, lt_gridScale_iff, gridScale_lt_iff]

lemma gridPoint?_cases (m : Nat) (e : Int) :
    let num := (gridScale m e).1
    let den := (gridScale m e).2
    let down := 4 * significand m * num / den
    (∃ k, gridPoint? m e = some k ∧ (k = down ∨ k = down + 1) ∧ onGrid m num den k = true) ∨
      gridPoint? m e = none ∧ onGrid m num den down = false ∧ onGrid m num den (down + 1) = false := by
  intro num den down
  have heq : gridPoint? m e =
      if onGrid m num den down && (!onGrid m num den (down + 1) ||
          2 * (4 * significand m * num - down * den) < den ||
          (2 * (4 * significand m * num - down * den) = den && down % 2 = 0)) then some down
      else if onGrid m num den (down + 1) then some (down + 1) else none := rfl
  rw [heq]
  cases hd : onGrid m num den down <;> cases hu : onGrid m num den (down + 1) <;> simp [hd, hu]
  split <;> simp [hd, hu]

lemma gridPoint?_roundsTo (h : gridPoint? m e = some k) : RoundsTo m (k * 10 ^ e) := by
  rcases gridPoint?_cases m e with ⟨j, hj, -, hon⟩ | ⟨hnone, -⟩
  · obtain rfl : j = k := Option.some.inj (hj.symm.trans h)
    exact (onGrid_iff m j e).mp hon
  · rw [hnone] at h
    cases h

end Grid

section Length

variable {m : Nat} {e : Int}

lemma significand_pos (h : 0 < m) : 0 < significand m := by
  rw [significand]
  split
  · exact h
  · simp only [leadingBit]
    omega

lemma significand_lt (m : Nat) : significand m < 2 * leadingBit := by
  rw [significand]
  split <;> simp only [leadingBit] at * <;> omega

lemma lowerEnd_cases {num den : Nat} (hfine : 10 ^ 16 * den ≤ 4 * significand m * num) (hnum : 0 < num) :
    lowerEnd m * num = 4 * significand m * num - 2 * num ∧ den < 4 * num ∨
      lowerEnd m * num = 4 * significand m * num - num ∧ den < 2 * num := by
  by_cases h : m % leadingBit = 0 ∧ leadingBit < m
  · -- A power of two is nearer to the double below, but its significand is the least one, so that the grid is finer.
    have hsig : significand m = leadingBit := by rw [significand, if_neg (by omega), h.1, Nat.zero_add]
    refine Or.inr ⟨by simp [lowerEnd, h, Nat.sub_mul], ?_⟩
    rw [hsig] at hfine
    simp only [leadingBit] at hfine
    omega
  · refine Or.inl ⟨by simp [lowerEnd, h, Nat.sub_mul], ?_⟩
    have hbound : 4 * significand m * num ≤ 4 * (2 * leadingBit) * num := by
      have := significand_lt m
      gcongr
    simp only [leadingBit] at hbound
    omega

lemma onGrid_of_fine {num den : Nat} (hnum : 0 < num) (hden : 0 < den)
    (hfine : 10 ^ 16 * den ≤ 4 * significand m * num) :
    onGrid m num den (4 * significand m * num / den) = true ∨
      onGrid m num den (4 * significand m * num / den + 1) = true := by
  have hlower := lowerEnd_cases hfine hnum
  have hupper : upperEnd m * num = 4 * significand m * num + 2 * num := by rw [upperEnd, Nat.add_mul]
  have hwhole := Nat.div_add_mod (4 * significand m * num) den
  have hrest := Nat.mod_lt (4 * significand m * num) hden
  have hnext := Nat.succ_mul (4 * significand m * num / den) den
  rw [Nat.mul_comm] at hwhole
  simp only [onGrid]
  rw [hupper, hnext]
  generalize 4 * significand m * num / den * den = below at *
  generalize 4 * significand m * num = exact at *
  split <;> simp only [Bool.and_eq_true, decide_eq_true_eq] <;> omega

lemma gridPoint?_of_fine (hfine : (10 : ℚ) ^ 16 * 10 ^ e ≤ significand m * 2 ^ exponent m) :
    ∃ k, gridPoint? m e = some k ∧ 0 < k := by
  obtain ⟨hnum, hden⟩ := gridScale_pos m e
  have hpow : (2 : ℚ) ^ exponent m = 4 * 2 ^ (exponent m - 2) := by
    rw [zpow_sub₀ two_ne_zero]
    ring
  have hpoints : 10 ^ 16 * (gridScale m e).2 ≤ 4 * significand m * (gridScale m e).1 := by
    rw [← Nat.not_lt, gridScale_lt_iff, not_lt]
    push_cast
    rw [hpow] at hfine
    linarith
  have hone : 0 < 4 * significand m * (gridScale m e).1 / (gridScale m e).2 := Nat.div_pos (by omega) hden
  rcases gridPoint?_cases m e with ⟨k, hk, hcase, -⟩ | ⟨-, hdown, hup⟩
  · exact ⟨k, hk, by omega⟩
  · have := onGrid_of_fine hnum hden hpoints
    simp [hdown, hup] at this

lemma le_exponent (m : Nat) : -1074 ≤ exponent m := by
  rw [exponent]
  split
  · rfl
  · simp only [leadingBit] at *
    omega

lemma pow_decimalLength_le {n : Nat} (h : 0 < n) : 10 ^ (decimalLength n - 1) ≤ n := by
  rcases Nat.eq_zero_or_pos (decimalLength n - 1) with hz | hpos
  · rw [hz]
    exact h
  · refine Nat.le_of_not_lt fun hlt => ?_
    have hshort : decimalLength n ≤ decimalLength n - 1 := (Nat.length_toDigits_le_iff (by decide) hpos).mpr hlt
    omega

lemma two_pow_le_ten_pow {k : Nat} (n : Nat) (h : k ≤ 3 * n) : 2 ^ k ≤ 10 ^ n := by
  calc 2 ^ k ≤ 2 ^ (3 * n) := Nat.pow_le_pow_right (by decide) h
    _ = 8 ^ n := Nat.pow_mul 2 3 n
    _ ≤ 10 ^ n := Nat.pow_le_pow_left (by decide) n

lemma pow_place_le {s : Nat} {e : Int} (hs : 0 < s) (places : Nat) (h : (-e).toNat ≤ 3 * places) :
    (10 : ℚ) ^ ((decimalLength (((s <<< e.toNat) * Nat.pow 10 places) >>> (-e).toNat) : Int) - places - 1) ≤
      s * 2 ^ e := by
  have htwo := powers_eq 2 two_ne_zero e
  have hunit : (0 : ℚ) < 2 ^ (-e).toNat := by positivity
  have hten : (0 : ℚ) < 10 ^ places := by positivity
  rw [Nat.shiftLeft_eq, Nat.shiftRight_eq_div_pow, Nat.pow_eq]
  have hwhole : 0 < s * 2 ^ e.toNat * 10 ^ places / 2 ^ (-e).toNat := by
    refine Nat.div_pos ((two_pow_le_ten_pow places h).trans ?_) (by positivity)
    exact Nat.le_mul_of_pos_left _ (by positivity)
  have hfloor : ((s * 2 ^ e.toNat * 10 ^ places / 2 ^ (-e).toNat : Nat) : ℚ) * 2 ^ (-e).toNat ≤
      s * 2 ^ e.toNat * 10 ^ places := by
    exact_mod_cast Nat.div_mul_le_self (s * 2 ^ e.toNat * 10 ^ places) (2 ^ (-e).toNat)
  have hdigits := pow_decimalLength_le hwhole
  have hlength : 0 < decimalLength (s * 2 ^ e.toNat * 10 ^ places / 2 ^ (-e).toNat) :=
    List.length_pos_of_ne_nil Nat.toDigits_ne_nil
  generalize s * 2 ^ e.toNat * 10 ^ places / 2 ^ (-e).toNat = n at *
  have hle : (10 : ℚ) ^ (decimalLength n - 1) ≤ n := by exact_mod_cast hdigits
  have hfirst : (10 : ℚ) ^ ((decimalLength n : Int) - places - 1) * 10 ^ places = 10 ^ (decimalLength n - 1) := by
    rw [← zpow_natCast, ← zpow_natCast, ← zpow_add₀ (by norm_num)]
    congr 1
    omega
  rw [htwo] at hfloor
  refine le_of_mul_le_mul_right ?_ (mul_pos hten hunit)
  calc (10 : ℚ) ^ ((decimalLength n : Int) - places - 1) * (10 ^ places * 2 ^ (-e).toNat)
      = 10 ^ (decimalLength n - 1) * 2 ^ (-e).toNat := by rw [← mul_assoc, hfirst]
    _ ≤ n * 2 ^ (-e).toNat := by gcongr
    _ ≤ s * (2 ^ (-e).toNat * 2 ^ e) * 10 ^ places := hfloor
    _ = s * 2 ^ e * (10 ^ places * 2 ^ (-e).toNat) := by ring

lemma pow_leadingPlace_le (h : 0 < m) : (10 : ℚ) ^ (leadingPlace m - 1) ≤ significand m * 2 ^ exponent m := by
  have hexp := le_exponent m
  have hlong : (-exponent m).toNat ≤ 3 * 400 := by omega
  have hcast : (400 : Int) = ((400 : Nat) : Int) := rfl
  rw [leadingPlace, hcast]
  -- The power of ten is not to be evaluated.
  generalize 400 = places at hlong ⊢
  exact pow_place_le (significand_pos h) places hlong

lemma gridPoint?_seventeen (h : 0 < m) : ∃ k, gridPoint? m (leadingPlace m - 17) = some k ∧ 0 < k := by
  refine gridPoint?_of_fine ((le_of_eq ?_).trans (pow_leadingPlace_le h))
  rw [← zpow_natCast, ← zpow_add₀ (by norm_num)]
  congr 1
  push_cast
  ring

variable {place : Int}

lemma shortestFrom_roundsTo {lengths : List Nat}
    (h : ∃ length ∈ lengths, ∃ k, gridPoint? m (place - length) = some k ∧ 0 < k) :
    0 < (shortestFrom m place lengths).digits ∧
      RoundsTo m ((shortestFrom m place lengths).digits * 10 ^ (shortestFrom m place lengths).exponent) := by
  induction lengths with
  | nil => simp at h
  | cons length lengths ih =>
    have hlater (hnot : ¬ ∃ k, gridPoint? m (place - length) = some k ∧ 0 < k) := ih (by simpa [hnot] using h)
    rw [shortestFrom]
    cases hk : gridPoint? m (place - length) with
    | none => exact hlater (by simp [hk])
    | some k =>
      rcases Nat.eq_zero_or_pos k with rfl | hpos
      · exact hlater (by simp [hk])
      · simp only [Nat.ne_of_gt hpos, if_false]
        exact ⟨hpos, gridPoint?_roundsTo hk⟩

theorem shortest_roundsTo (h : 0 < m) :
    0 < (shortest m).digits ∧ RoundsTo m ((shortest m).digits * 10 ^ (shortest m).exponent) :=
  shortestFrom_roundsTo ⟨17, by decide, gridPoint?_seventeen h⟩

end Length

end MusicQuery.Binary64
