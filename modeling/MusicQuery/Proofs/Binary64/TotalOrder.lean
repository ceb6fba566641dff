import MusicQuery.Proofs.Binary64.Value
import MusicQuery.Sorting

namespace MusicQuery.Binary64

lemma toBitVec_signedKey (x : Binary64) :
    x.signedKey.toBitVec = x.bits.toBitVec ^^^ (x.bits.toBitVec.sshiftRight 63 >>> 1) := by
  simp [signedKey]

lemma msb_eq_negative (x : Binary64) : x.bits.toBitVec.msb = x.negative := by
  rw [BitVec.msb_eq_decide, negative]
  rfl

lemma sshiftRight_sign (b : BitVec 64) : b.sshiftRight 63 = if b.msb then BitVec.allOnes 64 else 0 := by
  ext i hi
  have hsign : (b.sshiftRight 63)[i] = b.msb := by
    rw [BitVec.getElem_sshiftRight]
    split
    · have hzero : i = 0 := by omega
      subst hzero
      rw [BitVec.msb_eq_getLsbD_last]
      rfl
    · rfl
  rw [hsign]
  cases b.msb with
  | false => exact (BitVec.getElem_zero hi).symm
  | true => exact (BitVec.getElem_allOnes i hi).symm

lemma xor_lowBits {m : Nat} (h : m < 2 ^ 63) : (2 ^ 63 + m) ^^^ (2 ^ 63 - 1) = 2 ^ 63 + (2 ^ 63 - (m + 1)) := by
  have hrest : 2 ^ 63 - (m + 1) < 2 ^ 63 := by omega
  apply Nat.eq_of_testBit_eq
  intro i
  have hleft := Nat.testBit_two_pow_mul_add 1 h i
  have hright := Nat.testBit_two_pow_mul_add 1 hrest i
  rw [Nat.mul_one] at hleft hright
  rw [Nat.testBit_xor, hleft, hright, Nat.testBit_two_pow_sub_one, Nat.testBit_two_pow_sub_succ h]
  split
  · next hi => simp [hi]
  · next hi => simp [hi]

lemma toInt_signedKey (x : Binary64) : x.signedKey.toInt = x.totalRank := by
  have hbits := bits_toNat x
  have hmagnitude : x.magnitude < 2 ^ 63 := Nat.mod_lt _ (by decide)
  have hkey := toBitVec_signedKey x
  rw [sshiftRight_sign, msb_eq_negative] at hkey
  rw [Int64.toInt, hkey, totalRank, BitVec.toInt_eq_toNat_cond, BitVec.toNat_xor, UInt64.toNat_toBitVec, hbits]
  cases x.negative with
  | false =>
    have hmask : ((if false then BitVec.allOnes 64 else 0) >>> 1 : BitVec 64).toNat = 0 := by decide
    rw [hmask]
    simp only [Bool.false_eq_true, if_false, Nat.add_zero, Nat.xor_zero]
    rw [if_pos (by omega)]
  | true =>
    have hmask : ((if true then BitVec.allOnes 64 else 0) >>> 1 : BitVec 64).toNat = 2 ^ 63 - 1 := by decide
    have hflip := xor_lowBits hmagnitude
    rw [Nat.add_comm] at hflip
    rw [hmask]
    simp only [if_true]
    rw [show signBit = 2 ^ 63 from rfl, hflip, if_neg (by omega)]
    omega

variable {x y : Binary64}

lemma eq_of_totalRank (h : x.totalRank = y.totalRank) : x = y := by
  simp only [totalRank] at h
  cases hx : x.negative with
  | false =>
    cases hy : y.negative with
    | false =>
      simp only [hx, hy, Bool.false_eq_true, if_false] at h
      exact eq_of_magnitude (by omega) (hx.trans hy.symm)
    | true =>
      simp only [hx, hy, Bool.false_eq_true, if_false, if_true] at h
      omega
  | true =>
    cases hy : y.negative with
    | false =>
      simp only [hx, hy, Bool.false_eq_true, if_false, if_true] at h
      omega
    | true =>
      simp only [hx, hy, if_true] at h
      exact eq_of_magnitude (by omega) (hx.trans hy.symm)

lemma rank_mem_ends (h : x.isNaN = false) : negativeInfinity.rank ≤ x.rank ∧ x.rank ≤ infinity.rank := by
  have hm : ¬ infinityMagnitude < x.magnitude := of_decide_eq_false h
  have hlow : negativeInfinity.rank = -(infinityMagnitude : Int) := by decide
  have hhigh : infinity.rank = infinityMagnitude := by decide
  rw [hlow, hhigh, rank]
  split <;> omega

def sortKey (x : Binary64) : SortKey := .number x.addZero

lemma sortKey_le_iff : x.sortKey.le y.sortKey = true ↔ x.addZero.totalRank ≤ y.addZero.totalRank :=
  decide_eq_true_iff

lemma sortKey_antisymm (hxy : x.sortKey.le y.sortKey = true) (hyx : y.sortKey.le x.sortKey = true) :
    x.sortKey = y.sortKey := by
  have hrank := Int.le_antisymm (sortKey_le_iff.mp hxy) (sortKey_le_iff.mp hyx)
  exact congrArg SortKey.number (eq_of_totalRank hrank)

lemma sortKey_level_iff (hx : x.isNaN = false) (hy : y.isNaN = false) :
    x.sortKey.le y.sortKey = true ∧ y.sortKey.le x.sortKey = true ↔ x.eq y = true := by
  have hrank : x.eq y = true ↔ x.rank = y.rank := by simp [eq, hx, hy]
  have hfixed := addZero_addZero x hx
  have hfixed' := addZero_addZero y hy
  rw [sortKey_le_iff, sortKey_le_iff, totalRank_le_iff hfixed hfixed', totalRank_le_iff hfixed' hfixed,
    rank_addZero hx, rank_addZero hy, hrank]
  omega

lemma ofTrack_eq_sortKey {f : Field} (hf : f.kind = .number) (t : Track) :
    SortKey.ofTrack f t = ((t.number f).getD zero).sortKey := by
  rw [SortKey.ofTrack, hf]
  rfl

end MusicQuery.Binary64

namespace MusicQuery.NumericKey

variable {x y : Binary64} {j k : NumericKey}

lemma eq_iff_eq (hj : ofNumber? x = some j) (hk : ofNumber? y = some k) : j = k ↔ x.eq y = true := by
  have hrank : x.eq y = true ↔ x.rank = y.rank := by
    simp [Binary64.eq, (ofNumber?_eq_some.mp hj).1, (ofNumber?_eq_some.mp hk).1]
  rw [hrank, ← rank_of_ofNumber? hj, ← rank_of_ofNumber? hk]
  exact ⟨fun h => congrArg (·.value.rank) h, eq_of_rank⟩

lemma exists_ofNumber? (hx : x.isNaN = false) : ∃ k, ofNumber? x = some k := by
  rw [← Option.ne_none_iff_exists', Ne, ofNumber?_eq_none, hx]
  exact Bool.false_ne_true

lemma mem_ends (hx : ofNumber? x = some k) :
    ∃ bottom top, ofNumber? .negativeInfinity = some bottom ∧ ofNumber? .infinity = some top ∧
      bottom ≤ k ∧ k ≤ top := by
  obtain ⟨bottom, hbottom⟩ := exists_ofNumber? (x := .negativeInfinity) (by decide)
  obtain ⟨top, htop⟩ := exists_ofNumber? (x := .infinity) (by decide)
  obtain ⟨hlow, hhigh⟩ := Binary64.rank_mem_ends (ofNumber?_eq_some.mp hx).1
  refine ⟨bottom, top, hbottom, htop, ?_, ?_⟩
  · rw [le_iff_rank, rank_of_ofNumber? hbottom, rank_of_ofNumber? hx]
    exact hlow
  · rw [le_iff_rank, rank_of_ofNumber? htop, rank_of_ofNumber? hx]
    exact hhigh

/-- Just the numbers that are not NaN have keys, and these are in the order of the numbers, with one key for both zeros
and the infinities at the ends. The bit patterns of the keys, as signed numbers, are in the same order. All doubles are
sorted in one total order of their keys, in which two numbers are level if they are equal. -/
theorem ofNumber?_ordered (x y z : Binary64) :
    (ofNumber? x = none ↔ x.isNaN = true) ∧
    (x.isNaN = false → y.isNaN = false → ∃ j k, ofNumber? x = some j ∧ ofNumber? y = some k ∧
      (j < k ↔ x.lt y = true) ∧ (x.lt y = true ↔ x.toExtended < y.toExtended) ∧
      (j = k ↔ x.eq y = true) ∧ (x.eq y = true ↔ x.toExtended = y.toExtended) ∧
      (j < k ↔ j.value.signedKey < k.value.signedKey)) ∧
    ofNumber? .negativeZero = ofNumber? .zero ∧
    (∀ k, ofNumber? x = some k → ∃ bottom top, ofNumber? .negativeInfinity = some bottom ∧
      ofNumber? .infinity = some top ∧ bottom ≤ k ∧ k ≤ top) ∧
    (∀ (f : Field) (t : Track), f.kind = .number → SortKey.ofTrack f t = ((t.number f).getD .zero).sortKey) ∧
    (x.sortKey.le y.sortKey = true ↔ x.addZero.signedKey ≤ y.addZero.signedKey) ∧
    (x.sortKey.le y.sortKey = true ∨ y.sortKey.le x.sortKey = true) ∧
    (x.sortKey.le y.sortKey = true → y.sortKey.le z.sortKey = true → x.sortKey.le z.sortKey = true) ∧
    (x.sortKey.le y.sortKey = true → y.sortKey.le x.sortKey = true → x.sortKey = y.sortKey) ∧
    (x.isNaN = false → y.isNaN = false →
      (x.sortKey.le y.sortKey = true ∧ y.sortKey.le x.sortKey = true ↔ x.eq y = true)) := by
  refine ⟨ofNumber?_eq_none, fun hx hy => ?_, by decide, fun k => mem_ends, fun f t hf => Binary64.ofTrack_eq_sortKey hf t,
    ?_, ?_, fun hxy hyz => ?_, Binary64.sortKey_antisymm, Binary64.sortKey_level_iff⟩
  · obtain ⟨j, hj⟩ := exists_ofNumber? hx
    obtain ⟨k, hk⟩ := exists_ofNumber? hy
    refine ⟨j, k, hj, hk, lt_iff_lt hj hk, Binary64.lt_iff_toExtended hx hy, eq_iff_eq hj hk,
      Binary64.eq_iff_toExtended hx hy, ?_⟩
    rw [Int64.lt_iff_toInt_lt, Binary64.toInt_signedKey, Binary64.toInt_signedKey]
    rfl
  · rw [Binary64.sortKey_le_iff, Int64.le_iff_toInt_le, Binary64.toInt_signedKey, Binary64.toInt_signedKey]
  · simp only [Binary64.sortKey_le_iff]
    exact Int.le_total _ _
  · rw [Binary64.sortKey_le_iff] at *
    exact Int.le_trans hxy hyz

theorem ofNumber?_ordered_at_zeros :
    let x := Binary64.negativeZero
    let y := Binary64.zero
    let z := Binary64.nan
    x.isNaN = false ∧ y.isNaN = false ∧ Field.duration.kind = .number ∧
      (∃ k, ofNumber? x = some k ∧ ofNumber? y = some k ∧ ∃ top, ofNumber? .infinity = some top ∧ k ≤ top) ∧
      SortKey.ofTrack .duration { id := 1, duration := some x } = x.sortKey ∧
      x.sortKey = y.sortKey ∧ x.eq y = true ∧ x.sortKey.le z.sortKey = true := by
  intro x y z
  have hx : x.isNaN = false := by decide
  have hy : y.isNaN = false := by decide
  have hkind : Field.duration.kind = .number := by decide
  have hxy : x.sortKey.le y.sortKey = true := by decide
  have hyx : y.sortKey.le x.sortKey = true := by decide
  have hyz : y.sortKey.le z.sortKey = true := by decide
  obtain ⟨-, hkeys, hzeros, hends, htrack, -, -, htrans, hantisymm, hlevel⟩ := ofNumber?_ordered x y z
  obtain ⟨k, -, hk, -⟩ := hkeys hx hy
  obtain ⟨-, top, -, htop, -, hle⟩ := hends k hk
  exact ⟨hx, hy, hkind, ⟨k, hk, hzeros.symm.trans hk, top, htop, hle⟩, htrack .duration _ hkind, hantisymm hxy hyx,
    (hlevel hx hy).mp ⟨hxy, hyx⟩, htrans hxy hyz⟩

end MusicQuery.NumericKey
