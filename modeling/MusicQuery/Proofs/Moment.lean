import Mathlib.Tactic.Lemma
import MusicQuery.Moment
import MusicQuery.Proofs.Instant.Text

namespace MusicQuery

namespace TimeUnit

section Words

lemma span?_eq_some {unit : TimeUnit} {amount : UInt32} {seconds : Nat} :
    unit.span? amount = some seconds ↔ seconds = amount.toNat * unit.seconds ∧ seconds ≤ spanLimit := by
  rw [span?, Option.ite_none_right_eq_some, Option.some.injEq, and_comm, eq_comm]
  exact and_congr_right fun heq => by rw [heq]

lemma parts_cases (unit : TimeUnit) :
    unit.parts.1 ≤ 365 ∧ unit.parts.2 ≤ 7 * 86400 ∧ unit.seconds = unit.parts.1 * unit.parts.2 ∧
      unit.seconds ≤ 365 * 86400 := by
  cases unit <;> decide

lemma product?_ofNat {a b : Nat} (ha : a < 2 ^ 63) (hb : b < 2 ^ 63) :
    product? (.ofNat a) (.ofNat b) = if a * b < 2 ^ 63 then some (.ofNat (a * b)) else none := by
  rw [product?, Int64.toInt_ofNat_of_lt ha, Int64.toInt_ofNat_of_lt hb, ← Int64.ofNat_mul]
  have hcast : (a : Int) * b = ((a * b : Nat) : Int) := (Int.natCast_mul a b).symm
  rw [hcast, Int64.toInt_minValue, Int64.toInt_maxValue]
  apply if_congr _ rfl rfl
  omega

lemma checkedSpan?_eq (unit : TimeUnit) (amount : UInt32) :
    unit.checkedSpan? amount = some ((unit.span? amount).map .ofNat) := by
  have hamount : amount.toNat < 2 ^ 32 := amount.toNat_lt
  obtain ⟨hcount, heach, hparts, -⟩ := unit.parts_cases
  have hfirst : amount.toNat * unit.parts.1 ≤ 2 ^ 32 * 365 := Nat.mul_le_mul (by omega) hcount
  have hsecond : amount.toNat * unit.parts.1 * unit.parts.2 ≤ 2 ^ 32 * 365 * (7 * 86400) := Nat.mul_le_mul hfirst heach
  rw [checkedSpan?, product?_ofNat (by omega) (by omega), if_pos (by omega), Option.map_some,
    product?_ofNat (by omega) (by omega), if_pos (by omega), Option.filter_some, product?_ofNat (by omega) (by omega),
    span?, hparts, ← Nat.mul_assoc]
  by_cases hlimit : amount.toNat * unit.parts.1 * unit.parts.2 ≤ spanLimit
  · have hmillis : amount.toNat * unit.parts.1 * unit.parts.2 * 1000 < 2 ^ 63 := by
      rw [spanLimit] at hlimit
      omega
    rw [if_pos hlimit, if_pos hmillis]
    rfl
  · have hmillis : ¬ amount.toNat * unit.parts.1 * unit.parts.2 * 1000 < 2 ^ 63 := by
      rw [spanLimit] at hlimit
      omega
    rw [if_neg hlimit, if_neg hmillis]
    rfl

lemma exists_checkedSpan? (unit : TimeUnit) (amount : UInt32) :
    ∃ span, unit.checkedSpan? amount = some span ∧ span.map Int64.toInt = (unit.span? amount).map Int.ofNat := by
  refine ⟨_, unit.checkedSpan?_eq amount, ?_⟩
  rw [Option.map_map]
  apply Option.map_congr
  intro seconds hspan
  obtain ⟨-, hlimit⟩ := span?_eq_some.mp hspan
  rw [spanLimit] at hlimit
  exact Int64.toInt_ofNat_of_lt (by omega)

end Words

end TimeUnit

namespace Instant

variable {i j : Instant}

lemma nano_lt_of_not_leap (h : i.isLeap = false) : i.nano < 1000000000 := by
  rw [isLeap, decide_eq_false_iff_not] at h
  omega

/-- The nanoseconds since 1970, where leap seconds do not count. -/
def nanos (i : Instant) : Int := i.second * 1000000000 + i.nano

section Order

variable (hi : i.isLeap = false) (hj : j.isLeap = false)
include hi hj

lemma le_iff_nanos : i ≤ j ↔ i.nanos ≤ j.nanos := by
  have hinano := nano_lt_of_not_leap hi
  have hjnano := nano_lt_of_not_leap hj
  rw [le_def, nanos, nanos]
  omega

lemma eq_of_nanos (h : i.nanos = j.nanos) : i = j := by
  apply le_antisymm
  · exact (le_iff_nanos hi hj).mpr (Int.le_of_eq h)
  · exact (le_iff_nanos hj hi).mpr (Int.le_of_eq h.symm)

end Order

lemma earliest_nanos_le (i : Instant) : earliest.nanos ≤ i.nanos := by
  have hfirst := i.first_le
  rw [nanos, nanos]
  show firstSecond * 1000000000 + 0 ≤ _
  omega

section Before

variable (h : i.isLeap = false) {n : Nat}
include h

lemma before?_of_not_leap (n : Nat) : i.before? n = ofParts? (i.second - n) i.nano := by
  rw [before?, h]
  by_cases hn : n = 0
  · rw [if_pos hn, hn, Int.natCast_zero, Int.sub_zero, ofParts?_self]
  · rw [if_neg hn]
    rfl

lemma before?_eq_none (hn : i.second - n < firstSecond) : i.before? n = none := by
  rw [before?_of_not_leap h]
  exact dif_neg fun hparts => absurd hparts.1 (Int.not_le.mpr hn)

lemma exists_before? (hn : firstSecond ≤ i.second - n) :
    ∃ j, i.before? n = some j ∧ j.isLeap = false ∧ j.nanos = i.nanos - n * 1000000000 := by
  have hnano := nano_lt_of_not_leap h
  have hlast := i.le_last
  have hparts : firstSecond ≤ i.second - n ∧ i.second - n ≤ lastSecond ∧ i.nano < 2000000000 :=
    ⟨hn, by omega, i.nano_lt⟩
  refine ⟨_, (before?_of_not_leap h n).trans (dif_pos hparts), h, ?_⟩
  show (i.second - n) * 1000000000 + (i.nano : Int) = i.second * 1000000000 + i.nano - n * 1000000000
  omega

end Before

end Instant

namespace Moment

def length (amount : UInt32) (unit : TimeUnit) : Nat := amount.toNat * unit.seconds

section Ago

variable {now : Instant} (hnow : now.isLeap = false) (amount : UInt32) (unit : TimeUnit)
include hnow

lemma resolve_ago_of_reached (h : firstSecond ≤ now.second - length amount unit) :
    ((ago amount unit).resolve now).isLeap = false ∧
      ((ago amount unit).resolve now).nanos = now.nanos - length amount unit * 1000000000 := by
  have hfirst : firstSecond = -8334601228800 := rfl
  have hlast : now.second ≤ 8210266876799 := now.le_last
  have hspan : unit.span? amount = some (length amount unit) := by
    refine TimeUnit.span?_eq_some.mpr ⟨rfl, ?_⟩
    rw [TimeUnit.spanLimit]
    omega
  obtain ⟨i, hi, hleap, hnanos⟩ := Instant.exists_before? hnow h
  rw [resolve, hspan, Option.bind_some, hi]
  exact ⟨hleap, hnanos⟩

lemma resolve_ago_of_not_reached (h : now.second - length amount unit < firstSecond) :
    (ago amount unit).resolve now = Instant.earliest := by
  rw [resolve]
  cases hspan : unit.span? amount with
  | none => rfl
  | some seconds =>
    obtain ⟨rfl, -⟩ := TimeUnit.span?_eq_some.mp hspan
    have hnone : now.before? (amount.toNat * unit.seconds) = none := Instant.before?_eq_none hnow h
    rw [Option.bind_some, hnone]
    rfl

lemma resolve_ago :
    ((ago amount unit).resolve now).isLeap = false ∧ ((ago amount unit).resolve now).nanos =
      max Instant.earliest.nanos (now.nanos - length amount unit * 1000000000) := by
  by_cases h : firstSecond ≤ now.second - length amount unit
  · obtain ⟨hleap, hnanos⟩ := resolve_ago_of_reached hnow amount unit h
    refine ⟨hleap, hnanos.trans (Int.max_eq_right ?_).symm⟩
    rw [← hnanos]
    exact Instant.earliest_nanos_le _
  · have hnano := Instant.nano_lt_of_not_leap hnow
    rw [resolve_ago_of_not_reached hnow amount unit (Int.not_le.mp h)]
    refine ⟨by decide, (Int.max_eq_left ?_).symm⟩
    show now.second * 1000000000 + (now.nano : Int) - _ ≤ firstSecond * 1000000000 + 0
    omega

lemma eq_resolve_ago_iff {i : Instant} :
    i = (ago amount unit).resolve now ↔ i.isLeap = false ∧
      i.nanos = max Instant.earliest.nanos (now.nanos - length amount unit * 1000000000) := by
  obtain ⟨hleap, hnanos⟩ := resolve_ago hnow amount unit
  constructor
  · rintro rfl
    exact ⟨hleap, hnanos⟩
  · rintro ⟨hi, h⟩
    exact Instant.eq_of_nanos hi hleap (h.trans hnanos.symm)

lemma resolve_ago_le : (ago amount unit).resolve now ≤ now := by
  obtain ⟨hleap, hnanos⟩ := resolve_ago hnow amount unit
  rw [Instant.le_iff_nanos hleap hnow, hnanos]
  apply Int.max_le.mpr
  exact ⟨Instant.earliest_nanos_le now, by omega⟩

lemma resolve_ago_antitone {more : UInt32} (h : amount ≤ more) :
    (ago more unit).resolve now ≤ (ago amount unit).resolve now := by
  obtain ⟨hleap, hnanos⟩ := resolve_ago hnow amount unit
  obtain ⟨hleap', hnanos'⟩ := resolve_ago hnow more unit
  have hlength : length amount unit ≤ length more unit := Nat.mul_le_mul_right _ (UInt32.le_iff_toNat_le.mp h)
  rw [Instant.le_iff_nanos hleap' hleap, hnanos, hnanos']
  omega

end Ago

lemma resolve_mono {now later : Instant} (hnow : now.isLeap = false) (hlater : later.isLeap = false)
    (h : now ≤ later) (m : Moment) : m.resolve now ≤ m.resolve later := by
  cases m with
  | «at» instant => exact Instant.le_refl instant
  | ago amount unit =>
    obtain ⟨hleap, hnanos⟩ := resolve_ago hnow amount unit
    obtain ⟨hleap', hnanos'⟩ := resolve_ago hlater amount unit
    have hclock := (Instant.le_iff_nanos hnow hlater).mp h
    rw [Instant.le_iff_nanos hleap hleap', hnanos, hnanos']
    omega

end Moment

end MusicQuery
