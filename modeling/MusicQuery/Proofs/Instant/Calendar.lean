import Mathlib.Tactic.IntervalCases
import MusicQuery.Instant.Calendar

namespace MusicQuery.Date

/-- The place of a day in its era, by centuries, runs of four years, years and days. Only the last century has as many
as 36525 days, and only the last year of a run, unless the run ends another century, has 366. -/
structure Place (n : Nat) where
  century : Nat
  run : Nat
  year : Nat
  day : Nat
  century_le : century ≤ 3
  run_le : run ≤ 24
  year_le : year ≤ 3
  day_le : day ≤ 365
  leap : day = 365 → year = 3 ∧ (run < 24 ∨ century = 3)
  eq : n = 36524 * century + 1461 * run + 365 * year + day

namespace Place

lemma exists_of_lt {n : Nat} (h : n < 146097) : Nonempty (Place n) := by
  obtain ⟨c, m, hc, hm, hlast, rfl⟩ : ∃ c m, c ≤ 3 ∧ m ≤ 36524 ∧ (m = 36524 → c = 3) ∧ n = 36524 * c + m :=
    ⟨min (n / 36524) 3, n - 36524 * min (n / 36524) 3, by omega⟩
  obtain ⟨q, k, hq, hk, hlast', rfl⟩ : ∃ q k, q ≤ 24 ∧ k ≤ 1460 ∧ (k = 1460 → q < 24 ∨ c = 3) ∧ m = 1461 * q + k :=
    ⟨m / 1461, m % 1461, by omega⟩
  exact ⟨⟨c, q, min (k / 365) 3, k - 365 * min (k / 365) 3, hc, hq, by omega, by omega, by omega, by omega⟩⟩

variable {n : Nat} (p : Place n)

def yearOfEra : Nat := 100 * p.century + 4 * p.run + p.year

lemma yearOfEra_eq : (n - n / 1460 + n / 36524 - n / 146096) / 365 = p.yearOfEra := by
  obtain ⟨c, q, y, d, hc, hq, hy, hd, hleap, hn⟩ := p
  have hcentury : n / 36524 - n / 146096 = c := by omega
  have hlast : n / 146096 ≤ n / 36524 := by omega
  have hrun : n / 1460 = 25 * c + q + (24 * c + q + 365 * y + d) / 1460 := by omega
  have hsum : n - n / 1460 + n / 36524 - n / 146096 =
      36500 * c + 1460 * q + 365 * y + d - (24 * c + q + 365 * y + d) / 1460 := by omega
  rw [hsum]
  clear hcentury hlast hrun hsum
  show _ = 100 * c + 4 * q + y
  omega

lemma dayOfYear_eq : n - (365 * p.yearOfEra + p.yearOfEra / 4 - p.yearOfEra / 100) = p.day := by
  obtain ⟨c, q, y, d, hc, hq, hy, hd, hleap, hn⟩ := p
  simp only [yearOfEra]
  omega

end Place

lemma exists_place (days : Int) : ∃ (era : Int) (n : Nat) (p : Place n) (month : Nat),
    days = era * 146097 + n - 719468 ∧ month = (5 * p.day + 2) / 153 ∧
      ofDays days = ⟨era * 400 + p.yearOfEra + if month < 10 then 0 else 1, if month < 10 then month + 3 else month - 9,
        p.day - (153 * month + 2) / 5 + 1⟩ := by
  have hlt : ((days + 719468) % 146097).toNat < 146097 := by omega
  obtain ⟨p⟩ := Place.exists_of_lt hlt
  refine ⟨(days + 719468) / 146097, _, p, (5 * p.day + 2) / 153, by omega, rfl, ?_⟩
  have hyear := p.yearOfEra_eq
  have hday := p.dayOfYear_eq
  simp only [ofDays, hyear, hday, mk.injEq, and_true]
  split <;> simp

lemma toDays_ofDays (days : Int) : (ofDays days).toDays = days := by
  obtain ⟨era, n, p, month, hdays, hmonth, hdate⟩ := exists_place days
  obtain ⟨c, q, y, d, hc, hq, hy, hd, hleap, hn⟩ := p
  have hyear : (era * 400 + (100 * c + 4 * q + y : Nat)) % 400 = (100 * c + 4 * q + y : Nat) := by omega
  have hera : (era * 400 + (100 * c + 4 * q + y : Nat)) / 400 = era := by omega
  simp only at hmonth
  rw [hdate]
  simp only [toDays, Place.yearOfEra]
  -- The year that counts from March is that of the era, whether the date lies before January or not.
  by_cases hm : month < 10
  · have hmarch : ¬ month + 3 ≤ 2 := by omega
    have hback : (month + 3 + 9) % 12 = month := by omega
    simp only [hm, if_true, hmarch, if_false, hback, Int.add_zero, hera, hyear]
    omega
  · have hmarch : month - 9 ≤ 2 := by omega
    have hback : (month - 9 + 9) % 12 = month := by omega
    simp only [hm, if_false, hmarch, if_true, hback, Int.add_sub_cancel, hera, hyear]
    omega

lemma exists?_ofDays (days : Int) : (ofDays days).exists? = true := by
  obtain ⟨era, n, p, month, hdays, hmonth, hdate⟩ := exists_place days
  obtain ⟨c, q, y, d, hc, hq, hy, hd, hleap, hn⟩ := p
  simp only at hmonth
  rw [hdate]
  have hle : month ≤ 11 := by omega
  simp only [exists?, monthLength, isLeapYear, Place.yearOfEra, Bool.and_eq_true, decide_eq_true_eq]
  rcases Nat.lt_or_eq_of_le hle with hlt | rfl
  · interval_cases month <;> simp <;> omega
  · -- February ends a year that counts from March, with the leap day if there is one.
    simp
    split <;> omega

lemma lt_of_exists? {d : Date} (h : d.exists? = true) : d.month < 100 ∧ d.day < 100 := by
  have hle : monthLength d.year d.month ≤ 31 := by
    unfold monthLength
    split
    · split <;> decide
    · split <;> decide
  simp only [exists?, Bool.and_eq_true, decide_eq_true_eq] at h
  omega

lemma year_ofDays {days : Int} (hlow : -96465292 ≤ days) (hhigh : days ≤ 95026236) :
    -262143 ≤ (ofDays days).year ∧ (ofDays days).year ≤ 262142 := by
  obtain ⟨era, n, p, month, hdays, hmonth, hdate⟩ := exists_place days
  obtain ⟨c, q, y, d, hc, hq, hy, hd, hleap, hn⟩ := p
  simp only at hmonth
  rw [hdate]
  simp only [Place.yearOfEra]
  rcases (by omega : era < 655 ∨ era = 655) with hera | rfl <;> split <;> omega

end MusicQuery.Date
