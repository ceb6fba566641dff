import Mathlib.Data.List.TakeWhile
import MusicQuery.Instant.Text
import MusicQuery.Proofs.Instant.Calendar
import MusicQuery.Proofs.Text.Digits

namespace MusicQuery.Instant

open Text

section Front

variable {ds rest : List Char} {c : Char}

lemma isBlank_of_isDigit (h : c.isDigit = true) : isBlank c = false := by
  have hrange : 48 ≤ c.toNat ∧ c.toNat ≤ 57 := Char.isDigit_iff_toNat.mp h
  simp [isBlank]
  omega

lemma trimStart_cons (h : isBlank c = false) (rest : List Char) : trimStart (c :: rest) = c :: rest :=
  List.dropWhile_cons_of_neg (by simp [h])

lemma trimStart_digits (hd : ∀ c ∈ ds, c.isDigit = true) (hne : ds ≠ []) (rest : List Char) :
    trimStart (ds ++ rest) = ds ++ rest := by
  cases ds with
  | nil => exact absurd rfl hne
  | cons d ds => exact trimStart_cons (isBlank_of_isDigit (hd d List.mem_cons_self)) _

lemma trimStart_padded (width n : Nat) (rest : List Char) :
    trimStart (padded width n ++ rest) = padded width n ++ rest :=
  trimStart_digits (fun _ => isDigit_of_mem_padded) (padded_ne_nil width n) rest

lemma expect_cons (c : Char) (rest : List Char) : expect c (c :: rest) = some rest := if_pos rfl

end Front

section Year

lemma readYear_of_digits {ds : List Char} (hd : ∀ c ∈ ds, c.isDigit = true) (hne : ds ≠ []) (rest : List Char) :
    readYear (ds ++ rest) = (leadingNumber 4 (ds ++ rest)).map fun (n, rest) => ((n : Int), rest) := by
  cases ds with
  | nil => exact absurd rfl hne
  | cons d ds =>
    have hdigit := hd d List.mem_cons_self
    rw [List.cons_append, readYear]
    · rintro rest' h
      cases h
      exact absurd hdigit (by decide)
    · rintro rest' h
      cases h
      exact absurd hdigit (by decide)

lemma leadingNumber_signed (n : Nat) (rest : List Char) :
    leadingNumber (padded 4 n ++ '-' :: rest).length (padded 4 n ++ '-' :: rest) = some (n, '-' :: rest) := by
  rw [leadingNumber_append (fun _ => isDigit_of_mem_padded) (padded_ne_nil 4 n) (by simp) (fun _ => rfl),
    digitsValue_padded]

lemma readYear_renderYear (year : Int) (rest : List Char) :
    readYear (renderYear year ++ '-' :: rest) = some (year, '-' :: rest) := by
  rw [renderYear]
  split
  · next h =>
    rw [readYear_of_digits (fun _ => isDigit_of_mem_padded) (padded_ne_nil 4 _),
      leadingNumber_padded (by decide) (by omega)]
    simp [Int.toNat_of_nonneg h.1]
  · next h =>
    split
    · next hneg =>
      rw [List.cons_append, readYear, leadingNumber_signed]
      simp only [Option.map_some, Option.some.injEq, Prod.mk.injEq, and_true]
      omega
    · next hneg =>
      rw [List.cons_append, readYear, leadingNumber_signed]
      simp only [Option.map_some, Option.some.injEq, Prod.mk.injEq, and_true]
      omega

lemma trimStart_renderYear (year : Int) (rest : List Char) :
    trimStart (renderYear year ++ rest) = renderYear year ++ rest := by
  rw [renderYear]
  split
  · exact trimStart_padded 4 _ rest
  · split <;> exact trimStart_cons (by decide) _

end Year

section Fraction

lemma readFraction_digits {ds : List Char} (hd : ∀ c ∈ ds, c.isDigit = true) (hne : ds ≠ []) (hlength : ds.length ≤ 9) :
    readFraction ('.' :: ds ++ ['Z']) = some (10 ^ (9 - ds.length) * digitsValue ds, ['Z']) := by
  have hfront : (ds ++ ['Z']).takeWhile Char.isDigit = ds := takeWhile_front hd rfl
  have htake : (ds ++ List.replicate 9 '0').take 9 = ds ++ List.replicate (9 - ds.length) '0' := by
    rw [List.take_append, List.take_of_length_le hlength, List.take_replicate, Nat.min_eq_left (by omega)]
  rw [List.cons_append, readFraction]
  simp only [hfront, htake, List.isEmpty_iff, hne, if_false, List.drop_left, digitsValue_append, digitsValue_zeros,
    List.length_replicate, Nat.add_zero]

lemma readFraction_renderFraction {nano : Nat} (h : nano < 1000000000) :
    readFraction (renderFraction nano ++ ['Z']) = some (nano, ['Z']) := by
  have hpadded (width n : Nat) (hw : 0 < width) (hw' : width ≤ 9) (hn : n < 10 ^ width) :
      readFraction ('.' :: padded width n ++ ['Z']) = some (10 ^ (9 - width) * n, ['Z']) := by
    have hlength := length_padded hw hn
    rw [readFraction_digits (fun _ => isDigit_of_mem_padded) (padded_ne_nil width n) (by omega), hlength,
      digitsValue_padded]
  rw [renderFraction]
  split
  · next hzero =>
    subst hzero
    rfl
  · split
    · next hmilli =>
      rw [hpadded 3 _ (by decide) (by decide) (by omega)]
      simp only [Option.some.injEq, Prod.mk.injEq, and_true]
      omega
    · split
      · next hmicro =>
        rw [hpadded 6 _ (by decide) (by decide) (by omega)]
        simp only [Option.some.injEq, Prod.mk.injEq, and_true]
        omega
      · rw [hpadded 9 _ (by decide) (by decide) (by omega)]
        simp

lemma readFraction_lt {text rest : List Char} {nano : Nat} (h : readFraction text = some (nano, rest)) :
    nano < 1000000000 := by
  unfold readFraction at h
  split at h
  · next text =>
    simp only at h
    split at h
    · cases h
    · obtain ⟨rfl, -⟩ := Prod.mk.inj (Option.some.inj h)
      have hdigits : ∀ c ∈ (text.takeWhile Char.isDigit ++ List.replicate 9 '0').take 9, c.isDigit = true := by
        intro c hc
        rcases List.mem_append.mp (List.mem_of_mem_take hc) with hc | hc
        · exact List.mem_takeWhile_imp hc
        · rw [List.eq_of_mem_replicate hc]
          rfl
      have hlength : ((text.takeWhile Char.isDigit ++ List.replicate 9 '0').take 9).length = 9 := by simp
      have hlt := digitsValue_lt hdigits
      rwa [hlength] at hlt
  · cases h
    decide

end Fraction

section Offset

variable {text rest : List Char}

lemma minutes_mod {h₁ h₂ : Char} {n : Nat}
    (h : readOffset.minutes h₁ h₂ text = some (n, rest)) : n % 60 = 0 := by
  unfold readOffset.minutes at h
  split at h
  · split at h
    · obtain ⟨rfl, -⟩ := Prod.mk.inj (Option.some.inj h)
      omega
    · cases h
  · cases h

lemma readOffset_mod {offset : Int} (h : readOffset text = some (offset, rest)) :
    offset % 60 = 0 := by
  unfold readOffset at h
  split at h
  · cases h
    rfl
  · cases h
    rfl
  · split at h
    · cases h
      rfl
    · split at h
      · obtain ⟨⟨n, rest'⟩, hminutes, heq⟩ := Option.map_eq_some_iff.mp h
        obtain ⟨rfl, -⟩ := Prod.mk.inj heq
        have := minutes_mod hminutes
        omega
      · split at h
        · obtain ⟨⟨n, rest'⟩, hminutes, heq⟩ := Option.map_eq_some_iff.mp h
          obtain ⟨rfl, -⟩ := Prod.mk.inj heq
          have := minutes_mod hminutes
          omega
        · cases h
  · cases h

end Offset

section Local

variable {i : Instant}

lemma ofParts?_self (i : Instant) : ofParts? i.second i.nano = some i := dif_pos ⟨i.first_le, i.le_last, i.nano_lt⟩

lemma ofParts?_eq_some {second : Int} {nano : Nat} (h : ofParts? second nano = some i) :
    i.second = second ∧ i.nano = nano := by
  rw [ofParts?] at h
  split at h
  · cases h
    exact ⟨rfl, rfl⟩
  · cases h

def EndsMinute (i : Instant) : Prop := 1000000000 ≤ i.nano → i.second % 60 = 59

instance : DecidablePred EndsMinute := fun i => inferInstanceAs (Decidable (1000000000 ≤ i.nano → i.second % 60 = 59))

lemma endsMinute_of_ofLocal? {date : Date} {hour minute second nano : Nat} {offset : Int} (hnano : nano < 1000000000)
    (hoffset : offset % 60 = 0) (h : ofLocal? date hour minute second nano offset = some i) : i.EndsMinute := by
  rw [ofLocal?] at h
  split at h
  · obtain ⟨hsecond, hnanos⟩ := ofParts?_eq_some h
    intro hleap
    split at hnanos
    · next hsixty =>
      rw [hsecond, if_pos hsixty]
      push_cast
      omega
    · omega
  · cases h

lemma ofLocal?_self (h : i.EndsMinute) :
    ofLocal? (Date.ofDays i.day) ((i.second % 86400).toNat / 3600) ((i.second % 86400).toNat / 60 % 60)
      ((i.second % 86400).toNat % 60 + i.nano / 1000000000) (i.nano % 1000000000) 0 = some i := by
  have hfirst := i.first_le
  have hlast := i.le_last
  have hnano := i.nano_lt
  rw [firstSecond] at hfirst
  rw [lastSecond] at hlast
  have hfrom : -96465292 ≤ i.day := by rw [day]; omega
  have hto : i.day ≤ 95026236 := by rw [day]; omega
  obtain ⟨hlow, hhigh⟩ := Date.year_ofDays hfrom hto
  have hdays : (Date.ofDays i.day).toDays = i.second / 86400 := Date.toDays_ofDays i.day
  have hleap : 1000000000 ≤ i.nano → i.second % 60 = 59 := h
  have hchecks : ((Date.ofDays i.day).exists? && -262143 ≤ (Date.ofDays i.day).year &&
      (Date.ofDays i.day).year ≤ 262142 && (i.second % 86400).toNat / 3600 < 24 &&
      (i.second % 86400).toNat / 60 % 60 < 60 && (i.second % 86400).toNat % 60 + i.nano / 1000000000 ≤ 60 &&
      (-86400 : Int) < 0 && (0 : Int) < 86400) = true := by
    simp only [Date.exists?_ofDays, Bool.and_eq_true, decide_eq_true_eq, true_and]
    omega
  rw [ofLocal?, if_pos hchecks, hdays]
  conv_rhs => rw [← ofParts?_self i]
  by_cases hl : 1000000000 ≤ i.nano
  · have hend := hleap hl
    have hsixty : (i.second % 86400).toNat % 60 + i.nano / 1000000000 = 60 := by omega
    simp only [hsixty, if_true]
    congr 1 <;> omega
  · have hsixty : ¬ (i.second % 86400).toNat % 60 + i.nano / 1000000000 = 60 := by omega
    simp only [hsixty, if_false]
    congr 1 <;> omega

end Local

section Read

lemma bind_of_eq {α β : Type} {o : Option α} {a : α} (h : o = some a) (f : α → Option β) : (o >>= f) = f a := by
  rw [h]
  rfl

variable {month day hour minute second nano : Nat}

lemma read?_written (year : Int) (hmonth : month < 100) (hday : day < 100) (hhour : hour < 100) (hminute : minute < 100)
    (hsecond : second < 100) (hnano : nano < 1000000000) :
    read? (renderYear year ++ '-' :: padded 2 month ++ '-' :: padded 2 day ++ 'T' :: padded 2 hour ++
      ':' :: padded 2 minute ++ ':' :: padded 2 second ++ renderFraction nano ++ ['Z']) =
        ofLocal? ⟨year, month, day⟩ hour minute second nano 0 := by
  have hmark {c : Char} (hc : isBlank c = false) (rest : List Char) : expect c (trimStart (c :: rest)) = some rest := by
    rw [trimStart_cons hc, expect_cons]
  have htwo {n : Nat} (hn : n < 100) (rest : List Char) :
      leadingNumber 2 (trimStart (padded 2 n ++ rest)) = some (n, rest) := by
    rw [trimStart_padded, leadingNumber_padded (by decide) hn]
  simp only [List.append_assoc, List.cons_append]
  rw [read?, trimStart_renderYear]
  -- One step at a time, as each is written inside all that come before it.
  refine (bind_of_eq (readYear_renderYear year _) _).trans ?_
  refine (bind_of_eq (hmark rfl _) _).trans ?_
  refine (bind_of_eq (htwo hmonth _) _).trans ?_
  refine (bind_of_eq (hmark rfl _) _).trans ?_
  refine (bind_of_eq (htwo hday _) _).trans ?_
  refine (bind_of_eq (rfl : readSeparator ('T' :: _) = some _) _).trans ?_
  refine (bind_of_eq (htwo hhour _) _).trans ?_
  refine (bind_of_eq (hmark rfl _) _).trans ?_
  refine (bind_of_eq (htwo hminute _) _).trans ?_
  refine (bind_of_eq (hmark rfl _) _).trans ?_
  refine (bind_of_eq (htwo hsecond _) _).trans ?_
  exact bind_of_eq (readFraction_renderFraction hnano) _

end Read

lemma read?_render {i : Instant} (h : i.EndsMinute) : read? i.render = some i := by
  obtain ⟨hmonth, hday⟩ := Date.lt_of_exists? (Date.exists?_ofDays i.day)
  have hnano := i.nano_lt
  have hwritten := read?_written (Date.ofDays i.day).year hmonth hday
    (show (i.second % 86400).toNat / 3600 < 100 by omega) (show (i.second % 86400).toNat / 60 % 60 < 100 by omega)
    (show (i.second % 86400).toNat % 60 + i.nano / 1000000000 < 100 by omega)
    (Nat.mod_lt i.nano (by decide : 0 < 1000000000))
  exact hwritten.trans (ofLocal?_self h)

lemma endsMinute_of_read? {i : Instant} {text : List Char} (h : read? text = some i) : i.EndsMinute := by
  rw [read?] at h
  obtain ⟨⟨year, _⟩, -, h⟩ := Option.bind_eq_some_iff.mp h
  obtain ⟨_, -, h⟩ := Option.bind_eq_some_iff.mp h
  obtain ⟨⟨month, _⟩, -, h⟩ := Option.bind_eq_some_iff.mp h
  obtain ⟨_, -, h⟩ := Option.bind_eq_some_iff.mp h
  obtain ⟨⟨day, _⟩, -, h⟩ := Option.bind_eq_some_iff.mp h
  obtain ⟨_, -, h⟩ := Option.bind_eq_some_iff.mp h
  obtain ⟨⟨hour, _⟩, -, h⟩ := Option.bind_eq_some_iff.mp h
  obtain ⟨_, -, h⟩ := Option.bind_eq_some_iff.mp h
  obtain ⟨⟨minute, _⟩, -, h⟩ := Option.bind_eq_some_iff.mp h
  obtain ⟨_, -, h⟩ := Option.bind_eq_some_iff.mp h
  obtain ⟨⟨second, _⟩, -, h⟩ := Option.bind_eq_some_iff.mp h
  obtain ⟨⟨nano, _⟩, hfraction, h⟩ := Option.bind_eq_some_iff.mp h
  obtain ⟨⟨offset, _⟩, hoffset, h⟩ := Option.bind_eq_some_iff.mp h
  obtain ⟨-, hlocal⟩ := Option.ite_none_right_eq_some.mp h
  exact endsMinute_of_ofLocal? (readFraction_lt hfraction) (readOffset_mod hoffset) hlocal

lemma isReadable_iff {i : Instant} : i.IsReadable ↔ i.EndsMinute :=
  ⟨fun ⟨_, h⟩ => endsMinute_of_read? h, fun h => ⟨i.render, read?_render h⟩⟩

instance : DecidablePred IsReadable := fun _ => decidable_of_iff _ isReadable_iff.symm

end MusicQuery.Instant
