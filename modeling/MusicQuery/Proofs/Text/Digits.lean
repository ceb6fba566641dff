import Mathlib.Data.List.Induction
import Mathlib.Data.Nat.Digits.Defs
import MusicQuery.Text.Digits

namespace MusicQuery.Text

section Decimal

variable {n width : Nat} {c : Char}

lemma digitsValue_digits (n : Nat) : digitsValue (digits n) = n := Nat.ofDigitChars_ten_toDigits

lemma digits_injective {m : Nat} (h : digits n = digits m) : n = m := by
  rw [← digitsValue_digits n, h, digitsValue_digits]

lemma isDigit_of_mem_digits (h : c ∈ digits n) : c.isDigit = true :=
  Nat.isDigit_of_mem_toDigits (by decide) (by decide) h

lemma digits_ne_nil (n : Nat) : digits n ≠ [] := Nat.toDigits_ne_nil

lemma length_digits_le (hw : 0 < width) (h : n < 10 ^ width) : (digits n).length ≤ width :=
  (Nat.length_toDigits_le_iff (by decide) hw).mpr h

lemma digitsValue_append (ds es : List Char) :
    digitsValue (ds ++ es) = 10 ^ es.length * digitsValue ds + digitsValue es := by
  rw [digitsValue, Nat.ofDigitChars_append, Nat.ofDigitChars_eq_ofDigitChars_zero]
  rfl

lemma digitsValue_zeros (n : Nat) : digitsValue (List.replicate n '0') = 0 :=
  Nat.ofDigitChars_replicate_zero.trans (Nat.mul_zero _)

lemma digitsValue_append_zeros (ds : List Char) (n : Nat) :
    digitsValue (ds ++ List.replicate n '0') = 10 ^ n * digitsValue ds := by
  rw [digitsValue_append, digitsValue_zeros, List.length_replicate, Nat.add_zero]

lemma digitsValue_zeros_append (n : Nat) (ds : List Char) :
    digitsValue (List.replicate n '0' ++ ds) = digitsValue ds := by
  rw [digitsValue_append, digitsValue_zeros, Nat.mul_zero, Nat.zero_add]

lemma digitsValue_lt {ds : List Char} (hd : ∀ c ∈ ds, c.isDigit = true) : digitsValue ds < 10 ^ ds.length := by
  induction ds using List.reverseRecOn with
  | nil => exact Nat.one_pos
  | append_singleton ds c ih =>
    have hfront := ih fun d h => hd d (List.mem_append_left _ h)
    have hlast : 48 ≤ c.toNat ∧ c.toNat ≤ 57 :=
      Char.isDigit_iff_toNat.mp (hd c (List.mem_append_right _ (List.mem_singleton_self c)))
    have hvalue : digitsValue [c] = c.toNat - 48 := by simp [digitsValue, Nat.ofDigitChars]
    rw [digitsValue_append, List.length_append, List.length_singleton, hvalue, Nat.pow_add]
    omega

lemma head?_digits (h : 0 < n) : (digits n).head? ≠ some '0' := by
  induction n using Nat.strongRecOn with
  | ind n ih =>
    rw [digits, Nat.toDigits_eq_if (by decide)]
    split
    · next hlt =>
      have hall : ∀ d ∈ List.range 10, 0 < d → d.digitChar ≠ '0' := by decide
      simpa using hall n (List.mem_range.mpr hlt) h
    · next hle =>
      have hfront := ih (n / 10) (by omega) (by omega)
      obtain ⟨c, cs, hdigits⟩ := List.exists_cons_of_ne_nil (digits_ne_nil (n / 10))
      rw [hdigits] at hfront
      rw [← digits, hdigits]
      exact hfront

lemma length_padded (hw : 0 < width) (h : n < 10 ^ width) : (padded width n).length = width := by
  have hlength := length_digits_le hw h
  rw [padded, List.length_append, List.length_replicate]
  omega

lemma isDigit_of_mem_padded (h : c ∈ padded width n) : c.isDigit = true := by
  rcases List.mem_append.mp h with hc | hc
  · rw [List.eq_of_mem_replicate hc]
    rfl
  · exact isDigit_of_mem_digits hc

lemma padded_ne_nil (width n : Nat) : padded width n ≠ [] := by
  simp [padded, digits_ne_nil]

lemma digitsValue_padded (width n : Nat) : digitsValue (padded width n) = n := by
  rw [padded, digitsValue_zeros_append, digitsValue_digits]

end Decimal

section Front

variable {width : Nat} {ds rest : List Char}

lemma takeWhile_front {p : Char → Bool} (hd : ∀ c ∈ ds, p c = true) (hrest : rest.head?.all (!p ·) = true) :
    (ds ++ rest).takeWhile p = ds := by
  rw [List.takeWhile_append_of_pos hd]
  cases rest with
  | nil => simp
  | cons c cs =>
    have hc : p c = false := by simpa using hrest
    simp [hc]

lemma leadingNumber_append (hd : ∀ c ∈ ds, c.isDigit = true) (hne : ds ≠ []) (hw : ds.length ≤ width)
    (hrest : ds.length < width → rest.head?.all (!·.isDigit) = true) :
    leadingNumber width (ds ++ rest) = some (digitsValue ds, rest) := by
  have hfront : ((ds ++ rest).take width).takeWhile Char.isDigit = ds := by
    rw [List.take_append, List.take_of_length_le hw]
    refine takeWhile_front hd ?_
    rcases Nat.lt_or_eq_of_le hw with hlt | heq
    · cases rest with
      | nil => simp
      | cons c cs =>
        obtain ⟨k, hk⟩ : ∃ k, width - ds.length = k + 1 := ⟨width - ds.length - 1, by omega⟩
        rw [hk]
        exact hrest hlt
    · simp [heq]
  simp [leadingNumber, hfront, hne]

lemma leadingNumber_padded {n : Nat} (hw : 0 < width) (h : n < 10 ^ width) (rest : List Char) :
    leadingNumber width (padded width n ++ rest) = some (n, rest) := by
  have hlength := length_padded hw h
  rw [leadingNumber_append (fun _ => isDigit_of_mem_padded) (padded_ne_nil width n) hlength.le (by omega),
    digitsValue_padded]

end Front

section Hexadecimal

lemma hexValue?_hexDigit {n : Nat} (h : n < 16) : hexValue? (hexDigit n) = some n := by
  have hall : ∀ m ∈ List.range 16, hexValue? (hexDigit m) = some m := by decide
  exact hall n (List.mem_range.mpr h)

lemma length_hexDigits (width n : Nat) : (hexDigits width n).length = width := by
  simp [hexDigits]

def nibbles (width n : Nat) : List Nat := (List.range width).map fun i => (n >>> (4 * (width - 1 - i))) % 16

lemma hexDigits_eq_map (width n : Nat) : hexDigits width n = (nibbles width n).map hexDigit := by
  simp [hexDigits, nibbles]

lemma lt_of_mem_nibbles {width n d : Nat} (h : d ∈ nibbles width n) : d < 16 := by
  obtain ⟨i, -, rfl⟩ := List.mem_map.mp h
  exact Nat.mod_lt _ (by decide)

lemma nibbles_succ (width n : Nat) : nibbles (width + 1) n = nibbles width (n / 16) ++ [n % 16] := by
  rw [nibbles, List.range_succ, List.map_append, nibbles]
  congr 1
  · refine List.map_congr_left fun i hi => ?_
    have hlt := List.mem_range.mp hi
    obtain ⟨k, hk⟩ : ∃ k, width = i + k + 1 := ⟨width - i - 1, by omega⟩
    subst hk
    have hnow : 4 * (i + k + 1 + 1 - 1 - i) = 4 + 4 * k + 0 := by omega
    have hnext : 4 * (i + k + 1 - 1 - i) = 4 * k := by omega
    rw [hnow, hnext, Nat.add_zero, Nat.shiftRight_add, Nat.shiftRight_eq_div_pow n 4]
  · simp

lemma foldl_nibbles (width n : Nat) :
    (nibbles width n).foldl (fun value d => 16 * value + d) 0 = n % 16 ^ width := by
  induction width generalizing n with
  | zero => simp [nibbles, Nat.mod_one]
  | succ width ih =>
    rw [nibbles_succ, List.foldl_append, ih, Nat.pow_succ', Nat.mod_mul]
    simp [Nat.add_comm]

lemma foldl_nibbles_of_lt {width n : Nat} (h : n < 16 ^ width) :
    (nibbles width n).foldl (fun value d => 16 * value + d) 0 = n := by
  rw [foldl_nibbles, Nat.mod_eq_of_lt h]

lemma mapM_hexValue?_hexDigits (width n : Nat) : (hexDigits width n).mapM hexValue? = some (nibbles width n) := by
  rw [hexDigits_eq_map, List.mapM_map]
  have hall : ∀ ds : List Nat, (∀ d ∈ ds, d < 16) → ds.mapM (fun d => hexValue? (hexDigit d)) = some ds := by
    intro ds hds
    induction ds with
    | nil => rfl
    | cons d ds ih =>
      obtain ⟨hd, hds⟩ := List.forall_mem_cons.mp hds
      simp [hexValue?_hexDigit hd, ih hds]
  exact hall _ fun d => lt_of_mem_nibbles

end Hexadecimal

end MusicQuery.Text
