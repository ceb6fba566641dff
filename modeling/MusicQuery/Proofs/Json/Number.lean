import Mathlib.Algebra.Order.Field.Power
import Mathlib.Algebra.Order.Field.Rat
import Mathlib.Tactic.Positivity
import MusicQuery.Json.Number
import MusicQuery.Proofs.Binary64.Order
import MusicQuery.Proofs.Binary64.Shortest

namespace MusicQuery.Json

open Text

structure Numeral where
  negative : Bool
  whole : List Char
  fraction : Option (List Char)
  power : Option Int

def readUnsigned? (negative : Bool) (text : List Char) : Option Numeral := do
  let whole := text.takeWhile Char.isDigit
  if whole.isEmpty || (whole.head? = some '0' && 1 < whole.length) then none
  else
    let (fraction, rest) ← readFraction? (text.drop whole.length)
    let e ← readExponent? rest
    some ⟨negative, whole, fraction, e⟩

def readNumeral? : List Char → Option Numeral
  | '-' :: rest => readUnsigned? true rest
  | rest => readUnsigned? false rest

namespace Numeral

def toJson (n : Numeral) : Json := ofNumberParts n.negative n.whole n.fraction n.power

def renderFraction : Option (List Char) → List Char
  | none => []
  | some ds => '.' :: ds

def renderPower : Option Int → List Char
  | none => []
  | some e => 'e' :: (if e < 0 then '-' else '+') :: digits e.natAbs

def renderUnsigned (n : Numeral) : List Char := n.whole ++ (renderFraction n.fraction ++ renderPower n.power)

def render (n : Numeral) : List Char := (if n.negative then ['-'] else []) ++ n.renderUnsigned

structure IsWritten (n : Numeral) : Prop where
  whole_isDigit : ∀ c ∈ n.whole, c.isDigit = true
  whole_ne_nil : n.whole ≠ []
  whole_leading : n.whole.head? = some '0' → n.whole.length ≤ 1
  fraction_isDigit : ∀ ds ∈ n.fraction, ds ≠ [] ∧ ∀ c ∈ ds, c.isDigit = true

end Numeral

lemma readNumber?_eq_map (text : List Char) : readNumber? text = (readNumeral? text).map Numeral.toJson := by
  unfold readNumber?
  cases text with
  | nil => rfl
  | cons c rest =>
    by_cases hc : c = '-'
    · subst hc
      simp [readNumeral?, readUnsigned?, apply_ite (Option.map Numeral.toJson), Option.map_bind, Function.comp_def,
        Numeral.toJson]
    · simp [readNumeral?, hc, readUnsigned?, apply_ite (Option.map Numeral.toJson), Option.map_bind,
        Function.comp_def, Numeral.toJson]

section Reading

variable {n : Numeral}

lemma readExponent?_renderPower (power : Option Int) : readExponent? (Numeral.renderPower power) = some power := by
  cases power with
  | none => rfl
  | some e =>
    have hds : (digits e.natAbs).isEmpty = false := by simp [digits_ne_nil]
    have hall : (digits e.natAbs).all Char.isDigit = true := List.all_eq_true.mpr fun c => isDigit_of_mem_digits
    have hread : readExponent? (Numeral.renderPower (some e)) =
        some (some (if e < 0 then -(e.natAbs : Int) else e.natAbs)) := by
      by_cases he : e < 0 <;> simp [Numeral.renderPower, readExponent?, he, hds, hall, digitsValue_digits]
    rw [hread]
    congr 2
    omega

lemma renderPower_head? (power : Option Int) :
    (Numeral.renderPower power).head? = none ∨ (Numeral.renderPower power).head? = some 'e' := by
  cases power <;> simp [Numeral.renderPower]

lemma readFraction?_render (h : n.IsWritten) :
    readFraction? (Numeral.renderFraction n.fraction ++ Numeral.renderPower n.power) =
      some (n.fraction, Numeral.renderPower n.power) := by
  have hhead := renderPower_head? n.power
  cases hf : n.fraction with
  | none =>
    simp only [Numeral.renderFraction, List.nil_append]
    rw [readFraction?]
    · intro rest heq
      simp [heq] at hhead
  | some ds =>
    obtain ⟨hne, hds⟩ := h.fraction_isDigit ds hf
    have hfront : (ds ++ Numeral.renderPower n.power).takeWhile Char.isDigit = ds := by
      refine takeWhile_front hds ?_
      rcases hhead with hh | hh <;> rw [hh] <;> rfl
    simp [Numeral.renderFraction, readFraction?, hfront, hne]

lemma readUnsigned?_render (h : n.IsWritten) : readUnsigned? n.negative n.renderUnsigned = some n := by
  have hfront : n.renderUnsigned.takeWhile Char.isDigit = n.whole := by
    refine takeWhile_front h.whole_isDigit ?_
    rw [List.head?_append]
    cases n.fraction with
    | none => rcases renderPower_head? n.power with hh | hh <;> simp [Numeral.renderFraction, hh]
    | some ds => simp [Numeral.renderFraction]
  have hleading : (decide (n.whole.head? = some '0') && decide (1 < n.whole.length)) = false := by
    have := h.whole_leading
    grind
  have hfraction : readFraction? (n.renderUnsigned.drop n.whole.length) =
      some (n.fraction, Numeral.renderPower n.power) := by
    rw [Numeral.renderUnsigned, List.drop_left, readFraction?_render h]
  simp [readUnsigned?, hfront, h.whole_ne_nil, hleading, hfraction, readExponent?_renderPower]

lemma readNumeral?_unsigned {c : Char} (hc : c.isDigit = true) (rest : List Char) :
    readNumeral? (c :: rest) = readUnsigned? false (c :: rest) := by
  have hne : c ≠ '-' := by
    rintro rfl
    simp at hc
  simp [readNumeral?, hne]

theorem readNumeral?_render (h : n.IsWritten) : readNumeral? n.render = some n := by
  have hread := readUnsigned?_render h
  cases hn : n.negative with
  | true =>
    rw [hn] at hread
    simpa [Numeral.render, hn, readNumeral?] using hread
  | false =>
    obtain ⟨c, cs, hwhole⟩ := List.exists_cons_of_ne_nil h.whole_ne_nil
    have hc : c.isDigit = true := h.whole_isDigit c (by simp [hwhole])
    have hrender : n.renderUnsigned =
        c :: (cs ++ (Numeral.renderFraction n.fraction ++ Numeral.renderPower n.power)) := by
      simp [Numeral.renderUnsigned, hwhole]
    rw [hn, hrender, ← readNumeral?_unsigned hc, ← hrender] at hread
    simpa [Numeral.render, hn] using hread

end Reading

section Integers

lemma takeUp_eq {n : Nat} {ds : List Char} (h : Nat.ofDigitChars 10 ds n < naturalLimit) :
    takeUp n ds = (Nat.ofDigitChars 10 ds n, ds.length) := by
  induction ds generalizing n with
  | nil => rfl
  | cons c cs ih =>
    have hnext : 10 * n + digitsValue [c] = 10 * n + (c.toNat - '0'.toNat) := by
      simp [digitsValue, Nat.ofDigitChars_cons]
    rw [Nat.ofDigitChars_cons, ← hnext] at h
    have hle : 10 * n + digitsValue [c] ≤ Nat.ofDigitChars 10 cs (10 * n + digitsValue [c]) := by
      rw [Nat.ofDigitChars_eq_ofDigitChars_zero]
      exact Nat.le_trans (Nat.le_mul_of_pos_left _ (by positivity)) (Nat.le_add_right _ _)
    rw [takeUp, if_pos (by omega), ih h, Nat.ofDigitChars_cons, hnext]
    rfl

def Numeral.ofInt (i : Int) : Numeral := ⟨i < 0, digits i.natAbs, none, none⟩

lemma isWritten_ofInt (i : Int) : (Numeral.ofInt i).IsWritten := by
  refine ⟨fun c => isDigit_of_mem_digits, digits_ne_nil _, fun hzero => ?_, by simp [Numeral.ofInt]⟩
  rcases Nat.eq_zero_or_pos i.natAbs with hi | hi
  · simp [Numeral.ofInt, hi, digits]
  · exact absurd hzero (head?_digits hi)

lemma render_ofInt (i : Int) : (Numeral.ofInt i).render = renderInt i := by
  by_cases hi : i < 0 <;> simp [Numeral.ofInt, Numeral.render, Numeral.renderUnsigned, Numeral.renderFraction,
    Numeral.renderPower, renderInt, hi]

lemma ofInt_injective {i j : Int} (h : Numeral.ofInt i = Numeral.ofInt j) : i = j := by
  simp only [Numeral.ofInt, Numeral.mk.injEq, decide_eq_decide] at h
  have habs := digits_injective h.2.1
  omega

lemma readNumber?_renderInt {i : Int} (hlow : -0x8000000000000000 ≤ i) (hhigh : i < 0x10000000000000000) :
    readNumber? (renderInt i) = some (int i) := by
  have htake : takeUp 0 (digits i.natAbs) = (i.natAbs, (digits i.natAbs).length) := by
    have hvalue : Nat.ofDigitChars 10 (digits i.natAbs) 0 = i.natAbs := digitsValue_digits _
    rw [takeUp_eq (by rw [hvalue, naturalLimit]; omega), hvalue]
  rw [← render_ofInt, readNumber?_eq_map, readNumeral?_render (isWritten_ofInt i)]
  by_cases hi : i < 0
  · have hpos : 0 < i.natAbs ∧ i.natAbs ≤ 0x8000000000000000 := by omega
    simp only [Numeral.ofInt, Option.map_some, Numeral.toJson, ofNumberParts, htake, hi]
    simp [hpos, abs_of_neg hi]
  · simp only [Numeral.ofInt, Option.map_some, Numeral.toJson, ofNumberParts, htake, hi]
    simp [abs_of_nonneg (Int.not_lt.mp hi)]

end Integers

section Decimals

namespace Numeral

def value (n : Numeral) : ℚ :=
  digitsValue (n.whole ++ n.fraction.getD []) * 10 ^ (n.power.getD 0 - (n.fraction.getD []).length)

/-- The parts of a decimal as `renderDecimal` lays them out. -/
def ofDigits (negative : Bool) (ds : List Char) (place : Int) : Numeral :=
  if -5 < place ∧ place ≤ 0 then ⟨negative, ['0'], some (List.replicate (-place).toNat '0' ++ ds), none⟩
  else if 0 < place ∧ place ≤ 16 then
    if ds.length ≤ place.toNat then
      ⟨negative, ds ++ List.replicate (place.toNat - ds.length) '0', some ['0'], none⟩
    else ⟨negative, ds.take place.toNat, some (ds.drop place.toNat), none⟩
  else ⟨negative, ds.take 1, if ds.length ≤ 1 then none else some (ds.drop 1), some (place - 1)⟩

variable {negative : Bool} {ds : List Char} {place : Int}

lemma render_ofDigits (negative : Bool) (ds : List Char) (place : Int) :
    (ofDigits negative ds place).render = (if negative then ['-'] else []) ++ renderDecimal ds place := by
  rw [ofDigits, renderDecimal]
  split_ifs <;> simp_all [render, renderUnsigned, renderFraction, renderPower]

lemma isWritten_ofDigits (hds : ∀ c ∈ ds, c.isDigit = true) (hne : ds ≠ []) (hlead : ds.head? ≠ some '0') :
    (ofDigits negative ds place).IsWritten := by
  obtain ⟨c, cs, rfl⟩ := List.exists_cons_of_ne_nil hne
  have hc : c ≠ '0' := by simpa using hlead
  have hzero (d : Char) (h : d = '0') : d.isDigit = true := by
    rw [h]
    rfl
  rw [ofDigits]
  split_ifs with hsmall hplain hshort hsingle
  · refine ⟨by simp, by simp, by simp, ?_⟩
    simp only [Option.mem_some_iff, forall_eq']
    refine ⟨by simp, fun d hd => ?_⟩
    rcases List.mem_append.mp hd with hd | hd
    · exact hzero d (List.eq_of_mem_replicate hd)
    · exact hds d hd
  · refine ⟨fun d hd => ?_, by simp, by simp [hc], by simp⟩
    rcases List.mem_append.mp hd with hd | hd
    · exact hds d hd
    · exact hzero d (List.eq_of_mem_replicate hd)
  · obtain ⟨k, hk⟩ : ∃ k, place.toNat = k + 1 := ⟨place.toNat - 1, by omega⟩
    refine ⟨fun d hd => hds d (List.mem_of_mem_take hd), by simp [hk], by simp [hk, hc], ?_⟩
    simp only [Option.mem_some_iff, forall_eq']
    exact ⟨by simpa using hshort, fun d hd => hds d (List.mem_of_mem_drop hd)⟩
  · exact ⟨fun d hd => hds d (List.mem_of_mem_take hd), by simp, by simp, by simp⟩
  · refine ⟨fun d hd => hds d (List.mem_of_mem_take hd), by simp, by simp, ?_⟩
    simp only [Option.mem_some_iff, forall_eq']
    exact ⟨by simpa using hsingle, fun d hd => hds d (List.mem_of_mem_drop hd)⟩

lemma value_ofDigits (negative : Bool) (hne : ds ≠ []) (place : Int) :
    (ofDigits negative ds place).value = digitsValue ds * 10 ^ (place - ds.length) := by
  have hlength := List.length_pos_of_ne_nil hne
  rw [ofDigits]
  split_ifs with hsmall hplain hshort hsingle <;> simp only [value, Option.getD_some, Option.getD_none]
  · have hvalue : digitsValue (['0'] ++ (List.replicate (-place).toNat '0' ++ ds)) = digitsValue ds :=
      digitsValue_zeros_append ((-place).toNat + 1) ds
    rw [hvalue, List.length_append, List.length_replicate]
    congr 2
    omega
  · have hvalue : digitsValue (ds ++ List.replicate (place.toNat - ds.length) '0' ++ ['0']) =
        10 ^ (place.toNat - ds.length + 1) * digitsValue ds := by
      rw [List.append_assoc, ← List.replicate_succ', digitsValue_append_zeros]
    have hpow : (10 : ℚ) ^ (place.toNat - ds.length + 1) * 10 ^ ((0 : Int) - (1 : Nat)) =
        10 ^ (place - ds.length) := by
      rw [← zpow_natCast, ← zpow_add₀ (by norm_num)]
      congr 1
      omega
    rw [hvalue, ← hpow]
    push_cast [List.length_singleton]
    ring
  · rw [List.take_append_drop, List.length_drop]
    congr 2
    omega
  · rw [List.append_nil, List.take_of_length_le hsingle, List.length_nil]
    congr 2
    omega
  · rw [List.take_append_drop, List.length_drop]
    congr 2
    omega

end Numeral

lemma dropTrailingZeros_append (ds : List Char) :
    ∃ n, dropTrailingZeros ds ++ List.replicate n '0' = ds := by
  have hzeros : (ds.reverse.takeWhile (· = '0')).reverse =
      List.replicate (ds.reverse.takeWhile (· = '0')).length '0' := by
    refine List.eq_replicate_iff.mpr ⟨List.length_reverse, fun c hc => ?_⟩
    simpa using List.all_eq_true.mp List.all_takeWhile c (List.mem_reverse.mp hc)
  refine ⟨(ds.reverse.takeWhile (· = '0')).length, ?_⟩
  rw [← hzeros, dropTrailingZeros, ← List.reverse_append, List.takeWhile_append_dropWhile, List.reverse_reverse]

def Numeral.ofFloat (x : Binary64) : Numeral :=
  if x.magnitude = 0 then ⟨x.negative, ['0'], some ['0'], none⟩
  else
    let d := Binary64.shortest x.magnitude
    ofDigits x.negative (dropTrailingZeros (digits d.digits)) ((digits d.digits).length + d.exponent)

variable {x y : Binary64}

lemma render_ofFloat (h : x.isFinite = true) : (Numeral.ofFloat x).render = renderFloat x := by
  rw [renderFloat, Numeral.ofFloat]
  by_cases hzero : x.magnitude = 0
  · simp [h, hzero, Numeral.render, Numeral.renderUnsigned, Numeral.renderFraction, Numeral.renderPower]
  · simp [h, hzero, Numeral.render_ofDigits]

lemma dropTrailingZeros_digits {n : Nat} (h : 0 < n) (e : Int) :
    dropTrailingZeros (digits n) ≠ [] ∧ (dropTrailingZeros (digits n)).head? ≠ some '0' ∧
      (∀ c ∈ dropTrailingZeros (digits n), c.isDigit = true) ∧
      (digitsValue (dropTrailingZeros (digits n)) : ℚ) *
        10 ^ ((digits n).length + e - (dropTrailingZeros (digits n)).length) = n * 10 ^ e := by
  obtain ⟨k, hk⟩ := dropTrailingZeros_append (digits n)
  have hvalue := digitsValue_append_zeros (dropTrailingZeros (digits n)) k
  rw [hk, digitsValue_digits] at hvalue
  have hne : dropTrailingZeros (digits n) ≠ [] := by
    intro hnil
    rw [hnil] at hvalue
    simp [digitsValue] at hvalue
    omega
  refine ⟨hne, fun hzero => head?_digits h ?_, fun c hc => ?_, ?_⟩
  · rw [← hk, List.head?_append, hzero]
    rfl
  · exact isDigit_of_mem_digits (hk ▸ List.mem_append_left _ hc)
  · have hlength := congrArg List.length hk
    rw [List.length_append, List.length_replicate] at hlength
    have hpow : (10 : ℚ) ^ ((digits n).length + e - (dropTrailingZeros (digits n)).length) = 10 ^ k * 10 ^ e := by
      rw [← hlength, ← zpow_natCast, ← zpow_add₀ (by norm_num)]
      congr 1
      push_cast
      ring
    have hcast : (n : ℚ) = 10 ^ k * digitsValue (dropTrailingZeros (digits n)) := by exact_mod_cast hvalue
    rw [hpow, hcast]
    ring

lemma isWritten_ofFloat (x : Binary64) : (Numeral.ofFloat x).IsWritten := by
  rw [Numeral.ofFloat]
  split
  · exact ⟨by simp, by simp, by simp, by simp⟩
  · next hzero =>
    have hpos := (Binary64.shortest_roundsTo (Nat.pos_of_ne_zero hzero)).1
    obtain ⟨hne, hlead, hdigits, -⟩ := dropTrailingZeros_digits hpos 0
    exact Numeral.isWritten_ofDigits hdigits hne hlead

lemma negative_ofFloat (x : Binary64) : (Numeral.ofFloat x).negative = x.negative := by
  rw [Numeral.ofFloat]
  split
  · rfl
  · dsimp only
    rw [Numeral.ofDigits]
    split_ifs <;> rfl

lemma value_ofFloat (h : 0 < x.magnitude) :
    (Numeral.ofFloat x).value =
      (Binary64.shortest x.magnitude).digits * 10 ^ (Binary64.shortest x.magnitude).exponent := by
  have hpos := (Binary64.shortest_roundsTo h).1
  obtain ⟨hne, -, -, hvalue⟩ := dropTrailingZeros_digits hpos (Binary64.shortest x.magnitude).exponent
  rw [Numeral.ofFloat, if_neg h.ne', Numeral.value_ofDigits _ hne, hvalue]

lemma value_ofFloat_eq_zero_iff : (Numeral.ofFloat x).value = 0 ↔ x.magnitude = 0 := by
  rcases Nat.eq_zero_or_pos x.magnitude with hzero | hpos
  · have hvalue : digitsValue ['0', '0'] = 0 := digitsValue_zeros 2
    simp [hzero, Numeral.ofFloat, Numeral.value, hvalue]
  · have hdigits := (Binary64.shortest_roundsTo hpos).1
    rw [value_ofFloat hpos]
    have : (0 : ℚ) < (Binary64.shortest x.magnitude).digits * 10 ^ (Binary64.shortest x.magnitude).exponent := by
      positivity
    exact ⟨fun h => absurd h this.ne', fun h => absurd h hpos.ne'⟩

lemma magnitude_eq_of_value (h : (Numeral.ofFloat x).value = (Numeral.ofFloat y).value) :
    x.magnitude = y.magnitude := by
  rcases Nat.eq_zero_or_pos x.magnitude with hx | hx
  · rw [hx, value_ofFloat_eq_zero_iff.mp (h.symm.trans (value_ofFloat_eq_zero_iff.mpr hx))]
  · have hy : 0 < y.magnitude := by
      refine Nat.pos_of_ne_zero fun hzero => hx.ne' (value_ofFloat_eq_zero_iff.mp ?_)
      exact h.trans (value_ofFloat_eq_zero_iff.mpr hzero)
    rw [value_ofFloat hx, value_ofFloat hy] at h
    have hroundsX := (Binary64.shortest_roundsTo hx).2
    rw [h] at hroundsX
    exact Binary64.roundsTo_unique hroundsX (Binary64.shortest_roundsTo hy).2

theorem ofFloat_injective (h : Numeral.ofFloat x = Numeral.ofFloat y) : x = y := by
  refine Binary64.eq_of_magnitude (magnitude_eq_of_value (congrArg Numeral.value h)) ?_
  rw [← negative_ofFloat, h, negative_ofFloat]

lemma isDecimal_ofFloat (x : Binary64) :
    (Numeral.ofFloat x).fraction.isSome = true ∨ (Numeral.ofFloat x).power.isSome = true := by
  rw [Numeral.ofFloat]
  split
  · exact Or.inl rfl
  · dsimp only
    rw [Numeral.ofDigits]
    split_ifs <;> simp

lemma Numeral.toNumber?_toJson {n : Numeral} (h : n.fraction.isSome = true ∨ n.power.isSome = true)
    (hx : n.toJson.toNumber? = some x) : n.toJson = .float x := by
  have hdecimal (negative : Bool) (k : Nat) (e : Int) (hk : (ofDecimal negative k e).toNumber? = some x) :
      ofDecimal negative k e = .float x := by
    rw [ofDecimal] at hk ⊢
    split at hk
    · exact congrArg Json.float (Option.some.inj hk)
    · cases hk
  rw [toJson, ofNumberParts] at hx ⊢
  cases hf : n.fraction with
  | some ds =>
    rw [hf] at hx
    exact hdecimal _ _ _ hx
  | none =>
    cases hp : n.power with
    | some e =>
      rw [hf, hp] at hx
      exact hdecimal _ _ _ hx
    | none => simp [hf, hp] at h

lemma readNumber?_renderFloat (hx : x.isFinite = true)
    (h : (readNumber? (renderFloat x)).bind Json.toNumber? = some x) :
    readNumber? (renderFloat x) = some (.float x) := by
  rw [← render_ofFloat hx, readNumber?_eq_map, readNumeral?_render (isWritten_ofFloat x)] at h ⊢
  exact congrArg some (Numeral.toNumber?_toJson (isDecimal_ofFloat x) h)

end Decimals

end MusicQuery.Json
