import Mathlib.Data.List.Infix
import Mathlib.Tactic.Lemma
import MusicQuery.Text.Lowercase

namespace MusicQuery.Text

/-- Whether a capital sigma becomes final between two texts, of which the first is given last character first. -/
def isFinal (before after : List Char) : Bool := meetsCased before && !meetsCased after

def lowerBetween (before after : List Char) : List Char → List Char
  | [] => []
  | c :: cs =>
    (if c = 'Σ' then [if isFinal before (cs ++ after) then 'ς' else 'σ'] else lowerChar c) ++
      lowerBetween (c :: before) after cs

section Between

variable {before after text : List Char}

lemma lowerAfter_append (before text after : List Char) :
    lowerAfter before (text ++ after) =
      lowerBetween before after text ++ lowerAfter (text.reverse ++ before) after := by
  induction text generalizing before with
  | nil => rfl
  | cons c cs ih =>
    rw [List.cons_append, lowerAfter, lowerBetween, ih, isFinal, List.append_assoc, List.reverse_cons,
      List.append_assoc, List.singleton_append]

lemma lowerBetween_nil (before text : List Char) : lowerBetween before [] text = lowerAfter before text := by
  have h := lowerAfter_append before text []
  rwa [List.append_nil, lowerAfter, List.append_nil, eq_comm] at h

lemma lowerBetween_congr {before' after' : List Char}
    (h : ∀ p q, text = p ++ 'Σ' :: q →
      isFinal (p.reverse ++ before) (q ++ after) = isFinal (p.reverse ++ before') (q ++ after')) :
    lowerBetween before after text = lowerBetween before' after' text := by
  induction text generalizing before before' with
  | nil => rfl
  | cons c cs ih =>
    have htail : lowerBetween (c :: before) after cs = lowerBetween (c :: before') after' cs := by
      apply ih
      rintro p q rfl
      simpa using h (c :: p) q rfl
    rw [lowerBetween, lowerBetween, htail]
    by_cases hc : c = 'Σ'
    · subst hc
      have hhead : isFinal before (cs ++ after) = isFinal before' (cs ++ after') := h [] cs rfl
      rw [hhead]
    · rw [if_neg hc, if_neg hc]

end Between

section Cased

variable {front rest : List Char}

lemma meetsCased_append_of_all (h : front.all isCaseIgnorable = true) (rest : List Char) :
    meetsCased (front ++ rest) = meetsCased rest := by
  rw [meetsCased, List.dropWhile_append_of_pos (List.all_eq_true.mp h), meetsCased]

lemma meetsCased_append_of_not_all (h : front.all isCaseIgnorable = false) (rest : List Char) :
    meetsCased (front ++ rest) = meetsCased front := by
  induction front with
  | nil => cases h
  | cons c cs ih =>
    cases hc : isCaseIgnorable c with
    | true =>
      rw [List.all_cons, hc, Bool.true_and] at h
      simpa [meetsCased, List.dropWhile_cons, hc] using ih h
    | false => simp [meetsCased, hc]

lemma meetsCased_of_all (h : front.all isCaseIgnorable = true) : meetsCased front = false := by
  have hnil := meetsCased_append_of_all h []
  rwa [List.append_nil] at hnil

lemma meetsCased_append (h : meetsCased front = true) (rest : List Char) : meetsCased (front ++ rest) = true := by
  cases hall : front.all isCaseIgnorable with
  | true =>
    rw [meetsCased_of_all hall] at h
    cases h
  | false => rw [meetsCased_append_of_not_all hall, h]

lemma isCaseIgnorable_sigma : isCaseIgnorable 'Σ' = false := by decide +kernel

lemma meetsCased_sigma (front rest : List Char) : meetsCased (front ++ 'Σ' :: rest) = meetsCased (front ++ ['Σ']) := by
  rw [List.append_cons]
  apply meetsCased_append_of_not_all
  rw [List.all_append, List.all_cons, isCaseIgnorable_sigma, Bool.false_and, Bool.and_false]

end Cased

def meetsSigma (cased : Bool) (text : List Char) : Bool :=
  match text.dropWhile isCaseIgnorable with
  | [] => false
  | c :: rest => c = 'Σ' && meetsCased rest = cased

/-- Whether a text begins in a capital sigma that becomes final if a cased letter comes before the text. -/
def leansBack (text : List Char) : Bool := meetsSigma false text

/-- Whether a text ends in a capital sigma that stays final unless a cased letter comes after the text. -/
def leansAhead (text : List Char) : Bool := meetsSigma true text.reverse

section Leaning

variable {text : List Char}

lemma meetsSigma_iff {cased : Bool} :
    meetsSigma cased text = true ↔
      ∃ p q, text = p ++ 'Σ' :: q ∧ p.all isCaseIgnorable = true ∧ meetsCased q = cased := by
  constructor
  · intro h
    rw [meetsSigma] at h
    split at h
    · cases h
    · next c q hdrop =>
      simp only [Bool.and_eq_true, decide_eq_true_eq] at h
      obtain ⟨rfl, hq⟩ := h
      refine ⟨text.takeWhile isCaseIgnorable, q, ?_, List.all_takeWhile, hq⟩
      rw [← hdrop, List.takeWhile_append_dropWhile]
  · rintro ⟨p, q, rfl, hp, hq⟩
    rw [meetsSigma, List.dropWhile_append_of_pos (List.all_eq_true.mp hp),
      List.dropWhile_cons_of_neg (by simp [isCaseIgnorable_sigma])]
    simp [hq]

lemma leansBack_iff :
    leansBack text = true ↔
      ∃ p q, text = p ++ 'Σ' :: q ∧ p.all isCaseIgnorable = true ∧ meetsCased q = false :=
  meetsSigma_iff

lemma leansAhead_iff :
    leansAhead text = true ↔
      ∃ p q, text = p ++ 'Σ' :: q ∧ meetsCased p.reverse = true ∧ q.all isCaseIgnorable = true := by
  rw [leansAhead, meetsSigma_iff]
  constructor
  · rintro ⟨q, p, htext, hq, hp⟩
    refine ⟨p.reverse, q.reverse, ?_, by rwa [List.reverse_reverse], by rwa [List.all_reverse]⟩
    rw [← List.reverse_reverse text, htext]
    simp
  · rintro ⟨p, q, rfl, hp, hq⟩
    exact ⟨q.reverse, p.reverse, by simp, by rwa [List.all_reverse], hp⟩

lemma lowerBetween_of_not_leansBack (h : leansBack text = false) (before after : List Char) :
    lowerBetween before after text = lowerBetween [] after text := by
  apply lowerBetween_congr
  intro p q htext
  rw [List.append_nil]
  cases hp : p.all isCaseIgnorable with
  | false => rw [isFinal, isFinal, meetsCased_append_of_not_all (by rwa [List.all_reverse])]
  | true =>
    -- The sigma is the first letter of the text, so that a cased letter comes after it.
    have hq : meetsCased q = true := by
      by_contra hq
      exact Bool.eq_false_iff.mp h (leansBack_iff.mpr ⟨p, q, htext, hp, Bool.eq_false_iff.mpr hq⟩)
    rw [isFinal, isFinal, meetsCased_append hq, Bool.not_true, Bool.and_false, Bool.and_false]

lemma lowerBetween_of_not_leansAhead (h : leansAhead text = false) (after : List Char) :
    lowerBetween [] after text = lower text := by
  rw [lower, ← lowerBetween_nil]
  apply lowerBetween_congr
  intro p q htext
  rw [List.append_nil, List.append_nil]
  cases hq : q.all isCaseIgnorable with
  | false => rw [isFinal, isFinal, meetsCased_append_of_not_all hq]
  | true =>
    have hp : meetsCased p.reverse = false := by
      by_contra hp
      exact Bool.eq_false_iff.mp h (leansAhead_iff.mpr ⟨p, q, htext, (Bool.not_eq_false _).mp hp, hq⟩)
    rw [isFinal, isFinal, hp, Bool.false_and, Bool.false_and]

end Leaning

section Parts

variable {needle text : List Char}

lemma lower_append (front text after : List Char) :
    lower (front ++ (text ++ after)) =
      lowerBetween [] (text ++ after) front ++
        (lowerBetween front.reverse after text ++ lowerAfter (text.reverse ++ front.reverse) after) := by
  rw [lower, lowerAfter_append, lowerAfter_append, List.append_nil]

lemma lower_isPrefix (h : leansAhead needle = false) (hn : needle <+: text) : lower needle <+: lower text := by
  obtain ⟨after, rfl⟩ := hn
  have happend := lower_append [] needle after
  rw [lowerBetween, List.nil_append, List.nil_append, List.reverse_nil, lowerBetween_of_not_leansAhead h] at happend
  rw [happend]
  exact List.prefix_append _ _

lemma lower_isInfix (hb : leansBack needle = false) (ha : leansAhead needle = false) (hn : needle <:+: text) :
    lower needle <:+: lower text := by
  obtain ⟨front, after, rfl⟩ := hn
  rw [List.append_assoc, lower_append, lowerBetween_of_not_leansBack hb, lowerBetween_of_not_leansAhead ha,
    ← List.append_assoc]
  exact List.infix_append _ _ _

lemma lower_sigma (p q : List Char) :
    lower (p ++ 'Σ' :: q) = lowerBetween [] ('Σ' :: q) p ++
      (if isFinal p.reverse q then 'ς' else 'σ') :: lowerAfter ('Σ' :: p.reverse) q := by
  rw [lower, lowerAfter_append, lowerAfter, if_pos rfl, List.append_nil, List.singleton_append, isFinal]

lemma lowerAfter_sigma (before before' text : List Char) :
    lowerAfter ('Σ' :: before) text = lowerAfter ('Σ' :: before') text := by
  rw [← lowerBetween_nil, ← lowerBetween_nil]
  apply lowerBetween_congr
  intro p q _
  rw [isFinal, isFinal, meetsCased_sigma, meetsCased_sigma _ before']

lemma lowerBetween_sigma (before text after after' : List Char) :
    lowerBetween before ('Σ' :: after) text = lowerBetween before ('Σ' :: after') text := by
  apply lowerBetween_congr
  intro p q _
  rw [isFinal, isFinal, meetsCased_sigma, meetsCased_sigma _ after']

lemma lowerBetween_of_all {before before' after after' : List Char} (h : text.all isCaseIgnorable = true) :
    lowerBetween before after text = lowerBetween before' after' text := by
  apply lowerBetween_congr
  rintro p q rfl
  have hsigma := List.all_eq_true.mp h 'Σ' (by simp)
  rw [isCaseIgnorable_sigma] at hsigma
  cases hsigma

lemma not_isInfix_of_count {α : Type} [DecidableEq α] {x y : α} (hxy : y ≠ x) {front back : List α} (hf : x ∉ front)
    (hb : x ∉ back) (u w : List α) : ¬ u ++ x :: w <:+: front ++ (u ++ y :: w) ++ back := by
  intro h
  have hcount := h.sublist.count_le x
  simp only [List.count_append, List.count_cons_self, List.count_cons_of_ne hxy, List.count_eq_zero_of_not_mem hf,
    List.count_eq_zero_of_not_mem hb] at hcount
  omega

lemma meetsCased_letter (rest : List Char) : meetsCased ('A' :: rest) = true := by
  have h : meetsCased ['A'] = true := by decide +kernel
  exact meetsCased_append h rest

lemma not_isInfix_of_leansBack (h : leansBack needle = true) : ¬ lower needle <:+: lower ('A' :: needle) := by
  obtain ⟨p, q, rfl, hp, hq⟩ := leansBack_iff.mp h
  -- The sigma that begins the needle is final after a letter.
  have halone : isFinal p.reverse q = false := by
    rw [isFinal, meetsCased_of_all (by rwa [List.all_reverse]), Bool.false_and]
  have hbehind : isFinal ('A' :: p).reverse q = true := by
    rw [isFinal, hq, List.reverse_cons, meetsCased_append_of_all (by rwa [List.all_reverse]), meetsCased_letter]
    rfl
  have hfront : lowerBetween [] ('Σ' :: q) ('A' :: p) = ['a'] ++ lowerBetween [] ('Σ' :: q) p := by
    rw [lowerBetween, lowerBetween_of_all hp]
    rfl
  rw [← List.cons_append, lower_sigma, lower_sigma, halone, hbehind, hfront,
    lowerAfter_sigma ('A' :: p).reverse p.reverse]
  have hsigma : 'σ' ∉ ['a'] := by decide
  have hcount := not_isInfix_of_count (by decide : 'ς' ≠ 'σ') hsigma List.not_mem_nil
    (lowerBetween [] ('Σ' :: q) p) (lowerAfter ('Σ' :: p.reverse) q)
  simpa using hcount

lemma not_isInfix_of_leansAhead (h : leansAhead needle = true) : ¬ lower needle <:+: lower (needle ++ ['A']) := by
  obtain ⟨p, q, rfl, hp, hq⟩ := leansAhead_iff.mp h
  -- The sigma that ends the needle is not final before a letter.
  have halone : isFinal p.reverse q = true := by
    rw [isFinal, hp, meetsCased_of_all hq]
    rfl
  have hbefore : isFinal p.reverse (q ++ ['A']) = false := by
    rw [isFinal, meetsCased_append_of_all hq, meetsCased_letter, Bool.not_true, Bool.and_false]
  have hback : lowerAfter ('Σ' :: p.reverse) (q ++ ['A']) = lowerAfter ('Σ' :: p.reverse) q ++ ['a'] := by
    rw [lowerAfter_append, lowerBetween_of_all hq, lowerBetween_nil]
    rfl
  rw [List.append_assoc, List.cons_append, lower_sigma, lower_sigma, halone, hbefore, hback,
    lowerBetween_sigma [] p (q ++ ['A']) q]
  have hsigma : 'ς' ∉ ['a'] := by decide
  have hcount := not_isInfix_of_count (by decide : 'σ' ≠ 'ς') List.not_mem_nil hsigma
    (lowerBetween [] ('Σ' :: q) p) (lowerAfter ('Σ' :: p.reverse) q)
  simpa using hcount

lemma lower_isPrefix_iff :
    (∀ text, needle <+: text → lower needle <+: lower text) ↔ leansAhead needle = false := by
  refine ⟨fun h => ?_, fun h text hn => lower_isPrefix h hn⟩
  by_contra ha
  exact not_isInfix_of_leansAhead ((Bool.not_eq_false _).mp ha) (h _ (List.prefix_append needle ['A'])).isInfix

lemma lower_isInfix_iff :
    (∀ text, needle <:+: text → lower needle <:+: lower text) ↔
      leansBack needle = false ∧ leansAhead needle = false := by
  refine ⟨fun h => ⟨?_, ?_⟩, fun h text hn => lower_isInfix h.1 h.2 hn⟩
  · by_contra hb
    exact not_isInfix_of_leansBack ((Bool.not_eq_false _).mp hb) (h _ (List.suffix_cons 'A' needle).isInfix)
  · by_contra ha
    exact not_isInfix_of_leansAhead ((Bool.not_eq_false _).mp ha) (h _ (List.prefix_append needle ['A']).isInfix)

end Parts

end MusicQuery.Text
