import MusicQuery.Proofs.Index.Inverted
import MusicQuery.Proofs.Index.Range
import MusicQuery.Rule.Match

namespace MusicQuery

def ValueRange.admits (f : Field) (t : Track) : ValueRange → Bool
  | .numbers bounds => (t.number f).any (bounds.admits Binary64.le Binary64.lt)
  | .dates bounds => (t.date f).any (bounds.admits (· ≤ ·) (· < ·))

def Bounds.IsBounded {α : Type} (b : Bounds α) : Prop := b.lower ≠ none ∨ b.upper ≠ none

lemma Bounds.not_admits_nan {b : Bounds Binary64} (hb : b.IsBounded) {value : Binary64} (hv : value.isNaN = true) :
    b.admits Binary64.le Binary64.lt value = false := by
  obtain ⟨lower, upper⟩ := b
  cases lower with
  | some low => simp [admits, Bound.admits, Binary64.le, Binary64.lt, hv]
  | none =>
    cases upper with
    | some high => simp [admits, Bound.admits, Binary64.le, Binary64.lt, hv]
    | none => exact (hb.elim (· rfl) (· rfl)).elim

lemma Bounds.admits_key {b : Bounds Binary64} {value : Binary64} {k : NumericKey}
    (hk : NumericKey.ofNumber? value = some k) :
    b.admits Binary64.le Binary64.lt k.value = b.admits Binary64.le Binary64.lt value := by
  have hr := NumericKey.rank_of_ofNumber? hk
  have hn := (NumericKey.ofNumber?_eq_some.mp hk).1
  simp only [admits, Bound.admits, Binary64.le, Binary64.lt, hr, hn, k.value_isNaN]

namespace Operator

lemma bounds?_isBounded {α : Type} {least greatest : α → α → α} {op : Operator} {value : α} {second : Option α}
    {b : Bounds α} (h : op.bounds? least greatest value second = some b) : b.IsBounded := by
  cases op <;> simp only [bounds?, Option.some.injEq, Option.map_eq_some_iff, reduceCtorEq] at h
  case between =>
    obtain ⟨other, -, rfl⟩ := h
    exact Or.inl (Option.some_ne_none _)
  case greaterThan | greaterThanOrEqual =>
    subst h
    exact Or.inl (Option.some_ne_none _)
  case lessThan | lessThanOrEqual =>
    subst h
    exact Or.inr (Option.some_ne_none _)

lemma bounds?_holdsMissing {α : Type} {least greatest : α → α → α} {op : Operator} {value : α} {second : Option α}
    {b : Bounds α} (h : op.bounds? least greatest value second = some b) : op.holdsMissing = false := by
  cases op <;> first | rfl | cases h

lemma bounds?_holdsNumber {op : Operator} {value : Binary64} {second : Option Binary64} {b : Bounds Binary64}
    (h : op.bounds? Binary64.min Binary64.max value second = some b) (x : Binary64) :
    op.holdsNumber x value second = b.admits Binary64.le Binary64.lt x := by
  cases op <;> simp only [bounds?, Option.some.injEq, Option.map_eq_some_iff, reduceCtorEq] at h
  case between =>
    obtain ⟨other, rfl, rfl⟩ := h
    simp [holdsNumber, Bounds.admits, Bound.admits]
  all_goals
    subst h
    simp [holdsNumber, Bounds.admits, Bound.admits]

lemma bounds?_holdsDate {op : Operator} {value : Instant} {second : Option Instant} {b : Bounds Instant}
    (h : op.bounds? min max value second = some b) (x : Instant) :
    op.holdsDate x value second = b.admits (· ≤ ·) (· < ·) x := by
  cases op <;> simp only [bounds?, Option.some.injEq, Option.map_eq_some_iff, reduceCtorEq] at h
  case between =>
    obtain ⟨other, rfl, rfl⟩ := h
    simp [holdsDate, Bounds.admits, Bound.admits]
  all_goals
    subst h
    simp [holdsDate, Bounds.admits, Bound.admits]

def holdsField (op : Operator) (x : Option Binary64) (value : Binary64) (second : Option Binary64) : Bool :=
  match x with
  | none => op.holdsMissing
  | some x => op.holdsNumber x value second

lemma numberBounds?_holds {op : Operator} {value : Binary64} {second : Option Binary64} {range : ValueRange}
    (h : op.numberBounds? value second = some range) (f : Field) (t : Track) :
    op.holdsField (t.number f) value second = range.admits f t := by
  obtain ⟨b, hb, rfl⟩ := Option.map_eq_some_iff.mp h
  rw [ValueRange.admits]
  cases t.number f with
  | none => exact bounds?_holdsMissing hb
  | some x => exact bounds?_holdsNumber hb x

lemma dateBounds?_holds {op : Operator} {now : Instant} {value second : Option Moment} {range : ValueRange}
    (h : op.dateBounds? now value second = some range) (f : Field) (t : Track) :
    op.holdsMoment now (t.date f) value second = range.admits f t := by
  obtain ⟨v, rfl, h⟩ := Option.bind_eq_some_iff.mp h
  obtain ⟨b, hb, rfl⟩ := Option.map_eq_some_iff.mp h
  rw [ValueRange.admits]
  cases t.date f with
  | none => exact bounds?_holdsMissing hb
  | some x => exact bounds?_holdsDate hb x

end Operator

namespace Rule

variable {now : Instant} {rule : Rule} {f : Field} {range : ValueRange}

lemma range?_cases (h : rule.range? now = some (f, range)) :
    (∃ op value second, Operator.numberBounds? op value second = some range ∧
      ∀ t, rule.holds now t = op.holdsField (t.number f) value second) ∨
    ∃ op value second, Operator.dateBounds? op now value second = some range ∧
      ∀ t, rule.holds now t = op.holdsMoment now (t.date f) value second := by
  cases rule with
  | text r => cases h
  | group j rs => cases h
  | number r =>
    simp only [range?, Option.ite_none_left_eq_some] at h
    obtain ⟨hn, h⟩ := h
    obtain ⟨range, hr, he⟩ := Option.map_eq_some_iff.mp h
    cases he
    refine Or.inl ⟨r.operator, r.value, r.secondValue, hr, fun t => ?_⟩
    rw [holds, Bool.eq_false_iff.mpr hn, Bool.false_xor, NumberRule.holds]
    cases t.number r.field <;> rfl
  | plays r =>
    simp only [range?, Option.ite_none_left_eq_some] at h
    obtain ⟨hn, h⟩ := h
    split at h
    · next hf =>
      obtain ⟨range, hr, he⟩ := Option.map_eq_some_iff.mp h
      cases he
      refine Or.inr ⟨r.operator, r.date, r.secondDate, hr, fun t => ?_⟩
      rw [holds, Bool.eq_false_iff.mpr hn, Bool.false_xor, PlayRule.holds, if_pos hf]
    · next hf =>
      obtain ⟨value, hv, h⟩ := Option.bind_eq_some_iff.mp h
      obtain ⟨range, hr, he⟩ := Option.map_eq_some_iff.mp h
      cases he
      refine Or.inl ⟨r.operator, value, r.secondNumber, hr, fun t => ?_⟩
      rw [holds, Bool.eq_false_iff.mpr hn, Bool.false_xor, PlayRule.holds, if_neg hf, hv]
      cases t.number r.field <;> rfl
  | file r =>
    simp only [range?, Option.ite_none_left_eq_some] at h
    obtain ⟨hn, h⟩ := h
    simp only [Bool.or_eq_true, decide_eq_true_eq, not_or, Bool.not_eq_true, ne_eq, Decidable.not_not] at hn
    obtain ⟨range, hr, he⟩ := Option.map_eq_some_iff.mp h
    cases he
    refine Or.inr ⟨r.operator, r.date, r.secondDate, hr, fun t => ?_⟩
    rw [holds, hn.1, Bool.false_xor, FileRule.holds, if_neg (by rw [hn.2]; decide)]

lemma range?_holds (h : rule.range? now = some (f, range)) (t : Track) : rule.holds now t = range.admits f t := by
  rcases range?_cases h with ⟨op, value, second, hr, hh⟩ | ⟨op, value, second, hr, hh⟩
  · rw [hh, Operator.numberBounds?_holds hr]
  · rw [hh, Operator.dateBounds?_holds hr]

lemma range?_isBounded {bounds : Bounds Binary64} (h : rule.range? now = some (f, .numbers bounds)) :
    bounds.IsBounded := by
  rcases range?_cases h with ⟨op, value, second, hr, -⟩ | ⟨op, value, second, hr, -⟩
  · obtain ⟨b, hb, he⟩ := Option.map_eq_some_iff.mp hr
    cases he
    exact Operator.bounds?_isBounded hb
  · obtain ⟨v, -, hr⟩ := Option.bind_eq_some_iff.mp hr
    obtain ⟨b, -, he⟩ := Option.map_eq_some_iff.mp hr
    cases he

end Rule

lemma TextRule.isSeekable_holds {r : TextRule} (h : r.isSeekable = true) (t : Track) :
    (Rule.text r).holds now t = (t.text r.field).any fun text =>
      (if r.operator = .startsWith then TextMatch.startsWith else .contains).admits (InvertedIndex.normalize r.value)
        (InvertedIndex.normalize text) := by
  simp only [isSeekable, Bool.and_eq_true, Bool.or_eq_true, Bool.not_eq_true', decide_eq_true_eq] at h
  obtain ⟨⟨⟨hn, hc⟩, hop⟩, -⟩ := h
  rw [Rule.holds, hn, Bool.false_xor, holds]
  rcases hop with hop | hop
  · cases t.text r.field with
    | none => simp [hop, Operator.holdsMissing]
    | some text => simp [hop, hc, Operator.holdsText, TextMatch.admits, InvertedIndex.normalize]
  · cases t.text r.field with
    | none => simp [hop, Operator.holdsMissing]
    | some text => simp [hop, hc, Operator.holdsText, TextMatch.admits, InvertedIndex.normalize]

namespace Rule

variable {ranges : Bool} {now : Instant} {rule : Rule} {f : Field}

def rangePlan (ranges : Bool) (now : Instant) (rule : Rule) : Plan :=
  match if ranges then rule.range? now else none with
  | some (f, range) => if f.isValueIndexed then .valueRange f range else .scan
  | none => .scan

lemma plan_eq (ranges : Bool) (now : Instant) (rule : Rule) :
    (∃ r, rule = text r ∧ rule.plan ranges now =
      if r.isSeekable then .textSeek r.field r.value (if r.operator = .startsWith then .startsWith else .contains)
      else .scan) ∨
    rule.plan ranges now = rangePlan ranges now rule := by
  cases rule with
  | text r => exact Or.inl ⟨r, rfl, rfl⟩
  | number r => exact Or.inr rfl
  | plays r => exact Or.inr rfl
  | file r => exact Or.inr rfl
  | group j rs => exact Or.inr rfl

lemma rangePlan_cases (ranges : Bool) (now : Instant) (rule : Rule) :
    rangePlan ranges now rule = .scan ∨
      ∃ f range, rule.range? now = some (f, range) ∧ rangePlan ranges now rule = .valueRange f range := by
  rw [rangePlan]
  split
  · next f range h =>
    cases ranges with
    | false => cases h
    | true =>
      split
      · exact Or.inr ⟨f, range, h, rfl⟩
      · exact Or.inl rfl
  · exact Or.inl rfl

lemma plan_textSeek {query : String} {mode : TextMatch} (h : rule.plan ranges now = .textSeek f query mode)
    (t : Track) :
    rule.holds now t = (t.text f).any fun text =>
      mode.admits (InvertedIndex.normalize query) (InvertedIndex.normalize text) := by
  rcases plan_eq ranges now rule with ⟨r, rfl, hp⟩ | hp
  · rw [hp] at h
    split at h
    · next hs =>
      cases h
      exact TextRule.isSeekable_holds hs t
    · cases h
  · rw [hp] at h
    rcases rangePlan_cases ranges now rule with hc | ⟨g, range, -, hc⟩
    · rw [hc] at h
      cases h
    · rw [hc] at h
      cases h

lemma plan_valueRange {range : ValueRange} (h : rule.plan ranges now = .valueRange f range) :
    rule.range? now = some (f, range) := by
  rcases plan_eq ranges now rule with ⟨r, rfl, hp⟩ | hp
  · rw [hp] at h
    split at h <;> cases h
  · rw [hp] at h
    rcases rangePlan_cases ranges now rule with hc | ⟨g, range, hr, hc⟩
    · rw [hc] at h
      cases h
    · rw [hc] at h
      cases h
      exact hr

end Rule

end MusicQuery
