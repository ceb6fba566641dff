import Mathlib.Logic.Relation
import MusicQuery.Proofs.Plan
import MusicQuery.Proofs.Rule.Replacement

namespace MusicQuery

namespace Operator

lemma holdsField_notEquals (x : Option Binary64) (value : Binary64) (second : Option Binary64) :
    notEquals.holdsField x value second = !equals.holdsField x value second := by
  cases x <;> rfl

lemma holdsMoment_notEquals (now : Instant) (value : Option Instant) (operand : Moment) (second : Option Moment) :
    notEquals.holdsMoment now value (some operand) second = !equals.holdsMoment now value (some operand) second := by
  cases value with
  | none => rfl
  | some value => exact decide_not

lemma holdsField_between {a b : Binary64} (ha : a.isNaN = false) (hb : b.isNaN = false) (x : Option Binary64) :
    between.holdsField x a (some b) =
      (greaterThanOrEqual.holdsField x a none && lessThanOrEqual.holdsField x b none ||
        greaterThanOrEqual.holdsField x b none && lessThanOrEqual.holdsField x a none) := by
  cases x with
  | none => rfl
  | some x =>
    simp only [holdsField, holdsNumber, Option.any_some, Binary64.min, Binary64.max, Binary64.lt, Binary64.le, ha, hb]
    rcases Int.lt_trichotomy a.rank b.rank with hlt | heq | hgt
    · have hnot : ¬ b.rank < a.rank := by omega
      cases x.isNaN <;> simp [hlt, hnot, ha, hb]
      omega
    · cases x.isNaN <;> simp [heq, ha]
    · have hnot : ¬ a.rank < b.rank := by omega
      cases x.isNaN <;> simp [hgt, hnot, ha, hb]
      omega

lemma holdsMoment_between (now : Instant) (value : Option Instant) (a b : Moment) :
    between.holdsMoment now value (some a) (some b) =
      (greaterThanOrEqual.holdsMoment now value (some a) none && lessThanOrEqual.holdsMoment now value (some b) none ||
        greaterThanOrEqual.holdsMoment now value (some b) none &&
          lessThanOrEqual.holdsMoment now value (some a) none) := by
  cases value with
  | none => rfl
  | some value =>
    simp only [holdsMoment, holdsDate, Option.map_some, Option.any_some]
    generalize a.resolve now = i
    generalize b.resolve now = j
    by_cases hij : i ≤ j
    · have hmin : min i j = i := if_pos hij
      have hmax : max i j = j := if_pos hij
      have hlow : j ≤ value → i ≤ value := Instant.le_trans hij
      have hhigh : value ≤ i → value ≤ j := fun h => Instant.le_trans h hij
      rw [hmin, hmax, Bool.eq_iff_iff]
      simp only [Bool.and_eq_true, Bool.or_eq_true, decide_eq_true_eq]
      tauto
    · have hmin : min i j = j := if_neg hij
      have hmax : max i j = i := if_neg hij
      have hji : j ≤ i := (Instant.le_total i j).resolve_left hij
      have hlow : i ≤ value → j ≤ value := Instant.le_trans hji
      have hhigh : value ≤ j → value ≤ i := fun h => Instant.le_trans h hji
      rw [hmin, hmax, Bool.eq_iff_iff]
      simp only [Bool.and_eq_true, Bool.or_eq_true, decide_eq_true_eq]
      tauto

end Operator

section Fields

variable (now : Instant) (t : Track)

lemma NumberRule.holds_eq (r : NumberRule) :
    r.holds t = r.operator.holdsField (t.number r.field) r.value r.secondValue := by
  rw [holds]
  cases t.number r.field <;> rfl

lemma PlayRule.holds_of_number {r : PlayRule} {x : Binary64} (hf : r.field ≠ .lastPlayed) (hx : r.number = some x) :
    r.holds now t = r.operator.holdsField (t.number r.field) x r.secondNumber := by
  rw [holds, if_neg hf, hx]
  cases t.number r.field <;> rfl

lemma PlayRule.holds_of_date {r : PlayRule} (hf : r.field = .lastPlayed) :
    r.holds now t = r.operator.holdsMoment now (t.date r.field) r.date r.secondDate :=
  if_pos hf

lemma FileRule.holds_of_date {r : FileRule} (hf : r.field ≠ .format) :
    r.holds now t = r.operator.holdsMoment now (t.date r.field) r.date r.secondDate :=
  if_neg hf

end Fields

namespace Rule

section Leaves

def isNegated : Rule → Bool
  | text r => r.negated
  | number r => r.negated
  | plays r => r.negated
  | file r => r.negated
  | group _ _ => false

def withOperator (op : Operator) : Rule → Rule
  | text r => text { r with operator := op }
  | number r => number { r with operator := op }
  | plays r => plays { r with operator := op }
  | file r => file { r with operator := op }
  | group junction members => group junction members

def withFirst : Rule → Rule
  | number r => number { r with secondValue := none }
  | plays r => plays { r with secondNumber := none, secondDate := none }
  | file r => file { r with secondDate := none }
  | r => r

def exchanged : Rule → Rule
  | number r => number { r with value := r.secondValue.getD r.value, secondValue := some r.value }
  | plays r => plays { r with
      number := r.secondNumber, secondNumber := r.number, date := r.secondDate, secondDate := r.date }
  | file r => file { r with date := r.secondDate, secondDate := r.date }
  | r => r

def ofFormat (r : FileRule) (x : String) : Rule := file { r with operator := .equals, formats := some [x] }

/-- Not below the first operand of a leaf, and not above the second. -/
def fromFirstToSecond (r : Rule) : Rule :=
  group .and [(r.withOperator .greaterThanOrEqual).withFirst, (r.exchanged.withOperator .lessThanOrEqual).withFirst]

/-- What may take the place of a leaf that is not negated. -/
inductive Law : Rule → Rule → Prop
  | notEquals {r : Rule} : r.operator? = some .notEquals → Law r (r.withOperator .equals).negate
  | inList {r : FileRule} : r.operator = .inList → Law (file r) (group .or ((r.formats.getD []).map (ofFormat r)))
  | between {r : Rule} : r.operator? = some .between →
      Law r (group .or [r.fromFirstToSecond, r.exchanged.fromFirstToSecond])
  | exchanged {r : Rule} : r.operator? = some .between → Law r r.exchanged

/-- A leaf gives way to what a law puts in its place, a negated one to the negation of that. -/
inductive Recast : Rule → Rule → Prop
  | plain {r s : Rule} : r.isNegated = false → Law r s → Recast r s
  | negated {r s : Rule} : r.isNegated = false → Law r s → Recast r.negate s.negate

end Leaves

section Validation

variable {r : Rule} {op new : Operator}

lemma operator?_withOperator (hop : r.operator? = some op) : (r.withOperator new).operator? = some new := by
  cases r with
  | group junction members => cases hop
  | _ => rfl

lemma operator?_exchanged (r : Rule) : r.exchanged.operator? = r.operator? := by
  cases r <;> rfl

lemma isNegated_exchanged (r : Rule) : r.exchanged.isNegated = r.isNegated := by
  cases r <;> rfl

lemma allowed_cases (r : Rule) :
    r.allowed = Operator.ofText ∨ r.allowed = Operator.ofOrder ∨
      r.allowed = Operator.ofFormat ∨ r.allowed = [] := by
  cases r with
  | text r => exact Or.inl rfl
  | number r => exact Or.inr (Or.inl rfl)
  | plays r => exact Or.inr (Or.inl rfl)
  | file r =>
    rw [allowed]
    split <;> simp
  | group junction members => exact Or.inr (Or.inr (Or.inr rfl))

lemma equals_mem_allowed (h : .notEquals ∈ r.allowed) : .equals ∈ r.allowed := by
  rcases allowed_cases r with hr | hr | hr | hr <;> rw [hr] at h ⊢ <;> revert h <;> decide

lemma allowed_of_between (h : .between ∈ r.allowed) : r.allowed = Operator.ofOrder := by
  rcases allowed_cases r with hr | hr | hr | hr
  · exact absurd (hr ▸ h) (by decide)
  · exact hr
  · exact absurd (hr ▸ h) (by decide)
  · exact absurd (hr ▸ h) (by decide)

lemma field_ne_format {r : FileRule} (h : .between ∈ (file r).allowed) : r.field ≠ .format := by
  intro hf
  rw [allowed, if_pos hf] at h
  exact absurd h (by decide)

lemma validate_withOperator (hop : r.operator? = some op) (hvalid : r.validate = .ok ()) (hnew : new ∈ r.allowed)
    (hne : new ≠ .between) : (r.withOperator new).validate = .ok () := by
  obtain ⟨hhome, -, hfirst, -⟩ := (validate_eq_ok hop).mp hvalid
  refine (validate_eq_ok (operator?_withOperator hop)).mpr ⟨?_, ?_, ?_, fun hb => (hne hb).elim⟩
  · cases r <;> exact hhome
  · cases r <;> exact hnew
  · cases r <;> exact hfirst

lemma validate_withFirst (hop : r.operator? = some op) (hvalid : r.validate = .ok ()) (hne : op ≠ .between) :
    r.withFirst.validate = .ok () := by
  obtain ⟨hhome, hallowed, hfirst, -⟩ := (validate_eq_ok hop).mp hvalid
  have hop' : r.withFirst.operator? = some op := by
    cases r <;> exact hop
  refine (validate_eq_ok hop').mpr ⟨?_, ?_, ?_, fun hb => (hne hb).elim⟩
  · cases r <;> exact hhome
  · cases r <;> exact hallowed
  · cases r <;> exact hfirst

lemma validate_exchanged (hop : r.operator? = some .between) (hvalid : r.validate = .ok ()) :
    r.exchanged.validate = .ok () := by
  obtain ⟨hhome, hallowed, hfirst, hsecond⟩ := (validate_eq_ok hop).mp hvalid
  have hsecond := hsecond rfl
  refine (validate_eq_ok (operator?_exchanged r ▸ hop)).mpr ⟨?_, ?_, ?_, fun _ => ?_⟩
  · cases r <;> exact hhome
  · cases r <;> exact hallowed
  all_goals
    cases r with
    | group junction members => cases hop
    | text r => rfl
    | number r => rfl
    | plays r => assumption
    | file r =>
      have hf := field_ne_format hallowed
      simp only [exchanged, hasFirst, hasSecond, if_neg hf] at hfirst hsecond ⊢
      assumption

end Validation

section NotEquals

variable {r : Rule} (hop : r.operator? = some .notEquals) (hvalid : r.validate = .ok ())
include hop hvalid

lemma holds_notEquals (now : Instant) (t : Track) : r.holds now t = !(r.withOperator .equals).holds now t := by
  obtain ⟨-, -, hfirst, -⟩ := (validate_eq_ok hop).mp hvalid
  cases r with
  | group junction members => cases hop
  | text r =>
    obtain hop : r.operator = .notEquals := Option.some.inj hop
    rw [withOperator, holds, holds, ← Bool.xor_not, TextRule.holds, TextRule.holds, hop]
    cases t.text r.field with
    | none => rfl
    | some value =>
      dsimp only
      split <;> exact congrArg (r.negated ^^ ·) decide_not
  | number r =>
    obtain hop : r.operator = .notEquals := Option.some.inj hop
    rw [withOperator, holds, holds, ← Bool.xor_not, NumberRule.holds_eq, NumberRule.holds_eq, hop,
      Operator.holdsField_notEquals]
  | plays r =>
    obtain hop : r.operator = .notEquals := Option.some.inj hop
    rw [withOperator, holds, holds, ← Bool.xor_not]
    rw [hasFirst] at hfirst
    by_cases hf : r.field = .lastPlayed
    · rw [if_pos hf] at hfirst
      obtain ⟨a, ha⟩ := Option.isSome_iff_exists.mp hfirst
      rw [PlayRule.holds_of_date now t hf, PlayRule.holds_of_date (r := { r with operator := .equals }) now t hf, hop,
        ha, Operator.holdsMoment_notEquals]
    · rw [if_neg hf] at hfirst
      obtain ⟨a, ha⟩ := Option.isSome_iff_exists.mp hfirst
      rw [PlayRule.holds_of_number now t hf ha,
        PlayRule.holds_of_number (r := { r with operator := .equals }) now t hf ha, hop, Operator.holdsField_notEquals]
  | file r =>
    obtain hop : r.operator = .notEquals := Option.some.inj hop
    rw [withOperator, holds, holds, ← Bool.xor_not]
    rw [hasFirst] at hfirst
    by_cases hf : r.field = .format
    · rw [FileRule.holds, FileRule.holds, if_pos hf, if_pos hf, hop]
      cases t.text .format <;> rfl
    · rw [if_neg hf] at hfirst
      obtain ⟨a, ha⟩ := Option.isSome_iff_exists.mp hfirst
      rw [FileRule.holds_of_date now t hf, FileRule.holds_of_date (r := { r with operator := .equals }) now t hf, hop,
        ha, Operator.holdsMoment_notEquals]

end NotEquals

section InList

variable {r : FileRule} (hop : r.operator = .inList) (hvalid : (file r).validate = .ok ())
include hop hvalid

lemma field_of_inList : r.field = .format := by
  obtain ⟨-, hallowed, -⟩ := (validate_eq_ok (r := file r) (congrArg some hop)).mp hvalid
  by_contra hf
  rw [allowed, if_neg hf] at hallowed
  exact absurd hallowed (by decide)

lemma validate_ofFormat (x : String) : (ofFormat r x).validate = .ok () := by
  have hf := field_of_inList hop hvalid
  obtain ⟨hhome, -⟩ := (validate_eq_ok (r := file r) (congrArg some hop)).mp hvalid
  have hequals : .equals ∈ (ofFormat r x).allowed := by
    rw [ofFormat, allowed, if_pos hf]
    decide
  have hfirst : (ofFormat r x).hasFirst = true := by
    rw [ofFormat, hasFirst, if_pos hf]
    rfl
  exact (validate_eq_ok rfl).mpr ⟨hhome, hequals, hfirst, fun hb => absurd hb (by decide)⟩

lemma holds_inList (hplain : r.negated = false) (now : Instant) (t : Track) :
    (file r).holds now t = (r.formats.getD []).any fun x => (ofFormat r x).holds now t := by
  have hf := field_of_inList hop hvalid
  simp only [ofFormat, holds, FileRule.holds, if_pos hf, hop, hplain, Bool.false_xor]
  cases t.text .format with
  | none => exact (List.any_eq_false.mpr fun x _ => Bool.false_ne_true).symm
  | some format => rfl

end InList

section Between

lemma numbers_withOperator (op : Operator) (r : Rule) : (r.withOperator op).numbers = r.numbers := by
  cases r <;> rfl

lemma numbers_withFirst_subset (r : Rule) : r.withFirst.numbers ⊆ r.numbers := by
  cases r <;> simp [withFirst, numbers]

lemma numbers_exchanged_subset (r : Rule) : r.exchanged.numbers ⊆ r.numbers := by
  cases r with
  | number r => cases h : r.secondValue <;> simp [exchanged, numbers, h]
  | plays r => simp [exchanged, numbers]
  | _ => exact List.Subset.refl _

variable {r : Rule} (hop : r.operator? = some .between) (hvalid : r.validate = .ok ())
include hop hvalid

lemma exchanged_exchanged : r.exchanged.exchanged = r := by
  obtain ⟨-, -, -, hsecond⟩ := (validate_eq_ok hop).mp hvalid
  cases r with
  | number r =>
    obtain ⟨field, operator, value, secondValue, negated⟩ := r
    obtain ⟨b, rfl⟩ := Option.isSome_iff_exists.mp (hsecond rfl)
    rfl
  | _ => rfl

variable (hplain : r.isNegated = false)
include hplain

lemma between_cases :
    (∃ f a b, a ∈ r.numbers ∧ b ∈ r.numbers ∧ ∀ now t,
      r.holds now t = Operator.between.holdsField (t.number f) a (some b) ∧
      (∀ op, (r.withOperator op).withFirst.holds now t = op.holdsField (t.number f) a none) ∧
      ∀ op, (r.exchanged.withOperator op).withFirst.holds now t = op.holdsField (t.number f) b none) ∨
    ∃ f a b, ∀ now t,
      r.holds now t = Operator.between.holdsMoment now (t.date f) (some a) (some b) ∧
      (∀ op, (r.withOperator op).withFirst.holds now t = op.holdsMoment now (t.date f) (some a) none) ∧
      ∀ op, (r.exchanged.withOperator op).withFirst.holds now t = op.holdsMoment now (t.date f) (some b) none := by
  obtain ⟨-, hallowed, hfirst, hsecond⟩ := (validate_eq_ok hop).mp hvalid
  have hsecond := hsecond rfl
  cases r with
  | text r => exact absurd hallowed (show .between ∉ Operator.ofText by decide)
  | group junction members => cases hop
  | number r =>
    obtain hop : r.operator = .between := Option.some.inj hop
    obtain hplain : r.negated = false := hplain
    obtain ⟨b, hb⟩ := Option.isSome_iff_exists.mp hsecond
    refine Or.inl ⟨r.field, r.value, b, by simp [numbers], by simp [numbers, hb], fun now t => ?_⟩
    simp [holds, exchanged, withFirst, withOperator, NumberRule.holds_eq, hop, hplain, hb]
  | plays r =>
    obtain hop : r.operator = .between := Option.some.inj hop
    obtain hplain : r.negated = false := hplain
    rw [hasFirst] at hfirst
    rw [hasSecond] at hsecond
    by_cases hf : r.field = .lastPlayed
    · rw [if_pos hf] at hfirst hsecond
      obtain ⟨a, ha⟩ := Option.isSome_iff_exists.mp hfirst
      obtain ⟨b, hb⟩ := Option.isSome_iff_exists.mp hsecond
      refine Or.inr ⟨r.field, a, b, fun now t => ?_⟩
      simp [holds, exchanged, withFirst, withOperator, PlayRule.holds_of_date, hf, hop, hplain, ha, hb]
    · rw [if_neg hf] at hfirst hsecond
      obtain ⟨a, ha⟩ := Option.isSome_iff_exists.mp hfirst
      obtain ⟨b, hb⟩ := Option.isSome_iff_exists.mp hsecond
      refine Or.inl ⟨r.field, a, b, by simp [numbers, ha], by simp [numbers, hb], fun now t => ?_⟩
      have hfield (s : PlayRule) (x : Binary64) (hs : s.field = r.field) (hx : s.number = some x) :=
        PlayRule.holds_of_number now t (hs ▸ hf) hx
      simp [holds, exchanged, withFirst, withOperator, hfield, hop, hplain, ha, hb]
  | file r =>
    obtain hop : r.operator = .between := Option.some.inj hop
    obtain hplain : r.negated = false := hplain
    have hf := field_ne_format hallowed
    rw [hasFirst, if_neg hf] at hfirst
    obtain ⟨a, ha⟩ := Option.isSome_iff_exists.mp hfirst
    obtain ⟨b, hb⟩ := Option.isSome_iff_exists.mp hsecond
    refine Or.inr ⟨r.field, a, b, fun now t => ?_⟩
    simp [holds, exchanged, withFirst, withOperator, FileRule.holds_of_date, hf, hop, hplain, ha, hb]

end Between

section Restating

variable {r s : Rule}

lemma restates_notEquals (hop : r.operator? = some .notEquals) : r.Restates (r.withOperator .equals).negate := by
  intro hsound
  have hequals := equals_mem_allowed ((validate_eq_ok hop).mp hsound.1).2.1
  have hvalid := validate_withOperator hop hsound.1 hequals (by decide)
  refine ⟨isSound_negate.mpr ⟨hvalid, ?_⟩, fun now t => ?_⟩
  · rw [numbers_withOperator]
    exact hsound.2
  · rw [holds_negate, ← holds_notEquals hop hsound.1]

lemma restates_inList {r : FileRule} (hop : r.operator = .inList) (hplain : r.negated = false) :
    (file r).Restates (group .or ((r.formats.getD []).map (ofFormat r))) := by
  intro hsound
  refine ⟨isSound_group.mpr fun m hm => ?_, fun now t => ?_⟩
  · obtain ⟨x, -, rfl⟩ := List.mem_map.mp hm
    exact ⟨validate_ofFormat hop hsound.1 x, hsound.2⟩
  · rw [holds_inList hop hsound.1 hplain]
    exact (anyHolds_eq_any now t _).trans List.any_map

lemma isSound_exchanged (hop : r.operator? = some .between) (hsound : r.IsSound) : r.exchanged.IsSound :=
  ⟨validate_exchanged hop hsound.1, fun x hx => hsound.2 x (numbers_exchanged_subset r hx)⟩

lemma isSound_oneSided (op : Operator) (hop : r.operator? = some .between) (hsound : r.IsSound)
    (horder : op ∈ Operator.ofOrder) (hne : op ≠ .between) : (r.withOperator op).withFirst.IsSound := by
  have hallowed := allowed_of_between ((validate_eq_ok hop).mp hsound.1).2.1
  have hvalid := validate_withOperator hop hsound.1 (hallowed ▸ horder) hne
  refine ⟨validate_withFirst (operator?_withOperator hop) hvalid hne, fun x hx => hsound.2 x ?_⟩
  rw [← numbers_withOperator op r]
  exact numbers_withFirst_subset _ hx

lemma isSound_fromFirstToSecond (hop : r.operator? = some .between) (hsound : r.IsSound) :
    r.fromFirstToSecond.IsSound := by
  have hop' := (operator?_exchanged r).trans hop
  have hlow := isSound_oneSided .greaterThanOrEqual hop hsound (by decide) (by decide)
  have hhigh := isSound_oneSided .lessThanOrEqual hop' (isSound_exchanged hop hsound) (by decide) (by decide)
  refine isSound_group.mpr fun m hm => ?_
  rcases List.mem_pair.mp hm with rfl | rfl
  · exact hlow
  · exact hhigh

lemma holds_between (hop : r.operator? = some .between) (hplain : r.isNegated = false) (hsound : r.IsSound)
    (now : Instant) (t : Track) :
    r.holds now t = (r.fromFirstToSecond.holds now t || r.exchanged.fromFirstToSecond.holds now t) := by
  simp only [fromFirstToSecond, exchanged_exchanged hop hsound.1, holds, allHold, Bool.and_true]
  rcases between_cases hop hsound.1 hplain with ⟨f, a, b, ha, hb, h⟩ | ⟨f, a, b, h⟩
  · obtain ⟨hr, hfirst, hsecond⟩ := h now t
    rw [hr, hfirst, hfirst, hsecond, hsecond, Operator.holdsField_between (hsound.2 a ha) (hsound.2 b hb)]
  · obtain ⟨hr, hfirst, hsecond⟩ := h now t
    rw [hr, hfirst, hfirst, hsecond, hsecond, Operator.holdsMoment_between]

lemma restates_between (hop : r.operator? = some .between) (hplain : r.isNegated = false) :
    r.Restates (group .or [r.fromFirstToSecond, r.exchanged.fromFirstToSecond]) := by
  intro hsound
  have hop' := (operator?_exchanged r).trans hop
  refine ⟨isSound_group.mpr fun m hm => ?_, fun now t => ?_⟩
  · rcases List.mem_pair.mp hm with rfl | rfl
    · exact isSound_fromFirstToSecond hop hsound
    · exact isSound_fromFirstToSecond hop' (isSound_exchanged hop hsound)
  · rw [holds_between hop hplain hsound, holds, anyHolds, anyHolds, anyHolds, Bool.or_false]

lemma restates_exchanged (hop : r.operator? = some .between) (hplain : r.isNegated = false) :
    r.Restates r.exchanged := by
  intro hsound
  have hop' := (operator?_exchanged r).trans hop
  have hplain' := (isNegated_exchanged r).trans hplain
  have hsound' := isSound_exchanged hop hsound
  refine ⟨hsound', fun now t => ?_⟩
  rw [holds_between hop hplain hsound, holds_between hop' hplain' hsound',
    exchanged_exchanged hop hsound.1, Bool.or_comm]

lemma Law.restates (h : Law r s) (hplain : r.isNegated = false) : r.Restates s := by
  cases h with
  | notEquals hop => exact restates_notEquals hop
  | inList hop => exact restates_inList hop hplain
  | between hop => exact restates_between hop hplain
  | exchanged hop => exact restates_exchanged hop hplain

lemma Recast.restates (h : Recast r s) : r.Restates s := by
  cases h with
  | plain hplain hlaw => exact hlaw.restates hplain
  | negated hplain hlaw => exact (hlaw.restates hplain).negate

lemma restates_of_recasts (h : Relation.ReflTransGen (Replaced Recast) r s) : r.Restates s := by
  induction h with
  | refl => exact fun hsound => ⟨hsound, fun _ _ => rfl⟩
  | tail _ hlast ih =>
    intro hsound
    obtain ⟨hmid, hholds⟩ := ih hsound
    obtain ⟨hs, hlast⟩ := hlast.restates (fun _ _ h => h.restates) hmid
    exact ⟨hs, fun now t => (hlast now t).trans (hholds now t)⟩

end Restating

end Rule

section Texts

lemma TextRule.holds_mono {r : TextRule} {t : Track} {op new : Operator}
    (hmissing : op.holdsMissing = true → new.holdsMissing = true)
    (htext : ∀ value operand, op.holdsText value operand = true → new.holdsText value operand = true)
    (h : ({ r with operator := op } : TextRule).holds t = true) :
    ({ r with operator := new } : TextRule).holds t = true := by
  rw [holds] at h ⊢
  dsimp only at h ⊢
  cases hf : t.text r.field with
  | none =>
    rw [hf] at h
    exact hmissing h
  | some value =>
    rw [hf] at h
    dsimp only at h ⊢
    split
    · rw [if_pos (by assumption)] at h
      exact htext _ _ h
    · rw [if_neg (by assumption)] at h
      exact htext _ _ h

lemma Operator.startsWith_of_equals (value operand : List Char) (h : equals.holdsText value operand = true) :
    startsWith.holdsText value operand = true := by
  obtain rfl : value = operand := of_decide_eq_true h
  exact List.isPrefixOf_iff_prefix.mpr (List.prefix_refl value)

lemma Operator.contains_of_startsWith (value operand : List Char) (h : startsWith.holdsText value operand = true) :
    contains.holdsText value operand = true :=
  Text.occursIn_iff.mpr (List.isPrefixOf_iff_prefix.mp h).isInfix

end Texts

namespace Rule

/-- The leaves of a sound rule may be stated by other operators, any of them and time after time, also where a leaf is
negated; and of the text operators each of `equals`, `startsWith` and `contains` gives the next. -/
theorem operators_coherent :
    (∀ r s : Rule, Relation.ReflTransGen (Replaced Recast) r s → r.validate = .ok () →
      (∀ x ∈ r.numbers, x.isNaN = false) → s.validate = .ok () ∧ ∀ now t, s.holds now t = r.holds now t) ∧
    ∀ (r : TextRule) (now : Instant) (t : Track),
      ((text { r with operator := .equals, negated := false }).holds now t = true →
        (text { r with operator := .startsWith, negated := false }).holds now t = true) ∧
      ((text { r with operator := .startsWith, negated := false }).holds now t = true →
        (text { r with operator := .contains, negated := false }).holds now t = true) := by
  constructor
  · intro r s hrecasts hvalid hnumeric
    obtain ⟨hs, hholds⟩ := restates_of_recasts hrecasts ⟨hvalid, hnumeric⟩
    exact ⟨hs.1, hholds⟩
  · intro r now t
    simp only [holds, Bool.false_xor]
    exact ⟨TextRule.holds_mono (by decide) Operator.startsWith_of_equals,
      TextRule.holds_mono (by decide) Operator.contains_of_startsWith⟩

def offTempo : Rule :=
  group .or [
    text { field := .title, operator := .contains, value := "live" },
    number { field := .bpm, operator := .between, value := .infinity, secondValue := some .zero, negated := true }]

theorem operators_coherent_of_offTempo :
    offTempo.validate = .ok () ∧ (∀ x ∈ offTempo.numbers, x.isNaN = false) ∧ ∀ now t,
      holds now t (group .or [
        text { field := .title, operator := .contains, value := "live" },
        group .and [
          group .or [
            number { field := .bpm, operator := .greaterThanOrEqual, value := .infinity, negated := true },
            number { field := .bpm, operator := .lessThanOrEqual, value := .zero, negated := true }],
          group .or [
            number { field := .bpm, operator := .greaterThanOrEqual, value := .zero, negated := true },
            number { field := .bpm, operator := .lessThanOrEqual, value := .infinity, negated := true }]]]) =
        offTempo.holds now t := by
  have hvalid : offTempo.validate = .ok () := rfl
  have hnumeric : ∀ x ∈ offTempo.numbers, x.isNaN = false := by decide
  have hrecast := Recast.negated
    (r := number { field := .bpm, operator := .between, value := .infinity, secondValue := some .zero }) rfl
    (Law.between rfl)
  have hreplaced := Replaced.member .or [text { field := .title, operator := .contains, value := "live" }] []
    (Replaced.here hrecast)
  exact ⟨hvalid, hnumeric, (operators_coherent.1 _ _ (.single hreplaced) hvalid hnumeric).2⟩

end Rule

end MusicQuery
