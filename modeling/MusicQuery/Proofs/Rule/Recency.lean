import MusicQuery.Proofs.Moment
import MusicQuery.Proofs.Rule.Operators

namespace MusicQuery

lemma Operator.holdsMoment_of_le {op : Operator} (hop : op ∈ [.greaterThan, .greaterThanOrEqual]) {now now' : Instant}
    {value : Option Instant} {operand operand' second second' : Option Moment}
    (hle : ∀ m' ∈ operand', ∃ m ∈ operand, m.resolve now ≤ m'.resolve now')
    (h : op.holdsMoment now' value operand' second' = true) : op.holdsMoment now value operand second = true := by
  cases value with
  | none => exact h
  | some value =>
    cases operand' with
    | none => cases h
    | some m' =>
      obtain ⟨m, rfl, hm⟩ := hle m' rfl
      simp only [List.mem_cons, List.not_mem_nil, or_false] at hop
      rcases hop with rfl | rfl
      · have hlt : m'.resolve now' < value := of_decide_eq_true h
        exact decide_eq_true (Std.lt_of_le_of_lt hm hlt)
      · have hle' : m'.resolve now' ≤ value := of_decide_eq_true h
        exact decide_eq_true (Std.le_trans hm hle')

namespace Rule

def date? : Rule → Option Moment
  | plays r => r.date
  | file r => r.date
  | _ => none

def withDate (date : Option Moment) : Rule → Rule
  | plays r => plays { r with date }
  | file r => file { r with date }
  | r => r

lemma withDate_date? (r : Rule) : r.withDate r.date? = r := by
  cases r <;> rfl

section Leaf

variable {r : Rule} {op : Operator} (hr : r.operator? = some op) (hop : op ∈ [.greaterThan, .greaterThanOrEqual])
  (hn : r.isNegated = false)
include hr hop hn

lemma holds_withDate_of_le {now now' : Instant} {date date' : Option Moment}
    (hle : ∀ m' ∈ date', ∃ m ∈ date, m.resolve now ≤ m'.resolve now') {t : Track}
    (h : (r.withDate date').holds now' t = true) : (r.withDate date).holds now t = true := by
  cases r with
  | text r => exact h
  | number r => exact h
  | group junction members => cases hr
  | plays r =>
    obtain rfl := Option.some.inj hr
    have hn : r.negated = false := hn
    rw [withDate, holds, hn, Bool.false_xor] at h ⊢
    by_cases hf : r.field = .lastPlayed
    · rw [PlayRule.holds, if_pos hf] at h ⊢
      exact Operator.holdsMoment_of_le hop hle h
    · rw [PlayRule.holds, if_neg hf] at h ⊢
      exact h
  | file r =>
    obtain rfl := Option.some.inj hr
    have hn : r.negated = false := hn
    rw [withDate, holds, hn, Bool.false_xor] at h ⊢
    by_cases hf : r.field = .format
    · rw [FileRule.holds, if_pos hf] at h ⊢
      exact h
    · rw [FileRule.holds, if_neg hf] at h ⊢
      exact Operator.holdsMoment_of_le hop hle h

lemma holds_of_later {now later : Instant} (hnow : now.isLeap = false) (hlater : later.isLeap = false)
    (hclock : now ≤ later) {t : Track} (h : r.holds later t = true) : r.holds now t = true := by
  rw [← withDate_date? r] at h ⊢
  exact holds_withDate_of_le hr hop hn (fun m hm => ⟨m, hm, m.resolve_mono hnow hlater hclock⟩) h

lemma holds_of_more {now : Instant} (hnow : now.isLeap = false) {amount more : UInt32} (hmore : amount ≤ more)
    {unit : TimeUnit} {t : Track} (h : (r.withDate (some (.ago amount unit))).holds now t = true) :
    (r.withDate (some (.ago more unit))).holds now t = true := by
  refine holds_withDate_of_le hr hop hn (fun m' hm' => ⟨_, rfl, ?_⟩) h
  obtain rfl := Option.some.inj hm'
  exact Moment.resolve_ago_antitone hnow amount unit hmore

end Leaf

end Rule

/-- Some time before the clock is the exact difference, cut off at the earliest instant, and no word overflows on the way
to it. So it is never after the clock, it moves back as the time is extended and on with the clock; and a leaf that asks
for dates after it loses tracks with the clock, and gains tracks as the time is extended. -/
theorem Moment.resolve_ago_exact (amount : UInt32) (unit : TimeUnit) (now : Instant) (hnow : now.isLeap = false) :
    (∃ span, unit.checkedSpan? amount = some span ∧ span.map Int64.toInt = (unit.span? amount).map Int.ofNat) ∧
    (∀ i, i = (ago amount unit).resolve now ↔ i.isLeap = false ∧
      i.nanos = max Instant.earliest.nanos (now.nanos - amount.toNat * unit.seconds * 1000000000)) ∧
    (ago amount unit).resolve now ≤ now ∧
    (∀ more, amount ≤ more → (ago more unit).resolve now ≤ (ago amount unit).resolve now) ∧
    (∀ later, later.isLeap = false → now ≤ later → (ago amount unit).resolve now ≤ (ago amount unit).resolve later) ∧
    ∀ (r : Rule) (op : Operator), r.operator? = some op → op ∈ [.greaterThan, .greaterThanOrEqual] →
      r.isNegated = false → ∀ t : Track,
        (∀ later, later.isLeap = false → now ≤ later → r.holds later t = true → r.holds now t = true) ∧
        ∀ more, amount ≤ more → (r.withDate (some (ago amount unit))).holds now t = true →
          (r.withDate (some (ago more unit))).holds now t = true := by
  refine ⟨unit.exists_checkedSpan? amount, fun i => ?_, resolve_ago_le hnow amount unit,
    fun more hmore => resolve_ago_antitone hnow amount unit hmore,
    fun later hlater hclock => resolve_mono hnow hlater hclock _, fun r op hr hop hn t => ⟨?_, ?_⟩⟩
  · rw [eq_resolve_ago_iff hnow, length, Int.natCast_mul]
  · exact fun later hlater hclock h => Rule.holds_of_later hr hop hn hnow hlater hclock h
  · exact fun more hmore h => Rule.holds_of_more hr hop hn hnow hmore h

/-- One span reaches back behind the earliest instant, another is too long for its milliseconds. The track was added less
than a month before the later clock. -/
theorem Moment.resolve_ago_exact_at_both_ends :
    let now : Instant := ⟨0, 500000000, by decide, by decide, by decide⟩
    let later : Instant := ⟨86400, 0, by decide, by decide, by decide⟩
    let fresh : Rule := .file { field := .dateAdded, operator := .greaterThan, date := some (ago 1 .months) }
    let t : Track := { id := 1, dateAdded := some ⟨-2505599, 0, by decide, by decide, by decide⟩ }
    now.isLeap = false ∧ later.isLeap = false ∧ now ≤ later ∧
      (ago 300000 .years).resolve now = .earliest ∧ TimeUnit.years.span? 4294967295 = none ∧
      (ago 4294967295 .years).resolve now ≤ (ago 300000 .years).resolve now ∧
      fresh.holds later t = true ∧ fresh.holds now t = true := by
  intro now later fresh t
  have hnow : now.isLeap = false := rfl
  have hclock : now ≤ later := by decide
  have hheld : fresh.holds later t = true := by decide
  obtain ⟨-, hexact, -, hantitone, -⟩ := resolve_ago_exact 300000 .years now hnow
  obtain ⟨-, -, -, -, -, hleaf⟩ := resolve_ago_exact 1 .months now hnow
  refine ⟨hnow, rfl, hclock, ((hexact _).mpr ⟨rfl, by decide⟩).symm, by decide, hantitone _ (by decide), hheld, ?_⟩
  exact (hleaf fresh .greaterThan rfl (by decide) rfl t).1 later rfl hclock hheld

end MusicQuery
