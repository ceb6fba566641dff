import MusicQuery.Proofs.Library.Selection
import MusicQuery.Proofs.Rule.Clock

namespace MusicQuery

variable {now now' : Instant}

lemma Operator.dateBounds?_fixed {value second : Option Moment} (h : Rule.anyRelative [value, second] = false)
    (op : Operator) : op.dateBounds? now value second = op.dateBounds? now' value second := by
  obtain ⟨hvalue, hsecond⟩ := Rule.anyRelative_pair.mp h
  have hsame : second.map (·.resolve now) = second.map (·.resolve now') := by
    cases second with
    | none => rfl
    | some m => exact congrArg some (Moment.resolve_fixed hsecond)
  cases value with
  | none => rfl
  | some m => rw [dateBounds?, dateBounds?, Option.bind_some, Option.bind_some, Moment.resolve_fixed hvalue, hsame]

namespace Rule

variable {rule : Rule} (h : rule.hasRelativeDates = false)
include h

lemma range?_fixed : rule.range? now = rule.range? now' := by
  cases rule with
  | text r => rfl
  | number r => rfl
  | group junction members => rfl
  | plays r => rw [range?, range?, Operator.dateBounds?_fixed h]
  | file r => rw [range?, range?, Operator.dateBounds?_fixed h]

lemma rangePlan_fixed (ranges : Bool) : rangePlan ranges now rule = rangePlan ranges now' rule := by
  rw [rangePlan, rangePlan, range?_fixed h]

lemma plan_fixed (ranges : Bool) : rule.plan ranges now = rule.plan ranges now' := by
  cases rule with
  | text r => rfl
  | _ => exact rangePlan_fixed h ranges

end Rule

namespace Library

section Fixed

variable {rule : Rule} (h : rule.hasRelativeDates = false)
include h

lemma select_fixed (l : Library) (settings : Settings) :
    l.select settings now rule = l.select settings now' rule := by
  have hholds : rule.holds now = rule.holds now' := funext fun t => Rule.holds_fixed t rule h
  rw [select, select, Rule.plan_fixed h, hholds]

lemma answer_fixed (l : Library) (settings : Settings) (shuffle shuffle' : Shuffle) {sorting : Option Sorting}
    (hs : sorting.any Sorting.isRandom = false) (limit : Option UInt64) :
    l.answer settings now shuffle ⟨rule, sorting, limit⟩ =
      l.answer settings now' shuffle' ⟨rule, sorting, limit⟩ := by
  rw [answer, answer, select_fixed h]
  exact Query.finish_shuffle hs

end Fixed

/-- The clock tells nothing to a rule without relative dates: neither which tracks fulfil it, nor how a library looks
for them, nor what it selects and in which fixed order it answers. -/
theorem answer_timeless (rule : Rule) (h : rule.hasRelativeDates = false) (now now' : Instant) :
    (∀ t, rule.holds now t = rule.holds now' t) ∧
    (∀ ranges, rule.plan ranges now = rule.plan ranges now') ∧
    ∀ (l : Library) (settings : Settings),
      l.select settings now rule = l.select settings now' rule ∧
      ∀ (sorting : Option Sorting) (limit : Option UInt64) (shuffle shuffle' : Shuffle),
        sorting.any Sorting.isRandom = false →
          l.answer settings now shuffle ⟨rule, sorting, limit⟩ =
            l.answer settings now' shuffle' ⟨rule, sorting, limit⟩ :=
  ⟨fun t => Rule.holds_fixed t rule h, Rule.plan_fixed h, fun l settings => ⟨select_fixed h l settings,
    fun _ limit shuffle shuffle' hs => answer_fixed h l settings shuffle shuffle' hs limit⟩⟩

theorem answer_timeless_of_fixed_dates :
    let origin : Instant := ⟨0, 0, by decide, by decide, by decide⟩
    let first : Moment := .at origin
    let second : Moment := .at ⟨86400, 0, by decide, by decide, by decide⟩
    let played : Rule := .plays { field := .lastPlayed, operator := .between, date := second, secondDate := first }
    let rated : Rule := .plays { field := .rating, operator := .notEquals, number := some .zero, date := first }
    let both : Rule := .group .and [played, rated]
    let l := run [.insert { id := 1, lastPlayed := some origin }, .insert { id := 2, rating := some 1 },
      .insert { id := 3, rating := some 1, lastPlayed := some origin }]
    both.hasRelativeDates = false ∧ played.plan true origin = played.plan true default ∧
      both.holds origin { id := 3, rating := some 1, lastPlayed := some origin } = true ∧
      l.answer {} origin .identity ⟨both, some ⟨.rating, true⟩, some 1⟩ =
        l.answer {} default .identity ⟨both, some ⟨.rating, true⟩, some 1⟩ := by
  intro origin first second played rated both l
  have hboth : both.hasRelativeDates = false := rfl
  refine ⟨hboth, (answer_timeless played rfl origin default).2.1 true, by decide, ?_⟩
  exact ((answer_timeless both hboth origin default).2.2 l {}).2 _ _ .identity .identity rfl

end Library

end MusicQuery
