import MusicQuery.Proofs.AnswerCache
import MusicQuery.Proofs.Rule.Replacement

namespace MusicQuery

namespace Rule

/-- Rules that differ in one operand of a leaf, or in one pair of brackets. -/
inductive Variant : Rule → Rule → Prop
  | text (r : TextRule) {a b : String} : a ≠ b → Variant (text { r with value := a }) (text { r with value := b })
  | value (r : NumberRule) {a b : Binary64} : a ≠ b →
      Variant (number { r with value := a }) (number { r with value := b })
  | secondValue (r : NumberRule) {a b : Option Binary64} : a ≠ b →
      Variant (number { r with secondValue := a }) (number { r with secondValue := b })
  | plays (r : PlayRule) {a b : Option Binary64} : a ≠ b →
      Variant (plays { r with number := a }) (plays { r with number := b })
  | secondPlays (r : PlayRule) {a b : Option Binary64} : a ≠ b →
      Variant (plays { r with secondNumber := a }) (plays { r with secondNumber := b })
  | played (r : PlayRule) {a b : Option Moment} : a ≠ b →
      Variant (plays { r with date := a }) (plays { r with date := b })
  | secondPlayed (r : PlayRule) {a b : Option Moment} : a ≠ b →
      Variant (plays { r with secondDate := a }) (plays { r with secondDate := b })
  | added (r : FileRule) {a b : Option Moment} : a ≠ b →
      Variant (file { r with date := a }) (file { r with date := b })
  | secondAdded (r : FileRule) {a b : Option Moment} : a ≠ b →
      Variant (file { r with secondDate := a }) (file { r with secondDate := b })
  | formats (r : FileRule) {a b : Option (List String)} : a ≠ b →
      Variant (file { r with formats := a }) (file { r with formats := b })
  | alone (junction : Junction) (r : Rule) : Variant r (group junction [r])
  | bracketed (outer inner : Junction) (before members after : List Rule) :
      Variant (group outer (before ++ members ++ after)) (group outer (before ++ group inner members :: after))

lemma ne_group_self (junction : Junction) (r : Rule) : r ≠ group junction [r] := by
  intro heq
  have hsize := congrArg sizeOf heq
  simp only [group.sizeOf_spec, List.cons.sizeOf_spec] at hsize
  omega

lemma append_ne_group_cons (inner : Junction) (members after : List Rule) :
    members ++ after ≠ group inner members :: after := by
  intro heq
  have hlength := congrArg List.length heq
  simp only [List.length_append, List.length_cons] at hlength
  obtain ⟨r, rfl⟩ := List.length_eq_one_iff.mp (by omega : members.length = 1)
  exact ne_group_self inner r (List.cons.inj heq).1

lemma Variant.ne {r s : Rule} (h : Variant r s) : r ≠ s := by
  cases h with
  | alone junction r => exact ne_group_self junction r
  | bracketed outer inner before members after =>
    intro heq
    have hlists := (Rule.group.inj heq).2
    rw [List.append_assoc] at hlists
    exact append_ne_group_cons inner members after (List.append_cancel_left hlists)
  | _ => simpa

end Rule

/-- Queries with one key, whose dates could have been read from a text, have one order, one limit and one rule, whose
outcome no clock changes; rules that only look alike have keys apart. -/
theorem Query.key?_separates {q r : Query} {k l : QueryKey} (hq : q.key? = some k) (hr : r.key? = some l)
    (hdates : q.rule.HasReadableDates) (hdates' : r.rule.HasReadableDates) :
    (k = l → q.sorting = r.sorting ∧ q.limit = r.limit ∧ q.rule = r.rule ∧
      ∀ now now' t, q.rule.holds now t = r.rule.holds now' t) ∧
    (q.rule.Replaced Rule.Variant r.rule → k ≠ l) := by
  have hequal : k = l → q = r := by
    rintro rfl
    exact Query.key?_injective hq hr hdates hdates'
  obtain ⟨hfixed, -⟩ := Query.key?_eq_some hq
  refine ⟨fun h => ?_, fun hvariant h => ?_⟩
  · obtain rfl := hequal h
    exact ⟨rfl, rfl, rfl, fun _ _ t => Rule.holds_fixed t q.rule hfixed⟩
  · exact hvariant.ne (fun _ _ hv => hv.ne) (congrArg Query.rule (hequal h))

section LookAlikes

def Query.AreApart (q r : Query) : Prop := q.key?.isSome ∧ r.key?.isSome ∧ q.key? ≠ r.key?

lemma Query.AreApart.of_keys {q r : Query} (hq : q.key?.isSome) (hr : r.key?.isSome)
    (h : ∀ {k l : QueryKey}, q.key? = some k → r.key? = some l → k ≠ l) : q.AreApart r := by
  obtain ⟨k, hk⟩ := Option.isSome_iff_exists.mp hq
  obtain ⟨l, hl⟩ := Option.isSome_iff_exists.mp hr
  refine ⟨hq, hr, ?_⟩
  rw [hk, hl]
  exact fun heq => h hk hl (Option.some.inj heq)

theorem Query.key?_separates_look_alikes :
    Query.AreApart
      { rule := .group .or [.number { field := .bpm, operator := .equals, value := .zero }] }
      { rule := .group .or [.number { field := .bpm, operator := .equals, value := .negativeZero }] } ∧
    Query.AreApart
      { rule := .plays { field := .rating, operator := .equals, number := some .zero } }
      { rule := .plays { field := .rating, operator := .equals, number := some .zero, secondNumber := some .zero } } ∧
    Query.AreApart
      { rule := .text { field := .title, operator := .equals, value := "\"" } }
      { rule := .text { field := .title, operator := .equals, value := "\\\"" } } ∧
    Query.AreApart
      { rule := .group .and [.group .or [], .group .and []] }
      { rule := .group .and [.group .or [.group .or [], .group .and []]] } := by
  have hzeros : Binary64.zero ≠ .negativeZero := by decide
  have hpresence : none ≠ some Binary64.zero := by decide
  have hquotes : "\"" ≠ "\\\"" := by decide
  have hdates {r : Rule} (h : r.moments = []) : r.HasReadableDates := Rule.hasReadableDates_of_none h
  refine ⟨.of_keys rfl rfl fun hq hr => ?_, .of_keys rfl rfl fun hq hr => ?_, .of_keys rfl rfl fun hq hr => ?_,
    .of_keys rfl rfl fun hq hr => ?_⟩
  · exact (Query.key?_separates hq hr (hdates rfl) (hdates rfl)).2
      (.member .or [] [] (.here (.value ⟨.bpm, .equals, .zero, none, false⟩ hzeros)))
  · exact (Query.key?_separates hq hr (hdates rfl) (hdates rfl)).2
      (.here (.secondPlays ⟨.rating, .equals, some .zero, none, none, none, false⟩ hpresence))
  · exact (Query.key?_separates hq hr (hdates rfl) (hdates rfl)).2
      (.here (.text ⟨.title, .equals, "", false, false⟩ hquotes))
  · exact (Query.key?_separates hq hr (hdates rfl) (hdates rfl)).2
      (.here (.bracketed .and .or [] [_, _] []))

end LookAlikes

end MusicQuery
