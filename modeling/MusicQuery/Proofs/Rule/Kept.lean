import MusicQuery.Proofs.Rule.Json
import MusicQuery.Proofs.Rule.Validation
import MusicQuery.Rule.Match

namespace MusicQuery

lemma filter_isFinite (x : Option Binary64) :
    x.filter Binary64.isFinite = x ∨ x.filter Binary64.isFinite = none := by
  cases x with
  | none => exact Or.inl rfl
  | some x => cases h : x.isFinite <;> simp [Option.filter_some, h]

lemma filter_of_anyNonFinite {x : Option Binary64} (h : x.any (!·.isFinite) = false) :
    x.filter Binary64.isFinite = x := by
  cases x with
  | none => rfl
  | some x => simp_all [Option.filter_some]

lemma Rule.anyNonFinite_pair {x y : Option Binary64} :
    Rule.anyNonFinite [x, y] = false ↔ x.any (!·.isFinite) = false ∧ y.any (!·.isFinite) = false := by
  simp only [Rule.anyNonFinite, List.any_cons, List.any_nil, Bool.or_false, Bool.or_eq_false_iff]

namespace Rule

mutual

theorem kept?_of_finite : ∀ r : Rule, r.hasNonFiniteNumbers = false → r.kept? = some r
  | text _, _ => rfl
  | number r, h => by
    obtain ⟨hvalue, hsecond⟩ := anyNonFinite_pair.mp h
    have hfinite : r.value.isFinite = true := by simpa using hvalue
    simp [kept?, NumberRule.kept?, hfinite, filter_of_anyNonFinite hsecond]
  | plays r, h => by
    obtain ⟨hnumber, hsecond⟩ := anyNonFinite_pair.mp h
    simp [kept?, PlayRule.kept, filter_of_anyNonFinite hnumber, filter_of_anyNonFinite hsecond]
  | file _, _ => rfl
  | group junction members, h => by
    simp [kept?, keptAll?_of_finite members h]

theorem keptAll?_of_finite : ∀ rs : List Rule, someHasNonFiniteNumbers rs = false → keptAll? rs = some rs
  | [], _ => rfl
  | r :: rs, h => by
    obtain ⟨hr, hrs⟩ := Bool.or_eq_false_iff.mp h
    simp [keptAll?, kept?_of_finite r hr, keptAll?_of_finite rs hrs]

end

mutual

theorem hasNonFiniteNumbers_eq_any : ∀ r : Rule, r.hasNonFiniteNumbers = r.numbers.any (!·.isFinite)
  | text _ => rfl
  | number r => by cases h : r.secondValue <;> simp [hasNonFiniteNumbers, anyNonFinite, numbers, h]
  | plays r => by
    cases h : r.number <;> cases h' : r.secondNumber <;> simp [hasNonFiniteNumbers, anyNonFinite, numbers, h, h']
  | file _ => rfl
  | group _ members => someHasNonFiniteNumbers_eq members

theorem someHasNonFiniteNumbers_eq :
    ∀ rs : List Rule, someHasNonFiniteNumbers rs = (allNumbers rs).any (!·.isFinite)
  | [] => rfl
  | r :: rs => by
    rw [someHasNonFiniteNumbers, allNumbers, List.any_append, hasNonFiniteNumbers_eq_any r,
      someHasNonFiniteNumbers_eq rs]

end

lemma hasNonFiniteNumbers_eq_false {r : Rule} (h : ∀ x ∈ r.numbers, x.isFinite = true) :
    r.hasNonFiniteNumbers = false := by
  rw [hasNonFiniteNumbers_eq_any, List.any_eq_false]
  simpa using h

theorem toText_injective {r s : Rule} (hr : r.hasNonFiniteNumbers = false) (hs : s.hasNonFiniteNumbers = false)
    (hdates : r.HasReadableDates) (hdates' : s.HasReadableDates) (h : r.toText = s.toText) : r = s := by
  have hrender : r.toJson.render = s.toJson.render := String.ofList_inj.mp h
  have hkept := congrArg ofJson? (Json.render_injective hrender)
  rw [ofJson?_kept hdates, ofJson?_kept hdates', kept?_of_finite r hr, kept?_of_finite s hs] at hkept
  exact Option.some.inj hkept

end Rule

section Outcome

/-- What becomes of a sound rule that comes back as another: that one is refused for want of an operand, or it is
sound and has the same outcome. -/
def Rule.Succeeds (r s : Rule) : Prop :=
  (∃ e, s.validate = .error e ∧ e.kind = "MissingOperand") ∨
    s.validate = .ok () ∧ ∀ now t, s.holds now t = r.holds now t

lemma Rule.succeeds_self {r : Rule} (h : r.validate = .ok ()) : r.Succeeds r := Or.inr ⟨h, fun _ _ => rfl⟩

lemma Operator.holdsNumber_of_ne {op : Operator} (h : op ≠ .between) (value operand : Binary64)
    (second other : Option Binary64) : op.holdsNumber value operand second = op.holdsNumber value operand other := by
  cases op <;> simp_all [holdsNumber]

lemma NumberRule.succeeds_without_second {r : NumberRule} (hr : r.validate = .ok ()) :
    (Rule.number r).Succeeds (.number { r with secondValue := none }) := by
  obtain ⟨hfield, hrest⟩ := then_eq_ok.mp hr
  obtain ⟨hoperator, -⟩ := then_eq_ok.mp hrest
  by_cases hop : r.operator = .between
  · refine Or.inl ⟨.missingOperand r.field .secondNumber, ?_, rfl⟩
    rw [Rule.validate, NumberRule.validate, then_of_ok hfield, then_of_ok hoperator, if_pos hop]
    rfl
  · refine Or.inr ⟨?_, fun now t => ?_⟩
    · rw [Rule.validate, NumberRule.validate, then_of_ok hfield, then_of_ok hoperator, if_neg hop]
      rfl
    · simp only [Rule.holds, NumberRule.holds, Operator.holdsNumber_of_ne hop _ _ none r.secondValue]

lemma NumberRule.succeeds {r s : NumberRule} (hr : r.validate = .ok ()) (h : r.kept? = some s) :
    (Rule.number r).Succeeds (.number s) := by
  rw [kept?] at h
  split at h
  · obtain rfl := Option.some.inj h
    rcases filter_isFinite r.secondValue with hsecond | hsecond
    · rw [hsecond]
      exact Rule.succeeds_self hr
    · rw [hsecond]
      exact succeeds_without_second hr
  · cases h

lemma PlayRule.succeeds_without_second {r : PlayRule} (hr : r.validate = .ok ()) (hfield : r.field ≠ .lastPlayed) :
    (Rule.plays r).Succeeds (.plays { r with secondNumber := none }) := by
  obtain ⟨hknown, hrest⟩ := then_eq_ok.mp hr
  obtain ⟨hoperator, hoperands⟩ := then_eq_ok.mp hrest
  rw [if_neg hfield] at hoperands
  obtain ⟨hnumber, -⟩ := then_eq_ok.mp hoperands
  by_cases hop : r.operator = .between
  · refine Or.inl ⟨.missingOperand r.field .secondNumber, ?_, rfl⟩
    rw [Rule.validate, PlayRule.validate, then_of_ok hknown, then_of_ok hoperator, if_neg hfield,
      then_of_ok hnumber, if_pos hop]
    rfl
  · refine Or.inr ⟨?_, fun now t => ?_⟩
    · rw [Rule.validate, PlayRule.validate, then_of_ok hknown, then_of_ok hoperator, if_neg hfield,
        then_of_ok hnumber, if_neg hop]
      rfl
    · simp only [Rule.holds, PlayRule.holds, Operator.holdsNumber_of_ne hop _ _ none r.secondNumber]

lemma PlayRule.succeeds {r : PlayRule} (hr : r.validate = .ok ()) : (Rule.plays r).Succeeds (.plays r.kept) := by
  obtain ⟨hfield, hrest⟩ := then_eq_ok.mp hr
  obtain ⟨hoperator, hoperands⟩ := then_eq_ok.mp hrest
  by_cases hplayed : r.field = .lastPlayed
  · refine Or.inr ⟨?_, fun now t => ?_⟩
    · rw [if_pos hplayed] at hoperands
      rw [Rule.validate, PlayRule.validate, kept, then_of_ok hfield, then_of_ok hoperator, if_pos hplayed]
      exact hoperands
    · simp [Rule.holds, PlayRule.holds, kept, hplayed]
  · -- The first number is looked for before the second.
    rcases filter_isFinite r.number with hkept | hkept
    · rcases filter_isFinite r.secondNumber with hkept' | hkept'
      · rw [kept, hkept, hkept']
        exact Rule.succeeds_self hr
      · rw [kept, hkept, hkept']
        exact succeeds_without_second hr hplayed
    · refine Or.inl ⟨.missingOperand r.field .number, ?_, rfl⟩
      rw [Rule.validate, PlayRule.validate, kept, hkept, then_of_ok hfield, then_of_ok hoperator, if_neg hplayed]
      rfl

namespace Rule

def AllSucceed (rs ss : List Rule) : Prop :=
  (∃ e, validateAll ss = .error e ∧ e.kind = "MissingOperand") ∨
    validateAll ss = .ok () ∧
      ∀ now t, allHold now t ss = allHold now t rs ∧ anyHolds now t ss = anyHolds now t rs

mutual

theorem kept?_succeeds : ∀ r s : Rule, r.validate = .ok () → r.kept? = some s → r.Succeeds s
  | text _, _, hv, hs => by
    obtain rfl := Option.some.inj hs
    exact succeeds_self hv
  | number r, s, hv, hs => by
    obtain ⟨n, hn, rfl⟩ := Option.map_eq_some_iff.mp hs
    exact NumberRule.succeeds hv hn
  | plays r, _, hv, hs => by
    obtain rfl := Option.some.inj hs
    exact PlayRule.succeeds hv
  | file _, _, hv, hs => by
    obtain rfl := Option.some.inj hs
    exact succeeds_self hv
  | group junction members, s, hv, hs => by
    obtain ⟨kept, hkept, rfl⟩ := Option.map_eq_some_iff.mp hs
    rcases keptAll?_succeed members kept hv hkept with herror | ⟨hok, hsame⟩
    · exact Or.inl herror
    · refine Or.inr ⟨hok, fun now t => ?_⟩
      cases junction with
      | and => exact (hsame now t).1
      | or => exact (hsame now t).2

theorem keptAll?_succeed :
    ∀ rs ss : List Rule, validateAll rs = .ok () → keptAll? rs = some ss → AllSucceed rs ss
  | [], _, _, hs => by
    obtain rfl := Option.some.inj hs
    exact Or.inr ⟨rfl, fun _ _ => ⟨rfl, rfl⟩⟩
  | r :: rs, _, hv, hs => by
    obtain ⟨hr, hrs⟩ := then_eq_ok.mp hv
    simp only [keptAll?, Option.bind_eq_bind, Option.bind_eq_some_iff, Option.some.injEq] at hs
    obtain ⟨s, hs, ss, hss, rfl⟩ := hs
    rcases kept?_succeeds r s hr hs with ⟨e, herror, hkind⟩ | ⟨hok, hsame⟩
    · exact Or.inl ⟨e, then_of_error herror, hkind⟩
    · rcases keptAll?_succeed rs ss hrs hss with ⟨e, herror, hkind⟩ | ⟨hoks, hsames⟩
      · exact Or.inl ⟨e, (then_of_ok hok).trans herror, hkind⟩
      · refine Or.inr ⟨(then_of_ok hok).trans hoks, fun now t => ?_⟩
        simp [allHold, anyHolds, hsame now t, hsames now t]

end

end Rule

end Outcome

end MusicQuery
