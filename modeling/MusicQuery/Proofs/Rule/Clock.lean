import Mathlib.Tactic.Lemma
import MusicQuery.Rule.Match

namespace MusicQuery

variable {now now' : Instant}

lemma Moment.resolve_fixed {m : Moment} (h : m.isRelative = false) : m.resolve now = m.resolve now' := by
  cases m with
  | «at» instant => rfl
  | ago amount unit => cases h

lemma Rule.anyRelative_pair {first second : Option Moment} :
    Rule.anyRelative [first, second] = false ↔
      first.any Moment.isRelative = false ∧ second.any Moment.isRelative = false := by
  simp only [Rule.anyRelative, List.any_cons, List.any_nil, Bool.or_false, Bool.or_eq_false_iff]

lemma Operator.holdsMoment_fixed {operand second : Option Moment}
    (h : Rule.anyRelative [operand, second] = false) (op : Operator) (value : Option Instant) :
    op.holdsMoment now value operand second = op.holdsMoment now' value operand second := by
  obtain ⟨hoperand, hsecond⟩ := Rule.anyRelative_pair.mp h
  have hsame : second.map (·.resolve now) = second.map (·.resolve now') := by
    cases second with
    | none => rfl
    | some m => exact congrArg some (Moment.resolve_fixed hsecond)
  cases value with
  | none => rfl
  | some v =>
    cases operand with
    | none => rfl
    | some m => rw [holdsMoment, holdsMoment, Moment.resolve_fixed hoperand, hsame]

lemma PlayRule.holds_fixed {r : PlayRule} (h : Rule.anyRelative [r.date, r.secondDate] = false) (t : Track) :
    r.holds now t = r.holds now' t := by
  rw [PlayRule.holds, PlayRule.holds, Operator.holdsMoment_fixed h]

lemma FileRule.holds_fixed {r : FileRule} (h : Rule.anyRelative [r.date, r.secondDate] = false) (t : Track) :
    r.holds now t = r.holds now' t := by
  rw [FileRule.holds, FileRule.holds, Operator.holdsMoment_fixed h]

namespace Rule

mutual

theorem holds_fixed (t : Track) : ∀ r : Rule, r.hasRelativeDates = false → r.holds now t = r.holds now' t
  | text _, _ => rfl
  | number _, _ => rfl
  | plays r, h => congrArg (r.negated ^^ ·) (PlayRule.holds_fixed h t)
  | file r, h => congrArg (r.negated ^^ ·) (FileRule.holds_fixed h t)
  | group .and members, h => allHold_fixed t members h
  | group .or members, h => anyHolds_fixed t members h

theorem allHold_fixed (t : Track) :
    ∀ rs : List Rule, someHasRelativeDates rs = false → allHold now t rs = allHold now' t rs
  | [], _ => rfl
  | r :: rs, h => by
    obtain ⟨hr, hrs⟩ := Bool.or_eq_false_iff.mp h
    rw [allHold, allHold, holds_fixed t r hr, allHold_fixed t rs hrs]

theorem anyHolds_fixed (t : Track) :
    ∀ rs : List Rule, someHasRelativeDates rs = false → anyHolds now t rs = anyHolds now' t rs
  | [], _ => rfl
  | r :: rs, h => by
    obtain ⟨hr, hrs⟩ := Bool.or_eq_false_iff.mp h
    rw [anyHolds, anyHolds, holds_fixed t r hr, anyHolds_fixed t rs hrs]

end

end Rule

end MusicQuery
