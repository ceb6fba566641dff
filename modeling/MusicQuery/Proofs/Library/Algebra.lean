import MusicQuery.Proofs.Library.Selection
import MusicQuery.Proofs.Rule.Negation

namespace MusicQuery.Library

variable {l : Library} (h : l.Sound) {settings : Settings} {now : Instant}
include h

lemma Sound.mem_select {rule : Rule} {e : Edition} :
    e ∈ l.select settings now rule ↔ e ∈ l.shelf.editions ∧ rule.holds now e.track = true := by
  rw [h.select_eq_filter, List.mem_filter]

lemma Sound.select_and (rules : List Rule) :
    l.select settings now (.group .and rules) =
      l.shelf.editions.filter fun e => ∀ r ∈ rules, e ∈ l.select settings now r := by
  rw [h.select_eq_filter]
  apply List.filter_congr
  intro e he
  rw [Rule.holds, Rule.allHold_eq_all, Bool.eq_iff_iff, List.all_eq_true, decide_eq_true_iff]
  apply forall₂_congr
  intro r _
  rw [h.mem_select]
  exact (and_iff_right he).symm

lemma Sound.select_or (rules : List Rule) :
    l.select settings now (.group .or rules) =
      l.shelf.editions.filter fun e => ∃ r ∈ rules, e ∈ l.select settings now r := by
  rw [h.select_eq_filter]
  apply List.filter_congr
  intro e he
  rw [Rule.holds, Rule.anyHolds_eq_any, Bool.eq_iff_iff, List.any_eq_true, decide_eq_true_iff]
  apply exists_congr
  intro r
  rw [h.mem_select]
  exact and_congr_right fun _ => (and_iff_right he).symm

lemma Sound.select_negate (rule : Rule) :
    l.select settings now rule.negate =
      l.shelf.editions.filter fun e => e ∉ l.select settings now rule := by
  rw [h.select_eq_filter]
  apply List.filter_congr
  intro e he
  rw [Rule.holds_negate, Bool.eq_iff_iff, decide_eq_true_iff, h.mem_select, Bool.not_eq_true', not_and,
    Bool.not_eq_true]
  exact (imp_iff_right he).symm

omit h in
/-- Whatever index answers a rule, groups and complements of rules select what the sets of their tracks make. -/
theorem run_select_boolean (edits : List Edit) (settings : Settings) (now : Instant) :
    (∀ rules, (run edits).select settings now (.group .and rules) =
      (run edits).shelf.editions.filter fun e => ∀ r ∈ rules, e ∈ (run edits).select settings now r) ∧
    (∀ rules, (run edits).select settings now (.group .or rules) =
      (run edits).shelf.editions.filter fun e => ∃ r ∈ rules, e ∈ (run edits).select settings now r) ∧
    ∀ rule, (run edits).select settings now (Rule.negate rule) =
      (run edits).shelf.editions.filter fun e => e ∉ (run edits).select settings now rule := by
  have h := sound_run edits
  exact ⟨h.select_and, h.select_or, h.select_negate⟩

end MusicQuery.Library
