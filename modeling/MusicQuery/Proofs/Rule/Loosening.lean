import MusicQuery.Proofs.Library.Selection
import MusicQuery.Proofs.Text.Lowercase

namespace MusicQuery

namespace TextRule

def withCase (r : TextRule) (caseSensitive : Bool) : Rule := .text { r with caseSensitive }

/-- Whether the operand has one lowercase form in all values that it can be found in. -/
def isSettled (r : TextRule) : Bool :=
  match r.operator with
  | .contains => !Text.leansBack r.value.toList && !Text.leansAhead r.value.toList
  | .startsWith => !Text.leansAhead r.value.toList
  | _ => true

variable {r : TextRule} {now : Instant} {t : Track}

lemma holdsText_lower_iff (hop : r.operator ∈ [.equals, .contains, .startsWith]) :
    (∀ value, r.operator.holdsText value r.value.toList = true →
      r.operator.holdsText (Text.lower value) (Text.lower r.value.toList) = true) ↔ r.isSettled = true := by
  simp only [List.mem_cons, List.not_mem_nil, or_false] at hop
  rcases hop with h | h | h
  · simp [isSettled, h, Operator.holdsText]
  · simp only [isSettled, h, Operator.holdsText, Text.occursIn_iff, Text.lower_isInfix_iff, Bool.and_eq_true,
      Bool.not_eq_true']
  · simp only [isSettled, h, Operator.holdsText, List.isPrefixOf_iff_prefix, Text.lower_isPrefix_iff,
      Bool.not_eq_true']

lemma holds_withCase (hn : r.negated = false) (hop : r.operator ∈ [.equals, .contains, .startsWith])
    (caseSensitive : Bool) :
    (r.withCase caseSensitive).holds now t = true ↔
      ∃ value, t.text r.field = some value ∧
        if caseSensitive then r.operator.holdsText value.toList r.value.toList = true
        else r.operator.holdsText (Text.lower value.toList) (Text.lower r.value.toList) = true := by
  have hmissing : r.operator.holdsMissing = false := by
    simp only [List.mem_cons, List.not_mem_nil, or_false] at hop
    rcases hop with h | h | h <;> rw [h] <;> rfl
  rw [withCase, Rule.holds, hn, Bool.false_xor, holds]
  cases t.text r.field with
  | none => simp [hmissing]
  | some value => cases caseSensitive <;> simp

end TextRule

lemma Field.kind_of_text {f : Field} {t : Track} {value : String} (h : t.text f = some value) : f.kind = .text := by
  cases f <;> first | rfl | cases h

lemma Field.exists_text {f : Field} (hf : f.kind = .text) (value : String) : ∃ t : Track, t.text f = some value := by
  refine ⟨⟨0, value, value, value, value, value, none, none, none, none, none, none, none⟩, ?_⟩
  cases f <;> first | rfl | cases hf

namespace TextRule

variable {r : TextRule}

lemma holds_loosened_iff (hn : r.negated = false) (hop : r.operator ∈ [.equals, .contains, .startsWith]) :
    (∀ now t, (r.withCase true).holds now t = true → (r.withCase false).holds now t = true) ↔
      (r.field.kind = .text → r.isSettled = true) := by
  simp only [holds_withCase hn hop]
  constructor
  · intro h hf
    refine (holdsText_lower_iff hop).mp fun value hvalue => ?_
    obtain ⟨t, ht⟩ := Field.exists_text hf (String.ofList value)
    obtain ⟨value', ht', hlower⟩ := h default t ⟨_, ht, by simpa using hvalue⟩
    cases ht.symm.trans ht'
    simpa using hlower
  · rintro h now t ⟨value, ht, hvalue⟩
    exact ⟨value, ht, (holdsText_lower_iff hop).mpr (h (Field.kind_of_text ht)) _ hvalue⟩

end TextRule

namespace Library

lemma run_select_sublist_iff (strict loose : Rule) :
    (∀ edits settings now, ((run edits).select settings now strict).Sublist ((run edits).select settings now loose)) ↔
      ∀ now t, strict.holds now t = true → loose.holds now t = true := by
  constructor
  · intro h now t hstrict
    have hsub := h [.insert t] {} now
    have hshelf : (run [.insert t]).shelf.editions = [⟨0, t⟩] := rfl
    rw [(sound_run _).select_eq_filter, (sound_run _).select_eq_filter, hshelf] at hsub
    have hmem := hsub.subset (List.mem_filter.mpr ⟨List.mem_cons_self, hstrict⟩)
    exact (List.mem_filter.mp hmem).2
  · intro h edits settings now
    rw [(sound_run _).select_eq_filter, (sound_run _).select_eq_filter]
    exact List.monotone_filter_right _ fun e he => h now e.track he

/-- A leaf that compares texts loses no track without regard to case, neither one by one nor in what a library selects
by whatever index, exactly if its operand has one lowercase form in all values. An operand of `equals` has. -/
theorem run_select_loosened (r : TextRule) (hn : r.negated = false)
    (hop : r.operator ∈ [.equals, .contains, .startsWith]) :
    ((∀ now t, (r.withCase true).holds now t = true → (r.withCase false).holds now t = true) ↔
      (r.field.kind = .text → r.isSettled = true)) ∧
    ((∀ edits settings now, ((run edits).select settings now (r.withCase true)).Sublist
        ((run edits).select settings now (r.withCase false))) ↔
      (r.field.kind = .text → r.isSettled = true)) := by
  rw [run_select_sublist_iff]
  exact ⟨TextRule.holds_loosened_iff hn hop, TextRule.holds_loosened_iff hn hop⟩

theorem run_select_loosened_within_word :
    let r : TextRule := { field := .artist, operator := .contains, value := "ΣΩΣΤ" }
    r.negated = false ∧ r.operator ∈ [.equals, .contains, .startsWith] ∧ r.isSettled = true ∧
      ∀ edits settings now, ((run edits).select settings now (r.withCase true)).Sublist
        ((run edits).select settings now (r.withCase false)) := by
  intro r
  have hn : r.negated = false := rfl
  have hop : r.operator ∈ [.equals, .contains, .startsWith] := by decide
  have hsettled : r.isSettled = true := by decide +kernel
  exact ⟨hn, hop, hsettled, (run_select_loosened r hn hop).2.mpr fun _ => hsettled⟩

/-- The operand ends in a sigma, which is final in it but not in the value. -/
theorem run_select_loses_final_sigma :
    let r : TextRule := { field := .artist, operator := .contains, value := "ΑΣ" }
    let t : Track := { id := 1, artist := some "ΑΣΑ" }
    (r.withCase true).holds default t = true ∧ (r.withCase false).holds default t = false ∧
      (run [.insert t]).select {} default (r.withCase true) = [⟨0, t⟩] ∧
      (run [.insert t]).select {} default (r.withCase false) = [] := by
  decide +kernel

end Library

end MusicQuery
