import Mathlib.Data.List.Infix
import MusicQuery.Text.Words

namespace MusicQuery.Text

lemma runs_eq_cons (text : List Char) : ∃ rest, runs text = text.takeWhile (!isBlank ·) :: rest := by
  induction text with
  | nil => exact ⟨[], rfl⟩
  | cons c cs ih =>
    obtain ⟨rest, hrest⟩ := ih
    by_cases hc : isBlank c
    · exact ⟨runs cs, by simp [runs, hc]⟩
    · exact ⟨rest, by simp [runs, hc, hrest]⟩

lemma isPrefix_takeWhile {needle text : List Char} (hn : isSingleWord needle = true) :
    needle <+: text.takeWhile (!isBlank ·) ↔ needle <+: text := by
  refine ⟨fun h => h.trans (List.takeWhile_prefix _), fun h => ?_⟩
  obtain ⟨rest, rfl⟩ := h
  rw [List.takeWhile_append_of_pos]
  · exact List.prefix_append _ _
  · intro c hc
    simp only [isSingleWord, Bool.not_eq_true', List.any_eq_false, Bool.not_eq_true] at hn
    simpa using hn c hc

lemma not_isPrefix_blank {needle cs : List Char} {c : Char} (hne : needle ≠ []) (hn : isSingleWord needle = true)
    (hc : isBlank c = true) : ¬ needle <+: c :: cs := by
  intro h
  have ht := (isPrefix_takeWhile hn).mpr h
  simp only [List.takeWhile_cons, hc, Bool.not_true, Bool.false_eq_true, if_false, List.prefix_nil] at ht
  exact hne ht

lemma infix_runs {needle : List Char} (hne : needle ≠ []) (hn : isSingleWord needle = true) (text : List Char) :
    (∃ run ∈ runs text, needle <:+: run) ↔ needle <:+: text := by
  induction text with
  | nil => simp [runs]
  | cons c cs ih =>
    rw [List.infix_cons_iff]
    by_cases hc : isBlank c
    · have hp : ¬ needle <+: c :: cs := not_isPrefix_blank hne hn hc
      simp only [runs, hc, if_true, List.mem_cons, exists_eq_or_imp, List.infix_nil, hne, false_or, ih, hp]
    · -- The first run of the tail grows by the character, the others stay.
      obtain ⟨rest, hrest⟩ := runs_eq_cons cs
      have hp : needle <+: c :: cs.takeWhile (!isBlank ·) ↔ needle <+: c :: cs := by
        have ht : needle <+: (c :: cs).takeWhile _ ↔ needle <+: c :: cs := isPrefix_takeWhile hn
        simpa only [List.takeWhile_cons, hc, Bool.not_false, if_true] using ht
      simp only [hrest, List.mem_cons, exists_eq_or_imp] at ih
      simp only [runs, hc, hrest, Bool.false_eq_true, if_false, List.mem_cons, exists_eq_or_imp, List.infix_cons_iff,
        hp, or_assoc, ih]

lemma infix_words {needle : List Char} (hne : needle ≠ []) (hn : isSingleWord needle = true) (text : List Char) :
    (∃ word ∈ words text, needle <:+: word) ↔ needle <:+: text := by
  rw [← infix_runs hne hn text]
  constructor
  · rintro ⟨word, hw, h⟩
    exact ⟨word, (List.mem_filter.mp hw).1, h⟩
  · rintro ⟨run, hr, h⟩
    refine ⟨run, List.mem_filter.mpr ⟨hr, ?_⟩, h⟩
    cases run with
    | nil => exact absurd (List.infix_nil.mp h) hne
    | cons _ _ => rfl

end MusicQuery.Text
