import Mathlib.Data.List.Infix

namespace MusicQuery

section Fronts

variable {α : Type} {p : α → Bool} {xs : List α}

lemma takeWhile_eq_filter (h : xs.Pairwise fun a b => p b = true → p a = true) : xs.takeWhile p = xs.filter p := by
  induction xs with
  | nil => rfl
  | cons a xs ih =>
    obtain ⟨ha, hxs⟩ := List.pairwise_cons.mp h
    by_cases hp : p a = true
    · simp [hp, ih hxs]
    · have hnone : xs.filter p = [] := List.filter_eq_nil_iff.mpr fun b hb hpb => hp (ha b hb hpb)
      simp [hp, hnone]

lemma dropWhile_eq_filter (h : xs.Pairwise fun a b => p b = true → p a = true) :
    xs.dropWhile p = xs.filter (!p ·) := by
  induction xs with
  | nil => rfl
  | cons a xs ih =>
    obtain ⟨ha, hxs⟩ := List.pairwise_cons.mp h
    by_cases hp : p a = true
    · simp [hp, ih hxs]
    · have hall : xs.filter (!p ·) = xs := List.filter_eq_self.mpr fun b hb => by
        simpa using fun hpb => hp (ha b hb hpb)
      simp [hp, hall]

end Fronts

namespace Text

lemma not_lt_of_isPrefix {needle text : List Char} (h : needle <+: text) : ¬ text < needle := by
  induction needle generalizing text with
  | nil => exact List.not_lt_nil _
  | cons n ns ih =>
    obtain ⟨rest, rfl⟩ := h
    rw [List.cons_append, List.cons_lt_cons_iff]
    rintro (hlt | ⟨-, hlt⟩)
    · exact Std.lt_irrefl hlt
    · exact ih (List.prefix_append ns rest) hlt

lemma isPrefix_of_lt {needle a b : List Char} (ha : ¬ a < needle) (hab : a < b) (hb : needle <+: b) : needle <+: a := by
  induction needle generalizing a b with
  | nil => exact List.nil_prefix
  | cons n ns ih =>
    obtain ⟨rest, rfl⟩ := hb
    cases a with
    | nil => exact absurd (List.nil_lt_cons n ns) ha
    | cons x xs =>
      rw [List.cons_append, List.cons_lt_cons_iff] at hab
      rw [List.cons_lt_cons_iff] at ha
      rcases hab with hlt | ⟨rfl, hlt⟩
      · exact absurd (Or.inl hlt) ha
      · have hns : ns <+: xs := ih (fun h => ha (Or.inr ⟨rfl, h⟩)) hlt (List.prefix_append ns rest)
        exact (List.prefix_cons_inj x).mpr hns

lemma startBlock_eq_filter {β : Type} {entries : List (List Char × β)}
    (h : entries.Pairwise fun a b => a.1 < b.1) (needle : List Char) :
    (entries.dropWhile fun e => e.1 < needle).takeWhile (fun e => needle.isPrefixOf e.1) =
      entries.filter fun e => needle.isPrefixOf e.1 := by
  have hlow : entries.Pairwise fun a b => decide (b.1 < needle) = true → decide (a.1 < needle) = true :=
    h.imp fun hab hb => decide_eq_true (Std.lt_trans hab (of_decide_eq_true hb))
  rw [dropWhile_eq_filter hlow, takeWhile_eq_filter, List.filter_filter]
  · apply List.filter_congr
    intro e _
    by_cases hp : needle.isPrefixOf e.1 = true
    · simp [hp, not_lt_of_isPrefix (List.isPrefixOf_iff_prefix.mp hp)]
    · simp [hp]
  · refine List.pairwise_filter.mpr (h.imp fun hab ha _ hb => ?_)
    rw [List.isPrefixOf_iff_prefix] at hb ⊢
    exact isPrefix_of_lt (by simpa using ha) hab hb

end Text

end MusicQuery
