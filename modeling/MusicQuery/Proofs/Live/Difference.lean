import MusicQuery.Proofs.Live.Update

namespace MusicQuery.UpdateContent

section Between

variable {previous next : List Edition} (h : (previous.map (·.track.id)).Nodup)
include h

lemma checkedBetween?_eq (next : List Edition) : checkedBetween? previous next = some (between? previous next) := by
  have hremoved : (departed previous next).length ≤ previous.length := by
    rw [departed, List.length_map]
    exact List.length_filter_le _ _
  have hkept : previous.length - (departed previous next).length ≤ next.length := by
    rw [length_sub_departed]
    exact length_survivors_le h
  simp only [checkedBetween?, if_pos hremoved, split?, if_pos hkept, Option.map_some]
  rfl

lemma between?_eq_none_iff : between? previous next = none ↔ previous = next := by
  rw [between?_eq_if h]
  constructor
  · intro hnone
    split at hnone
    · split at hnone
      · next hsame => exact hsame
      · cases hnone
    · cases hnone
  · rintro rfl
    rw [survivors_self, if_pos List.prefix_rfl, if_pos rfl]

lemma between?_eq_delta_iff {added : List Edition} {removed : List TrackId} :
    between? previous next = some (delta added removed) ↔
      previous ≠ next ∧ next = survivors previous next ++ added ∧ removed = departed previous next := by
  rw [between?_eq_if h]
  constructor
  · intro hdelta
    split at hdelta
    · next hfront =>
      split at hdelta
      · cases hdelta
      · next hne =>
        cases hdelta
        exact ⟨hne, (List.prefix_iff_eq_append.mp hfront).symm, rfl⟩
    · cases hdelta
  · rintro ⟨hne, hnext, rfl⟩
    have hfront : survivors previous next <+: next := ⟨added, hnext.symm⟩
    have hdrop : next.drop (survivors previous next).length = added :=
      List.append_cancel_left ((List.prefix_iff_eq_append.mp hfront).trans hnext)
    rw [if_pos hfront, if_neg hne, hdrop]

lemma between?_eq_full_iff {tracks : List Edition} :
    between? previous next = some (full tracks) ↔ tracks = next ∧ ¬ survivors previous next <+: next := by
  rw [between?_eq_if h]
  constructor
  · intro hfull
    split at hfull
    · split at hfull <;> cases hfull
    · next hfront =>
      cases hfull
      exact ⟨rfl, hfront⟩
  · rintro ⟨rfl, hfront⟩
    rw [if_neg hfront]

end Between

lemma not_mem_ids_of_added {previous next added : List Edition} (h : (next.map (·.track.id)).Nodup)
    (hnext : next = survivors previous next ++ added) {e : Edition} (he : e ∈ added) :
    e.track.id ∉ previous.map (·.track.id) := by
  intro hm
  obtain ⟨d, hd, hid⟩ := List.mem_map.mp hm
  have hmem : e ∈ next := by
    rw [hnext]
    exact List.mem_append_right _ he
  -- A track of the earlier list with this id would have survived, and the id would be in the later list twice.
  have hsurvives : d ∈ survivors previous next := by
    refine List.mem_filter.mpr ⟨hd, any_id_iff.mpr ?_⟩
    rw [hid]
    exact List.mem_map_of_mem hmem
  rw [hnext, List.map_append, List.nodup_append] at h
  exact h.2.2 _ (List.mem_map_of_mem hsurvives) _ (List.mem_map_of_mem he) hid

/-- For lists of distinct ids no cut is out of bounds; there are no news exactly between a list and itself, a delta
exactly if the survivors stand first and the lists differ, and then it leads from the one list to the other; in all
other cases the later list is told in full. -/
theorem between?_classifies (previous next : List Edition) (hp : (previous.map (·.track.id)).Nodup)
    (hn : (next.map (·.track.id)).Nodup) :
    checkedBetween? previous next = some (between? previous next) ∧
    (between? previous next = none ↔ previous = next) ∧
    (∀ added removed, between? previous next = some (delta added removed) ↔
      previous ≠ next ∧ next = survivors previous next ++ added ∧ removed = departed previous next) ∧
    (∀ added removed, between? previous next = some (delta added removed) →
      (∀ e ∈ added, e.track.id ∉ previous.map (·.track.id)) ∧
        previous.filter (·.track.id ∉ removed) ++ added = next) ∧
    ∀ tracks, between? previous next = some (full tracks) ↔
      tracks = next ∧ ¬ survivors previous next <+: next := by
  refine ⟨checkedBetween?_eq hp next, between?_eq_none_iff hp, fun _ _ => between?_eq_delta_iff hp, ?_,
    fun _ => between?_eq_full_iff hp⟩
  intro added removed hdelta
  obtain ⟨-, hnext, rfl⟩ := (between?_eq_delta_iff hp).mp hdelta
  refine ⟨fun e he => not_mem_ids_of_added hn hnext he, ?_⟩
  rw [filter_departed]
  exact hnext.symm

theorem between?_classifies_one_of_two :
    let edition (stamp : Nat) (id : TrackId) : Edition := ⟨stamp, { id }⟩
    let previous := [edition 0 1, edition 1 2]
    (previous.map (·.track.id)).Nodup ∧
      between? previous [edition 1 2, edition 2 3] = some (delta [edition 2 3] [1]) ∧
      between? previous [edition 3 2, edition 2 3] = some (full [edition 3 2, edition 2 3]) ∧
      between? previous [edition 2 3, edition 1 2] = some (full [edition 2 3, edition 1 2]) := by
  intro edition previous
  have hp : (previous.map (·.track.id)).Nodup := by decide
  obtain ⟨-, -, hdelta, -, -⟩ := between?_classifies previous [edition 1 2, edition 2 3] hp (by decide)
  obtain ⟨-, -, -, -, hrenewed⟩ := between?_classifies previous [edition 3 2, edition 2 3] hp (by decide)
  obtain ⟨-, -, -, -, hmoved⟩ := between?_classifies previous [edition 2 3, edition 1 2] hp (by decide)
  exact ⟨hp, (hdelta _ _).mpr ⟨by decide, rfl, rfl⟩, (hrenewed _).mpr ⟨rfl, by decide⟩,
    (hmoved _).mpr ⟨rfl, by decide⟩⟩

end MusicQuery.UpdateContent
