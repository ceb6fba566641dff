import Mathlib.Data.List.Forall2
import Mathlib.Data.List.Nodup
import MusicQuery.Live.Update
import MusicQuery.Proofs.Arrangement

namespace MusicQuery

/-- Where a track of a list stands: its id, and what it is compared by. -/
def Edition.rank (sorting : Option Sorting) (e : Edition) : TrackId × Option SortKey :=
  (e.track.id, Sorting.key? sorting e.track)

namespace UpdateContent

def apply (held : List Edition) : UpdateContent → List Edition
  | full tracks => tracks
  | delta added removed => held.filter (·.track.id ∉ removed) ++ added

lemma map_rank_apply {sorting : Option Sorting} {held held' : List Edition}
    (h : held.map (·.rank sorting) = held'.map (·.rank sorting)) (c : UpdateContent) :
    (c.apply held).map (·.rank sorting) = (c.apply held').map (·.rank sorting) := by
  cases c with
  | full tracks => rfl
  | delta added removed =>
    have hfilter : ∀ xs : List Edition, (xs.filter (·.track.id ∉ removed)).map (·.rank sorting) =
        (xs.map (·.rank sorting)).filter (·.1 ∉ removed) := by
      intro xs
      rw [List.filter_map]
      rfl
    rw [apply, apply, List.map_append, List.map_append, hfilter, hfilter, h]

section Between

variable {previous next : List Edition}

lemma any_id_iff {e : Edition} : (next.any (·.track.id = e.track.id)) = true ↔ e.track.id ∈ next.map (·.track.id) := by
  simp only [List.any_eq_true, decide_eq_true_eq, List.mem_map]

lemma length_sub_departed (previous next : List Edition) :
    previous.length - (departed previous next).length = (survivors previous next).length := by
  have h := List.length_eq_countP_add_countP (fun e : Edition => next.any (·.track.id = e.track.id)) (l := previous)
  rw [departed, survivors, List.length_map, ← List.countP_eq_length_filter, ← List.countP_eq_length_filter]
  simp only [Bool.not_eq_true, Bool.decide_eq_false] at h
  omega

lemma between?_eq (previous next : List Edition) :
    between? previous next =
      if ((survivors previous next).zip (next.take (survivors previous next).length)).all
          fun (before, now) => before = now then
        if (next.drop (survivors previous next).length).isEmpty && (departed previous next).isEmpty then none
        else some (delta (next.drop (survivors previous next).length) (departed previous next))
      else some (full next) := by
  rw [← length_sub_departed]
  rfl

lemma length_survivors_le (h : (previous.map (·.track.id)).Nodup) :
    (survivors previous next).length ≤ next.length := by
  have hnodup : ((survivors previous next).map (·.track.id)).Nodup := h.sublist (List.filter_sublist.map _)
  have hsub : (survivors previous next).map (·.track.id) ⊆ next.map (·.track.id) := by
    intro id hid
    obtain ⟨e, he, rfl⟩ := List.mem_map.mp hid
    exact any_id_iff.mp (List.mem_filter.mp he).2
  simpa using (hnodup.subperm hsub).length_le

lemma mem_departed {e : Edition} (he : e ∈ previous) :
    e.track.id ∈ departed previous next ↔ e.track.id ∉ next.map (·.track.id) := by
  simp only [departed, List.mem_map, List.mem_filter]
  constructor
  · rintro ⟨e', ⟨-, hgone⟩, hid⟩ hstay
    rw [← List.mem_map, ← hid, ← any_id_iff] at hstay
    rw [hstay] at hgone
    exact Bool.noConfusion hgone
  · intro hgone
    refine ⟨e, ⟨he, ?_⟩, rfl⟩
    rw [← List.mem_map, ← any_id_iff, Bool.not_eq_true] at hgone
    rw [hgone]
    rfl

lemma filter_departed (previous next : List Edition) :
    previous.filter (·.track.id ∉ departed previous next) = survivors previous next := by
  refine List.filter_congr fun e he => ?_
  rw [Bool.eq_iff_iff, decide_eq_true_iff, mem_departed he, not_not, any_id_iff]

lemma all_zip_iff {xs ys : List Edition} (hl : xs.length = ys.length) :
    ((xs.zip ys).all fun (before, now) => before = now) = true ↔ xs = ys := by
  rw [← List.forall₂_eq_eq_eq, List.forall₂_iff_zip, List.all_eq_true]
  exact ⟨fun h => ⟨hl, fun hm => of_decide_eq_true (h _ hm)⟩, fun h _ hm => decide_eq_true (h.2 hm)⟩

lemma survivors_self (es : List Edition) : survivors es es = es :=
  List.filter_eq_self.mpr fun _ he => any_id_iff.mpr (List.mem_map_of_mem he)

lemma departed_self (es : List Edition) : departed es es = [] := by
  rw [departed, List.map_eq_nil_iff, List.filter_eq_nil_iff]
  intro e he
  rw [any_id_iff.mpr (List.mem_map_of_mem he)]
  exact Bool.false_ne_true

lemma nothing_new_iff (h : survivors previous next <+: next) :
    ((next.drop (survivors previous next).length).isEmpty && (departed previous next).isEmpty) = true ↔
      previous = next := by
  rw [Bool.and_eq_true, List.isEmpty_iff, List.isEmpty_iff]
  constructor
  · rintro ⟨hadded, hremoved⟩
    have hall : survivors previous next = previous := by
      rw [← filter_departed, hremoved]
      exact List.filter_eq_self.mpr fun e _ => decide_eq_true List.not_mem_nil
    have hnext := List.prefix_iff_eq_append.mp h
    rwa [hadded, List.append_nil, hall] at hnext
  · rintro rfl
    rw [survivors_self, departed_self, List.drop_length]
    exact ⟨rfl, rfl⟩

lemma between?_eq_if (h : (previous.map (·.track.id)).Nodup) :
    between? previous next =
      if survivors previous next <+: next then
        if previous = next then none
        else some (delta (next.drop (survivors previous next).length) (departed previous next))
      else some (full next) := by
  have hlength : (survivors previous next).length = (next.take (survivors previous next).length).length := by
    rw [List.length_take, Nat.min_eq_left (length_survivors_le h)]
  rw [between?_eq]
  simp only [all_zip_iff hlength, ← List.prefix_iff_eq_take]
  split
  · next hfront => simp only [nothing_new_iff hfront]
  · rfl

lemma between?_cases (h : (previous.map (·.track.id)).Nodup) :
    (between? previous next = none ∧ previous = next) ∨
      ∃ c, between? previous next = some c ∧ c.apply previous = next := by
  rw [between?_eq_if h]
  split
  · next hfront =>
    split
    · next hsame => exact Or.inl ⟨rfl, hsame⟩
    · refine Or.inr ⟨_, rfl, ?_⟩
      rw [apply, filter_departed]
      exact List.prefix_iff_eq_append.mp hfront
  · exact Or.inr ⟨_, rfl, rfl⟩

end Between

end UpdateContent

end MusicQuery
