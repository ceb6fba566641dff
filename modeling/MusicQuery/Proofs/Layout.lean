import Mathlib.Data.List.Induction
import MusicQuery.Proofs.Shelf

namespace MusicQuery.Shelf

variable {s s' : Shelf} {d e : Edition} {id i : TrackId}

/-- The tracks with their positions, and the position of the next arrival. -/
def layout (s : Shelf) : List (Nat × Track) × Nat :=
  (s.slots.map fun slot => (slot.position, slot.edition.track), s.next)

lemma tracks_eq_layout (s : Shelf) : s.tracks = s.layout.1.map (·.2) := by
  rw [tracks, editions, layout, List.map_map, List.map_map]
  rfl

lemma tracks_of_layout (h : s.layout = s'.layout) : s.tracks = s'.tracks := by
  rw [tracks_eq_layout, tracks_eq_layout, h]

section Layout

lemma contains_eq_any (s : Shelf) (id : TrackId) : s.contains id = s.layout.1.any (·.2.id = id) := by
  rw [contains, slot?, List.isSome_find?, layout, List.any_map]
  rfl

lemma layout_insert (s : Shelf) (e : Edition) :
    (s.insert e).layout =
      if s.layout.1.any (·.2.id = e.track.id) then
        (s.layout.1.map fun p => if p.2.id = e.track.id then (p.1, e.track) else p, s.layout.2)
      else (s.layout.1 ++ [(s.layout.2, e.track)], s.layout.2 + 1) := by
  rw [insert, contains_eq_any]
  split
  · refine Prod.ext ?_ rfl
    rw [layout, layout, List.map_map, List.map_map]
    apply List.map_congr_left
    intro slot _
    by_cases hs : slot.edition.track.id = e.track.id <;> simp [Slot.id, hs]
  · exact Prod.ext List.map_append rfl

lemma layout_insert_congr (h : s.layout = s'.layout) (hde : d.track = e.track) :
    (s.insert d).layout = (s'.insert e).layout := by
  rw [layout_insert, layout_insert, h, hde]

end Layout

section Commute

lemma renew_of_ne {slot : Slot} (h : slot.id ≠ e.track.id) : renew e slot = slot := if_neg h

lemma renew_comm (h : d.track.id ≠ e.track.id) (slot : Slot) : renew d (renew e slot) = renew e (renew d slot) := by
  by_cases hd : slot.id = d.track.id
  · have he : slot.id ≠ e.track.id := fun he => h (hd.symm.trans he)
    have he' : (renew d slot).id ≠ e.track.id := by rwa [renew_id]
    rw [renew_of_ne he, renew_of_ne he']
  · have hd' : (renew e slot).id ≠ d.track.id := by rwa [renew_id]
    rw [renew_of_ne hd, renew_of_ne hd']

lemma insert_comm_of_get? {old : Edition} (hde : d.track.id ≠ e.track.id) (hd : s.get? d.track.id = some old) :
    (s.insert d).insert e = (s.insert e).insert d := by
  have hd' : (s.insert e).get? d.track.id = some old := by
    rw [get?_insert, if_neg hde, hd]
  have he : (s.insert d).get? e.track.id = s.get? e.track.id := by
    rw [get?_insert, if_neg (Ne.symm hde)]
  rw [insert_of_get? hd']
  cases hg : s.get? e.track.id with
  | none =>
    rw [insert_of_absent (he.trans hg), insert_of_absent hg, insert_of_get? hd, List.map_append, List.map_singleton,
      renew_of_ne (Ne.symm hde : (⟨s.next, e⟩ : Slot).id ≠ d.track.id)]
  | some other =>
    rw [insert_of_get? (he.trans hg), insert_of_get? hg, insert_of_get? hd, List.map_map, List.map_map]
    congr 1
    apply List.map_congr_left
    intro slot _
    exact (renew_comm hde slot).symm

lemma insert_comm (hde : d.track.id ≠ e.track.id) (h : ¬ (s.get? d.track.id = none ∧ s.get? e.track.id = none)) :
    (s.insert d).insert e = (s.insert e).insert d := by
  cases hd : s.get? d.track.id with
  | some old => exact insert_comm_of_get? hde hd
  | none =>
    cases he : s.get? e.track.id with
    | some old => exact (insert_comm_of_get? (Ne.symm hde) he).symm
    | none => exact (h ⟨hd, he⟩).elim

lemma erase_insert_comm (h : e.track.id ≠ id) : (s.insert e).erase id = (s.erase id).insert e := by
  have he : (s.erase id).get? e.track.id = s.get? e.track.id := by
    rw [get?_erase, if_neg h]
  cases hg : s.get? e.track.id with
  | none =>
    rw [insert_of_absent hg, insert_of_absent (he.trans hg), erase, erase, List.filter_append]
    congr 2
    exact List.filter_cons_of_pos (decide_eq_true h)
  | some old =>
    rw [insert_of_get? hg, insert_of_get? (he.trans hg), erase, erase, List.filter_map]
    congr 2
    apply List.filter_congr
    intro slot _
    rw [Function.comp, renew_id]

lemma erase_comm (s : Shelf) (id i : TrackId) : (s.erase id).erase i = (s.erase i).erase id := by
  rw [erase, erase, erase, erase, List.filter_filter, List.filter_filter]
  congr 1
  apply List.filter_congr
  intro slot _
  exact Bool.and_comm _ _

lemma erase_of_absent (h : s.get? id = none) : s.erase id = s := by
  rw [erase]
  congr 1
  apply List.filter_eq_self.mpr
  intro slot hslot
  exact decide_eq_true (get?_eq_none_iff.mp h slot.edition (List.mem_map_of_mem hslot))

end Commute

section Fold

lemma eraseDups_concat {α : Type} [DecidableEq α] (xs : List α) (a : α) :
    (xs ++ [a]).eraseDups = if a ∈ xs then xs.eraseDups else xs.eraseDups ++ [a] := by
  rw [List.eraseDups_append]
  by_cases h : a ∈ xs <;> simp [List.removeAll, List.eraseDups_cons, h]

lemma get?_foldl_insert (es : List Edition) (id : TrackId) :
    (es.foldl insert empty).get? id = es.reverse.find? (·.track.id = id) := by
  induction es using List.reverseRecOn with
  | nil => rfl
  | append_singleton es e ih =>
    rw [List.foldl_append, List.foldl_cons, List.foldl_nil, get?_insert, ih, List.reverse_append]
    by_cases h : id = e.track.id
    · simp [h]
    · simp [h, Ne.symm h]

lemma ids_foldl_insert (es : List Edition) :
    (es.foldl insert empty).slots.map Slot.id = (es.map (·.track.id)).eraseDups := by
  induction es using List.reverseRecOn with
  | nil => rfl
  | append_singleton es e ih =>
    rw [List.foldl_append, List.foldl_cons, List.foldl_nil, List.map_append, List.map_singleton, eraseDups_concat,
      ← ih]
    cases hg : (es.foldl insert empty).get? e.track.id with
    | none =>
      have hnew : e.track.id ∉ es.map (·.track.id) := by
        rw [get?_foldl_insert, List.find?_eq_none] at hg
        simpa using hg
      rw [insert_of_absent hg, if_neg hnew, List.map_append]
      rfl
    | some old =>
      have hheld : e.track.id ∈ es.map (·.track.id) := by
        rw [get?_foldl_insert] at hg
        have hold := List.mem_reverse.mp (List.mem_of_find?_eq_some hg)
        have hid := List.find?_some hg
        exact List.mem_map.mpr ⟨old, hold, of_decide_eq_true hid⟩
      rw [insert_of_get? hg, if_pos hheld, List.map_map]
      apply List.map_congr_left
      intro slot _
      exact renew_id e slot

lemma positions_foldl_insert (es : List Edition) :
    (es.foldl insert empty).slots.map (·.position) = List.range (es.foldl insert empty).next := by
  induction es using List.reverseRecOn with
  | nil => rfl
  | append_singleton es e ih =>
    rw [List.foldl_append, List.foldl_cons, List.foldl_nil]
    cases hg : (es.foldl insert empty).get? e.track.id with
    | none =>
      rw [insert_of_absent hg, List.range_succ, ← ih, List.map_append]
      rfl
    | some old =>
      rw [insert_of_get? hg, List.map_map, ← ih]
      apply List.map_congr_left
      intro slot _
      exact renew_position e slot

lemma editions_foldl_insert {es : List Edition} (h : ((s.editions ++ es).map (·.track.id)).Nodup) :
    (es.foldl insert s).editions = s.editions ++ es := by
  induction es generalizing s with
  | nil => exact (List.append_nil _).symm
  | cons e es ih =>
    have hnew : s.get? e.track.id = none := by
      rw [get?_eq_none_iff]
      intro d hd hid
      rw [List.map_append, List.nodup_append] at h
      exact h.2.2 _ (List.mem_map_of_mem hd) _ (List.mem_map_of_mem List.mem_cons_self) hid
    have heditions : (s.insert e).editions = s.editions ++ [e] := editions_insert_of_absent hnew
    rw [List.foldl_cons, ih, heditions, List.append_assoc, List.singleton_append]
    rwa [heditions, List.append_assoc, List.singleton_append]

end Fold

end MusicQuery.Shelf
