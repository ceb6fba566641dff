import Mathlib.Data.List.Nodup
import MusicQuery.Shelf

namespace MusicQuery.Shelf

/-- No id stands twice, and the positions ascend up to the next one. -/
structure WellFormed (s : Shelf) : Prop where
  ids : (s.slots.map Slot.id).Nodup
  positions : s.slots.Pairwise fun a b => a.position < b.position
  next : ∀ slot ∈ s.slots, slot.position < s.next

variable {s : Shelf} {e : Edition} {id : TrackId}

lemma wellFormed_empty : empty.WellFormed := ⟨List.nodup_nil, .nil, by simp [empty]⟩

section Lookup

lemma slot?_id {slot : Slot} (h : s.slot? id = some slot) : slot.id = id := by
  simpa using List.find?_some h

lemma get?_id (h : s.get? id = some e) : e.track.id = id := by
  obtain ⟨slot, hslot, rfl⟩ := Option.map_eq_some_iff.mp h
  exact slot?_id hslot

lemma mem_of_get? (h : s.get? id = some e) : e ∈ s.editions := by
  obtain ⟨slot, hslot, rfl⟩ := Option.map_eq_some_iff.mp h
  exact List.mem_map.mpr ⟨slot, List.mem_of_find?_eq_some hslot, rfl⟩

lemma get?_eq_none_iff : s.get? id = none ↔ ∀ e ∈ s.editions, e.track.id ≠ id := by
  rw [get?, slot?, Option.map_eq_none_iff, List.find?_eq_none, editions, List.forall_mem_map]
  exact forall₂_congr fun slot _ => not_congr decide_eq_true_iff

lemma contains_iff : s.contains id = true ↔ s.get? id ≠ none := by
  rw [contains, get?, ne_eq, Option.map_eq_none_iff, Option.isSome_iff_ne_none]

end Lookup

section WellFormed

variable (h : s.WellFormed)
include h

lemma WellFormed.nodup_ids : (s.editions.map (·.track.id)).Nodup := by
  rw [editions, List.map_map]
  exact h.ids

lemma WellFormed.nodup_slots : s.slots.Nodup := h.ids.of_map _

lemma WellFormed.slot?_eq_some_iff {slot : Slot} : s.slot? slot.id = some slot ↔ slot ∈ s.slots := by
  refine ⟨List.mem_of_find?_eq_some, fun hm => ?_⟩
  cases hs : s.slot? slot.id with
  | none => exact absurd hm fun hm => by simpa using List.find?_eq_none.mp hs slot hm
  | some d => rw [List.inj_on_of_nodup_map h.ids (List.mem_of_find?_eq_some hs) hm (slot?_id hs)]

lemma WellFormed.mem_editions_iff : e ∈ s.editions ↔ s.get? e.track.id = some e := by
  refine ⟨fun hm => ?_, mem_of_get?⟩
  obtain ⟨slot, hslot, rfl⟩ := List.mem_map.mp hm
  exact Option.map_eq_some_iff.mpr ⟨slot, h.slot?_eq_some_iff.mpr hslot, rfl⟩

lemma WellFormed.eq_of_id {d : Edition} (hd : d ∈ s.editions) (he : s.get? id = some e) (hid : d.track.id = id) :
    d = e := by
  subst hid
  exact Option.some.inj ((h.mem_editions_iff.mp hd).symm.trans he)

end WellFormed

section Insert

def renew (e : Edition) (slot : Slot) : Slot := if slot.id = e.track.id then { slot with edition := e } else slot

lemma renew_id (e : Edition) (slot : Slot) : (renew e slot).id = slot.id := by
  rw [renew]
  split
  · next h => exact h.symm
  · rfl

lemma renew_position (e : Edition) (slot : Slot) : (renew e slot).position = slot.position := by
  rw [renew]
  split <;> rfl

lemma insert_of_get? {old : Edition} (h : s.get? e.track.id = some old) :
    s.insert e = { s with slots := s.slots.map (renew e) } := by
  have hc : s.contains e.track.id = true := contains_iff.mpr (by simp [h])
  rw [insert, if_pos hc]
  rfl

lemma insert_of_absent (h : s.get? e.track.id = none) : s.insert e = ⟨s.slots ++ [⟨s.next, e⟩], s.next + 1⟩ := by
  rw [insert, if_neg fun hc => contains_iff.mp hc h]

lemma editions_insert_of_get? {old : Edition} (h : s.get? e.track.id = some old) :
    (s.insert e).editions = s.editions.map fun d => if d.track.id = e.track.id then e else d := by
  rw [insert_of_get? h, editions, editions, List.map_map, List.map_map]
  refine List.map_congr_left fun slot _ => ?_
  by_cases hs : slot.id = e.track.id
  · have hd : slot.edition.track.id = e.track.id := hs
    simp [renew, hs, hd]
  · have hd : ¬ slot.edition.track.id = e.track.id := hs
    simp [renew, hs, hd]

lemma editions_insert_of_absent (h : s.get? e.track.id = none) : (s.insert e).editions = s.editions ++ [e] := by
  rw [insert_of_absent h, editions, List.map_append]
  rfl

lemma get?_insert (s : Shelf) (e : Edition) (id : TrackId) :
    (s.insert e).get? id = if id = e.track.id then some e else s.get? id := by
  cases hg : s.get? e.track.id with
  | none =>
    rw [insert_of_absent hg, get?, slot?, List.find?_append]
    by_cases hid : id = e.track.id
    · subst hid
      have hno : s.slots.find? (·.id = e.track.id) = none := Option.map_eq_none_iff.mp hg
      rw [hno, if_pos rfl]
      simp [Slot.id]
    · have hne : ¬ e.track.id = id := Ne.symm hid
      simp [hid, hne, Slot.id, get?, slot?]
  | some old =>
    have hp : ((fun slot : Slot => decide (slot.id = id)) ∘ renew e) = fun slot => decide (slot.id = id) := by
      funext slot
      simp only [Function.comp, renew_id]
    rw [insert_of_get? hg, get?, slot?, List.find?_map, hp, Option.map_map]
    by_cases hid : id = e.track.id
    · subst hid
      obtain ⟨slot, hslot, -⟩ := Option.map_eq_some_iff.mp hg
      have hf : s.slots.find? (·.id = e.track.id) = some slot := hslot
      simp [hf, renew, slot?_id hslot]
    · rw [if_neg hid, get?, slot?]
      cases hf : s.slots.find? (·.id = id) with
      | none => rfl
      | some slot =>
        have hne : ¬ slot.id = e.track.id := fun hs => hid ((slot?_id hf).symm.trans hs)
        simp [renew, hne]

lemma WellFormed.insert (h : s.WellFormed) (e : Edition) : (s.insert e).WellFormed := by
  cases hg : s.get? e.track.id with
  | none =>
    rw [insert_of_absent hg]
    refine ⟨?_, ?_, ?_⟩
    · rw [List.map_append, List.nodup_append]
      refine ⟨h.ids, List.nodup_singleton _, ?_⟩
      rintro a ha b hb rfl
      obtain ⟨slot, hslot, rfl⟩ := List.mem_map.mp ha
      exact get?_eq_none_iff.mp hg slot.edition (List.mem_map_of_mem hslot) (List.mem_singleton.mp hb)
    · refine List.pairwise_append.mpr ⟨h.positions, List.pairwise_singleton _ _, fun a ha b hb => ?_⟩
      rw [List.mem_singleton.mp hb]
      exact h.next a ha
    · intro slot hslot
      rcases List.mem_append.mp hslot with hm | hm
      · exact Nat.lt_succ_of_lt (h.next slot hm)
      · rw [List.mem_singleton.mp hm]
        exact Nat.lt_succ_self _
  | some old =>
    rw [insert_of_get? hg]
    refine ⟨?_, ?_, ?_⟩
    · have hmap : Slot.id ∘ renew e = Slot.id := funext (renew_id e)
      rw [List.map_map, hmap]
      exact h.ids
    · exact List.pairwise_map.mpr (h.positions.imp fun hab => by rwa [renew_position, renew_position])
    · intro slot hslot
      obtain ⟨d, hd, rfl⟩ := List.mem_map.mp hslot
      rw [renew_position]
      exact h.next d hd

end Insert

section Erase

lemma editions_erase (s : Shelf) (id : TrackId) : (s.erase id).editions = s.editions.filter (·.track.id ≠ id) := by
  rw [erase, editions, editions, List.filter_map]
  rfl

lemma get?_erase (s : Shelf) (id i : TrackId) : (s.erase id).get? i = if i = id then none else s.get? i := by
  split
  · next hi =>
    subst hi
    rw [get?_eq_none_iff, editions_erase]
    exact fun e he => of_decide_eq_true (List.mem_filter.mp he).2
  · next hi =>
    rw [get?, get?, slot?, slot?, erase, List.find?_filter]
    congr 2
    funext slot
    by_cases hs : slot.id = i <;> simp [hs, hi]

lemma WellFormed.erase (h : s.WellFormed) (id : TrackId) : (s.erase id).WellFormed where
  ids := h.ids.sublist (List.filter_sublist.map _)
  positions := h.positions.filter _
  next slot hslot := h.next slot (List.mem_filter.mp hslot).1

end Erase

end MusicQuery.Shelf
