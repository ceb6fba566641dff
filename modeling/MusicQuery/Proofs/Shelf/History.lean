import MusicQuery.Proofs.Layout

namespace MusicQuery.Shelf

inductive Call where
  | insert (e : Edition)
  | erase (id : TrackId)
  | clear
deriving DecidableEq

def apply (s : Shelf) : Call → Shelf
  | .insert e => s.insert e
  | .erase id => s.erase id
  | .clear => empty

def run (calls : List Call) : Shelf := calls.foldl apply empty

def held? (es : List Edition) (id : TrackId) : Option Edition := es.find? (·.track.id = id)

def arrive (es : List Edition) : Call → List Edition
  | .insert e =>
    if (held? es e.track.id).isSome then es.map fun d => if d.track.id = e.track.id then e else d else es ++ [e]
  | .erase id => es.filter (·.track.id ≠ id)
  | .clear => []

def arrivals (calls : List Call) : List Edition := calls.foldl arrive []

structure Readings where
  entries : List (Nat × Edition)
  size : Nat
  get? : TrackId → Option Edition
  contains : TrackId → Bool
  position? : TrackId → Option Nat

def readings (s : Shelf) : Readings where
  entries := s.slots.map fun slot => (slot.position, slot.edition)
  size := s.size
  get? := s.get?
  contains := s.contains
  position? := s.position?

/-- Whether one reads a list of editions with distinct ids, in its order and at ascending positions. -/
structure Readings.AreOf (r : Readings) (es : List Edition) : Prop where
  ids : (es.map (·.track.id)).Nodup
  entries : r.entries.map (·.2) = es
  ascend : r.entries.Pairwise fun a b => a.1 < b.1
  size : r.size = es.length
  get? : ∀ id, r.get? id = held? es id
  contains : ∀ id, r.contains id = (held? es id).isSome
  position? : ∀ id position, r.position? id = some position ↔ ∃ e, (position, e) ∈ r.entries ∧ e.track.id = id

variable {s : Shelf} {e : Edition} {id i : TrackId} {position : Nat}

section Arrivals

lemma get?_eq_held? (s : Shelf) (id : TrackId) : s.get? id = held? s.editions id := by
  rw [held?, editions, List.find?_map]
  rfl

lemma editions_apply (s : Shelf) (call : Call) : (s.apply call).editions = arrive s.editions call := by
  cases call with
  | insert e =>
    rw [apply, arrive, ← get?_eq_held?]
    cases hg : s.get? e.track.id with
    | none => exact editions_insert_of_absent hg
    | some old => exact editions_insert_of_get? hg
  | erase id => exact editions_erase s id
  | clear => rfl

lemma WellFormed.apply (h : s.WellFormed) (call : Call) : (s.apply call).WellFormed := by
  cases call with
  | insert e => exact h.insert e
  | erase id => exact h.erase id
  | clear => exact wellFormed_empty

lemma run_snoc (calls : List Call) (call : Call) : run (calls ++ [call]) = (run calls).apply call := by
  rw [run, List.foldl_append]
  rfl

lemma arrivals_snoc (calls : List Call) (call : Call) : arrivals (calls ++ [call]) = arrive (arrivals calls) call := by
  rw [arrivals, List.foldl_append]
  rfl

lemma wellFormed_run (calls : List Call) : (run calls).WellFormed := by
  induction calls using List.reverseRecOn with
  | nil => exact wellFormed_empty
  | append_singleton calls call ih =>
    rw [run_snoc]
    exact ih.apply call

lemma editions_run (calls : List Call) : (run calls).editions = arrivals calls := by
  induction calls using List.reverseRecOn with
  | nil => rfl
  | append_singleton calls call ih => rw [run_snoc, arrivals_snoc, editions_apply, ih]

end Arrivals

section Positions

lemma position?_eq_none_iff : s.position? id = none ↔ s.get? id = none := by
  rw [position?, get?, Option.map_eq_none_iff, Option.map_eq_none_iff]

lemma WellFormed.position?_eq_some_iff (h : s.WellFormed) :
    s.position? id = some position ↔ ∃ slot ∈ s.slots, slot.id = id ∧ slot.position = position := by
  rw [position?, Option.map_eq_some_iff]
  constructor
  · rintro ⟨slot, hslot, rfl⟩
    exact ⟨slot, List.mem_of_find?_eq_some hslot, slot?_id hslot, rfl⟩
  · rintro ⟨slot, hslot, rfl, rfl⟩
    exact ⟨slot, h.slot?_eq_some_iff.mpr hslot, rfl⟩

lemma WellFormed.position_eq_iff (h : s.WellFormed) {a b : Slot} (ha : a ∈ s.slots) (hb : b ∈ s.slots) :
    a.position = b.position ↔ a.id = b.id := by
  have hpositions : (s.slots.map (·.position)).Nodup := List.pairwise_map.mpr (h.positions.imp Nat.ne_of_lt)
  constructor
  · intro heq
    rw [List.inj_on_of_nodup_map hpositions ha hb heq]
  · intro heq
    rw [List.inj_on_of_nodup_map h.ids ha hb heq]

lemma WellFormed.mem_renewed_iff (h : s.WellFormed) {slot : Slot} (hslot : slot ∈ s.slots) (hid : slot.id = e.track.id)
    {x : Slot} :
    x ∈ s.slots.map (renew e) ↔ if x.position = slot.position then x.edition = e else x ∈ s.slots := by
  rw [List.mem_map]
  split
  · next hx =>
    constructor
    · rintro ⟨y, hy, rfl⟩
      rw [renew_position] at hx
      obtain hyid := ((h.position_eq_iff hy hslot).mp hx).trans hid
      rw [renew, if_pos hyid]
    · intro hxe
      refine ⟨slot, hslot, ?_⟩
      rw [renew, if_pos hid, ← hx, ← hxe]
  · next hx =>
    -- Only the slot of the id is renewed, and it is known by its position as well.
    have hother : ∀ y ∈ s.slots, y.position = x.position → renew e y = y := by
      intro y hy hyx
      apply renew_of_ne
      intro hyid
      exact hx (hyx.symm.trans ((h.position_eq_iff hy hslot).mpr (hyid.trans hid.symm)))
    constructor
    · rintro ⟨y, hy, rfl⟩
      rwa [hother y hy (renew_position e y).symm]
    · intro hm
      exact ⟨x, hm, hother x hm rfl⟩

lemma WellFormed.mem_erase_iff (h : s.WellFormed) {slot : Slot} (hslot : slot ∈ s.slots) {x : Slot} :
    x ∈ (s.erase slot.id).slots ↔ x.position ≠ slot.position ∧ x ∈ s.slots := by
  rw [Shelf.erase, List.mem_filter, decide_eq_true_iff, and_comm]
  apply and_congr_left
  intro hm
  exact not_congr (h.position_eq_iff hm hslot).symm

lemma WellFormed.position?_lt (h : s.WellFormed) (hp : s.position? id = some position) : position < s.next := by
  obtain ⟨slot, hslot, -, rfl⟩ := h.position?_eq_some_iff.mp hp
  exact h.next slot hslot

lemma WellFormed.position?_injective (h : s.WellFormed) (hid : s.position? id = some position)
    (hi : s.position? i = some position) : i = id := by
  obtain ⟨a, ha, rfl, rfl⟩ := h.position?_eq_some_iff.mp hid
  obtain ⟨b, hb, rfl, heq⟩ := h.position?_eq_some_iff.mp hi
  exact (h.position_eq_iff hb ha).mp heq

lemma WellFormed.readings_areOf (h : s.WellFormed) : s.readings.AreOf s.editions where
  ids := h.nodup_ids
  entries := List.map_map
  ascend := List.pairwise_map.mpr h.positions
  size := (List.length_map _).symm
  get? := s.get?_eq_held?
  contains id := by
    rw [← get?_eq_held?, get?, Option.isSome_map]
    rfl
  position? id position := by
    refine h.position?_eq_some_iff.trans ?_
    constructor
    · rintro ⟨slot, hslot, hid, rfl⟩
      exact ⟨slot.edition, List.mem_map_of_mem hslot, hid⟩
    · rintro ⟨e, hm, hid⟩
      obtain ⟨slot, hslot, heq⟩ := List.mem_map.mp hm
      cases heq
      exact ⟨slot, hslot, hid, rfl⟩

lemma position?_insert (s : Shelf) (e : Edition) (id : TrackId) :
    (s.insert e).position? id =
      if id = e.track.id ∧ s.get? e.track.id = none then some s.next else s.position? id := by
  cases hg : s.get? e.track.id with
  | none =>
    rw [insert_of_absent hg, position?, slot?, List.find?_append]
    by_cases hid : id = e.track.id
    · have hno : s.slots.find? (·.id = e.track.id) = none := Option.map_eq_none_iff.mp hg
      rw [if_pos ⟨hid, rfl⟩, hid, hno]
      simp [Slot.id]
    · have hne : ¬ e.track.id = id := Ne.symm hid
      simp [hid, hne, Slot.id, position?, slot?]
  | some old =>
    have hp : ((fun slot : Slot => decide (slot.id = id)) ∘ renew e) = fun slot => decide (slot.id = id) := by
      funext slot
      simp only [Function.comp, renew_id]
    have hposition : (fun slot : Slot => slot.position) ∘ renew e = fun slot => slot.position :=
      funext (renew_position e)
    rw [insert_of_get? hg, if_neg (by simp), position?, slot?, List.find?_map, hp, Option.map_map, hposition]
    rfl

lemma position?_erase (s : Shelf) (id i : TrackId) :
    (s.erase id).position? i = if i = id then none else s.position? i := by
  split
  · next hi =>
    rw [position?_eq_none_iff, get?_erase, if_pos hi]
  · next hi =>
    rw [position?, position?, slot?, slot?, erase, List.find?_filter]
    congr 2
    funext slot
    by_cases hs : slot.id = i <;> simp [hs, hi]

end Positions

section Freshness

variable {call : Call} {calls : List Call}

lemma next_le_apply (s : Shelf) (hcall : call ≠ .clear) : s.next ≤ (s.apply call).next := by
  cases call with
  | insert e =>
    rw [apply, insert]
    split
    · exact Nat.le_refl _
    · exact Nat.le_succ _
  | erase id => exact Nat.le_refl _
  | clear => exact (hcall rfl).elim

lemma position?_of_apply (hcall : call ≠ .clear) (h : (s.apply call).position? id = some position)
    (hlt : position < s.next) : s.position? id = some position := by
  cases call with
  | insert e =>
    rw [apply, position?_insert] at h
    split at h
    · exact absurd (Option.some.inj h) (Nat.ne_of_gt hlt)
    · exact h
  | erase i =>
    rw [apply, position?_erase] at h
    split at h
    · cases h
    · exact h
  | clear => exact (hcall rfl).elim

lemma next_le_foldl (s : Shelf) (hcalls : .clear ∉ calls) : s.next ≤ (calls.foldl apply s).next := by
  induction calls generalizing s with
  | nil => exact Nat.le_refl _
  | cons call calls ih =>
    obtain ⟨hcall, hcalls⟩ := not_or.mp (mt List.mem_cons.mpr hcalls)
    exact Nat.le_trans (next_le_apply s (Ne.symm hcall)) (ih (s.apply call) hcalls)

lemma position?_of_foldl (hcalls : .clear ∉ calls) (h : (calls.foldl apply s).position? id = some position)
    (hlt : position < s.next) : s.position? id = some position := by
  induction calls generalizing s with
  | nil => exact h
  | cons call calls ih =>
    obtain ⟨hcall, hcalls⟩ := not_or.mp (mt List.mem_cons.mpr hcalls)
    have hnext := next_le_apply s (Ne.symm hcall)
    exact position?_of_apply (Ne.symm hcall) (ih hcalls h (Nat.lt_of_lt_of_le hlt hnext)) hlt

lemma WellFormed.position?_kept (h : s.WellFormed) {between after : List Call} (hcalls : .clear ∉ between ++ after)
    (hid : s.position? id = some position)
    (hi : ((between ++ after).foldl Shelf.apply s).position? i = some position) :
    i = id ∧ (between.foldl Shelf.apply s).position? id = some position := by
  have hlt := h.position?_lt hid
  -- Who stands there in the end has stood there since the first calls, where the id stands.
  obtain rfl := h.position?_injective hid (position?_of_foldl hcalls hi hlt)
  refine ⟨rfl, ?_⟩
  rw [List.mem_append, not_or] at hcalls
  rw [List.foldl_append] at hi
  exact position?_of_foldl hcalls.2 hi (Nat.lt_of_lt_of_le hlt (next_le_foldl s hcalls.1))

end Freshness

end MusicQuery.Shelf
