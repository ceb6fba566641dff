import MusicQuery.Proofs.Index.Canonical
import MusicQuery.Proofs.Shelf.History
import MusicQuery.Shelf.Ledger

namespace MusicQuery

namespace Ledger

def readings (l : Ledger) : Shelf.Readings where
  entries := l.entries
  size := l.size
  get? := l.get?
  contains := l.contains
  position? := l.position?

def step (l : Ledger) : Shelf.Call → Option Edition × Ledger
  | .insert e => l.insert e
  | .erase id => l.erase id
  | .clear => (none, {})

def run (calls : List Shelf.Call) : Ledger := calls.foldl (fun l call => (l.step call).2) {}

/-- Whether both maps tell the slots of a shelf. -/
structure Tells (l : Ledger) (s : Shelf) : Prop where
  editions : ∀ position e, l.editions[position]? = some e ↔ ⟨position, e⟩ ∈ s.slots
  positions : ∀ id, l.position? id = s.position? id
  next : l.next = s.next

variable {l : Ledger} {s : Shelf} {e : Edition} {id : TrackId} {position : Nat}

lemma tells_empty : Tells {} .empty where
  editions position e := by simp [Shelf.empty]
  positions id := Std.HashMap.getElem?_empty
  next := rfl

section Reads

variable (h : l.Tells s)
include h

lemma Tells.get?_eq (id : TrackId) : l.get? id = s.get? id := by
  rw [get?, h.positions, Shelf.position?, Shelf.get?]
  cases hslot : s.slot? id with
  | none => rfl
  | some slot => exact (h.editions slot.position slot.edition).mpr (List.mem_of_find?_eq_some hslot)

lemma Tells.contains_eq (id : TrackId) : l.contains id = s.contains id := by
  rw [contains, Std.HashMap.contains_eq_isSome_getElem?, ← position?, h.positions, Shelf.position?, Option.isSome_map]
  rfl

variable (hs : s.WellFormed)
include hs

lemma Tells.entries_eq : l.entries = s.slots.map fun slot => (slot.position, slot.edition) := by
  have hasymm : ∀ a b : Nat × Edition, a.1 < b.1 → ¬ b.1 < a.1 := fun a b hab => Nat.lt_asymm hab
  apply eq_of_pairwise_of_mem_iff hasymm
  · exact Std.TreeMap.ordered_keys_toList.imp fun hab => Nat.compare_eq_lt.mp hab
  · exact List.pairwise_map.mpr hs.positions
  · rintro ⟨position, e⟩
    rw [entries, Std.TreeMap.mem_toList_iff_getElem?_eq_some, h.editions, List.mem_map]
    constructor
    · intro hm
      exact ⟨_, hm, rfl⟩
    · rintro ⟨slot, hm, heq⟩
      cases heq
      exact hm

lemma Tells.size_eq : l.size = s.size := by
  rw [size, ← Std.TreeMap.length_toList, ← entries, h.entries_eq hs, List.length_map, Shelf.size]

lemma Tells.readings_eq : l.readings = s.readings := by
  rw [readings, Shelf.readings, Shelf.Readings.mk.injEq]
  exact ⟨h.entries_eq hs, h.size_eq hs, funext h.get?_eq, funext h.contains_eq, funext h.positions⟩

lemma Tells.inverse (id : TrackId) (position : Nat) :
    l.positions[id]? = some position ↔ ∃ e, l.editions[position]? = some e ∧ e.track.id = id := by
  rw [← position?, h.positions, hs.position?_eq_some_iff]
  constructor
  · rintro ⟨slot, hm, hid, rfl⟩
    exact ⟨slot.edition, (h.editions _ _).mpr hm, hid⟩
  · rintro ⟨e, he, hid⟩
    exact ⟨_, (h.editions _ _).mp he, hid, rfl⟩

end Reads

section Steps

variable (h : l.Tells s) (hs : s.WellFormed)
include h hs

lemma Tells.insert_of_position? (hp : s.position? e.track.id = some position) :
    Tells { l with editions := l.editions.insert position e } (s.insert e) := by
  obtain ⟨slot, hslot, hid, rfl⟩ := hs.position?_eq_some_iff.mp hp
  have hget : s.get? e.track.id = some slot.edition := by
    rw [← hid]
    exact congrArg (Option.map _) (hs.slot?_eq_some_iff.mpr hslot)
  refine ⟨fun position d => ?_, fun i => ?_, ?_⟩
  · rw [Shelf.insert_of_get? hget, hs.mem_renewed_iff hslot hid]
    simp only [Std.TreeMap.getElem?_insert, Nat.compare_eq_eq]
    by_cases hposition : slot.position = position
    · rw [if_pos hposition, if_pos hposition.symm, Option.some_inj]
      exact eq_comm
    · rw [if_neg hposition, if_neg (Ne.symm hposition)]
      exact h.editions position d
  · rw [Shelf.position?_insert, if_neg (by simp [hget])]
    exact h.positions i
  · rw [Shelf.insert_of_get? hget]
    exact h.next

lemma Tells.insert_of_absent (hp : s.position? e.track.id = none) :
    Tells ⟨l.editions.insert l.next e, l.positions.insert e.track.id l.next, l.next + 1⟩ (s.insert e) := by
  have hget : s.get? e.track.id = none := Shelf.position?_eq_none_iff.mp hp
  refine ⟨fun position d => ?_, fun i => ?_, ?_⟩
  · rw [Shelf.insert_of_absent hget, List.mem_append, List.mem_singleton, Slot.mk.injEq, h.next]
    simp only [Std.TreeMap.getElem?_insert, Nat.compare_eq_eq]
    by_cases hposition : s.next = position
    · have hfree : ⟨position, d⟩ ∉ s.slots := fun hm => Nat.ne_of_gt (hs.next _ hm) hposition
      simp [hposition, hfree, eq_comm]
    · simp [hposition, Ne.symm hposition, h.editions]
  · rw [position?, Std.HashMap.getElem?_insert, Shelf.position?_insert, h.next]
    by_cases hi : e.track.id = i
    · simp [hi, ← hget]
    · simp [hi, Ne.symm hi, ← h.positions, position?]
  · rw [Shelf.insert_of_absent hget, h.next]

lemma Tells.erase (hp : s.position? id = some position) :
    Tells ⟨l.editions.erase position, l.positions.erase id, l.next⟩ (s.erase id) := by
  obtain ⟨slot, hslot, rfl, rfl⟩ := hs.position?_eq_some_iff.mp hp
  refine ⟨fun position d => ?_, fun i => ?_, h.next⟩
  · rw [hs.mem_erase_iff hslot, ← h.editions]
    simp only [Std.TreeMap.getElem?_erase, Nat.compare_eq_eq]
    by_cases hposition : slot.position = position
    · simp [hposition]
    · simp [hposition, Ne.symm hposition]
  · rw [position?, Std.HashMap.getElem?_erase, Shelf.position?_erase]
    by_cases hi : slot.id = i
    · simp [hi]
    · simp [hi, Ne.symm hi, ← h.positions, position?]

lemma Tells.step (call : Shelf.Call) : Tells (l.step call).2 (s.apply call) := by
  cases call with
  | insert e =>
    rw [Ledger.step, Ledger.insert, h.positions]
    cases hp : s.position? e.track.id with
    | some position => exact h.insert_of_position? hs hp
    | none => exact h.insert_of_absent hs hp
  | erase id =>
    rw [Ledger.step, Ledger.erase, h.positions, Shelf.apply]
    cases hp : s.position? id with
    | some position => exact h.erase hs hp
    | none =>
      rw [Shelf.erase_of_absent (Shelf.position?_eq_none_iff.mp hp)]
      exact h
  | clear => exact tells_empty

end Steps

section Runs

lemma run_snoc (calls : List Shelf.Call) (call : Shelf.Call) : run (calls ++ [call]) = ((run calls).step call).2 := by
  rw [run, List.foldl_append]
  rfl

lemma tells_run (calls : List Shelf.Call) : (run calls).Tells (Shelf.run calls) := by
  induction calls using List.reverseRecOn with
  | nil => exact tells_empty
  | append_singleton calls call ih =>
    rw [run_snoc, Shelf.run_snoc]
    exact ih.step (Shelf.wellFormed_run calls) call

lemma insert_fst (l : Ledger) (e : Edition) : (l.insert e).1 = l.get? e.track.id := by
  rw [insert, get?]
  cases l.position? e.track.id <;> rfl

lemma erase_fst (l : Ledger) (id : TrackId) : (l.erase id).1 = l.get? id := by
  rw [erase, get?]
  cases l.position? id <;> rfl

lemma erase_of_absent (hp : l.position? id = none) : l.erase id = (none, l) := by
  rw [erase, hp]

/-- A shelf is the list of its editions in the order of their arrival, and so is a ledger: they read alike, a call takes
off what the list holds, and the two maps stay inverse to each other. Until the shelf is cleared, a position is only that
of the track that came to it first, for as long as that track stays. -/
theorem run_refines_arrivals (calls : List Shelf.Call) :
    (Shelf.run calls).readings.AreOf (Shelf.arrivals calls) ∧
    (run calls).readings = (Shelf.run calls).readings ∧
    (∀ id position, (run calls).positions[id]? = some position ↔
      ∃ e : Edition, (run calls).editions[position]? = some e ∧ e.track.id = id) ∧
    (∀ e : Edition, ((run calls).step (.insert e)).1 = Shelf.held? (Shelf.arrivals calls) e.track.id) ∧
    (∀ id, ((run calls).step (.erase id)).1 = Shelf.held? (Shelf.arrivals calls) id) ∧
    (∀ id, Shelf.held? (Shelf.arrivals calls) id = none →
      (Shelf.run calls).erase id = Shelf.run calls ∧ (run calls).step (.erase id) = (none, run calls)) ∧
    ∀ between after, .clear ∉ between ++ after → ∀ id id' position,
      (Shelf.run calls).position? id = some position →
        (Shelf.run (calls ++ (between ++ after))).position? id' = some position →
          id' = id ∧ (Shelf.run (calls ++ between)).position? id = some position := by
  have h := tells_run calls
  have hs := Shelf.wellFormed_run calls
  have hheld : ∀ id, (run calls).get? id = Shelf.held? (Shelf.arrivals calls) id := by
    intro id
    rw [h.get?_eq, Shelf.get?_eq_held?, Shelf.editions_run]
  refine ⟨?_, h.readings_eq hs, h.inverse hs, ?_, ?_, ?_, ?_⟩
  · rw [← Shelf.editions_run]
    exact hs.readings_areOf
  · intro e
    rw [step, insert_fst, hheld]
  · intro id
    rw [step, erase_fst, hheld]
  · intro id habsent
    have hget : (Shelf.run calls).get? id = none := by
      rw [← h.get?_eq, hheld, habsent]
    refine ⟨Shelf.erase_of_absent hget, erase_of_absent ?_⟩
    rw [h.positions, Shelf.position?_eq_none_iff.mpr hget]
  · intro between after hcalls id id' position hid hid'
    rw [Shelf.run, List.foldl_append] at hid' ⊢
    exact hs.position?_kept hcalls hid hid'

theorem run_refines_arrivals_until_cleared :
    let edition (stamp : Nat) (id : TrackId) : Edition := ⟨stamp, { id }⟩
    let calls : List Shelf.Call :=
      [.insert (edition 0 3), .insert (edition 1 1), .insert (edition 2 2), .insert (edition 3 1)]
    let again : List Shelf.Call := [.erase 3, .insert (edition 4 3)]
    (run calls).entries = [(0, edition 0 3), (1, edition 3 1), (2, edition 2 2)] ∧
    ((run calls).step (.insert (edition 5 1))).1 = some (edition 3 1) ∧
    ((run calls).step (.erase 3)).1 = some (edition 0 3) ∧ (run calls).step (.erase 7) = (none, run calls) ∧
    (run (calls ++ again)).entries = [(1, edition 3 1), (2, edition 2 2), (3, edition 4 3)] ∧
    ∀ after, .clear ∉ again ++ after → ∀ id,
      (Shelf.run (calls ++ (again ++ after))).position? id ≠ some 0 := by
  intro edition calls again
  obtain ⟨-, -, -, hinsert, herase, habsent, hkept⟩ := run_refines_arrivals calls
  have hentries : ∀ calls, (run calls).entries = (Shelf.run calls).readings.entries := by
    intro calls
    rw [← (run_refines_arrivals calls).2.1]
    rfl
  refine ⟨?_, hinsert _, herase 3, (habsent 7 rfl).2, ?_, ?_⟩
  · rw [hentries]
    rfl
  · rw [hentries]
    rfl
  · intro after hcalls id hid
    have hthird := (hkept again after hcalls 3 id 0 rfl hid).2
    exact absurd hthird (by decide)

end Runs

end Ledger

end MusicQuery
