import MusicQuery.Library.Basic
import MusicQuery.Proofs.Index.Catalog
import MusicQuery.Proofs.Shelf

namespace MusicQuery

namespace Shelf

variable {s : Shelf}

lemma WellFormed.mem_tracks_iff (h : s.WellFormed) {t : Track} :
    t ∈ s.tracks ↔ (s.get? t.id).map (·.track) = some t := by
  rw [tracks, List.mem_map, Option.map_eq_some_iff]
  constructor
  · rintro ⟨e, he, rfl⟩
    exact ⟨e, h.mem_editions_iff.mp he, rfl⟩
  · rintro ⟨e, he, rfl⟩
    exact ⟨e, mem_of_get? he, rfl⟩

lemma WellFormed.bind_eq_some_iff {α : Type} (h : s.WellFormed) {id : TrackId} {g : Track → Option α} {a : α} :
    ((s.get? id).map (·.track)).bind g = some a ↔ ∃ t ∈ s.tracks, t.id = id ∧ g t = some a := by
  rw [Option.bind_eq_some_iff]
  constructor
  · rintro ⟨t, ht, ha⟩
    obtain ⟨e, he, rfl⟩ := Option.map_eq_some_iff.mp ht
    exact ⟨e.track, List.mem_map_of_mem (mem_of_get? he), get?_id he, ha⟩
  · rintro ⟨t, ht, rfl, ha⟩
    exact ⟨t, h.mem_tracks_iff.mp ht, ha⟩

lemma find?_tracks (s : Shelf) (id : TrackId) : s.tracks.find? (·.id = id) = (s.get? id).map (·.track) := by
  rw [tracks, editions, List.map_map, List.find?_map, get?, Option.map_map]
  rfl

lemma WellFormed.nodup_track_ids (h : s.WellFormed) : (s.tracks.map (·.id)).Nodup := by
  rw [tracks, List.map_map]
  exact h.nodup_ids

lemma WellFormed.foldl_insert (h : s.WellFormed) (es : List Edition) : (es.foldl Shelf.insert s).WellFormed := by
  induction es generalizing s with
  | nil => exact h
  | cons e es ih => exact ih (h.insert e)

end Shelf

namespace Library

inductive Edit where
  | insert (t : Track)
  | erase (id : TrackId)
  | replaceAll (ts : List Track)

def apply (l : Library) : Edit → Library
  | .insert t => l.insert t
  | .erase id => l.erase id
  | .replaceAll ts => l.replaceAll ts

def run (edits : List Edit) : Library := edits.foldl apply empty

/-- The shelf is in order, and the catalog is made from the tracks on it. -/
structure Sound (l : Library) : Prop where
  shelf : l.shelf.WellFormed
  catalog : l.catalog.Holds fun id => (l.get? id).map (·.track)

/-- The shelf is in order, and every lookup in the catalog tells the tracks on it. -/
structure Served (l : Library) : Prop where
  shelf : l.shelf.WellFormed
  catalog : l.catalog.Serves fun id => (l.get? id).map (·.track)

variable {l : Library}

lemma Sound.served (h : l.Sound) : l.Served := ⟨h.shelf, h.catalog.serves⟩

lemma sound_empty : empty.Sound := ⟨Shelf.wellFormed_empty, Catalog.holds_empty⟩

lemma get?_insert (l : Library) (t : Track) (id : TrackId) :
    (l.insert t).get? id = if id = t.id then some (l.edition t) else l.get? id :=
  Shelf.get?_insert l.shelf (l.edition t) id

lemma erase_of_absent {id : TrackId} (h : l.get? id = none) : l.erase id = l := by
  rw [erase, h]

lemma erase_of_get? {id : TrackId} {e : Edition} (h : l.get? id = some e) :
    l.erase id =
      { l with shelf := l.shelf.erase id, catalog := l.catalog.erase e.track, version := l.version + 1 } := by
  rw [erase, h]

lemma Sound.withdraw (h : l.Sound) (id : TrackId) :
    (withdraw l.catalog (l.get? id)).Holds (Function.update (fun i => (l.get? i).map (·.track)) id none) := by
  cases hg : l.get? id with
  | none =>
    rw [Catalog.update_none (by simp [hg])]
    exact h.catalog
  | some e =>
    have hid : e.track.id = id := Shelf.get?_id hg
    subst hid
    exact h.catalog.erase (by simp [hg])

lemma Sound.insert (h : l.Sound) (t : Track) : (l.insert t).Sound where
  shelf := h.shelf.insert (l.edition t)
  catalog := by
    have hheld : (fun id => ((l.insert t).get? id).map (·.track)) =
        Function.update (Function.update (fun i => (l.get? i).map (·.track)) t.id none) t.id (some t) := by
      funext id
      rw [get?_insert]
      by_cases hid : id = t.id
      · subst hid
        simp [edition]
      · simp [hid]
    rw [hheld]
    exact (h.withdraw t.id).insert (by simp)

lemma Sound.erase (h : l.Sound) (id : TrackId) : (l.erase id).Sound := by
  cases hg : l.get? id with
  | none => rwa [erase_of_absent hg]
  | some e =>
    rw [erase_of_get? hg]
    refine ⟨h.shelf.erase id, ?_⟩
    have hheld : (fun i => ((l.shelf.erase id).get? i).map (·.track)) =
        Function.update (fun i => (l.get? i).map (·.track)) id none := by
      funext i
      rw [Shelf.get?_erase]
      by_cases hi : i = id
      · simp [hi]
      · simp [hi, get?]
    have hw := h.withdraw id
    rw [hg] at hw
    show (l.catalog.erase e.track).Holds fun i => ((l.shelf.erase id).get? i).map (·.track)
    rw [hheld]
    exact hw

lemma Sound.replaceAll (l : Library) (ts : List Track) : (l.replaceAll ts).Sound where
  shelf := Shelf.wellFormed_empty.foldl_insert _
  catalog := by
    have hshelf := Shelf.wellFormed_empty.foldl_insert (stampAll l.stamps ts)
    have hc := Catalog.holds_empty.insertAll hshelf.nodup_track_ids fun _ _ => rfl
    simp only [Option.or_none, Shelf.find?_tracks] at hc
    exact hc

lemma Sound.apply (h : l.Sound) (edit : Edit) : (l.apply edit).Sound := by
  cases edit with
  | insert t => exact h.insert t
  | erase id => exact h.erase id
  | replaceAll ts => exact Sound.replaceAll l ts

lemma sound_run (edits : List Edit) : (run edits).Sound := by
  suffices h : ∀ l : Library, l.Sound → (edits.foldl Library.apply l).Sound from h empty sound_empty
  induction edits with
  | nil => exact fun _ hl => hl
  | cons edit edits ih => exact fun l hl => ih (l.apply edit) (hl.apply edit)

end Library

end MusicQuery
