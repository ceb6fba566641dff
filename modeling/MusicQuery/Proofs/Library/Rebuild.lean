import MusicQuery.Proofs.Library.Agreement

namespace MusicQuery.Library

lemma map_track_stampAll (n : Nat) (ts : List Track) : (stampAll n ts).map (·.track) = ts := by
  induction ts generalizing n with
  | nil => rfl
  | cons t ts ih => exact congrArg (t :: ·) (ih (n + 1))

lemma map_id_stampAll (n : Nat) (ts : List Track) : (stampAll n ts).map (·.track.id) = ts.map (·.id) := by
  conv_rhs => rw [← map_track_stampAll n ts, List.map_map]
  rfl

lemma layout_stampAll {s s' : Shelf} (h : s.layout = s'.layout) (n m : Nat) (ts : List Track) :
    ((stampAll n ts).foldl Shelf.insert s).layout = ((stampAll m ts).foldl Shelf.insert s').layout := by
  induction ts generalizing s s' n m with
  | nil => exact h
  | cons t ts ih =>
    rw [stampAll, stampAll, List.foldl_cons, List.foldl_cons]
    apply ih
    exact Shelf.layout_insert_congr h rfl

lemma shelf_inserts (l : Library) (ts : List Track) :
    ((ts.map Edit.insert).foldl apply l).shelf = (stampAll l.stamps ts).foldl Shelf.insert l.shelf := by
  induction ts generalizing l with
  | nil => rfl
  | cons t ts ih => exact ih (l.insert t)

section Bulk

variable (l : Library) (ts : List Track)

lemma layout_replaceAll : (l.replaceAll ts).shelf.layout = (run (ts.map .insert)).shelf.layout := by
  rw [run, shelf_inserts]
  exact layout_stampAll rfl _ _ ts

lemma ids_replaceAll : (l.replaceAll ts).shelf.slots.map Slot.id = (ts.map (·.id)).eraseDups := by
  rw [← map_id_stampAll l.stamps]
  exact Shelf.ids_foldl_insert _

lemma positions_replaceAll :
    (l.replaceAll ts).shelf.slots.map (·.position) = List.range (l.replaceAll ts).size := by
  have hpositions := Shelf.positions_foldl_insert (stampAll l.stamps ts)
  have hlength := congrArg List.length hpositions
  rw [List.length_map, List.length_range] at hlength
  rw [size, Shelf.size, replaceAll, hpositions, hlength]

lemma get?_replaceAll (id : TrackId) :
    ((l.replaceAll ts).get? id).map (·.track) = ts.reverse.find? (·.id = id) := by
  have hget : (l.replaceAll ts).get? id = _ := Shelf.get?_foldl_insert (stampAll l.stamps ts) id
  conv_rhs => rw [← map_track_stampAll l.stamps ts, ← List.map_reverse, List.find?_map]
  rw [hget]
  rfl

end Bulk

lemma Sound.tracks_replaceAll {l : Library} (h : l.Sound) :
    (l.replaceAll l.shelf.tracks).shelf.tracks = l.shelf.tracks := by
  have hids : ((Shelf.empty.editions ++ stampAll l.stamps l.shelf.tracks).map (·.track.id)).Nodup := by
    have hempty : Shelf.empty.editions = [] := rfl
    rw [hempty, List.nil_append, map_id_stampAll]
    exact h.shelf.nodup_track_ids
  rw [Library.replaceAll, Shelf.tracks, Shelf.editions_foldl_insert hids]
  exact map_track_stampAll _ _

/-- Whatever a library held before, filling it at one stroke puts the tracks on the shelf as one after the other would
in an empty library: each id where it came first, in its last version. The indexes are the same, and so is every
selection. Filling it with its own tracks changes no order, no index and no answer. -/
theorem run_replaceAll (edits : List Edit) (ts : List Track) :
    let l := run edits
    let bulk := l.replaceAll ts
    let single := run (ts.map .insert)
    let again := l.replaceAll l.shelf.tracks
    (bulk.shelf.layout = single.shelf.layout ∧
      bulk.shelf.slots.map (·.id) = (ts.map (·.id)).eraseDups ∧
      bulk.shelf.slots.map (·.position) = List.range bulk.size ∧
      (∀ id, (bulk.get? id).map (·.track) = ts.reverse.find? (·.id = id)) ∧
      bulk.catalog.Agrees single.catalog ∧
      ∀ settings now rule,
        (bulk.select settings now rule).map (·.track) = (single.select settings now rule).map (·.track)) ∧
    again.shelf.tracks = l.shelf.tracks ∧
      again.catalog.Agrees l.catalog ∧
      ∀ settings now shuffle q, (q.isRandom = true → shuffle.IsBlind) →
        (again.answer settings now shuffle q).map (·.track) = (l.answer settings now shuffle q).map (·.track) := by
  intro l bulk single again
  have hl : l.Sound := sound_run edits
  have hbulk : bulk.Sound := .replaceAll l ts
  have hsingle : single.Sound := sound_run _
  have hagain : again.Sound := .replaceAll l l.shelf.tracks
  have hlayout : bulk.shelf.layout = single.shelf.layout := layout_replaceAll l ts
  have htracks : bulk.shelf.tracks = single.shelf.tracks := Shelf.tracks_of_layout hlayout
  have hsame : again.shelf.tracks = l.shelf.tracks := hl.tracks_replaceAll
  refine ⟨⟨hlayout, ids_replaceAll l ts, positions_replaceAll l ts, get?_replaceAll l ts,
    hbulk.catalog_agrees hsingle htracks, ?_⟩, hsame, hagain.catalog_agrees hl hsame, ?_⟩
  · intro settings now rule
    rw [hbulk.map_track_select, hsingle.map_track_select, htracks]
  · intro settings now shuffle q hs
    rw [hagain.map_track_answer settings now hs, hl.map_track_answer settings now hs, hsame]

theorem run_replaceAll_reversed :
    let edits := [Edit.insert { id := 1 }, .insert { id := 2, rating := some 5 }, .insert { id := 3 }, .erase 1,
      .insert { id := 4, rating := some 5 }]
    let query : Query := ⟨.group .and [], some ⟨.random, true⟩, some 2⟩
    let shuffle : Shuffle := ⟨List.reverse, List.reverse_perm⟩
    (query.isRandom = true → shuffle.IsBlind) ∧
      (((run edits).replaceAll (run edits).shelf.tracks).answer {} default shuffle query).map (·.track) =
        ((run edits).answer {} default shuffle query).map (·.track) := by
  intro edits query shuffle
  have hs : query.isRandom = true → shuffle.IsBlind := fun _ _ _ _ _ => List.map_reverse
  exact ⟨hs, (run_replaceAll edits []).2.2.2 {} default shuffle query hs⟩

end MusicQuery.Library
