import MusicQuery.Proofs.Index.Canonical
import MusicQuery.Proofs.Layout
import MusicQuery.Proofs.Library.Selection

namespace MusicQuery.Library

/-- The same but for the stamps of editions and the order of equal values in an index. -/
structure Agrees (a b : Library) : Prop where
  layout : a.shelf.layout = b.shelf.layout
  catalog : a.catalog.Agrees b.catalog
  version : a.version = b.version

variable {l a b : Library}

section Answers

variable (h : l.Sound) (settings : Settings) (now : Instant)
include h

lemma Sound.map_track_select (rule : Rule) :
    (l.select settings now rule).map (·.track) = l.shelf.tracks.filter (rule.holds now) := by
  rw [h.select_eq_filter, Shelf.tracks, List.filter_map]
  rfl

lemma Sound.map_track_answer {shuffle : Shuffle} {q : Query} (hs : q.isRandom = true → shuffle.IsBlind) :
    (l.answer settings now shuffle q).map (·.track) =
      Query.finish shuffle id q.sorting q.limit (l.shelf.tracks.filter (q.rule.holds now)) := by
  rw [answer, Query.map_track_finish hs, ← h.map_track_select settings]

end Answers

lemma Sound.catalog_agrees (ha : a.Sound) (hb : b.Sound) (h : a.shelf.tracks = b.shelf.tracks) :
    a.catalog.Agrees b.catalog := by
  have hheld : (fun id => (a.get? id).map (·.track)) = fun id => (b.get? id).map (·.track) := by
    funext id
    rw [get?, get?, ← Shelf.find?_tracks, ← Shelf.find?_tracks, h]
  have hcatalog := ha.catalog
  rw [hheld] at hcatalog
  exact hcatalog.agrees hb.catalog

lemma Agrees.tracks (h : a.Agrees b) : a.shelf.tracks = b.shelf.tracks := Shelf.tracks_of_layout h.layout

lemma Agrees.map_track_answer (h : a.Agrees b) (ha : a.Sound) (hb : b.Sound) {q : Query} (hr : q.isRandom = false)
    (settings settings' : Settings) (now : Instant) (shuffle shuffle' : Shuffle) :
    (a.answer settings now shuffle q).map (·.track) = (b.answer settings' now shuffle' q).map (·.track) := by
  have hs : ∀ s : Shuffle, q.isRandom = true → s.IsBlind := fun _ ht => absurd ht (Bool.eq_false_iff.mp hr)
  rw [ha.map_track_answer settings now (hs shuffle), hb.map_track_answer settings' now (hs shuffle'), h.tracks]
  exact Query.finish_shuffle hr

end MusicQuery.Library
