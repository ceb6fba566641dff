import MusicQuery.Proofs.Library.Audit
import MusicQuery.Proofs.Library.History

namespace MusicQuery

/-- Each lowercase text leads to exactly the tracks that carry it, and so does each word. -/
structure InvertedIndex.IsImage (ix : InvertedIndex) (text : Track → Option String) (ts : List Track) : Prop where
  values : ix.values.Holds fun term id => ∃ t ∈ ts, t.id = id ∧ (text t).map normalize = some term
  words : ix.words.Holds fun word id => ∃ t ∈ ts, t.id = id ∧ ∃ s ∈ text t, word ∈ Text.words (normalize s)

/-- The entries ascend, one for each track that has a value. -/
structure SortedIndex.IsImage {α : Type} [LE α] (ix : SortedIndex α) (value : Track → Option α) (ts : List Track) :
    Prop where
  sorted : ix.entries.Pairwise fun a b => a.1 ≤ b.1
  perm : ix.entries.Perm (ts.filterMap fun t => (value t).map fun v => (v, t.id))

structure Library.IsIndexed (l : Library) : Prop where
  texts : ∀ f, f.isTextIndexed = true →
    ∃ ix, l.catalog.texts.get? f = some ix ∧ ix.IsImage (·.text f) l.shelf.tracks
  numbers : ∀ f, f.kind = .number →
    ∃ ix, l.catalog.numbers.get? f = some ix ∧ ix.IsImage (·.key f) l.shelf.tracks
  dates : ∀ f, f.kind = .date →
    ∃ ix, l.catalog.dates.get? f = some ix ∧ ix.IsImage (·.date f) l.shelf.tracks

namespace Shelf

variable {s : Shelf} (hs : s.WellFormed)
include hs

lemma WellFormed.exists_text_iff {text : Track → Option String} {term : List Char} {id : TrackId} :
    (∃ a, ((s.get? id).map (·.track)).bind text = some a ∧ InvertedIndex.normalize a = term) ↔
      ∃ t ∈ s.tracks, t.id = id ∧ (text t).map InvertedIndex.normalize = some term := by
  simp only [hs.bind_eq_some_iff, Option.map_eq_some_iff]
  constructor
  · rintro ⟨a, ⟨t, ht, hid, ha⟩, hterm⟩
    exact ⟨t, ht, hid, a, ha, hterm⟩
  · rintro ⟨t, ht, hid, a, ha, hterm⟩
    exact ⟨a, ⟨t, ht, hid, ha⟩, hterm⟩

lemma WellFormed.exists_word_iff {text : Track → Option String} {word : List Char} {id : TrackId} :
    (∃ a, ((s.get? id).map (·.track)).bind text = some a ∧ word ∈ Text.words (InvertedIndex.normalize a)) ↔
      ∃ t ∈ s.tracks, t.id = id ∧ ∃ a ∈ text t, word ∈ Text.words (InvertedIndex.normalize a) := by
  simp only [hs.bind_eq_some_iff, Option.mem_def]
  constructor
  · rintro ⟨a, ⟨t, ht, hid, ha⟩, hw⟩
    exact ⟨t, ht, hid, a, ha, hw⟩
  · rintro ⟨t, ht, hid, a, ha, hw⟩
    exact ⟨a, ⟨t, ht, hid, ha⟩, hw⟩

lemma WellFormed.text_isImage {ix : InvertedIndex} {text : Track → Option String}
    (h : ix.Holds fun id => ((s.get? id).map (·.track)).bind text) : ix.IsImage text s.tracks :=
  ⟨h.values.congr fun _ _ => hs.exists_text_iff, h.words.congr fun _ _ => hs.exists_word_iff⟩

lemma WellFormed.value_ids {α : Type} (value : Track → Option α) :
    ((s.tracks.filterMap fun t => (value t).map fun v => (v, t.id)).map (·.2)).Nodup := by
  refine hs.nodup_track_ids.sublist ?_
  generalize s.tracks = ts
  induction ts with
  | nil => exact .slnil
  | cons t ts ih =>
    cases hv : value t with
    | none => simpa [hv] using ih.cons t.id
    | some v => simpa [hv] using ih.cons_cons t.id

lemma WellFormed.value_isImage_iff {α : Type} [LE α] {ix : SortedIndex α} {value : Track → Option α} :
    (ix.Holds fun id => ((s.get? id).map (·.track)).bind value) ↔ ix.IsImage value s.tracks := by
  have himage : ∀ v id, (v, id) ∈ (s.tracks.filterMap fun t => (value t).map fun v => (v, t.id)) ↔
      ((s.get? id).map (·.track)).bind value = some v := by
    intro v id
    rw [hs.bind_eq_some_iff, List.mem_filterMap]
    constructor
    · rintro ⟨t, ht, hm⟩
      obtain ⟨a, ha, he⟩ := Option.map_eq_some_iff.mp hm
      cases he
      exact ⟨t, ht, rfl, ha⟩
    · rintro ⟨t, ht, rfl, hv⟩
      exact ⟨t, ht, by rw [hv]; rfl⟩
  constructor
  · intro h
    refine ⟨h.sorted, (List.perm_ext_iff_of_nodup (h.nodup.of_map _) ((hs.value_ids value).of_map _)).mpr ?_⟩
    rintro ⟨v, id⟩
    rw [h.mem, himage]
  · intro h
    refine ⟨h.sorted, (h.perm.map _).nodup_iff.mpr (hs.value_ids value), fun v id => ?_⟩
    rw [h.perm.mem_iff, himage]

end Shelf

lemma SortedIndex.IsImage.length {α : Type} [LE α] {ix : SortedIndex α} {value : Track → Option α} {ts : List Track}
    (h : ix.IsImage value ts) : ix.entries.length = ts.countP fun t => (value t).isSome := by
  rw [h.perm.length_eq, List.length_filterMap_eq_countP]
  simp only [Option.isSome_map]

namespace Library

variable {l : Library}

lemma Sound.isIndexed (h : l.Sound) : l.IsIndexed where
  texts f hf := by
    obtain ⟨ix, hix⟩ := Option.isSome_iff_exists.mp ((l.catalog.texts.isSome_get? f).trans hf)
    exact ⟨ix, hix, h.shelf.text_isImage (h.catalog.texts f ix hix)⟩
  numbers f hf := by
    obtain ⟨ix, hix⟩ := Option.isSome_iff_exists.mp ((l.catalog.numbers.isSome_get? f).trans (decide_eq_true hf))
    exact ⟨ix, hix, h.shelf.value_isImage_iff.mp (h.catalog.numbers f ix hix)⟩
  dates f hf := by
    obtain ⟨ix, hix⟩ := Option.isSome_iff_exists.mp ((l.catalog.dates.isSome_get? f).trans (decide_eq_true hf))
    exact ⟨ix, hix, h.shelf.value_isImage_iff.mp (h.catalog.dates f ix hix)⟩

lemma textOf_eq (l : Library) (f : Field) (id : TrackId) :
    l.textOf f id = (((l.get? id).map (·.track)).bind (·.text f)).map InvertedIndex.normalize := by
  rw [textOf, Option.bind_map]
  rfl

section Audit

variable (h : l.Served)
include h

lemma Served.covers {t : Track} (ht : t ∈ l.shelf.tracks) : l.catalog.covers t = true :=
  h.catalog.covers (h.shelf.mem_tracks_iff.mp ht)

lemma Served.checkText {f : Field} {ix : InvertedIndex} (hix : l.catalog.texts.get? f = some ix) :
    l.checkText f ix = .ok () := by
  have hi := h.catalog.texts f ix hix
  rw [checkText_eq_ok]
  constructor
  · intro term id hl
    obtain ⟨text, ht, rfl⟩ := (hi.values.leads term id).mp hl
    rw [textOf_eq, ht]
    rfl
  · intro word id hl
    obtain ⟨text, ht, hw⟩ := (hi.words.leads word id).mp hl
    exact ⟨_, by rw [textOf_eq, ht]; rfl, hw⟩

lemma Served.audit : l.audit = .ok () := by
  rw [audit_eq_ok]
  refine ⟨fun t ht => h.covers ht, fun f ix hix => h.checkText hix, fun f ix hix => ?_, fun f ix hix => ?_⟩
  · have hi := h.shelf.value_isImage_iff.mp (h.catalog.numbers f ix hix)
    exact ⟨hi.length, hi.sorted⟩
  · have hi := h.shelf.value_isImage_iff.mp (h.catalog.dates f ix hix)
    exact ⟨hi.length, hi.sorted⟩

end Audit

lemma Sound.covers (h : l.Sound) {t : Track} (ht : t ∈ l.shelf.tracks) : l.catalog.covers t = true := h.served.covers ht

lemma Sound.audit (h : l.Sound) : l.audit = .ok () := h.served.audit

/-- The indexes follow every history of edits exactly: they cover every track, also the one just put in, and the
audit accepts them. -/
theorem run_isIndexed (edits : List Edit) :
    (run edits).IsIndexed ∧ (run edits).shelf.tracks.all (run edits).catalog.covers = true ∧
      (∀ t, ((run edits).insert t).catalog.covers t = true) ∧ (run edits).audit = .ok () := by
  have h := sound_run edits
  refine ⟨h.isIndexed, List.all_eq_true.mpr fun t ht => h.covers ht, fun t => ?_, h.audit⟩
  have hnew := h.insert t
  have hget : ((run edits).insert t).get? t.id = some ((run edits).edition t) := by
    rw [get?_insert, if_pos rfl]
  exact hnew.catalog.covers (by rw [hget]; rfl)

end Library

end MusicQuery
