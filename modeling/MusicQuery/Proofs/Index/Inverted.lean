import Mathlib.Logic.Function.Basic
import MusicQuery.Proofs.Index.Fronts
import MusicQuery.Proofs.Index.TermMap
import MusicQuery.Proofs.Text.Words

namespace MusicQuery

def TextMatch.admits (mode : TextMatch) (needle text : List Char) : Bool :=
  match mode with
  | .contains => Text.occursIn needle text
  | .startsWith => needle.isPrefixOf text

namespace InvertedIndex

/-- Every track is under the lowercase form of its text and under the words of that, and nowhere else. -/
structure Holds (ix : InvertedIndex) (held : TrackId → Option String) : Prop where
  values : ix.values.Holds fun term id => ∃ text, held id = some text ∧ normalize text = term
  words : ix.words.Holds fun word id => ∃ text, held id = some text ∧ word ∈ Text.words (normalize text)

/-- An index that leads to each track in the same way, whatever its empty sets. -/
structure Serves (ix : InvertedIndex) (held : TrackId → Option String) : Prop where
  values : ix.values.Serves fun term id => ∃ text, held id = some text ∧ normalize text = term
  words : ix.words.Serves fun word id => ∃ text, held id = some text ∧ word ∈ Text.words (normalize text)

variable {ix : InvertedIndex} {held : TrackId → Option String} {id : TrackId} {text : String}

lemma Holds.serves (h : ix.Holds held) : ix.Serves held := ⟨h.values.serves, h.words.serves⟩

lemma holds_empty : empty.Holds fun _ => none where
  values := TermMap.holds_nil.congr (by simp)
  words := TermMap.holds_nil.congr (by simp)

lemma Holds.insert (h : ix.Holds held) (hid : held id = none) (text : String) :
    (ix.insert id text).Holds (Function.update held id (some text)) where
  values := by
    refine (h.values.insert (normalize text) id).congr fun t i => ?_
    by_cases hi : i = id
    · subst hi
      simp [hid, eq_comm]
    · simp [hi]
  words := by
    refine (h.words.insertAll (Text.words (normalize text)) id).congr fun t i => ?_
    by_cases hi : i = id
    · subst hi
      simp [hid]
    · simp [hi]

lemma Holds.erase (h : ix.Holds held) (hid : held id = some text) :
    (ix.erase id text).Holds (Function.update held id none) where
  values := by
    refine (h.values.erase (normalize text) id).congr fun t i => ?_
    by_cases hi : i = id
    · subst hi
      simp [hid, eq_comm]
    · simp [hi]
  words := by
    refine (h.words.eraseAll (Text.words (normalize text)) id).congr fun t i => ?_
    by_cases hi : i = id
    · subst hi
      simp [hid]
    · simp [hi]

lemma Serves.covers (h : ix.Serves held) (hid : held id = some text) : ix.covers id text = true := by
  rw [InvertedIndex.covers, Bool.and_eq_true, List.all_eq_true]
  refine ⟨(h.values.carries _ _).mpr ⟨text, hid, rfl⟩, fun word hw => ?_⟩
  exact (h.words.carries _ _).mpr ⟨text, hid, hw⟩

lemma Holds.covers (h : ix.Holds held) (hid : held id = some text) : ix.covers id text = true := h.serves.covers hid

lemma exists_entry_iff {m : TermMap} {p : List Char → Bool} :
    (∃ e ∈ m.filter fun e => p e.1, id ∈ e.2) ↔ ∃ term, m.Leads term id ∧ p term = true := by
  simp only [List.mem_filter, TermMap.Leads]
  constructor
  · rintro ⟨⟨term, ids⟩, ⟨hm, hp⟩, hid⟩
    exact ⟨term, ⟨ids, hm, hid⟩, hp⟩
  · rintro ⟨term, ⟨ids, hm, hid⟩, hp⟩
    exact ⟨(term, ids), ⟨hm, hp⟩, hid⟩

lemma Serves.exists_value_iff (h : ix.Serves held) (p : List Char → Bool) :
    (∃ e ∈ ix.values.filter fun e => p e.1, id ∈ e.2) ↔ ∃ text, held id = some text ∧ p (normalize text) = true := by
  rw [exists_entry_iff]
  constructor
  · rintro ⟨term, hl, hp⟩
    obtain ⟨text, hid, rfl⟩ := (h.values.leads _ _).mp hl
    exact ⟨text, hid, hp⟩
  · rintro ⟨text, hid, hp⟩
    exact ⟨normalize text, (h.values.leads _ _).mpr ⟨text, hid, rfl⟩, hp⟩

lemma Serves.exists_word_iff (h : ix.Serves held) {needle : List Char} (hne : needle ≠ [])
    (hn : Text.isSingleWord needle = true) :
    (∃ e ∈ ix.words.filter fun e => Text.occursIn needle e.1, id ∈ e.2) ↔
      ∃ text, held id = some text ∧ Text.occursIn needle (normalize text) = true := by
  rw [exists_entry_iff]
  simp only [h.words.leads, Text.occursIn_iff]
  constructor
  · rintro ⟨word, ⟨text, hid, hw⟩, hi⟩
    exact ⟨text, hid, (Text.infix_words hne hn _).mp ⟨word, hw, hi⟩⟩
  · rintro ⟨text, hid, hi⟩
    obtain ⟨word, hw, hi⟩ := (Text.infix_words hne hn _).mpr hi
    exact ⟨word, ⟨text, hid, hw⟩, hi⟩

lemma Serves.mem_search (h : ix.Serves held) (query : String) (mode : TextMatch) :
    id ∈ ix.search query mode ↔
      ∃ text, held id = some text ∧ mode.admits (normalize query) (normalize text) = true := by
  cases mode with
  | startsWith =>
    rw [search, TermMap.mem_unionIds, Text.startBlock_eq_filter h.values.terms, h.exists_value_iff]
    rfl
  | contains =>
    rw [search, TermMap.mem_unionIds, termsFor]
    split
    · next hterms =>
      simp only [Bool.and_eq_true, Bool.not_eq_true', List.isEmpty_eq_false_iff] at hterms
      rw [h.exists_word_iff hterms.1 hterms.2]
      rfl
    · rw [h.exists_value_iff]
      rfl

lemma search_pairwise (ix : InvertedIndex) (query : String) (mode : TextMatch) :
    (ix.search query mode).Pairwise (· < ·) := by
  cases mode with
  | startsWith => exact TermMap.pairwise_unionIds
  | contains => exact TermMap.pairwise_unionIds

end InvertedIndex

end MusicQuery
