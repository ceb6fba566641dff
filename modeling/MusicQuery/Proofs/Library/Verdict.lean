import Mathlib.Algebra.Order.BigOperators.Group.List
import Mathlib.Algebra.Order.Group.Nat
import Mathlib.Data.List.Perm.Subperm
import MusicQuery.Proofs.Library.Image
import MusicQuery.Proofs.Library.Selection

namespace MusicQuery

/-- Each lowercase text leads to exactly the tracks that carry it, and so does each word. A term may be left over with
no track. -/
structure InvertedIndex.Reflects (ix : InvertedIndex) (text : Track → Option String) (ts : List Track) : Prop where
  values : ∀ term id, ix.values.Leads term id ↔ ∃ t ∈ ts, t.id = id ∧ (text t).map normalize = some term
  words : ∀ word id, ix.words.Leads word id ↔ ∃ t ∈ ts, t.id = id ∧ ∃ s ∈ text t, word ∈ Text.words (normalize s)

/-- The terms ascend, as the keys of an ordered map do. -/
structure InvertedIndex.IsOrdered (ix : InvertedIndex) : Prop where
  values : ix.values.Pairwise fun a b => a.1 < b.1
  words : ix.words.Pairwise fun a b => a.1 < b.1

lemma InvertedIndex.IsOrdered.covers_iff {ix : InvertedIndex} (h : ix.IsOrdered) {id : TrackId} {text : String} :
    ix.covers id text = true ↔
      ix.values.Leads (normalize text) id ∧ ∀ word ∈ Text.words (normalize text), ix.words.Leads word id := by
  rw [covers, Bool.and_eq_true, List.all_eq_true, TermMap.carries_iff h.values]
  exact and_congr_right fun _ => forall₂_congr fun _ _ => TermMap.carries_iff h.words

def Catalog.IsOrdered (c : Catalog) : Prop := ∀ f ix, c.texts.get? f = some ix → ix.IsOrdered

structure Catalog.Reflects (c : Catalog) (ts : List Track) : Prop where
  texts : ∀ f ix, c.texts.get? f = some ix → ix.Reflects (·.text f) ts
  numbers : ∀ f ix, c.numbers.get? f = some ix → ix.IsImage (·.key f) ts
  dates : ∀ f ix, c.dates.get? f = some ix → ix.IsImage (·.date f) ts

namespace Shelf

lemma exists_next (s : Shelf) : ∃ n, ∀ slot ∈ s.slots, slot.position < n := by
  refine ⟨(s.slots.map (·.position)).sum + 1, fun slot hslot => Nat.lt_succ_of_le ?_⟩
  exact List.le_sum_of_mem (List.mem_map_of_mem hslot)

variable {s : Shelf} (hs : s.WellFormed)
include hs

lemma WellFormed.reflects_iff {ix : InvertedIndex} {text : Track → Option String} (hordered : ix.IsOrdered) :
    ix.Reflects text s.tracks ↔ ix.Serves fun id => ((s.get? id).map (·.track)).bind text := by
  constructor
  · intro h
    refine ⟨⟨hordered.values, fun term id => ?_⟩, ⟨hordered.words, fun word id => ?_⟩⟩
    · rw [h.values, hs.exists_text_iff]
    · rw [h.words, hs.exists_word_iff]
  · intro h
    refine ⟨fun term id => ?_, fun word id => ?_⟩
    · rw [h.values.leads, hs.exists_text_iff]
    · rw [h.words.leads, hs.exists_word_iff]

lemma WellFormed.isImage_of_length {α : Type} [LE α] {ix : SortedIndex α} {value : Track → Option α}
    (hsorted : ix.entries.Pairwise fun a b => a.1 ≤ b.1) (hget : ∀ t ∈ s.tracks, ix.get? t.id = value t)
    (hlength : ix.entries.length = s.tracks.countP fun t => (value t).isSome) : ix.IsImage value s.tracks := by
  have hsub : (s.tracks.filterMap fun t => (value t).map fun v => (v, t.id)) ⊆ ix.entries := by
    intro e he
    obtain ⟨t, ht, hm⟩ := List.mem_filterMap.mp he
    obtain ⟨v, hv, rfl⟩ := Option.map_eq_some_iff.mp hm
    obtain ⟨d, hd, rfl⟩ := Option.map_eq_some_iff.mp ((hget t ht).trans hv)
    have hid : d.2 = t.id := by simpa using List.find?_some hd
    rw [← hid]
    exact List.mem_of_find?_eq_some hd
  have hnodup := (hs.value_ids value).of_map _
  have hle : ix.entries.length ≤ (s.tracks.filterMap fun t => (value t).map fun v => (v, t.id)).length := by
    rw [hlength, List.length_filterMap_eq_countP]
    simp only [Option.isSome_map, Nat.le_refl]
  exact ⟨hsorted, ((hnodup.subperm hsub).perm_of_length_le hle).symm⟩

end Shelf

namespace Library

variable {l : Library}

section WellFormed

variable (hshelf : l.shelf.WellFormed) (hordered : l.catalog.IsOrdered)
include hshelf hordered

lemma reflects_iff_served : l.catalog.Reflects l.shelf.tracks ↔ l.Served := by
  constructor
  · intro h
    refine ⟨hshelf, fun f ix hix => ?_, fun f ix hix => ?_, fun f ix hix => ?_⟩
    · exact (hshelf.reflects_iff (hordered f ix hix)).mp (h.texts f ix hix)
    · exact hshelf.value_isImage_iff.mpr (h.numbers f ix hix)
    · exact hshelf.value_isImage_iff.mpr (h.dates f ix hix)
  · intro h
    refine ⟨fun f ix hix => ?_, fun f ix hix => ?_, fun f ix hix => ?_⟩
    · exact (hshelf.reflects_iff (hordered f ix hix)).mpr (h.catalog.texts f ix hix)
    · exact hshelf.value_isImage_iff.mp (h.catalog.numbers f ix hix)
    · exact hshelf.value_isImage_iff.mp (h.catalog.dates f ix hix)

lemma serves_of_checkText (hcovers : ∀ t ∈ l.shelf.tracks, l.catalog.covers t = true) {f : Field} {ix : InvertedIndex}
    (hix : l.catalog.texts.get? f = some ix) (hcheck : l.checkText f ix = .ok ()) :
    ix.Serves fun id => ((l.get? id).map (·.track)).bind (·.text f) := by
  obtain ⟨hvalues, hwords⟩ := checkText_eq_ok.mp hcheck
  have hcovered : ∀ id text, ((l.get? id).map (·.track)).bind (·.text f) = some text →
      ix.values.Leads (InvertedIndex.normalize text) id ∧
        ∀ word ∈ Text.words (InvertedIndex.normalize text), ix.words.Leads word id := by
    intro id text htext
    obtain ⟨t, ht, rfl, hown⟩ := hshelf.bind_eq_some_iff.mp htext
    exact (hordered f ix hix).covers_iff.mp ((Catalog.covers_iff.mp (hcovers t ht)).1 f ix hix text hown)
  refine ⟨⟨(hordered f ix hix).values, fun term id => ⟨fun hl => ?_, ?_⟩⟩,
    ⟨(hordered f ix hix).words, fun word id => ⟨fun hl => ?_, ?_⟩⟩⟩
  · have hterm := hvalues term id hl
    rwa [textOf_eq, Option.map_eq_some_iff] at hterm
  · rintro ⟨text, htext, rfl⟩
    exact (hcovered id text htext).1
  · obtain ⟨normal, hnormal, hw⟩ := hwords word id hl
    rw [textOf_eq, Option.map_eq_some_iff] at hnormal
    obtain ⟨text, htext, rfl⟩ := hnormal
    exact ⟨text, htext, hw⟩
  · rintro ⟨text, htext, hw⟩
    exact (hcovered id text htext).2 word hw

lemma served_of_audit (h : l.audit = .ok ()) : l.Served := by
  obtain ⟨hcovers, htexts, hnumbers, hdates⟩ := audit_eq_ok.mp h
  refine ⟨hshelf, fun f ix hix => ?_, fun f ix hix => ?_, fun f ix hix => ?_⟩
  · exact serves_of_checkText hshelf hordered hcovers hix (htexts f ix hix)
  · obtain ⟨hlength, hsorted⟩ := hnumbers f ix hix
    have hget := fun t ht => (Catalog.covers_iff.mp (hcovers t ht)).2.1 f ix hix
    exact hshelf.value_isImage_iff.mpr (hshelf.isImage_of_length hsorted hget hlength)
  · obtain ⟨hlength, hsorted⟩ := hdates f ix hix
    have hget := fun t ht => (Catalog.covers_iff.mp (hcovers t ht)).2.2 f ix hix
    exact hshelf.value_isImage_iff.mpr (hshelf.isImage_of_length hsorted hget hlength)

lemma audit_decides_of_wellFormed :
    (l.audit = .ok () ↔ l.catalog.Reflects l.shelf.tracks) ∧
      (l.audit = .ok () → ∀ settings now rule, l.select settings now rule = l.scan settings (rule.holds now)) := by
  refine ⟨?_, fun h settings now rule => ?_⟩
  · rw [reflects_iff_served hshelf hordered]
    exact ⟨served_of_audit hshelf hordered, fun h => h.audit⟩
  · have hserved := served_of_audit hshelf hordered h
    rw [hserved.select_eq_filter, scan_eq_filter]

end WellFormed

/-- Whatever stands in the indexes, the audit passes exactly if they tell the tracks on the shelf and nothing else, and
then every answer from an index is the answer of a scan. -/
theorem audit_decides (hids : (l.shelf.slots.map Slot.id).Nodup)
    (hpositions : l.shelf.slots.Pairwise fun a b => a.position < b.position) (hordered : l.catalog.IsOrdered) :
    (l.audit = .ok () ↔ l.catalog.Reflects l.shelf.tracks) ∧
      (l.audit = .ok () → ∀ settings now rule, l.select settings now rule = l.scan settings (rule.holds now)) := by
  -- Neither the audit nor an answer looks at the number of the next place.
  obtain ⟨n, hnext⟩ := l.shelf.exists_next
  have hverdict := audit_decides_of_wellFormed (l := { l with shelf := { l.shelf with next := n } })
    ⟨hids, hpositions, hnext⟩ hordered
  exact ⟨hverdict.1, hverdict.2⟩

section Stocked

def leftOver : InvertedIndex where
  values := [(['c', 'a', 'n'], [1]), (['k'], [])]
  words := [(['c', 'a', 'n'], [1])]

def stocked (durations : List (NumericKey × TrackId)) : Library where
  shelf := ⟨[⟨3, 0, { id := 1, artist := some "CAN", duration := some .zero }⟩,
    ⟨7, 1, { id := 2, duration := some .infinity }⟩], 0⟩
  catalog := { Catalog.empty with
    texts := ⟨leftOver, .empty, .empty⟩, numbers := ⟨.empty, ⟨durations⟩, .empty, .empty, .empty⟩ }

lemma stocked_isOrdered (durations : List (NumericKey × TrackId)) : (stocked durations).catalog.IsOrdered := by
  have hleftOver : leftOver.IsOrdered := ⟨by decide, by decide⟩
  have hempty : InvertedIndex.empty.IsOrdered := ⟨.nil, .nil⟩
  intro f ix hix
  cases f <;> cases hix
  · exact hleftOver
  · exact hempty
  · exact hempty

/-- With an entry too many no lookup goes wrong, but the count does. -/
theorem audit_decides_of_stocked :
    let zero : NumericKey := ⟨.zero, by decide, by decide⟩
    let infinity : NumericKey := ⟨.infinity, by decide, by decide⟩
    let exact := stocked [(zero, 1), (infinity, 2)]
    let double := stocked [(zero, 1), (infinity, 2), (infinity, 1)]
    let rule := Rule.text { field := .artist, operator := .contains, value := "an" }
    exact.catalog.Reflects exact.shelf.tracks ∧
      exact.select {} default rule = exact.scan {} (rule.holds default) ∧
      (∀ t ∈ double.shelf.tracks, double.catalog.covers t = true) ∧
      ¬ double.catalog.Reflects double.shelf.tracks := by
  intro zero infinity exact double rule
  have haudit : exact.audit = .ok () := by decide +kernel
  have hfault : double.audit = .error (.wrongNumbers .duration 3 2) := by decide +kernel
  have hexact := audit_decides (l := exact) (by decide) (by decide) (stocked_isOrdered _)
  have hdouble := audit_decides (l := double) (by decide) (by decide) (stocked_isOrdered _)
  refine ⟨hexact.1.mp haudit, hexact.2 haudit {} default rule, by decide +kernel, fun h => ?_⟩
  have hok := hdouble.1.mpr h
  rw [hfault] at hok
  cases hok

end Stocked

end Library

end MusicQuery
