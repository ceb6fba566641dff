import MusicQuery.Proofs.Arrangement
import MusicQuery.Proofs.Library.History
import MusicQuery.Proofs.Plan

namespace MusicQuery

lemma SortedIndex.Holds.mem_filter_ids {α : Type} [LE α] {ix : SortedIndex α} {held : TrackId → Option α}
    (h : ix.Holds held) (p : α → Bool) (id : TrackId) :
    id ∈ ids (ix.entries.filter fun e => p e.1) ↔ (held id).any p = true := by
  simp only [ids, List.mem_map, List.mem_filter, Prod.exists, Option.any_eq_true]
  constructor
  · rintro ⟨v, i, ⟨hm, hp⟩, rfl⟩
    exact ⟨v, (h.mem v i).mp hm, hp⟩
  · rintro ⟨v, hv, hp⟩
    exact ⟨v, id, ⟨(h.mem v id).mpr hv, hp⟩, rfl⟩

lemma SortedIndex.Holds.nodup_filter_ids {α : Type} [LE α] {ix : SortedIndex α} {held : TrackId → Option α}
    (h : ix.Holds held) (p : α × TrackId → Bool) : (ids (ix.entries.filter p)).Nodup :=
  h.nodup.sublist (List.filter_sublist.map _)

namespace Query

def evaluate (q : Query) (shuffle : Shuffle) (now : Instant) (es : List Edition) : List Edition :=
  finish shuffle Edition.track q.sorting q.limit (es.filter fun e => q.rule.holds now e.track)

variable {q : Query} {shuffle : Shuffle} {now : Instant} {es : List Edition}

lemma evaluate_subperm (q : Query) (shuffle : Shuffle) (now : Instant) (es : List Edition) :
    (q.evaluate shuffle now es).Subperm es :=
  (finish_subperm shuffle Edition.track q.sorting q.limit _).trans List.filter_sublist.subperm

lemma mem_of_mem_evaluate {e : Edition} (h : e ∈ q.evaluate shuffle now es) :
    e ∈ es ∧ q.rule.holds now e.track = true :=
  List.mem_filter.mp ((finish_subperm _ _ _ _ _).subset h)

lemma evaluate_shuffle {shuffle' : Shuffle} (hr : q.isRandom = false) :
    q.evaluate shuffle now es = q.evaluate shuffle' now es :=
  finish_shuffle hr

lemma evaluate_clock {now' : Instant} (h : ∀ t, q.rule.holds now t = q.rule.holds now' t) :
    q.evaluate shuffle now es = q.evaluate shuffle now' es := by
  simp only [evaluate, h]

end Query

namespace Library

variable {l : Library}

lemma inShelfOrder_eq_filter (h : l.shelf.WellFormed) {ids : List TrackId} (hids : ids.Nodup) :
    l.inShelfOrder ids = l.shelf.editions.filter fun e => e.track.id ∈ ids := by
  have hperm : (ids.filterMap l.shelf.slot?).Perm (l.shelf.slots.filter fun slot => slot.id ∈ ids) := by
    rw [List.perm_ext_iff_of_nodup]
    · intro slot
      simp only [List.mem_filterMap, List.mem_filter, decide_eq_true_eq]
      constructor
      · rintro ⟨id, hid, hs⟩
        exact ⟨List.mem_of_find?_eq_some hs, Shelf.slot?_id hs ▸ hid⟩
      · rintro ⟨hm, hid⟩
        exact ⟨slot.id, hid, h.slot?_eq_some_iff.mpr hm⟩
    · refine List.Nodup.filterMap (fun a b slot ha hb => ?_) hids
      rw [← Shelf.slot?_id ha, ← Shelf.slot?_id hb]
    · exact h.nodup_slots.filter _
  have hsort : (ids.filterMap l.shelf.slot?).mergeSort (fun a b => a.position ≤ b.position) =
      l.shelf.slots.filter fun slot => slot.id ∈ ids := by
    refine @List.Perm.eq_of_pairwise _ (fun a b => a.position ≤ b.position) _ _ ?_ ?_ ?_
      ((List.mergeSort_perm _ _).trans hperm)
    · -- Slots of one position are one slot, as the positions ascend strictly.
      intro a b ha hb hab hba
      have hpos : (l.shelf.slots.map (·.position)).Nodup := List.pairwise_map.mpr (h.positions.imp Nat.ne_of_lt)
      have hma := List.mem_of_mem_filter (hperm.mem_iff.mp (List.mem_mergeSort.mp ha))
      exact List.inj_on_of_nodup_map hpos hma (List.mem_of_mem_filter hb) (Nat.le_antisymm hab hba)
    · refine (List.pairwise_mergeSort (fun a b c hab hbc => ?_) (fun a b => ?_) _).imp fun hab => of_decide_eq_true hab
      · exact decide_eq_true (Nat.le_trans (of_decide_eq_true hab) (of_decide_eq_true hbc))
      · simpa using Nat.le_total a.position b.position
    · exact (h.positions.filter _).imp Nat.le_of_lt
  rw [inShelfOrder, hsort, Shelf.editions, List.filter_map]
  rfl

lemma scan_eq_filter (l : Library) (settings : Settings) (p : Track → Bool) :
    l.scan settings p = l.shelf.editions.filter fun e => p e.track := by
  simp only [scan]
  split
  · rw [List.splitAt_eq, ← List.filter_append, List.take_append_drop]
  · rfl

section Seek

variable (h : l.Served) {ranges : Bool} {now : Instant} {rule : Rule} {ids : List TrackId}
include h

lemma Served.bind_get? {α : Type} {e : Edition} (he : e ∈ l.shelf.editions) (g : Track → Option α) :
    ((l.get? e.track.id).map (·.track)).bind g = g e.track := by
  have hget : l.get? e.track.id = some e := h.shelf.mem_editions_iff.mp he
  rw [hget]
  rfl

lemma Served.mem_seekRange {f : Field} {range : ValueRange} (hr : rule.range? now = some (f, range))
    (hseek : l.seekRange f range = some ids) :
    ids.Nodup ∧ ∀ e ∈ l.shelf.editions, e.track.id ∈ ids ↔ range.admits f e.track = true := by
  cases range with
  | numbers bounds =>
    obtain ⟨ix, hix, rfl⟩ := Option.map_eq_some_iff.mp hseek
    have hh := h.catalog.numbers f ix hix
    rw [SortedIndex.withinNumbers_eq_filter hh.sorted]
    refine ⟨hh.nodup_filter_ids _, fun e he => ?_⟩
    rw [hh.mem_filter_ids fun k => bounds.admits Binary64.le Binary64.lt k.value, h.bind_get? he, ValueRange.admits,
      Track.key]
    cases e.track.number f with
    | none => rfl
    | some x =>
      cases hk : NumericKey.ofNumber? x with
      | none =>
        have hx := Bounds.not_admits_nan (Rule.range?_isBounded hr) (NumericKey.ofNumber?_eq_none.mp hk)
        simp [hk, hx]
      | some k => simp [hk, Bounds.admits_key hk]
  | dates bounds =>
    obtain ⟨ix, hix, rfl⟩ := Option.map_eq_some_iff.mp hseek
    have hh := h.catalog.dates f ix hix
    rw [SortedIndex.within_eq_filter hh.sorted]
    refine ⟨hh.nodup_filter_ids _, fun e he => ?_⟩
    rw [hh.mem_filter_ids, h.bind_get? he]
    rfl

lemma Served.mem_seek (hseek : l.seek (rule.plan ranges now) = some ids) :
    ids.Nodup ∧ ∀ e ∈ l.shelf.editions, e.track.id ∈ ids ↔ rule.holds now e.track = true := by
  cases hp : rule.plan ranges now with
  | scan =>
    rw [hp] at hseek
    cases hseek
  | textSeek f query mode =>
    rw [hp] at hseek
    obtain ⟨ix, hix, rfl⟩ := Option.map_eq_some_iff.mp hseek
    refine ⟨(ix.search_pairwise query mode).imp Std.ne_of_lt, fun e he => ?_⟩
    rw [(h.catalog.texts f ix hix).mem_search, h.bind_get? he, Rule.plan_textSeek hp, Option.any_eq_true]
  | valueRange f range =>
    have hr := Rule.plan_valueRange hp
    rw [hp] at hseek
    obtain ⟨hnodup, hmem⟩ := h.mem_seekRange hr hseek
    refine ⟨hnodup, fun e he => ?_⟩
    rw [hmem e he, Rule.range?_holds hr]

lemma Served.select_eq_filter (settings : Settings) (now : Instant) (rule : Rule) :
    l.select settings now rule = l.shelf.editions.filter fun e => rule.holds now e.track := by
  rw [select]
  split
  · next ids hseek =>
    obtain ⟨hnodup, hmem⟩ := h.mem_seek hseek
    rw [inShelfOrder_eq_filter h.shelf hnodup]
    refine List.filter_congr fun e he => ?_
    rw [Bool.eq_iff_iff, decide_eq_true_iff]
    exact hmem e he
  · exact l.scan_eq_filter settings _

end Seek

section Answers

variable (h : l.Sound)
include h

lemma Sound.select_eq_filter (settings : Settings) (now : Instant) (rule : Rule) :
    l.select settings now rule = l.shelf.editions.filter fun e => rule.holds now e.track :=
  h.served.select_eq_filter settings now rule

lemma Sound.nodup_select (settings : Settings) (now : Instant) (rule : Rule) :
    ((l.select settings now rule).map (·.track.id)).Nodup := by
  rw [h.select_eq_filter]
  exact h.shelf.nodup_ids.sublist (List.filter_sublist.map _)

lemma Sound.answer_eq (settings : Settings) (now : Instant) (shuffle : Shuffle) (q : Query) :
    l.answer settings now shuffle q = q.evaluate shuffle now l.shelf.editions := by
  rw [answer, h.select_eq_filter, Query.evaluate]

end Answers

/-- Whatever its past and its settings, a library selects the tracks that fulfil a rule, each once and in the order of
the shelf; so no answer in a fixed order depends on the settings. -/
theorem run_select (edits : List Edit) (settings : Settings) (now : Instant) (rule : Rule) :
    (run edits).select settings now rule = (run edits).shelf.editions.filter (fun e => rule.holds now e.track) ∧
      (((run edits).select settings now rule).map (·.track.id)).Nodup ∧
      ∀ (other : Settings) (shuffle shuffle' : Shuffle) (sorting : Option Sorting) (limit : Option UInt64),
        sorting.any Sorting.isRandom = false →
          (run edits).answer settings now shuffle ⟨rule, sorting, limit⟩ =
            (run edits).answer other now shuffle' ⟨rule, sorting, limit⟩ := by
  have h := sound_run edits
  refine ⟨h.select_eq_filter settings now rule, h.nodup_select settings now rule, ?_⟩
  intro other shuffle shuffle' sorting limit hr
  rw [h.answer_eq, h.answer_eq]
  exact Query.evaluate_shuffle hr

theorem run_select_by_rating :
    let edits := [Edit.insert { id := 1, rating := some 5 }, .insert { id := 2 }, .insert { id := 3, rating := some 4 }]
    let query : Query :=
      ⟨.plays { field := .rating, operator := .greaterThan, number := some .zero }, some ⟨.rating, true⟩, some 1⟩
    query.sorting.any Sorting.isRandom = false ∧
      (run edits).answer {} default .identity query =
        (run edits).answer { valueIndexRanges := true, parallelScanThreshold := 0 } default .identity query :=
  ⟨rfl, (run_select _ {} default _).2.2 _ .identity .identity (some ⟨.rating, true⟩) (some 1) rfl⟩

end Library

end MusicQuery
