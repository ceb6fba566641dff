import Mathlib.Data.List.Nodup
import Mathlib.Logic.Function.Basic
import MusicQuery.Index.Sorted
import MusicQuery.Proofs.Index.Fronts

namespace MusicQuery.SortedIndex

variable {α : Type}

lemma eraseP_eq_filter {entries : List (α × TrackId)} (h : (entries.map (·.2)).Nodup) (id : TrackId) :
    entries.eraseP (·.2 = id) = entries.filter (·.2 ≠ id) := by
  induction entries with
  | nil => rfl
  | cons e rest ih =>
    obtain ⟨he, hrest⟩ := List.nodup_cons.mp h
    by_cases hid : e.2 = id
    · have hall : rest.filter (·.2 ≠ id) = rest := List.filter_eq_self.mpr fun d hd => by
        have hne : d.2 ≠ id := fun hde => he (List.mem_map.mpr ⟨d, hd, hde.trans hid.symm⟩)
        simpa using hne
      simpa [hid] using hall.symm
    · simpa [hid] using ih hrest

variable [LE α]

/-- The entries ascend, and each track has its value in one of them. -/
structure Holds (ix : SortedIndex α) (held : TrackId → Option α) : Prop where
  sorted : ix.entries.Pairwise fun a b => a.1 ≤ b.1
  nodup : (ix.entries.map (·.2)).Nodup
  mem : ∀ value id, (value, id) ∈ ix.entries ↔ held id = some value

lemma holds_empty : (empty : SortedIndex α).Holds fun _ => none := ⟨.nil, List.nodup_nil, by simp [empty]⟩

variable {ix : SortedIndex α} {held : TrackId → Option α}

lemma Holds.erase (h : ix.Holds held) (id : TrackId) : (ix.erase id).Holds (Function.update held id none) := by
  have he : (ix.erase id).entries = ix.entries.filter (·.2 ≠ id) := eraseP_eq_filter h.nodup id
  refine ⟨?_, ?_, fun v i => ?_⟩
  · rw [he]
    exact h.sorted.filter _
  · rw [he]
    exact h.nodup.sublist (List.filter_sublist.map _)
  · rw [he, List.mem_filter, h.mem]
    by_cases hi : i = id <;> simp [hi]

lemma Holds.get? (h : ix.Holds held) (id : TrackId) : ix.get? id = held id := by
  rw [SortedIndex.get?]
  cases hf : ix.entries.find? (·.2 = id) with
  | none =>
    have hno := List.find?_eq_none.mp hf
    cases hid : held id with
    | none => rfl
    | some value => exact absurd ((h.mem value id).mpr hid) fun hm => hno _ hm (by simp)
  | some e =>
    have hid : e.2 = id := by simpa using List.find?_some hf
    have hm := (h.mem e.1 e.2).mp (List.mem_of_find?_eq_some hf)
    rw [hid] at hm
    exact hm.symm

section Fronts

variable {entries : List (α × TrackId)} (h : entries.Pairwise fun a b => a.1 ≤ b.1) (value : α)
include h

lemma pairwise_le [DecidableLE α] [Std.IsLinearOrder α] :
    entries.Pairwise fun a b => decide (b.1 ≤ value) = true → decide (a.1 ≤ value) = true :=
  h.imp fun hab hb => decide_eq_true (Std.le_trans hab (of_decide_eq_true hb))

lemma pairwise_lt [LT α] [DecidableLT α] [Std.IsLinearOrder α] [Std.LawfulOrderLT α] :
    entries.Pairwise fun a b => decide (b.1 < value) = true → decide (a.1 < value) = true :=
  h.imp fun hab hb => decide_eq_true (Std.lt_of_le_of_lt hab (of_decide_eq_true hb))

end Fronts

variable [DecidableLE α]

lemma insert_perm (ix : SortedIndex α) (id : TrackId) (value : α) :
    (ix.insert id value).entries.Perm ((value, id) :: ix.entries) := by
  have hp := @List.perm_middle _ (value, id) (ix.entries.takeWhile (·.1 ≤ value)) (ix.entries.dropWhile (·.1 ≤ value))
  rwa [List.takeWhile_append_dropWhile] at hp

variable [Std.IsLinearOrder α]

lemma isAscending_iff {entries : List (α × TrackId)} :
    isAscending entries = true ↔ entries.Pairwise fun a b => a.1 ≤ b.1 := by
  fun_induction isAscending entries with
  | case1 a b rest ih =>
    rw [Bool.and_eq_true, ih, decide_eq_true_eq, List.pairwise_cons (a := a)]
    refine and_congr_left fun h => ⟨fun hab e he => ?_, fun h => h b List.mem_cons_self⟩
    rcases List.mem_cons.mp he with rfl | he
    · exact hab
    · exact Std.le_trans hab ((List.pairwise_cons.mp h).1 e he)
  | case2 entries hshort =>
    refine iff_of_true rfl ?_
    cases entries with
    | nil => exact .nil
    | cons a rest =>
      cases rest with
      | nil => exact List.pairwise_singleton _ _
      | cons b rest => exact (hshort a b rest rfl).elim

lemma sorted_insert (h : ix.entries.Pairwise fun a b => a.1 ≤ b.1) (id : TrackId) (value : α) :
    (ix.insert id value).entries.Pairwise fun a b => a.1 ≤ b.1 := by
  have hlow : ∀ e ∈ ix.entries.takeWhile (·.1 ≤ value), e.1 ≤ value := by
    rw [takeWhile_eq_filter (pairwise_le h value)]
    exact fun e he => of_decide_eq_true (List.mem_filter.mp he).2
  have hhigh : ∀ e ∈ ix.entries.dropWhile (·.1 ≤ value), value ≤ e.1 := by
    rw [dropWhile_eq_filter (pairwise_le h value)]
    intro e he
    have hnot : ¬ e.1 ≤ value := by simpa using (List.mem_filter.mp he).2
    exact Std.le_of_not_ge hnot
  refine List.pairwise_append.mpr ⟨h.sublist (List.takeWhile_sublist _), ?_, ?_⟩
  · exact List.pairwise_cons.mpr ⟨hhigh, h.sublist (List.dropWhile_sublist _)⟩
  · intro a ha b hb
    rcases List.mem_cons.mp hb with rfl | hb
    · exact hlow a ha
    · exact Std.le_trans (hlow a ha) (hhigh b hb)

lemma Holds.insert (h : ix.Holds held) {id : TrackId} (hid : held id = none) (value : α) :
    (ix.insert id value).Holds (Function.update held id (some value)) where
  sorted := sorted_insert h.sorted id value
  nodup := by
    rw [((ix.insert_perm id value).map _).nodup_iff, List.map_cons, List.nodup_cons]
    refine ⟨fun hm => ?_, h.nodup⟩
    obtain ⟨e, he, rfl⟩ := List.mem_map.mp hm
    rw [(h.mem e.1 e.2).mp he] at hid
    cases hid
  mem v i := by
    rw [(ix.insert_perm id value).mem_iff, List.mem_cons, h.mem]
    by_cases hi : i = id
    · subst hi
      simp [hid, eq_comm]
    · simp [hi]

end MusicQuery.SortedIndex
