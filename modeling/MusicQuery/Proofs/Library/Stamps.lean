import Mathlib.Data.List.Induction
import MusicQuery.Proofs.Library.History

namespace MusicQuery

lemma Shelf.mem_editions_insert {s : Shelf} {d e : Edition} (h : d ∈ (s.insert e).editions) :
    d = e ∨ d ∈ s.editions := by
  cases hg : s.get? e.track.id with
  | none =>
    rw [editions_insert_of_absent hg, List.mem_append, List.mem_singleton] at h
    exact h.symm
  | some old =>
    rw [editions_insert_of_get? hg] at h
    obtain ⟨c, hc, rfl⟩ := List.mem_map.mp h
    split
    · exact Or.inl rfl
    · exact Or.inr hc

lemma Shelf.mem_editions_foldl_insert {s : Shelf} {es : List Edition} {d : Edition}
    (h : d ∈ (es.foldl Shelf.insert s).editions) : d ∈ es ∨ d ∈ s.editions := by
  induction es generalizing s with
  | nil => exact Or.inr h
  | cons e es ih =>
    rcases ih h with hm | hm
    · exact Or.inl (List.mem_cons_of_mem e hm)
    · rcases mem_editions_insert hm with rfl | hold
      · exact Or.inl List.mem_cons_self
      · exact Or.inr hold

namespace Library

def Stamped (l : Library) : Prop := ∀ e ∈ l.shelf.editions, e.stamp < l.stamps

lemma stamp_stampAll {n : Nat} {ts : List Track} {e : Edition} (h : e ∈ stampAll n ts) : e.stamp < n + ts.length := by
  induction ts generalizing n with
  | nil => cases h
  | cons t ts ih =>
    rw [List.length_cons]
    rcases List.mem_cons.mp h with rfl | hm
    · exact Nat.lt_add_of_pos_right (Nat.succ_pos _)
    · have htail := ih hm
      omega

variable {l : Library}

lemma Stamped.insert (h : l.Stamped) (t : Track) : (l.insert t).Stamped := by
  intro e he
  rcases Shelf.mem_editions_insert he with rfl | hm
  · exact Nat.lt_succ_self l.stamps
  · exact Nat.lt_succ_of_lt (h e hm)

lemma Stamped.erase (h : l.Stamped) (id : TrackId) : (l.erase id).Stamped := by
  cases hg : l.get? id with
  | none => rwa [erase_of_absent hg]
  | some old =>
    rw [erase_of_get? hg]
    intro e he
    rw [Shelf.editions_erase] at he
    exact h e (List.mem_of_mem_filter he)

lemma stamped_replaceAll (l : Library) (ts : List Track) : (l.replaceAll ts).Stamped := by
  intro e he
  rcases Shelf.mem_editions_foldl_insert he with hm | hm
  · exact stamp_stampAll hm
  · cases hm

lemma Stamped.apply (h : l.Stamped) (edit : Edit) : (l.apply edit).Stamped := by
  cases edit with
  | insert t => exact h.insert t
  | erase id => exact h.erase id
  | replaceAll ts => exact stamped_replaceAll l ts

lemma stamped_run (edits : List Edit) : (run edits).Stamped := by
  induction edits using List.reverseRecOn with
  | nil => exact fun _ he => nomatch he
  | append_singleton edits edit ih =>
    rw [run, List.foldl_append]
    exact Stamped.apply ih edit

lemma Stamped.edition_not_mem (h : l.Stamped) (t : Track) : l.edition t ∉ l.shelf.editions :=
  fun hm => Nat.lt_irrefl _ (h _ hm)

end Library

end MusicQuery
