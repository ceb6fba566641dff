import Mathlib.Tactic.Lemma
import MusicQuery.Live.Board

namespace MusicQuery

namespace Uuid

variable {a b c : Uuid}

lemma lt_trans (hab : a < b) (hbc : b < c) : a < c := BitVec.lt_trans hab hbc

lemma ne_of_lt (h : a < b) : a ≠ b := by
  rintro rfl
  exact BitVec.lt_irrefl _ h

lemma lt_of_not_lt (h : ¬ a < b) (hne : a ≠ b) : b < a := by
  have hle : b.value ≤ a.value := BitVec.not_lt.mp h
  refine BitVec.lt_of_le_ne hle fun he => hne ?_
  cases a
  cases b
  exact congrArg Uuid.mk he.symm

end Uuid

namespace Board

variable {b : Board} {l : LiveList} {id : Uuid}

def Ascending (b : Board) : Prop := b.Pairwise fun x y => x.id < y.id

lemma mem_insert {x : LiveList} (h : x ∈ b.insert l) : x = l ∨ x ∈ b := by
  induction b with
  | nil => exact Or.inl (List.mem_singleton.mp h)
  | cons y ys ih =>
    rw [insert] at h
    split at h
    · exact List.mem_cons.mp h
    · split at h
      · exact (List.mem_cons.mp h).imp_right (List.mem_cons_of_mem y)
      · rcases List.mem_cons.mp h with rfl | hm
        · exact Or.inr List.mem_cons_self
        · exact (ih hm).imp_right (List.mem_cons_of_mem y)

lemma Ascending.insert (h : b.Ascending) (l : LiveList) : Ascending (b.insert l) := by
  induction b with
  | nil => exact List.pairwise_singleton _ l
  | cons y ys ih =>
    obtain ⟨hy, hys⟩ := List.pairwise_cons.mp h
    rw [Board.insert]
    split
    · next hlt =>
      refine List.pairwise_cons.mpr ⟨fun x hx => ?_, h⟩
      rcases List.mem_cons.mp hx with rfl | hm
      · exact hlt
      · exact Uuid.lt_trans hlt (hy x hm)
    · next hlt =>
      split
      · next heq => exact List.pairwise_cons.mpr ⟨fun x hx => heq ▸ hy x hx, hys⟩
      · next hne =>
        refine List.pairwise_cons.mpr ⟨fun x hx => ?_, ih hys⟩
        rcases mem_insert hx with rfl | hm
        · exact Uuid.lt_of_not_lt hlt hne
        · exact hy x hm

lemma Ascending.erase (h : b.Ascending) (id : Uuid) : Ascending (b.erase id) := h.filter _

lemma Ascending.map {f : LiveList → LiveList} (h : b.Ascending) (hf : ∀ l, (f l).id = l.id) :
    Ascending (b.map f) :=
  List.pairwise_map.mpr (h.imp fun hxy => by rwa [hf, hf])

lemma find?_cons (l : LiveList) (b : Board) (id : Uuid) :
    Board.find? (l :: b) id = if l.id = id then some l else b.find? id := by
  by_cases h : l.id = id <;> simp [find?, h]

lemma find?_id (h : b.find? id = some l) : l.id = id := by
  simpa using List.find?_some h

lemma find?_insert (b : Board) (l : LiveList) (id : Uuid) :
    (b.insert l).find? id = if l.id = id then some l else b.find? id := by
  induction b with
  | nil => exact find?_cons l [] id
  | cons y ys ih =>
    rw [insert]
    split
    · exact find?_cons l (y :: ys) id
    · split
      · next heq =>
        rw [find?_cons, find?_cons, heq]
        split <;> rfl
      · next hne =>
        rw [find?_cons, find?_cons, ih]
        by_cases hy : y.id = id
        · have hl : ¬ l.id = id := fun hl => hne (hl.trans hy.symm)
          rw [if_pos hy, if_neg hl, if_pos hy]
        · rw [if_neg hy, if_neg hy]

lemma find?_erase (b : Board) (id i : Uuid) : (b.erase id).find? i = if i = id then none else b.find? i := by
  rw [find?, erase, List.find?_filter]
  split
  · next hi =>
    subst hi
    simp
  · next hi =>
    rw [find?]
    congr 1
    funext l
    by_cases hl : l.id = i <;> simp [hl, hi]

lemma find?_map {f : LiveList → LiveList} (hf : ∀ l, (f l).id = l.id) (b : Board) (id : Uuid) :
    Board.find? (b.map f) id = (b.find? id).map f := by
  have hp : ((fun l : LiveList => decide (l.id = id)) ∘ f) = fun l => decide (l.id = id) := by
    funext l
    simp only [Function.comp, hf]
  rw [find?, List.find?_map, hp, find?]

lemma Ascending.filter_news (h : b.Ascending) (news : LiveList → Option Update)
    (hnews : ∀ l u, news l = some u → u.playlist = l.id) (id : Uuid) :
    (b.filterMap news).filter (·.playlist = id) = ((b.find? id).bind news).toList := by
  induction b with
  | nil => rfl
  | cons y ys ih =>
    obtain ⟨hy, hys⟩ := List.pairwise_cons.mp h
    have hcons : (y :: ys).filterMap news = (news y).toList ++ ys.filterMap news := by
      cases hn : news y <;> simp [hn]
    have hhead : (news y).toList.filter (·.playlist = id) = if y.id = id then (news y).toList else [] := by
      cases hn : news y with
      | none => simp
      | some u =>
        have hu := hnews y u hn
        by_cases hid : y.id = id <;> simp [hu, hid]
    rw [hcons, List.filter_append, hhead, ih hys, find?_cons]
    by_cases hid : y.id = id
    · have hnone : Board.find? ys id = none := by
        refine List.find?_eq_none.mpr fun x hx => ?_
        have hne := Uuid.ne_of_lt (hy x hx)
        simpa [hid] using hne.symm
      rw [if_pos hid, if_pos hid, hnone]
      exact List.append_nil _
    · rw [if_neg hid, if_neg hid, List.nil_append]

lemma Ascending.pairwise_news (h : b.Ascending) {news : LiveList → Option Update}
    (hnews : ∀ l u, news l = some u → u.playlist = l.id) :
    ((b.filterMap news).map (·.playlist)).Pairwise (· < ·) := by
  rw [List.pairwise_map, List.pairwise_filterMap]
  refine h.imp fun hxy u hu v hv => ?_
  rwa [hnews _ u hu, hnews _ v hv]

end Board

end MusicQuery
