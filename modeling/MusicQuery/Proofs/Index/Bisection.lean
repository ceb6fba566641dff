import MusicQuery.Index.Bisection
import MusicQuery.Proofs.Index.Range

namespace MusicQuery

section Bisect

variable {α : Type} {p : α → Bool} {xs : List α}

lemma bisectWindow_eq {base size k : Nat} {hsize : 0 < size} {hend : base + size ≤ xs.length}
    (hk : ∀ i, (hi : i < xs.length) → (p xs[i] = true ↔ i < k)) (hlow : base ≤ k) (hhigh : k ≤ base + size) :
    bisectWindow p xs base size hsize hend = k := by
  fun_induction bisectWindow p xs base size hsize hend with
  | case1 base hsize hend hp =>
    have hlt := (hk base _).mp hp
    omega
  | case2 base hsize hend hp =>
    have hnlt := mt (hk base _).mpr hp
    omega
  | case3 base size hsize hend hne hp ih =>
    have hlt := (hk (base + size / 2) _).mp hp
    exact ih (by omega) (by omega)
  | case4 base size hsize hend hne hp ih =>
    have hnlt := mt (hk (base + size / 2) _).mpr hp
    exact ih (by omega) (by omega)

lemma getElem_iff_lt_takeWhile (h : xs.Pairwise fun a b => p b = true → p a = true) (i : Nat) (hi : i < xs.length) :
    p xs[i] = true ↔ i < (xs.takeWhile p).length := by
  induction xs generalizing i with
  | nil => exact absurd hi (Nat.not_lt_zero i)
  | cons a xs ih =>
    obtain ⟨ha, hxs⟩ := List.pairwise_cons.mp h
    by_cases hp : p a = true
    · cases i with
      | zero => simp [hp]
      | succ i => simpa [hp] using ih hxs i (by simpa using hi)
    · have hnot : ¬ p (a :: xs)[i] = true := by
        cases i with
        | zero => exact hp
        | succ i => exact fun hpi => hp (ha _ (List.getElem_mem _) hpi)
      simp [hp, hnot]

lemma bisect_eq (h : xs.Pairwise fun a b => p b = true → p a = true) : bisect p xs = (xs.takeWhile p).length := by
  have hle : (xs.takeWhile p).length ≤ xs.length := (List.takeWhile_sublist p).length_le
  rw [bisect]
  split
  · exact bisectWindow_eq (getElem_iff_lt_takeWhile h) (Nat.zero_le _) (by omega)
  · omega

section Front

variable (h : xs.Pairwise fun a b => p b = true → p a = true)
include h

lemma bisect_le : bisect p xs ≤ xs.length := by
  rw [bisect_eq h]
  exact (List.takeWhile_sublist p).length_le

lemma take_bisect : xs.take (bisect p xs) = xs.takeWhile p := by
  rw [bisect_eq h]
  exact (List.prefix_iff_eq_take.mp (List.takeWhile_prefix p)).symm

lemma drop_bisect : xs.drop (bisect p xs) = xs.dropWhile p := by
  have happend := (List.take_append_drop (bisect p xs) xs).trans (List.takeWhile_append_dropWhile (p := p)).symm
  rw [take_bisect h] at happend
  exact List.append_cancel_left happend

lemma takeWhile_drop (n : Nat) : (xs.drop n).takeWhile p = (xs.takeWhile p).drop n := by
  induction xs generalizing n with
  | nil => simp
  | cons a xs ih =>
    obtain ⟨ha, hxs⟩ := List.pairwise_cons.mp h
    cases n with
    | zero => rfl
    | succ n =>
      by_cases hp : p a = true
      · simpa [hp] using ih hxs n
      · have hnone : (xs.drop n).filter p = [] :=
          List.filter_eq_nil_iff.mpr fun b hb hpb => hp (ha b (List.mem_of_mem_drop hb) hpb)
        rw [List.drop_succ_cons, takeWhile_eq_filter (hxs.sublist (List.drop_sublist n xs)), hnone]
        simp [hp]

end Front

end Bisect

namespace SortedIndex

variable {α : Type}

lemma checkedErase?_eq (ix : SortedIndex α) (id : TrackId) :
    ix.checkedErase? id = some (ix.get? id, ix.erase id) := by
  rw [checkedErase?, get?, erase, List.find?_eq_bind_findIdx?_getElem?, List.eraseP_eq_eraseIdx]
  cases hplace : ix.entries.findIdx? (·.2 = id) with
  | none => rfl
  | some place =>
    obtain ⟨hlt, -⟩ := List.findIdx?_eq_some_iff_getElem.mp hplace
    simp [List.getElem?_eq_getElem hlt]

variable [LE α] [LT α] [DecidableLE α] [DecidableLT α]

section Places

variable [Std.IsLinearOrder α] [Std.LawfulOrderLT α] {ix : SortedIndex α}
variable (h : ix.entries.Pairwise fun a b => a.1 ≤ b.1)
include h

lemma cut_le (value : α) (upTo : Bool) : ix.cut value upTo ≤ ix.entries.length := by
  cases upTo with
  | true => exact bisect_le (pairwise_le h value)
  | false => exact bisect_le (pairwise_lt h value)

lemma drop_cut (value : α) (upTo : Bool) : ix.entries.drop (ix.cut value upTo) = ix.above value !upTo := by
  cases upTo with
  | true => exact drop_bisect (pairwise_le h value)
  | false => exact drop_bisect (pairwise_lt h value)

lemma take_cut (value : α) (upTo : Bool) : ix.entries.take (ix.cut value upTo) = ix.below value upTo := by
  cases upTo with
  | true => exact take_bisect (pairwise_le h value)
  | false => exact take_bisect (pairwise_lt h value)

lemma checkedAbove?_eq (value : α) (inclusive : Bool) :
    ix.checkedAbove? value inclusive = some (ix.above value inclusive) := by
  rw [checkedAbove?, slice?, if_pos ⟨cut_le h value _, Nat.le_refl _⟩, List.take_length, drop_cut h, Bool.not_not]

lemma checkedBelow?_eq (value : α) (inclusive : Bool) :
    ix.checkedBelow? value inclusive = some (ix.below value inclusive) := by
  rw [checkedBelow?, slice?, if_pos ⟨Nat.zero_le _, cut_le h value _⟩, List.drop_zero, take_cut h]

lemma checkedBetween?_eq (low high : α) : ix.checkedBetween? low high = some (ix.between low high) := by
  have hbetween : ix.between low high = (ix.entries.take (ix.cut high true)).drop (ix.cut low false) := by
    rw [take_cut h]
    show (ix.above low true).takeWhile (·.1 ≤ high) = (ix.entries.takeWhile (·.1 ≤ high)).drop (ix.cut low false)
    rw [← takeWhile_drop (pairwise_le h high), drop_cut h, Bool.not_false]
  rw [hbetween, checkedBetween?]
  split
  · next hle =>
    have hnil : (ix.entries.take (ix.cut high true)).drop (ix.cut low false) = [] :=
      List.drop_eq_nil_of_le (Nat.le_trans (List.length_take_le _ _) hle)
    rw [hnil]
  · next hlt => rw [slice?, if_pos ⟨by omega, cut_le h high true⟩]

lemma checkedInsert?_eq (id : TrackId) (value : α) : ix.checkedInsert? id value = some (ix.insert id value) := by
  have happend := List.take_append_drop (ix.cut value true) ix.entries
  have hlength : (ix.entries.take (ix.cut value true)).length = ix.cut value true :=
    List.length_take_of_le (cut_le h value true)
  have hinsert := List.modifyTailIdx_add (List.cons (value, id)) 0 (ix.entries.take (ix.cut value true))
    (ix.entries.drop (ix.cut value true))
  rw [happend, hlength, take_cut h, drop_cut h] at hinsert
  rw [checkedInsert?, if_pos (cut_le h value true)]
  exact congrArg (fun entries => some (SortedIndex.mk entries)) hinsert

end Places

end SortedIndex

end MusicQuery
