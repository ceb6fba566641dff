import Mathlib.Logic.ExistsUnique
import MusicQuery.Proofs.Arrangement

namespace MusicQuery

section Levels

variable {α : Type} {le : α → α → Bool} {xs ys zs : List α}

def isLevel (le : α → α → Bool) (a b : α) : Bool := le a b && le b a

/-- A list in order, in which things that are level stand as they stood before. -/
structure IsStableSort (le : α → α → Bool) (xs ys : List α) : Prop where
  perm : ys.Perm xs
  ordered : ys.Pairwise fun a b => le a b = true
  levels : ∀ t ∈ xs, ys.filter (isLevel le t) = xs.filter (isLevel le t)

lemma filter_tail_eq {p : α → Bool} {a : α} (h : (a :: xs).filter p = (a :: ys).filter p) :
    xs.filter p = ys.filter p := by
  cases hp : p a with
  | false => rwa [List.filter_cons_of_neg (by simp [hp]), List.filter_cons_of_neg (by simp [hp])] at h
  | true =>
    rw [List.filter_cons_of_pos hp, List.filter_cons_of_pos hp] at h
    exact List.tail_eq_of_cons_eq h

lemma eq_of_levels (hrefl : ∀ a, le a a = true) (hp : ys.Perm zs) (hy : ys.Pairwise fun a b => le a b = true)
    (hz : zs.Pairwise fun a b => le a b = true)
    (hl : ∀ t ∈ ys, ys.filter (isLevel le t) = zs.filter (isLevel le t)) : ys = zs := by
  induction ys generalizing zs with
  | nil => exact hp.nil_eq
  | cons y ys ih =>
    cases zs with
    | nil => exact hp.eq_nil
    | cons z zs =>
      obtain ⟨hyle, hys⟩ := List.pairwise_cons.mp hy
      obtain ⟨hzle, hzs⟩ := List.pairwise_cons.mp hz
      have hyz : le y z = true := by
        rcases List.mem_cons.mp (hp.mem_iff.mpr List.mem_cons_self) with rfl | hm
        · exact hrefl z
        · exact hyle z hm
      have hzy : le z y = true := by
        rcases List.mem_cons.mp (hp.mem_iff.mp List.mem_cons_self) with rfl | hm
        · exact hrefl y
        · exact hzle y hm
      -- The heads are level, so each is the first of its level.
      have hheads := hl y List.mem_cons_self
      rw [List.filter_cons_of_pos (by simp [isLevel, hrefl]), List.filter_cons_of_pos (by simp [isLevel, hyz, hzy])]
        at hheads
      obtain rfl : y = z := List.head_eq_of_cons_eq hheads
      rw [ih hp.cons_inv hys hzs fun t ht => filter_tail_eq (hl t (List.mem_cons_of_mem y ht))]

lemma IsStableSort.unique (hrefl : ∀ a, le a a = true) (hy : IsStableSort le xs ys) (hz : IsStableSort le xs zs) :
    ys = zs := by
  refine eq_of_levels hrefl (hy.perm.trans hz.perm.symm) hy.ordered hz.ordered fun t ht => ?_
  have htx := hy.perm.mem_iff.mp ht
  rw [hy.levels t htx, hz.levels t htx]

lemma IsStableSort.filter_isLevel (htrans : ∀ a b c, le a b = true → le b c = true → le a c = true)
    (h : IsStableSort le xs ys) (t : α) : ys.filter (isLevel le t) = xs.filter (isLevel le t) := by
  by_cases hlevel : ∃ a ∈ xs, isLevel le t a = true
  · obtain ⟨a, ha, hta⟩ := hlevel
    obtain ⟨hta, hat⟩ := Bool.and_eq_true_iff.mp hta
    have hsame : isLevel le t = isLevel le a := by
      funext b
      rw [isLevel, isLevel, Bool.eq_iff_iff, Bool.and_eq_true, Bool.and_eq_true]
      exact ⟨fun hb => ⟨htrans a t b hat hb.1, htrans b t a hb.2 hta⟩,
        fun hb => ⟨htrans t a b hta hb.1, htrans b a t hb.2 hat⟩⟩
    rw [hsame, h.levels a ha]
  · have hxs : xs.filter (isLevel le t) = [] :=
      List.filter_eq_nil_iff.mpr fun a ha hta => hlevel ⟨a, ha, hta⟩
    have hperm := h.perm.filter (isLevel le t)
    rw [hxs] at hperm ⊢
    exact hperm.eq_nil

lemma IsStableSort.erase [BEq α] [LawfulBEq α] (h : IsStableSort le xs ys) (a : α) :
    IsStableSort le (xs.erase a) (ys.erase a) where
  perm := h.perm.erase a
  ordered := h.ordered.sublist List.erase_sublist
  levels t ht := by rw [← List.erase_filter, ← List.erase_filter, h.levels t (List.mem_of_mem_erase ht)]

lemma isStableSort_mergeSort (htrans : ∀ a b c, le a b = true → le b c = true → le a c = true)
    (htotal : ∀ a b, (le a b || le b a) = true) (xs : List α) : IsStableSort le xs (xs.mergeSort le) where
  perm := xs.mergeSort_perm le
  ordered := List.pairwise_mergeSort htrans htotal xs
  levels t _ := by
    -- Level things are an ordered part of the list, and the sort keeps such parts.
    have hpart : (xs.filter (isLevel le t)).Pairwise fun a b => le a b = true := by
      refine List.pairwise_of_forall_mem_list fun a ha b hb => ?_
      have hat := (Bool.and_eq_true_iff.mp (List.mem_filter.mp ha).2).2
      have htb := (Bool.and_eq_true_iff.mp (List.mem_filter.mp hb).2).1
      exact htrans a t b hat htb
    have hsub : (xs.filter (isLevel le t)).Sublist ((xs.mergeSort le).filter (isLevel le t)) := by
      have h := (List.sublist_mergeSort htrans htotal hpart List.filter_sublist).filter (isLevel le t)
      rwa [List.filter_filter, funext fun a => Bool.and_self _] at h
    exact (hsub.eq_of_length ((xs.mergeSort_perm le).symm.filter _).length_eq).symm

end Levels

namespace Binary64

/-- Whether a number may stand before another. They stand by their values, to which the sign of a zero is nothing,
or in the total order of the quiet numbers if one of them is NaN. -/
def mayPrecede (x y : Binary64) : Bool :=
  if x.isNaN || y.isNaN then x.addZero.totalRank ≤ y.addZero.totalRank else x.le y

lemma mayPrecede_iff {x y : Binary64} : x.mayPrecede y = true ↔ x.addZero.totalRank ≤ y.addZero.totalRank := by
  rw [mayPrecede]
  split
  · exact decide_eq_true_iff
  · next h =>
    obtain ⟨hx, hy⟩ : x.isNaN = false ∧ y.isNaN = false := by simpa using h
    rw [totalRank_le_iff (addZero_addZero x hx) (addZero_addZero y hy), rank_addZero hx, rank_addZero hy]
    simp [le, hx, hy]

end Binary64

namespace Track

/-- Whether a track may stand before another in the rising order of a field: by the text in lower case, a missing one
being empty, by the date, a missing one being the earliest, or by the number, a missing one being zero. -/
def mayPrecede (f : Field) (a b : Track) : Bool :=
  match f.kind with
  | .text => !(Text.lower ((b.text f).getD "").toList < Text.lower ((a.text f).getD "").toList)
  | .date => (a.date f).all fun i => (b.date f).any fun j => i ≤ j
  | .number => ((a.number f).getD .zero).mayPrecede ((b.number f).getD .zero)

variable {f : Field} {a b c : Track}

lemma mayPrecede_iff_le_key : a.mayPrecede f b = true ↔ (SortKey.ofTrack f a).le (SortKey.ofTrack f b) = true := by
  unfold mayPrecede SortKey.ofTrack
  cases f.kind with
  | text => exact Iff.rfl
  | date =>
    simp only [SortKey.le]
    cases a.date f <;> cases b.date f <;> simp [SortKey.dateLe]
  | number => exact Binary64.mayPrecede_iff.trans decide_eq_true_iff.symm

lemma mayPrecede_trans (hab : a.mayPrecede f b = true) (hbc : b.mayPrecede f c = true) : a.mayPrecede f c = true := by
  unfold mayPrecede at *
  cases hf : f.kind with
  | text =>
    simp only [hf, Bool.not_eq_true', decide_eq_false_iff_not, List.not_lt] at *
    exact List.le_trans hab hbc
  | date =>
    simp only [hf, Option.all_eq_true, Option.any_eq_true, decide_eq_true_eq] at *
    intro i hi
    obtain ⟨j, hj, hij⟩ := hab i hi
    obtain ⟨k, hk, hjk⟩ := hbc j hj
    exact ⟨k, hk, Instant.le_trans hij hjk⟩
  | number =>
    simp only [hf, Binary64.mayPrecede_iff] at *
    exact Int.le_trans hab hbc

lemma mayPrecede_total (f : Field) (a b : Track) : a.mayPrecede f b = true ∨ b.mayPrecede f a = true := by
  unfold mayPrecede
  cases f.kind with
  | text =>
    simp only [Bool.not_eq_true', decide_eq_false_iff_not, List.not_lt]
    exact List.le_total (Text.lower ((a.text f).getD "").toList) (Text.lower ((b.text f).getD "").toList)
  | date =>
    cases ha : a.date f with
    | none => exact Or.inl rfl
    | some i =>
      cases hb : b.date f with
      | none => exact Or.inr rfl
      | some j => simpa using Instant.le_total i j
  | number =>
    simp only [Binary64.mayPrecede_iff]
    exact Int.le_total _ _

end Track

namespace Sorting

variable {α : Type} {s : Sorting} {f : Field}

def mayPrecede (s : Sorting) (a b : Track) : Bool :=
  s.field.field.all fun f => if s.ascending then a.mayPrecede f b else b.mayPrecede f a

lemma mayPrecede_of_field (hf : s.field.field = some f) (a b : Track) :
    s.mayPrecede a b = s.keyLe (SortKey.ofTrack f a) (SortKey.ofTrack f b) := by
  rw [mayPrecede, hf, Option.all_some, keyLe]
  cases s.ascending with
  | true => exact Bool.eq_iff_iff.mpr Track.mayPrecede_iff_le_key
  | false => exact Bool.eq_iff_iff.mpr Track.mayPrecede_iff_le_key

lemma mayPrecede_trans (s : Sorting) (a b c : Track) (hab : s.mayPrecede a b = true) (hbc : s.mayPrecede b c = true) :
    s.mayPrecede a c = true := by
  simp only [mayPrecede] at *
  cases hf : s.field.field with
  | none => rfl
  | some f =>
    simp only [hf, Option.all_some] at *
    cases hs : s.ascending with
    | true =>
      simp only [hs, if_true] at *
      exact Track.mayPrecede_trans hab hbc
    | false =>
      simp only [hs, Bool.false_eq_true, if_false] at *
      exact Track.mayPrecede_trans hbc hab

lemma mayPrecede_total (s : Sorting) (a b : Track) : (s.mayPrecede a b || s.mayPrecede b a) = true := by
  rw [Bool.or_eq_true]
  simp only [mayPrecede]
  cases s.field.field with
  | none => exact Or.inl rfl
  | some f =>
    simp only [Option.all_some]
    split
    · exact Track.mayPrecede_total f a b
    · exact Track.mayPrecede_total f b a

lemma mayPrecede_refl (s : Sorting) (a : Track) : s.mayPrecede a a = true := by
  simpa using s.mayPrecede_total a a

def Arranges (s : Sorting) (track : α → Track) : List α → List α → Prop :=
  IsStableSort fun a b => s.mayPrecede (track a) (track b)

lemma arranges_sort (hf : s.field.field = some f) (track : α → Track) (xs : List α) :
    s.Arranges track xs (s.sort track f xs) := by
  have hle : (fun a b : α => s.keyLe (SortKey.ofTrack f (track a)) (SortKey.ofTrack f (track b))) =
      fun a b => s.mayPrecede (track a) (track b) :=
    funext₂ fun a b => (mayPrecede_of_field hf (track a) (track b)).symm
  rw [Arranges, sort, hle]
  apply isStableSort_mergeSort
  · exact fun a b c => s.mayPrecede_trans (track a) (track b) (track c)
  · exact fun a b => s.mayPrecede_total (track a) (track b)

end Sorting

lemma limited_eq_take {α : Type} (limit : Option UInt64) (xs : List α) :
    limited limit xs = xs.take (limit.elim xs.length fun n => min n.toNat xs.length) := by
  cases limit with
  | none => exact xs.take_length.symm
  | some n => exact List.take_eq_take_min

namespace Query

variable {α : Type}

theorem finish_stable (shuffle : Shuffle) (track : α → Track) (xs : List α) :
    (∀ s : Sorting, s.isRandom = false →
      (∃! ys, s.Arranges track xs ys) ∧
      ∀ (limit : Option UInt64) (ys : List α), s.Arranges track xs ys →
        finish shuffle track (some s) limit xs = ys.take (limit.elim xs.length fun n => min n.toNat xs.length)) ∧
    (∀ limit : Option UInt64,
      finish shuffle track none limit xs = xs.take (limit.elim xs.length fun n => min n.toNat xs.length)) ∧
    ∀ s : Sorting, s.isRandom = true → (finish shuffle track (some s) none xs).Perm xs := by
  refine ⟨fun s hs => ?_, fun limit => limited_eq_take limit xs, fun s _ => Sorting.arrange_perm shuffle track s xs⟩
  obtain ⟨f, hf⟩ := Sorting.field_of_not_random hs
  have hsort := Sorting.arranges_sort hf track xs
  have hone {ys} (hys : s.Arranges track xs ys) : ys = s.sort track f xs :=
    hys.unique (fun a => s.mayPrecede_refl _) hsort
  refine ⟨⟨_, hsort, fun ys hys => hone hys⟩, fun limit ys hys => ?_⟩
  have harrange : Sorting.arrange shuffle track (some s) xs = ys := by
    simp only [Sorting.arrange, hf]
    exact (hone hys).symm
  rw [finish, harrange, limited_eq_take, hys.perm.length_eq]

/-- From the longest track down the zeros and the missing length are level, and the two NaNs are at the two ends. -/
theorem finish_stable_level_zeros :
    let track (id : TrackId) (duration : Option Binary64) : Track := { id, duration }
    let xs := [track 1 (some Binary64.nan.neg), track 2 (some .negativeZero), track 3 (some .nan), track 4 none,
      track 5 (some .infinity), track 6 (some .zero)]
    let falling : Sorting := ⟨.duration, false⟩
    let random : Sorting := ⟨.random, true⟩
    let reversed : Shuffle := ⟨List.reverse, List.reverse_perm⟩
    falling.isRandom = false ∧ random.isRandom = true ∧
      (finish reversed id (some falling) (some 4) xs).map (·.id) = [3, 5, 2, 4] ∧
      (finish reversed id (some random) none xs).Perm xs := by
  intro track xs falling random reversed
  have hstable : falling.Arranges id xs [track 3 (some .nan), track 5 (some .infinity), track 2 (some .negativeZero),
      track 4 none, track 6 (some .zero), track 1 (some Binary64.nan.neg)] :=
    ⟨by decide, by decide, by decide⟩
  obtain ⟨hsorted, -, hshuffled⟩ := finish_stable reversed id xs
  refine ⟨rfl, rfl, ?_, hshuffled random rfl⟩
  rw [(hsorted falling rfl).2 (some 4) _ hstable]
  rfl

end Query

end MusicQuery
