import MusicQuery.Library.Selection
import MusicQuery.Proofs.Binary64.Order
import MusicQuery.Proofs.Index.Sorted

namespace MusicQuery

variable {α : Type}

/-- Whether a value lies on the right side of a bound, for the order seen from that bound. -/
def Bound.admits (le lt : α → α → Bool) (b : Bound α) (value : α) : Bool :=
  if b.inclusive then le b.value value else lt b.value value

def Bounds.admits (le lt : α → α → Bool) (b : Bounds α) (value : α) : Bool :=
  b.lower.all (·.admits le lt value) && b.upper.all (·.admits (fun x y => le y x) (fun x y => lt y x) value)

namespace SortedIndex

section Order

variable [LE α] [LT α] [DecidableLE α] [DecidableLT α] [Std.IsLinearOrder α] [Std.LawfulOrderLT α]
variable {ix : SortedIndex α} (h : ix.entries.Pairwise fun a b => a.1 ≤ b.1)
include h

lemma above_eq_filter (value : α) (inclusive : Bool) :
    ix.above value inclusive = ix.entries.filter fun e => if inclusive then value ≤ e.1 else value < e.1 := by
  cases inclusive with
  | true =>
    simp only [above, if_true, dropWhile_eq_filter (pairwise_lt h value)]
    exact List.filter_congr fun e _ => by simp [← Std.not_lt]
  | false =>
    simp only [above, Bool.false_eq_true, if_false, dropWhile_eq_filter (pairwise_le h value)]
    exact List.filter_congr fun e _ => by simp [← Std.not_le]

lemma below_eq_filter (value : α) (inclusive : Bool) :
    ix.below value inclusive = ix.entries.filter fun e => if inclusive then e.1 ≤ value else e.1 < value := by
  cases inclusive with
  | true => simp only [below, if_true, takeWhile_eq_filter (pairwise_le h value)]
  | false => simp only [below, Bool.false_eq_true, if_false, takeWhile_eq_filter (pairwise_lt h value)]

lemma between_eq_filter (low high : α) :
    ix.between low high = ix.entries.filter fun e => low ≤ e.1 && e.1 ≤ high := by
  have hlow : ix.entries.dropWhile (·.1 < low) = ix.entries.filter (low ≤ ·.1) := by
    simpa only [above, if_true] using above_eq_filter h low true
  rw [between, hlow, takeWhile_eq_filter (pairwise_le (h.filter _) high), List.filter_filter]
  exact List.filter_congr fun e _ => Bool.and_comm _ _

lemma within_eq_filter (bounds : Bounds α) :
    ix.within bounds = ids (ix.entries.filter fun e => bounds.admits (· ≤ ·) (· < ·) e.1) := by
  obtain ⟨lower, upper⟩ := bounds
  rw [within]
  split <;> simp only at *
  · next low high hl hu =>
    subst hl hu
    rw [between_eq_filter h]
    simp [Bounds.admits, Bound.admits]
  · next low inclusive hl hu =>
    subst hl hu
    rw [above_eq_filter h]
    cases inclusive <;> simp [Bounds.admits, Bound.admits]
  · next high inclusive hl hu =>
    subst hl hu
    rw [below_eq_filter h]
    cases inclusive <;> simp [Bounds.admits, Bound.admits]
  · next low lowInclusive high highInclusive _ hl hu =>
    subst hl hu
    rw [above_eq_filter h, List.filter_filter]
    cases lowInclusive <;> cases highInclusive <;> simp [Bounds.admits, Bound.admits, Bool.and_comm]
  · next hl hu =>
    subst hl hu
    simp [Bounds.admits]

end Order

section Numbers

open withinNumbers

lemma keyBound?_eq_none {bound : Option (Bound Binary64)} (hb : keyBound? bound = none) :
    ∃ b ∈ bound, b.value.isNaN = true := by
  cases bound with
  | none => cases hb
  | some b => exact ⟨b, rfl, NumericKey.ofNumber?_eq_none.mp (Option.map_eq_none_iff.mp hb)⟩

lemma keyBound?_admits {bound : Option (Bound Binary64)} {keyBound : Option (Bound NumericKey)}
    (hb : keyBound? bound = some keyBound) (k : NumericKey) :
    keyBound.all (·.admits (· ≤ ·) (· < ·) k) = bound.all (·.admits Binary64.le Binary64.lt k.value) ∧
      keyBound.all (·.admits (fun x y => y ≤ x) (fun x y => y < x) k) =
        bound.all (·.admits (fun x y => y.le x) (fun x y => y.lt x) k.value) := by
  cases bound with
  | none =>
    cases hb
    exact ⟨rfl, rfl⟩
  | some b =>
    obtain ⟨j, hj, rfl⟩ := Option.map_eq_some_iff.mp hb
    have hk := NumericKey.ofNumber?_value k
    cases hi : b.inclusive <;>
      simp [Bound.admits, hi, NumericKey.le_iff_le hj hk, NumericKey.lt_iff_lt hj hk, NumericKey.le_iff_le hk hj,
        NumericKey.lt_iff_lt hk hj]

lemma not_admits_nan {bounds : Bounds Binary64} {b : Bound Binary64} (hb : b ∈ bounds.lower ∨ b ∈ bounds.upper)
    (hn : b.value.isNaN = true) (value : Binary64) : bounds.admits Binary64.le Binary64.lt value = false := by
  rw [Bounds.admits, Bool.and_eq_false_iff]
  refine hb.imp (fun hl => ?_) (fun hu => ?_)
  · simp [Option.mem_def.mp hl, Bound.admits, Binary64.le, Binary64.lt, hn]
  · simp [Option.mem_def.mp hu, Bound.admits, Binary64.le, Binary64.lt, hn]

lemma withinNumbers_eq_filter {ix : SortedIndex NumericKey} (h : ix.entries.Pairwise fun a b => a.1 ≤ b.1)
    (bounds : Bounds Binary64) :
    ix.withinNumbers bounds =
      ids (ix.entries.filter fun e => bounds.admits Binary64.le Binary64.lt e.1.value) := by
  rw [withinNumbers]
  split
  · next lower upper hl hu =>
    rw [within_eq_filter h]
    refine congrArg ids (List.filter_congr fun e _ => ?_)
    rw [Bounds.admits, Bounds.admits, (keyBound?_admits hl e.1).1, (keyBound?_admits hu e.1).2]
  · next hno =>
    obtain ⟨b, hb, hn⟩ : ∃ b, (b ∈ bounds.lower ∨ b ∈ bounds.upper) ∧ b.value.isNaN = true := by
      cases hl : keyBound? bounds.lower with
      | none =>
        obtain ⟨b, hb, hn⟩ := keyBound?_eq_none hl
        exact ⟨b, Or.inl hb, hn⟩
      | some lower =>
        cases hu : keyBound? bounds.upper with
        | none =>
          obtain ⟨b, hb, hn⟩ := keyBound?_eq_none hu
          exact ⟨b, Or.inr hb, hn⟩
        | some upper => exact (hno lower upper hl hu).elim
    simp [ids, not_admits_nan hb hn]

end Numbers

end SortedIndex

end MusicQuery
