import MusicQuery.Proofs.Index.Bisection
import MusicQuery.Proofs.StableOrder

namespace MusicQuery.SortedIndex

variable {α : Type} {ix : SortedIndex α}

section First

lemma ne_of_not_mem_ids {entries : List (α × TrackId)} {id : TrackId} (hid : id ∉ ids entries) :
    ∀ e ∈ entries, ¬ decide (e.2 = id) = true := by
  intro e he heq
  exact hid (List.mem_map.mpr ⟨e, he, of_decide_eq_true heq⟩)

lemma erase_of_first {before after : List (α × TrackId)} {value : α} {id : TrackId}
    (h : ix.entries = before ++ (value, id) :: after) (hid : id ∉ ids before) :
    ix.get? id = some value ∧ (ix.erase id).entries = before ++ after := by
  have hbefore := ne_of_not_mem_ids hid
  constructor
  · rw [get?, h, List.find?_append, List.find?_eq_none.mpr hbefore]
    simp
  · rw [erase, h, List.eraseP_append_right _ hbefore, List.eraseP_cons_of_pos (by simp)]

lemma erase_of_absent {id : TrackId} (hid : id ∉ ids ix.entries) : ix.get? id = none ∧ ix.erase id = ix := by
  have hall := ne_of_not_mem_ids hid
  rw [get?, erase, List.find?_eq_none.mpr hall, List.eraseP_of_forall_not hall]
  exact ⟨rfl, rfl⟩

lemma eraseP_eq_erase [DecidableEq α] {entries : List (α × TrackId)} {id : TrackId} {e : α × TrackId}
    (he : entries.find? (·.2 = id) = some e) : entries.eraseP (·.2 = id) = entries.erase e := by
  obtain ⟨hid, before, after, rfl, hbefore⟩ := List.find?_eq_some_iff_append.mp he
  have hnot : e ∉ before := fun hm => by simpa [hid] using hbefore e hm
  rw [List.eraseP_append_right _ (by simpa using hbefore), List.erase_append_right _ hnot, List.erase_cons_head,
    List.eraseP_cons_of_pos (by simpa using hid)]

end First

inductive Call (α : Type) where
  | insert (id : TrackId) (value : α)
  | erase (id : TrackId)
  | clear

variable [LE α] [DecidableLE α]

def apply (ix : SortedIndex α) : Call α → SortedIndex α
  | .insert id value => ix.insert id value
  | .erase id => ix.erase id
  | .clear => empty

def run (calls : List (Call α)) : SortedIndex α := calls.foldl apply empty

def valueLe (a b : α × TrackId) : Bool := a.1 ≤ b.1

lemma below_append_above [LT α] [DecidableLT α] (ix : SortedIndex α) (value : α) :
    ix.below value false ++ ix.above value true = ix.entries := by
  simp only [below, above, Bool.false_eq_true, if_false, if_true]
  exact List.takeWhile_append_dropWhile

lemma sorted_of_isStableSort {live : List (α × TrackId)} (h : IsStableSort valueLe live ix.entries) :
    ix.entries.Pairwise fun a b => a.1 ≤ b.1 :=
  h.ordered.imp of_decide_eq_true

variable [Std.IsLinearOrder α]

lemma valueLe_refl (a : α × TrackId) : valueLe a a = true := decide_eq_true (Std.le_refl a.1)

lemma valueLe_trans (a b c : α × TrackId) (hab : valueLe a b = true) (hbc : valueLe b c = true) :
    valueLe a c = true :=
  decide_eq_true (Std.le_trans (of_decide_eq_true hab) (of_decide_eq_true hbc))

lemma valueLe_total (a b : α × TrackId) : (valueLe a b || valueLe b a) = true := by
  simpa [valueLe] using Std.le_total (a := a.1) (b := b.1)

lemma isLevel_iff {a b : α × TrackId} : isLevel valueLe a b = true ↔ a.1 = b.1 := by
  simp only [isLevel, valueLe, Bool.and_eq_true, decide_eq_true_eq]
  constructor
  · rintro ⟨hab, hba⟩
    exact Std.le_antisymm hab hba
  · intro heq
    rw [heq]
    exact ⟨Std.le_refl _, Std.le_refl _⟩

lemma isStableSort_insert {live : List (α × TrackId)} (h : IsStableSort valueLe live ix.entries) (id : TrackId)
    (value : α) : IsStableSort valueLe (live ++ [(value, id)]) (ix.insert id value).entries where
  perm := (ix.insert_perm id value).trans ((h.perm.cons _).trans (List.perm_append_singleton _ _).symm)
  ordered := (sorted_insert (sorted_of_isStableSort h) id value).imp decide_eq_true
  levels t _ := by
    have hparts : ix.entries.filter (isLevel valueLe t) =
        (ix.entries.takeWhile (·.1 ≤ value)).filter (isLevel valueLe t) ++
          (ix.entries.dropWhile (·.1 ≤ value)).filter (isLevel valueLe t) := by
      rw [← List.filter_append, List.takeWhile_append_dropWhile]
    rw [List.filter_append, ← h.filter_isLevel valueLe_trans t, SortedIndex.insert, List.filter_append, hparts]
    by_cases heq : isLevel valueLe t (value, id) = true
    · -- Equal values stand in front of the new one, so nothing behind it is level with it.
      have hbehind : (ix.entries.dropWhile (·.1 ≤ value)).filter (isLevel valueLe t) = [] := by
        rw [dropWhile_eq_filter (pairwise_le (sorted_of_isStableSort h) value)]
        refine List.filter_eq_nil_iff.mpr fun e he hte => ?_
        have hlt : ¬ e.1 ≤ value := by simpa using (List.mem_filter.mp he).2
        exact hlt (Std.le_of_eq ((isLevel_iff.mp hte).symm.trans (isLevel_iff.mp heq)))
      rw [List.filter_cons_of_pos heq, hbehind, List.append_nil, List.filter_cons_of_pos heq, List.filter_nil]
    · rw [List.filter_cons_of_neg heq, List.filter_cons_of_neg heq, List.filter_nil, List.append_nil]

section Arrivals

variable [DecidableEq α] {live : List (α × TrackId)}

/-- What is there in the order of arrival. A track that leaves takes with it the first of its entries by value. -/
def arrive (live : List (α × TrackId)) : Call α → List (α × TrackId)
  | .insert id value => live ++ [(value, id)]
  | .erase id => ((live.mergeSort valueLe).find? (·.2 = id)).elim live live.erase
  | .clear => []

def arrivals (calls : List (Call α)) : List (α × TrackId) := calls.foldl arrive []

lemma isStableSort_apply (h : IsStableSort valueLe live ix.entries) (call : Call α) :
    IsStableSort valueLe (arrive live call) (ix.apply call).entries := by
  cases call with
  | insert id value => exact isStableSort_insert h id value
  | erase id =>
    have hsort : live.mergeSort valueLe = ix.entries :=
      (isStableSort_mergeSort valueLe_trans valueLe_total live).unique valueLe_refl h
    rw [arrive, hsort, apply, SortedIndex.erase]
    cases hfind : ix.entries.find? (·.2 = id) with
    | none =>
      rw [List.eraseP_of_forall_not (List.find?_eq_none.mp hfind)]
      exact h
    | some e =>
      rw [eraseP_eq_erase hfind]
      exact h.erase e
  | clear => exact ⟨.refl _, .nil, fun _ _ => rfl⟩

lemma isStableSort_run (calls : List (Call α)) : IsStableSort valueLe (arrivals calls) (run calls).entries := by
  suffices h : ∀ (live : List (α × TrackId)) (ix : SortedIndex α), IsStableSort valueLe live ix.entries →
      IsStableSort valueLe (calls.foldl arrive live) (calls.foldl apply ix).entries from
    h [] empty ⟨.refl _, .nil, fun _ _ => rfl⟩
  induction calls with
  | nil => exact fun _ _ h => h
  | cons call calls ih => exact fun live ix h => ih (arrive live call) (ix.apply call) (isStableSort_apply h call)

variable [LT α] [DecidableLT α] [Std.LawfulOrderLT α]

/-- After any calls the entries ascend by value, equal ones in the order of their arrival. No place that a call looks
for by halving is out of bounds, and what it finds there are the entries that compare with the values as asked, whatever
the order of two bounds. Of a track that is erased the first entry goes and no other. -/
theorem run_ranges (calls : List (Call α)) :
    let ix := run calls
    IsStableSort valueLe (arrivals calls) ix.entries ∧
    (∀ id value, ix.checkedInsert? id value = some (ix.insert id value)) ∧
    (∀ id, ix.checkedErase? id = some (ix.get? id, ix.erase id)) ∧
    (∀ before value id after, ix.entries = before ++ (value, id) :: after → id ∉ ids before →
      ix.get? id = some value ∧ (ix.erase id).entries = before ++ after) ∧
    (∀ id, id ∉ ids ix.entries → ix.get? id = none ∧ ix.erase id = ix) ∧
    (∀ value inclusive, ix.checkedAbove? value inclusive = some (ix.above value inclusive) ∧
      ix.above value inclusive = ix.entries.filter fun e => if inclusive then value ≤ e.1 else value < e.1) ∧
    (∀ value inclusive, ix.checkedBelow? value inclusive = some (ix.below value inclusive) ∧
      ix.below value inclusive = ix.entries.filter fun e => if inclusive then e.1 ≤ value else e.1 < value) ∧
    (∀ low high, ix.checkedBetween? low high = some (ix.between low high) ∧
      ix.between low high = ix.entries.filter fun e => low ≤ e.1 && e.1 ≤ high) ∧
    ∀ value, ix.below value false ++ ix.above value true = ix.entries := by
  intro ix
  have hstable := isStableSort_run calls
  have hsorted := sorted_of_isStableSort hstable
  exact ⟨hstable, checkedInsert?_eq hsorted, ix.checkedErase?_eq, fun _ _ _ _ => erase_of_first,
    fun _ => erase_of_absent,
    fun value inclusive => ⟨checkedAbove?_eq hsorted value inclusive, above_eq_filter hsorted value inclusive⟩,
    fun value inclusive => ⟨checkedBelow?_eq hsorted value inclusive, below_eq_filter hsorted value inclusive⟩,
    fun low high => ⟨checkedBetween?_eq hsorted low high, between_eq_filter hsorted low high⟩, ix.below_append_above⟩

end Arrivals

/-- The second number of track 1 is the lesser one, so that it is the one to go; the other stays before its equal. -/
theorem run_ranges_of_repeated_track :
    let zero : NumericKey := ⟨.zero, by decide, by decide⟩
    let five : NumericKey := ⟨⟨0x4014000000000000⟩, by decide, by decide⟩
    let ix := run [.insert 1 five, .insert 2 zero, .insert 1 zero, .insert 3 five, .erase 1]
    ix.entries = [(zero, 2), (five, 1), (five, 3)] ∧
      ix.checkedErase? 1 = some (some five, ⟨[(zero, 2), (five, 3)]⟩) ∧
      ix.checkedAbove? five false = some [] ∧ ix.checkedBelow? five true = some ix.entries ∧
      ix.checkedBetween? five zero = some [] := by
  intro zero five ix
  have hentries : ix.entries = [(zero, 2), (five, 1), (five, 3)] := by decide
  obtain ⟨-, -, herase, hfirst, -, habove, hbelow, hbetween, -⟩ :=
    run_ranges [.insert 1 five, .insert 2 zero, .insert 1 zero, .insert 3 five, .erase 1]
  refine ⟨hentries, ?_, (habove five false).1.trans ?_, (hbelow five true).1.trans ?_,
    (hbetween five zero).1.trans ?_⟩
  · obtain ⟨hvalue, hrest⟩ := hfirst [(zero, 2)] five 1 [(five, 3)] hentries (by decide)
    rw [herase 1, hvalue]
    exact congrArg (fun entries => some (some five, SortedIndex.mk entries)) hrest
  · rw [(habove five false).2, hentries]
    decide
  · rw [(hbelow five true).2, hentries]
    decide
  · rw [(hbetween five zero).2, hentries]
    decide

end MusicQuery.SortedIndex
