import Mathlib.Tactic.Common
import MusicQuery.RecencyList

namespace MusicQuery.RecencyList

section Later

variable {κ : Type} {uses : List κ} {a b : κ}

/-- In a list of uses the first of two keys comes again after the last use of the second. -/
def Later (uses : List κ) (a b : κ) : Prop := ∃ past recent, uses = past ++ recent ∧ a ∈ recent ∧ b ∉ recent

lemma Later.ne (h : Later uses a b) : a ≠ b := by
  rintro rfl
  obtain ⟨past, recent, -, hin, hout⟩ := h
  exact hout hin

lemma Later.append (h : Later uses a b) {new : List κ} (hb : b ∉ new) : Later (uses ++ new) a b := by
  obtain ⟨past, recent, rfl, ha, hrecent⟩ := h
  refine ⟨past, recent ++ new, List.append_assoc _ _ _, List.mem_append_left _ ha, ?_⟩
  rw [List.mem_append, not_or]
  exact ⟨hrecent, hb⟩

lemma later_concat (uses : List κ) (h : a ≠ b) : Later (uses ++ [a]) a b :=
  ⟨uses, [a], rfl, List.mem_singleton_self a, fun hb => h (List.mem_singleton.mp hb).symm⟩

lemma Later.asymm (h : Later uses a b) : ¬ Later uses b a := by
  rintro ⟨past', recent', heq, hb', ha'⟩
  obtain ⟨past, recent, rfl, ha, hb⟩ := h
  -- One of the two ends of the list contains the other.
  rcases List.append_eq_append_iff.mp heq with ⟨mid, -, rfl⟩ | ⟨mid, -, rfl⟩
  · exact hb (List.mem_append_right _ hb')
  · exact ha' (List.mem_append_right _ ha)

end Later

variable {κ α : Type} {l : RecencyList κ α} {uses : List κ} {k k' : κ} {a : α}

def Holds (l : RecencyList κ α) (k : κ) : Prop := ∃ a, (k, a) ∈ l.entries

/-- The keys stand in the order of their last uses, and there is room for them. -/
structure Ordered (l : RecencyList κ α) (uses : List κ) : Prop where
  recency : l.entries.Pairwise fun a b => Later uses a.1 b.1
  size_le : l.size ≤ l.capacity

lemma Ordered.is_last_iff (h : l.Ordered uses) (hk : l.Holds k) {init : List (κ × α)} {last : κ × α}
    (hentries : l.entries = init ++ [last]) :
    (¬ ∃ b, (k, b) ∈ init) ↔ ∀ other, l.Holds other → other ≠ k → Later uses other k := by
  have hrecency := h.recency
  rw [hentries, List.pairwise_append] at hrecency
  have hlater : ∀ e ∈ init, Later uses e.1 last.1 := fun e he => hrecency.2.2 e he last (List.mem_singleton_self _)
  obtain ⟨b, hb⟩ := hk
  rw [hentries, List.mem_append, List.mem_singleton] at hb
  constructor
  · rintro hno other ⟨d, hd⟩ hne
    rw [hentries, List.mem_append, List.mem_singleton] at hd
    obtain rfl := hb.resolve_left fun hb => hno ⟨b, hb⟩
    refine hlater _ (hd.resolve_right ?_)
    rintro heq
    exact hne (congrArg Prod.fst heq)
  · rintro hold ⟨d, hd⟩
    have hlast := hlater _ hd
    have hkept : l.Holds last.1 := ⟨last.2, by simp [hentries]⟩
    exact hlast.asymm (hold last.1 hkept hlast.ne.symm)

variable [DecidableEq κ]

lemma mem_of_peek? (h : l.peek? k = some a) : (k, a) ∈ l.entries := by
  obtain ⟨e, he, rfl⟩ := Option.map_eq_some_iff.mp h
  have hkey : e.1 = k := by simpa using List.find?_some he
  exact hkey ▸ List.mem_of_find?_eq_some he

lemma peek?_eq_none_iff : l.peek? k = none ↔ ¬ l.Holds k := by
  rw [peek?, Option.map_eq_none_iff, List.find?_eq_none]
  constructor
  · rintro h ⟨a, ha⟩
    exact h (k, a) ha (decide_eq_true rfl)
  · intro h e he hkey
    exact h ⟨e.2, of_decide_eq_true hkey ▸ he⟩

lemma mem_pop_iff {e : κ × α} : e ∈ (l.pop k).entries ↔ e ∈ l.entries ∧ e.1 ≠ k := by
  simp [pop]

lemma length_pop_le (l : RecencyList κ α) (k : κ) : (l.pop k).entries.length ≤ l.entries.length :=
  List.length_filter_le _ _

lemma length_pop_lt (h : l.Holds k) : (l.pop k).entries.length < l.entries.length := by
  obtain ⟨a, ha⟩ := h
  rw [pop, List.length_filter_lt_length_iff_exists]
  exact ⟨(k, a), ha, by simp⟩

section Laws

/-! What is relied on of such a list: a use moves a key to the front, and only a new key drives out another one, which
is the last. -/

lemma get_of_held (h : l.peek? k = some a) :
    l.get k = (some a, { l with entries := (k, a) :: (l.pop k).entries }) := by
  rw [get, h]

lemma get_of_absent (h : ¬ l.Holds k) : l.get k = (none, l) := by
  rw [get, peek?_eq_none_iff.mpr h]

lemma pop_of_absent (h : ¬ l.Holds k) : l.pop k = l := by
  have hall : l.entries.filter (·.1 ≠ k) = l.entries := by
    rw [List.filter_eq_self]
    intro e he
    exact decide_eq_true fun hkey => h ⟨e.2, hkey ▸ he⟩
  rw [pop, hall]

lemma put_of_held (hl : l.size ≤ l.capacity) (h : l.Holds k) : (l.put k a).entries = (k, a) :: (l.pop k).entries := by
  have hless := length_pop_lt h
  rw [put, List.take_of_length_le]
  rw [size] at hl
  omega

lemma put_of_room (hl : l.size < l.capacity) (h : ¬ l.Holds k) : (l.put k a).entries = (k, a) :: l.entries := by
  rw [put, pop_of_absent h, List.take_of_length_le]
  rw [size] at hl
  omega

lemma put_of_full (hl : l.size = l.capacity) (h : ¬ l.Holds k) :
    (l.put k a).entries = (k, a) :: l.entries.dropLast := by
  rw [put, pop_of_absent h, ← hl, size, List.dropLast_eq_take]

end Laws

lemma pop_get (l : RecencyList κ α) (k : κ) : (l.get k).2.pop k = l.pop k := by
  cases h : l.peek? k with
  | none => rw [get_of_absent (peek?_eq_none_iff.mp h)]
  | some a =>
    rw [get_of_held h]
    simp [pop]

section Holding

lemma holds_pop_iff : (l.pop k').Holds k ↔ l.Holds k ∧ k ≠ k' := by
  simp only [Holds, mem_pop_iff]
  exact ⟨fun ⟨a, ha, hne⟩ => ⟨⟨a, ha⟩, hne⟩, fun ⟨⟨a, ha⟩, hne⟩ => ⟨a, ha, hne⟩⟩

lemma holds_get_iff : (l.get k').2.Holds k ↔ l.Holds k := by
  cases h : l.peek? k' with
  | none => rw [get_of_absent (peek?_eq_none_iff.mp h)]
  | some a =>
    have ha := mem_of_peek? h
    rw [get_of_held h]
    by_cases hkey : k = k'
    · subst hkey
      exact iff_of_true ⟨a, List.mem_cons_self⟩ ⟨a, ha⟩
    · have hrest : (l.pop k').Holds k ↔ l.Holds k := holds_pop_iff.trans (and_iff_left hkey)
      rw [← hrest]
      simp [Holds, hkey]

lemma mem_of_mem_put {e : κ × α} (h : e ∈ (l.put k a).entries) : e = (k, a) ∨ e ∈ l.entries ∧ e.1 ≠ k := by
  rcases List.mem_cons.mp h with rfl | hrest
  · exact Or.inl rfl
  · exact Or.inr (mem_pop_iff.mp (List.mem_of_mem_take hrest))

lemma mem_of_mem_get {e : κ × α} (h : e ∈ (l.get k).2.entries) : e ∈ l.entries := by
  cases hk : l.peek? k with
  | none => rwa [get_of_absent (peek?_eq_none_iff.mp hk)] at h
  | some a =>
    rw [get_of_held hk] at h
    rcases List.mem_cons.mp h with rfl | hrest
    · exact mem_of_peek? hk
    · exact (mem_pop_iff.mp hrest).1

end Holding

section Steps

variable (h : l.Ordered uses)
include h

lemma Ordered.pop (k : κ) : (l.pop k).Ordered uses :=
  ⟨h.recency.filter _, Nat.le_trans (length_pop_le l k) h.size_le⟩

lemma Ordered.get (hk : l.peek? k = some a) : (l.get k).2.Ordered (uses ++ [k]) := by
  have hless : (l.pop k).entries.length < l.entries.length := length_pop_lt ⟨a, mem_of_peek? hk⟩
  rw [get_of_held hk]
  refine ⟨List.pairwise_cons.mpr ⟨fun e he => ?_, ?_⟩, Nat.lt_of_lt_of_le hless h.size_le⟩
  · exact later_concat uses (mem_pop_iff.mp he).2.symm
  · refine (h.pop k).recency.imp_of_mem fun _ he hlater => hlater.append ?_
    simpa using (mem_pop_iff.mp he).2

lemma Ordered.put (hpos : 0 < l.capacity) (k : κ) (a : α) : (l.put k a).Ordered (uses ++ [k]) := by
  have hrest : ∀ e ∈ (l.pop k).entries.take (l.capacity - 1), e.1 ≠ k :=
    fun e he => (mem_pop_iff.mp (List.mem_of_mem_take he)).2
  refine ⟨List.pairwise_cons.mpr ⟨fun e he => later_concat uses (hrest e he).symm, ?_⟩, ?_⟩
  · have hold := (h.pop k).recency.sublist (List.take_sublist (l.capacity - 1) _)
    refine hold.imp_of_mem fun _ he hlater => hlater.append ?_
    simpa using hrest _ he
  · have hlength := List.length_take_le (l.capacity - 1) (l.pop k).entries
    show ((l.pop k).entries.take (l.capacity - 1)).length + 1 ≤ l.capacity
    omega

end Steps

section Losses

variable (h : l.Ordered uses) (hk : l.Holds k)
include h hk

lemma Ordered.held_by_put (hroom : l.Holds k' ∨ l.size < l.capacity) : (l.put k' a).Holds k := by
  by_cases hkey : k = k'
  · exact ⟨a, hkey ▸ List.mem_cons_self⟩
  · obtain ⟨b, hb⟩ : (l.pop k').Holds k := holds_pop_iff.mpr ⟨hk, hkey⟩
    refine ⟨b, ?_⟩
    by_cases hold : l.Holds k'
    · rw [put_of_held h.size_le hold]
      exact List.mem_cons_of_mem _ hb
    · rw [put_of_room (hroom.resolve_left hold) hold]
      exact List.mem_cons_of_mem _ (mem_pop_iff.mp hb).1

lemma Ordered.lost_by_put_iff :
    ¬ (l.put k' a).Holds k ↔
      ¬ l.Holds k' ∧ l.size = l.capacity ∧ ∀ other, l.Holds other → other ≠ k → Later uses other k := by
  by_cases hroom : l.Holds k' ∨ l.size < l.capacity
  · refine iff_of_false (not_not_intro (h.held_by_put hk hroom)) ?_
    rintro ⟨hno, hfull, -⟩
    exact hroom.elim hno fun hlt => by omega
  · obtain ⟨hno, hsize⟩ := not_or.mp hroom
    have hfull : l.size = l.capacity := Nat.le_antisymm h.size_le (Nat.not_lt.mp hsize)
    have hne : l.entries ≠ [] := by
      obtain ⟨b, hb⟩ := hk
      exact List.ne_nil_of_mem hb
    have hentries := (List.dropLast_concat_getLast hne).symm
    have hkey : k ≠ k' := by
      rintro rfl
      exact hno hk
    have hafter : (l.put k' a).Holds k ↔ ∃ b, (k, b) ∈ l.entries.dropLast := by
      rw [Holds, put_of_full hfull hno]
      simp [hkey]
    rw [hafter, h.is_last_iff hk hentries]
    exact ⟨fun hold => ⟨hno, hfull, hold⟩, fun hold => hold.2.2⟩

end Losses

end MusicQuery.RecencyList
