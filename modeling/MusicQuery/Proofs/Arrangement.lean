import Mathlib.Data.List.Perm.Subperm
import MusicQuery.Proofs.Binary64.Order
import MusicQuery.Query

namespace MusicQuery

namespace SortKey

lemma eq_of_same {f : Field} {a b : Track} (h : (ofTrack f a).same (ofTrack f b) = true) :
    ofTrack f a = ofTrack f b := by
  unfold ofTrack at h ⊢
  cases hf : f.kind with
  | text => simpa [hf, same] using h
  | date => simpa [hf, same] using h
  | number =>
    rw [hf] at h
    exact congrArg number (Binary64.eq_of_eq h)

lemma le_refl (k : SortKey) : k.le k = true := by
  cases k with
  | text value => simp [le]
  | date value =>
    cases value with
    | none => rfl
    | some i => exact decide_eq_true (Std.le_refl i)
  | number value => exact decide_eq_true (Int.le_refl _)

end SortKey

/-- Whether a shuffle moves things by their places alone, without a look at them. -/
def Shuffle.IsBlind (s : Shuffle) : Prop :=
  ∀ {α β : Type} (g : α → β) (xs : List α), (s.run xs).map g = s.run (xs.map g)

namespace Sorting

variable {α : Type} {track : α → Track} {shuffle : Shuffle} {sorting : Option Sorting} {xs : List α}

def key? (sorting : Option Sorting) (t : Track) : Option SortKey :=
  (sorting.bind (·.field.field)).map (SortKey.ofTrack · t)

def ties (s : Sorting) (a b : Track) : Bool :=
  s.field.field.all fun f =>
    s.keyLe (SortKey.ofTrack f a) (SortKey.ofTrack f b) && s.keyLe (SortKey.ofTrack f b) (SortKey.ofTrack f a)

lemma keyLe_refl (s : Sorting) (k : SortKey) : s.keyLe k k = true := by
  rw [keyLe, ite_self]
  exact k.le_refl

lemma ties_of_key? {s : Sorting} {a b : Track} (h : key? (some s) a = key? (some s) b) : s.ties a b = true := by
  rw [ties]
  rw [key?, key?] at h
  cases hf : s.field.field with
  | none => rfl
  | some f =>
    simp only [Option.bind_some, hf, Option.map_some, Option.some.injEq] at h
    simp only [Option.all_some, h, keyLe_refl, Bool.and_self]

lemma key?_eq_of_keyChanged {old new : Track} (h : (sorting.any fun s => s.keyChanged old new) = false) :
    key? sorting new = key? sorting old := by
  cases sorting with
  | none => rfl
  | some s =>
    simp only [Option.any_some, keyChanged] at h
    simp only [key?, Option.bind_some]
    cases hf : s.field.field with
    | none => rfl
    | some f =>
      simp only [hf, Bool.not_eq_false'] at h
      exact congrArg some (SortKey.eq_of_same h).symm

lemma arrange_perm (shuffle : Shuffle) (track : α → Track) (sorting : Option Sorting) (xs : List α) :
    (arrange shuffle track sorting xs).Perm xs := by
  simp only [arrange]
  split
  · exact .refl xs
  · split
    · exact List.mergeSort_perm xs _
    · exact shuffle.perm xs

lemma field_of_not_random {s : Sorting} (hr : (some s).any isRandom = false) : ∃ f, s.field.field = some f := by
  obtain ⟨field, ascending⟩ := s
  cases field with
  | random => cases hr
  | _ => exact ⟨_, rfl⟩

lemma arrange_pair_of_not_keyLe {s : Sorting} {f : Field} {a b : α} (hf : s.field.field = some f)
    (h : s.keyLe (.ofTrack f (track a)) (.ofTrack f (track b)) = false) :
    arrange shuffle track (some s) [a, b] = [b, a] := by
  simp [arrange, hf, sort, List.mergeSort, h]

lemma arrange_map {β : Type} {g : α → β} {track' : β → Track} (hr : sorting.any isRandom = false)
    (hg : ∀ x ∈ xs, key? sorting (track' (g x)) = key? sorting (track x)) :
    (arrange shuffle track sorting xs).map g = arrange shuffle track' sorting (xs.map g) := by
  cases sorting with
  | none => rfl
  | some s =>
    obtain ⟨f, hf⟩ := field_of_not_random hr
    simp only [key?, Option.bind_some, hf, Option.map_some, Option.some.injEq] at hg
    simp only [arrange, hf]
    refine List.map_mergeSort fun a ha b hb => ?_
    rw [hg a ha, hg b hb]

lemma map_track_arrange (hs : sorting.any isRandom = true → shuffle.IsBlind) :
    (arrange shuffle track sorting xs).map track = arrange shuffle id sorting (xs.map track) := by
  cases sorting with
  | none => rfl
  | some s =>
    cases hf : s.field.field with
    | none =>
      obtain ⟨field, ascending⟩ := s
      cases field <;> cases hf
      exact hs rfl track xs
    | some f =>
      simp only [arrange, hf]
      exact List.map_mergeSort fun a _ b _ => rfl

lemma arrange_shuffle {shuffle' : Shuffle} (hr : sorting.any isRandom = false) :
    arrange shuffle track sorting xs = arrange shuffle' track sorting xs := by
  cases sorting with
  | none => rfl
  | some s =>
    obtain ⟨f, hf⟩ := field_of_not_random hr
    simp only [arrange, hf]

end Sorting

section Limit

variable {α : Type} (limit : Option UInt64) (xs : List α)

lemma limited_isPrefix : limited limit xs <+: xs := by
  cases limit with
  | none => exact List.prefix_rfl
  | some n => exact xs.take_prefix n.toNat

lemma map_limited {β : Type} (g : α → β) : (limited limit xs).map g = limited limit (xs.map g) := by
  cases limit with
  | none => rfl
  | some n => exact List.map_take

end Limit

namespace Query

variable {α : Type} {track : α → Track} {shuffle : Shuffle} {sorting : Option Sorting} {limit : Option UInt64}
  {xs : List α}

lemma finish_subperm (shuffle : Shuffle) (track : α → Track) (sorting : Option Sorting) (limit : Option UInt64)
    (xs : List α) : (finish shuffle track sorting limit xs).Subperm xs :=
  (limited_isPrefix limit _).sublist.subperm.trans (Sorting.arrange_perm shuffle track sorting xs).subperm

lemma finish_map {β : Type} {g : α → β} {track' : β → Track} (hr : sorting.any Sorting.isRandom = false)
    (hg : ∀ x ∈ xs, Sorting.key? sorting (track' (g x)) = Sorting.key? sorting (track x)) :
    (finish shuffle track sorting limit xs).map g = finish shuffle track' sorting limit (xs.map g) := by
  rw [finish, map_limited, Sorting.arrange_map hr hg, finish]

lemma map_track_finish (hs : sorting.any Sorting.isRandom = true → shuffle.IsBlind) :
    (finish shuffle track sorting limit xs).map track = finish shuffle id sorting limit (xs.map track) := by
  rw [finish, map_limited, Sorting.map_track_arrange hs, finish]

lemma finish_shuffle {shuffle' : Shuffle} (hr : sorting.any Sorting.isRandom = false) :
    finish shuffle track sorting limit xs = finish shuffle' track sorting limit xs := by
  rw [finish, finish, Sorting.arrange_shuffle hr]

lemma map_finish_congr {β : Type} {label : α → β} {pairs : List (α × α)} (hr : sorting.any Sorting.isRandom = false)
    (hkey : ∀ x ∈ pairs, Sorting.key? sorting (track x.1) = Sorting.key? sorting (track x.2))
    (hlabel : ∀ x ∈ pairs, label x.1 = label x.2) :
    (finish shuffle track sorting limit (pairs.map (·.1))).map label =
      (finish shuffle track sorting limit (pairs.map (·.2))).map label := by
  let arranged := finish shuffle (fun x : α × α => track x.1) sorting limit pairs
  have hfirst : arranged.map (·.1) = finish shuffle track sorting limit (pairs.map (·.1)) :=
    finish_map hr fun _ _ => rfl
  have hsecond : arranged.map (·.2) = finish shuffle track sorting limit (pairs.map (·.2)) :=
    finish_map hr fun x hx => (hkey x hx).symm
  rw [← hfirst, ← hsecond, List.map_map, List.map_map]
  apply List.map_congr_left
  intro x hx
  exact hlabel x ((finish_subperm shuffle (fun x : α × α => track x.1) sorting limit pairs).subset hx)

/-- A new version of a track whose key is the same leaves an order as it is, whatever the limit. -/
theorem finish_of_key_kept (shuffle : Shuffle) (track : α → Track) (s : Sorting) (hs : s.isRandom = false)
    (before after : List α) (old new : α) (hid : (track old).id = (track new).id)
    (hkey : s.keyChanged (track old) (track new) = false) (limit : Option UInt64) :
    (finish shuffle track (some s) limit (before ++ new :: after)).map (fun x => (track x).id) =
      (finish shuffle track (some s) limit (before ++ old :: after)).map fun x => (track x).id := by
  let pairs := before.map (fun x => (x, x)) ++ (new, old) :: after.map fun x => (x, x)
  have hnew : pairs.map (·.1) = before ++ new :: after := by simp [pairs, Function.comp_def]
  have hold : pairs.map (·.2) = before ++ old :: after := by simp [pairs, Function.comp_def]
  have hpairs : ∀ x ∈ pairs, x.1 = x.2 ∨ x = (new, old) := by
    intro x hx
    simp only [pairs, List.mem_append, List.mem_cons, List.mem_map] at hx
    rcases hx with ⟨y, -, rfl⟩ | rfl | ⟨y, -, rfl⟩
    · exact Or.inl rfl
    · exact Or.inr rfl
    · exact Or.inl rfl
  have hr : (some s).any Sorting.isRandom = false := hs
  rw [← hnew, ← hold]
  apply map_finish_congr hr
  · intro x hx
    rcases hpairs x hx with heq | rfl
    · rw [heq]
    · exact Sorting.key?_eq_of_keyChanged hkey
  · intro x hx
    rcases hpairs x hx with heq | rfl
    · rw [heq]
    · exact hid.symm

/-- A missing length counts as zero, and both zeros are one key; the track stands before its equal as it did, and NaN
behind them is cut off. -/
theorem finish_of_key_kept_at_zero :
    let rising : Sorting := ⟨.duration, true⟩
    let old : Track := { id := 2, title := some "b", duration := some .negativeZero }
    let new : Track := { id := 2, title := some "a" }
    let before : List Track := [{ id := 1, duration := some .nan }]
    let after : List Track := [{ id := 3, duration := some .zero }]
    rising.isRandom = false ∧ old.id = new.id ∧ rising.keyChanged old new = false ∧
      (finish .identity id (some rising) (some 2) (before ++ new :: after)).map (·.id) =
        (finish .identity id (some rising) (some 2) (before ++ old :: after)).map (·.id) := by
  intro rising old new before after
  have hkey : rising.keyChanged old new = false := by decide
  exact ⟨rfl, rfl, hkey, finish_of_key_kept .identity id rising rfl before after old new rfl hkey (some 2)⟩

end Query

end MusicQuery
