import Mathlib.Data.List.Basic
import MusicQuery.Proofs.Json.Render
import MusicQuery.Proofs.Json.Tree

namespace MusicQuery.Json

def present (slots : List (String × Option Json)) : List (String × Json) := slots.flatMap fun s => member? s.1 id s.2

variable {slots : List (String × Option Json)} {name : String}

lemma member?_eq {α : Type} (name : String) (write : α → Json) (a : Option α) :
    member? name write a = member? name id (a.map write) := by
  cases a <;> rfl

lemma present_cons (name : String) (j : Option Json) (slots : List (String × Option Json)) :
    present ((name, j) :: slots) = member? name id j ++ present slots := by
  simp [present]

lemma filter_present_of_notMem (h : name ∉ slots.map Prod.fst) : (present slots).filter (·.1 = name) = [] := by
  simp only [List.filter_eq_nil_iff, decide_eq_true_eq, present, List.mem_flatMap]
  rintro ⟨n, j⟩ ⟨⟨m, v⟩, hs, hj⟩ rfl
  cases v with
  | none => simp [member?] at hj
  | some k =>
    simp only [member?, id_eq, List.mem_singleton, Prod.mk.injEq] at hj
    exact h (List.mem_map.mpr ⟨(m, some k), hs, hj.1.symm⟩)

lemma filter_present {v : Option Json} (hn : (slots.map Prod.fst).Nodup) (h : (name, v) ∈ slots) :
    (present slots).filter (·.1 = name) = member? name id v := by
  induction slots with
  | nil => simp at h
  | cons s slots ih =>
    obtain ⟨m, w⟩ := s
    obtain ⟨hm, hn⟩ := List.nodup_cons.mp hn
    rw [present_cons, List.filter_append]
    rcases List.mem_cons.mp h with heq | hmem
    · obtain ⟨rfl, rfl⟩ := Prod.mk.inj heq
      rw [filter_present_of_notMem hm]
      cases v <;> simp [member?]
    · have hne : m ≠ name := by
        rintro rfl
        exact hm (List.mem_map.mpr ⟨_, hmem, rfl⟩)
      rw [ih hn hmem]
      cases w <;> simp [member?, hne]

lemma memberOnce_present {v : Option Json} (hn : (slots.map Prod.fst).Nodup) (h : (name, v) ∈ slots) :
    memberOnce name (present slots) = some v := by
  rw [memberOnce, filter_present hn h]
  cases v <;> rfl

lemma record_present (hn : (slots.map Prod.fst).Nodup) :
    record (slots.map Prod.fst) (obj (present slots)) = some (slots.map Prod.snd) := by
  have hall : ∀ front : List (String × Option Json), (∀ s ∈ front, s ∈ slots) →
      (front.map Prod.fst).mapM (memberOnce · (present slots)) = some (front.map Prod.snd) := by
    intro front hfront
    induction front with
    | nil => rfl
    | cons s front ih =>
      obtain ⟨hs, hfront⟩ := List.forall_mem_cons.mp hfront
      simp [memberOnce_present hn hs, ih hfront]
  exact hall slots fun _ => id

lemma tag?_present {α : Type} {all : List α} {name : α → String} {byPlace : Bool} {key : String} {j : Json}
    (hn : (slots.map Prod.fst).Nodup) (h : (key, some j) ∈ slots) :
    tag? key all name byPlace (obj (present slots)) = toTag? all name byPlace j := by
  rw [tag?, memberOnce_present hn h]
  rfl

section Kept

lemma kept_present (slots : List (String × Option Json)) :
    (obj (present slots)).kept = obj (present (slots.map fun s => (s.1, s.2.map kept))) := by
  rw [kept, keptMembers_eq_map, present, present, List.map_flatMap, List.flatMap_map]
  congr 2
  funext s
  cases s.2 <;> rfl

lemma record_kept (hn : (slots.map Prod.fst).Nodup) :
    record (slots.map Prod.fst) (obj (present slots)).kept = some (slots.map fun s => s.2.map kept) := by
  have hnames : slots.map Prod.fst = (slots.map fun s => (s.1, s.2.map kept)).map Prod.fst := by simp
  rw [kept_present, hnames, record_present (hnames ▸ hn), List.map_map]
  rfl

lemma tag?_kept {α : Type} {all : List α} {name : α → String} {byPlace : Bool} {key : String} {j : Json}
    (hn : (slots.map Prod.fst).Nodup) (h : (key, some j) ∈ slots) :
    tag? key all name byPlace (obj (present slots)).kept = toTag? all name byPlace j.kept := by
  have hnames : slots.map Prod.fst = (slots.map fun s => (s.1, s.2.map kept)).map Prod.fst := by simp
  rw [kept_present, tag?_present (hnames ▸ hn) (List.mem_map.mpr ⟨_, h, rfl⟩)]

end Kept

section Legible

lemma legibleMembers_iff (ms : List (String × Json)) : LegibleMembers ms ↔ ∀ m ∈ ms, m.2.Legible := by
  induction ms with
  | nil => simp [LegibleMembers]
  | cons m ms ih => simp [LegibleMembers, ih]

lemma legibleItems_iff (js : List Json) : LegibleItems js ↔ ∀ j ∈ js, j.Legible := by
  induction js with
  | nil => simp [LegibleItems]
  | cons j js ih => simp [LegibleItems, ih]

lemma legible_kept (h : ∀ s ∈ slots, ∀ j ∈ s.2, j.kept.Legible) : (obj (present slots)).kept.Legible := by
  rw [kept, Legible, keptMembers_eq_map, legibleMembers_iff]
  simp only [present, List.mem_map, List.mem_flatMap]
  rintro _ ⟨m, ⟨s, hs, hm⟩, rfl⟩
  cases hv : s.2 with
  | none => simp [hv, member?] at hm
  | some j =>
    simp only [hv, member?, id_eq, List.mem_singleton] at hm
    rw [hm]
    exact h s hs j hv

end Legible

end MusicQuery.Json
