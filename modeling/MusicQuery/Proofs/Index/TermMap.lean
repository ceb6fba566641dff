import Mathlib.Tactic.Common
import MusicQuery.Index.Inverted

namespace MusicQuery

namespace IdSet

lemma pairwise_insert {ids : IdSet} (h : ids.Pairwise (· < ·)) (id : TrackId) :
    (insert id ids).Pairwise (· < ·) := by
  induction ids with
  | nil => simp [insert]
  | cons x xs ih =>
    obtain ⟨hx, hxs⟩ := List.pairwise_cons.mp h
    rw [insert]
    split
    · next hlt =>
      refine List.pairwise_cons.mpr ⟨fun y hy => ?_, h⟩
      rcases List.mem_cons.mp hy with rfl | hy
      · exact hlt
      · exact Std.lt_trans hlt (hx y hy)
    · split
      · exact h
      · next hlt hne =>
        refine List.pairwise_cons.mpr ⟨fun y hy => ?_, ih hxs⟩
        rcases mem_insert.mp hy with rfl | hy
        · exact Std.lt_of_le_of_ne (Std.not_lt.mp hlt) (Ne.symm hne)
        · exact hx y hy

lemma pairwise_union {a : IdSet} (h : a.Pairwise (· < ·)) (b : IdSet) : (union a b).Pairwise (· < ·) := by
  induction b generalizing a with
  | nil => exact h
  | cons id ids ih => exact ih (pairwise_insert h id)

end IdSet

namespace TermMap

def Leads (m : TermMap) (term : List Char) (id : TrackId) : Prop := ∃ ids, (term, ids) ∈ m ∧ id ∈ ids

/-- The map is exactly a relation: ascending terms, each with an ascending and nonempty set of tracks. -/
structure Holds (m : TermMap) (R : List Char → TrackId → Prop) : Prop where
  terms : m.Pairwise fun a b => a.1 < b.1
  ids : ∀ e ∈ m, e.2.Pairwise (· < ·)
  ne_nil : ∀ e ∈ m, e.2 ≠ []
  leads : ∀ term id, m.Leads term id ↔ R term id

/-- The terms ascend and lead to a relation. Sets may be empty. -/
structure Serves (m : TermMap) (R : List Char → TrackId → Prop) : Prop where
  terms : m.Pairwise fun a b => a.1 < b.1
  leads : ∀ term id, m.Leads term id ↔ R term id

variable {m : TermMap} {R S : List Char → TrackId → Prop}

lemma Holds.serves (h : m.Holds R) : m.Serves R := ⟨h.terms, h.leads⟩

lemma Holds.congr (h : m.Holds R) (hRS : ∀ term id, R term id ↔ S term id) : m.Holds S :=
  ⟨h.terms, h.ids, h.ne_nil, fun term id => (h.leads term id).trans (hRS term id)⟩

lemma holds_nil : TermMap.Holds [] fun _ _ => False := ⟨.nil, by simp, by simp, by simp [Leads]⟩

lemma leads_cons {t : List Char} {ids : IdSet} {rest : TermMap} {term : List Char} {id : TrackId} :
    TermMap.Leads ((t, ids) :: rest) term id ↔ (term = t ∧ id ∈ ids) ∨ rest.Leads term id := by
  simp only [Leads, List.mem_cons, Prod.mk.injEq]
  constructor
  · rintro ⟨is, ⟨rfl, rfl⟩ | hm, hid⟩
    · exact Or.inl ⟨rfl, hid⟩
    · exact Or.inr ⟨is, hm, hid⟩
  · rintro (⟨rfl, hid⟩ | ⟨is, hm, hid⟩)
    · exact ⟨ids, Or.inl ⟨rfl, rfl⟩, hid⟩
    · exact ⟨is, Or.inr hm, hid⟩

lemma lt_of_leads {t : List Char} {ids : IdSet} {rest : TermMap}
    (h : ((t, ids) :: rest).Pairwise fun a b => a.1 < b.1) {term : List Char} {id : TrackId}
    (hl : rest.Leads term id) : t < term := by
  obtain ⟨is, hm, -⟩ := hl
  exact (List.pairwise_cons.mp h).1 (term, is) hm

section Insert

variable (term : List Char) (id : TrackId)

lemma leads_insert {t : List Char} {i : TrackId} :
    (m.insert term id).Leads t i ↔ (t = term ∧ i = id) ∨ m.Leads t i := by
  fun_induction TermMap.insert term id m with
  | case1 => simp [leads_cons]
  | case2 => simp [leads_cons]
  | case3 ids rest => rw [leads_cons, leads_cons, IdSet.mem_insert, and_or_left, or_assoc]
  | case4 t' ids rest hlt hne ih => rw [leads_cons, leads_cons, ih, or_left_comm]

lemma key_insert {e : List Char × IdSet} (he : e ∈ m.insert term id) : e.1 = term ∨ ∃ d ∈ m, d.1 = e.1 := by
  fun_induction TermMap.insert term id m with
  | case1 => simp_all
  | case2 t ids rest hlt =>
    rcases List.mem_cons.mp he with rfl | he
    · exact Or.inl rfl
    · exact Or.inr ⟨e, he, rfl⟩
  | case3 ids rest =>
    rcases List.mem_cons.mp he with rfl | he
    · exact Or.inl rfl
    · exact Or.inr ⟨e, List.mem_cons_of_mem _ he, rfl⟩
  | case4 t ids rest hlt hne ih =>
    rcases List.mem_cons.mp he with rfl | he
    · exact Or.inr ⟨_, List.mem_cons_self, rfl⟩
    · rcases ih he with hk | ⟨d, hd, hde⟩
      · exact Or.inl hk
      · exact Or.inr ⟨d, List.mem_cons_of_mem _ hd, hde⟩

lemma terms_insert (h : m.Pairwise fun a b => a.1 < b.1) : (m.insert term id).Pairwise fun a b => a.1 < b.1 := by
  fun_induction TermMap.insert term id m with
  | case1 => simp
  | case2 t ids rest hlt =>
    refine List.pairwise_cons.mpr ⟨fun e he => ?_, h⟩
    rcases List.mem_cons.mp he with rfl | he
    · exact hlt
    · exact Std.lt_trans hlt ((List.pairwise_cons.mp h).1 e he)
  | case3 ids rest => exact List.pairwise_cons.mpr (List.pairwise_cons.mp h)
  | case4 t ids rest hlt hne ih =>
    obtain ⟨ht, hrest⟩ := List.pairwise_cons.mp h
    refine List.pairwise_cons.mpr ⟨fun e he => ?_, ih hrest⟩
    rcases key_insert term id he with hk | ⟨d, hd, hde⟩
    · have hle : t ≤ term := Std.not_lt.mp hlt
      exact hk ▸ Std.lt_of_le_of_ne hle (Ne.symm hne)
    · exact hde ▸ ht d hd

lemma forall_insert {P : IdSet → Prop} (hnew : P [id]) (hins : ∀ ids, P ids → P (ids.insert id)) (h : ∀ e ∈ m, P e.2) :
    ∀ e ∈ m.insert term id, P e.2 := by
  fun_induction TermMap.insert term id m with
  | case1 => exact List.forall_mem_singleton.mpr hnew
  | case2 => exact List.forall_mem_cons.mpr ⟨hnew, h⟩
  | case3 ids rest =>
    obtain ⟨hids, hrest⟩ := List.forall_mem_cons.mp h
    exact List.forall_mem_cons.mpr ⟨hins ids hids, hrest⟩
  | case4 t ids rest _ _ ih =>
    obtain ⟨hids, hrest⟩ := List.forall_mem_cons.mp h
    exact List.forall_mem_cons.mpr ⟨hids, ih hrest⟩

end Insert

section Erase

variable (term : List Char) (id : TrackId)

lemma erase_sublist : ((m.erase term id).map (·.1)).Sublist (m.map (·.1)) := by
  fun_induction TermMap.erase term id m <;> simp_all

lemma terms_erase (h : m.Pairwise fun a b => a.1 < b.1) : (m.erase term id).Pairwise fun a b => a.1 < b.1 :=
  List.pairwise_map.mp ((List.pairwise_map.mpr h).sublist (erase_sublist term id))

lemma leads_erase (h : m.Pairwise fun a b => a.1 < b.1) {t : List Char} {i : TrackId} :
    (m.erase term id).Leads t i ↔ m.Leads t i ∧ ¬(t = term ∧ i = id) := by
  fun_induction TermMap.erase term id m with
  | case1 => simp [Leads]
  | case2 ids rest left hnil =>
    have hrest : TermMap.Leads rest t i → t ≠ term := fun hl => (Std.ne_of_lt (lt_of_leads h hl)).symm
    have hleft : i ∈ ids → i = id := by
      intro hi
      by_contra hne
      have hm : i ∈ left := IdSet.mem_erase.mpr ⟨hi, hne⟩
      rw [List.isEmpty_iff.mp hnil] at hm
      exact List.not_mem_nil hm
    rw [leads_cons]
    grind
  | case3 ids rest left hnil =>
    have hrest : TermMap.Leads rest t i → t ≠ term := fun hl => (Std.ne_of_lt (lt_of_leads h hl)).symm
    rw [leads_cons, leads_cons, IdSet.mem_erase]
    grind
  | case4 t' ids rest hne ih =>
    rw [leads_cons, leads_cons, ih (List.pairwise_cons.mp h).2]
    grind

lemma forall_erase {P : IdSet → Prop} (hdel : ∀ ids, P ids → ids.erase id ≠ [] → P (ids.erase id))
    (h : ∀ e ∈ m, P e.2) : ∀ e ∈ m.erase term id, P e.2 := by
  fun_induction TermMap.erase term id m with
  | case1 => exact h
  | case2 ids rest => exact (List.forall_mem_cons.mp h).2
  | case3 ids rest left hne =>
    obtain ⟨hids, hrest⟩ := List.forall_mem_cons.mp h
    exact List.forall_mem_cons.mpr ⟨hdel ids hids fun hnil => hne (List.isEmpty_iff.mpr hnil), hrest⟩
  | case4 t ids rest _ ih =>
    obtain ⟨hids, hrest⟩ := List.forall_mem_cons.mp h
    exact List.forall_mem_cons.mpr ⟨hids, ih hrest⟩

end Erase

lemma Holds.insert (h : m.Holds R) (term : List Char) (id : TrackId) :
    (m.insert term id).Holds fun t i => (t = term ∧ i = id) ∨ R t i where
  terms := terms_insert term id h.terms
  ids := forall_insert term id (List.pairwise_singleton _ _) (fun _ hi => IdSet.pairwise_insert hi id) h.ids
  ne_nil := forall_insert (P := (· ≠ [])) term id (List.cons_ne_nil _ _)
    (fun _ _ => List.ne_nil_of_mem (IdSet.mem_insert.mpr (Or.inl rfl))) h.ne_nil
  leads t i := by rw [leads_insert, h.leads]

lemma Holds.erase (h : m.Holds R) (term : List Char) (id : TrackId) :
    (m.erase term id).Holds fun t i => R t i ∧ ¬(t = term ∧ i = id) where
  terms := terms_erase term id h.terms
  ids := forall_erase term id (fun _ hi _ => hi.filter _) h.ids
  ne_nil := forall_erase (P := (· ≠ [])) term id (fun _ _ hne => hne) h.ne_nil
  leads t i := by rw [leads_erase term id h.terms, h.leads]

lemma Holds.insertAll (h : m.Holds R) (terms : List (List Char)) (id : TrackId) :
    (terms.foldl (fun m t => m.insert t id) m).Holds fun t i => (t ∈ terms ∧ i = id) ∨ R t i := by
  induction terms generalizing m R with
  | nil => exact h.congr (by simp)
  | cons term terms ih =>
    refine (ih (h.insert term id)).congr fun t i => ?_
    rw [List.mem_cons]
    tauto

lemma Holds.eraseAll (h : m.Holds R) (terms : List (List Char)) (id : TrackId) :
    (terms.foldl (fun m t => m.erase t id) m).Holds fun t i => R t i ∧ ¬(t ∈ terms ∧ i = id) := by
  induction terms generalizing m R with
  | nil => exact h.congr (by simp)
  | cons term terms ih =>
    refine (ih (h.erase term id)).congr fun t i => ?_
    rw [List.mem_cons]
    tauto

lemma mem_unionIds {id : TrackId} : id ∈ m.unionIds ↔ ∃ e ∈ m, id ∈ e.2 := by
  suffices h : ∀ (m : TermMap) (a : IdSet),
      id ∈ m.foldl (fun ids entry => ids.union entry.2) a ↔ id ∈ a ∨ ∃ e ∈ m, id ∈ e.2 by
    simpa only [unionIds, List.not_mem_nil, false_or] using h m []
  intro m
  induction m with
  | nil => simp
  | cons e rest ih =>
    intro a
    rw [List.foldl_cons, ih, IdSet.mem_union, or_assoc]
    simp only [List.mem_cons, exists_eq_or_imp]

lemma pairwise_unionIds : m.unionIds.Pairwise (· < ·) := by
  suffices h : ∀ (m : TermMap) (a : IdSet), a.Pairwise (· < ·) →
      (m.foldl (fun ids entry => ids.union entry.2) a).Pairwise (· < ·) from h m [] .nil
  intro m
  induction m with
  | nil => exact fun a ha => ha
  | cons e rest ih => exact fun a ha => ih _ (IdSet.pairwise_union ha e.2)

lemma mem_ids_iff (h : m.Pairwise fun a b => a.1 < b.1) {term : List Char} {id : TrackId} :
    id ∈ m.ids term ↔ m.Leads term id := by
  induction m with
  | nil => simp [ids, Leads]
  | cons e rest ih =>
    obtain ⟨t, is⟩ := e
    rw [leads_cons]
    by_cases hterm : term = t
    · subst hterm
      have hno : ¬ TermMap.Leads rest term id := fun hl => Std.lt_irrefl (lt_of_leads h hl)
      simp [ids, hno]
    · have hb : (term == t) = false := by simpa using hterm
      simpa [ids, List.lookup_cons, hb, hterm] using ih (List.pairwise_cons.mp h).2

lemma carries_iff (h : m.Pairwise fun a b => a.1 < b.1) {term : List Char} {id : TrackId} :
    m.carries term id = true ↔ m.Leads term id := by
  rw [carries, decide_eq_true_eq, mem_ids_iff h]

lemma Serves.carries (h : m.Serves R) (term : List Char) (id : TrackId) : m.carries term id = true ↔ R term id :=
  (carries_iff h.terms).trans (h.leads term id)

end TermMap

end MusicQuery
