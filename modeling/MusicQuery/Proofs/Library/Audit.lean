import Mathlib.Tactic.Common
import MusicQuery.Library.Audit
import MusicQuery.Proofs.Index.Catalog
import MusicQuery.Proofs.Rule.Validation

namespace MusicQuery.Library

variable {α : Type}

lemma firstFault_eq_ok {check : α → Except LibraryFault Unit} {xs : List α} :
    firstFault check xs = .ok () ↔ ∀ x ∈ xs, check x = .ok () := by
  induction xs with
  | nil => exact iff_of_true rfl (fun _ hx => (List.not_mem_nil hx).elim)
  | cons x xs ih =>
    have hcons : firstFault check (x :: xs) = (check x >>= fun _ => firstFault check xs) := rfl
    rw [hcons, then_eq_ok, ih, List.forall_mem_cons]

lemma checkText_eq_ok {l : Library} {f : Field} {ix : InvertedIndex} :
    l.checkText f ix = .ok () ↔
      (∀ term id, ix.values.Leads term id → l.textOf f id = some term) ∧
        ∀ word id, ix.words.Leads word id → ∃ text, l.textOf f id = some text ∧ word ∈ Text.words text := by
  rw [checkText, then_eq_ok, firstFault_eq_ok, firstFault_eq_ok]
  simp only [firstFault_eq_ok, check_eq_ok, TermMap.Leads, Prod.forall, Option.any_eq_true, decide_eq_true_eq]
  constructor
  · rintro ⟨hv, hw⟩
    constructor
    · rintro term id ⟨ids, hm, hid⟩
      exact hv term ids hm id hid
    · rintro word id ⟨ids, hm, hid⟩
      exact hw word ids hm id hid
  · rintro ⟨hv, hw⟩
    constructor
    · intro term ids hm id hid
      exact hv term id ⟨ids, hm, hid⟩
    · intro word ids hm id hid
      exact hw word id ⟨ids, hm, hid⟩

lemma audit_eq_ok {l : Library} :
    l.audit = .ok () ↔
      (∀ t ∈ l.shelf.tracks, l.catalog.covers t = true) ∧
      (∀ f ix, l.catalog.texts.get? f = some ix → l.checkText f ix = .ok ()) ∧
      (∀ f ix, l.catalog.numbers.get? f = some ix →
        ix.entries.length = l.countWith (·.key f) ∧ ix.entries.Pairwise fun a b => a.1 ≤ b.1) ∧
      (∀ f ix, l.catalog.dates.get? f = some ix →
        ix.entries.length = l.countWith (·.date f) ∧ ix.entries.Pairwise fun a b => a.1 ≤ b.1) := by
  rw [audit, then_eq_ok, then_eq_ok, then_eq_ok]
  simp only [firstFault_eq_ok, check_eq_ok, Prod.forall, TextFields.mem_toList, NumberFields.mem_toList,
    DateFields.mem_toList, SortedIndex.isSorted, SortedIndex.isAscending_iff]

end MusicQuery.Library
