import MusicQuery.Proofs.Index.Catalog

namespace MusicQuery

lemma eq_of_pairwise_of_mem_iff {α : Type} {r : α → α → Prop} (hr : ∀ a b, r a b → ¬ r b a) {xs ys : List α}
    (hx : xs.Pairwise r) (hy : ys.Pairwise r) (h : ∀ a, a ∈ xs ↔ a ∈ ys) : xs = ys := by
  have hne : ∀ a b, r a b → a ≠ b := by
    rintro a b hab rfl
    exact hr a a hab hab
  apply List.Perm.eq_of_pairwise _ hx hy
  · exact (List.perm_ext_iff_of_nodup (hx.imp (hne _ _)) (hy.imp (hne _ _))).mpr h
  · intro a b _ _ hab hba
    exact (hr a b hab hba).elim

namespace TermMap

variable {m m' : TermMap} {R : List Char → TrackId → Prop} {term : List Char} {ids : IdSet}

lemma Holds.mem_iff (h : m.Holds R) (he : (term, ids) ∈ m) (id : TrackId) : id ∈ ids ↔ R term id := by
  rw [← h.leads]
  constructor
  · intro hid
    exact ⟨ids, he, hid⟩
  · rintro ⟨others, ho, hid⟩
    have hterms : (m.map (·.1)).Nodup := List.pairwise_map.mpr (h.terms.imp Std.ne_of_lt)
    have heq : (term, others) = (term, ids) := List.inj_on_of_nodup_map hterms ho he rfl
    cases heq
    exact hid

lemma Holds.mem_of_mem (h : m.Holds R) (h' : m'.Holds R) (he : (term, ids) ∈ m) : (term, ids) ∈ m' := by
  obtain ⟨id, hid⟩ := List.exists_mem_of_ne_nil ids (h.ne_nil _ he)
  obtain ⟨ids', he', -⟩ := (h'.leads term id).mpr ((h.mem_iff he id).mp hid)
  have hids : ids = ids' := by
    apply eq_of_pairwise_of_mem_iff (fun a b hab hba => Std.lt_irrefl (Std.lt_trans hab hba)) (h.ids _ he) (h'.ids _ he')
    intro i
    rw [h.mem_iff he, h'.mem_iff he']
  rwa [hids]

lemma Holds.unique (h : m.Holds R) (h' : m'.Holds R) : m = m' := by
  apply eq_of_pairwise_of_mem_iff (fun a b hab hba => Std.lt_irrefl (Std.lt_trans hab hba)) h.terms h'.terms
  rintro ⟨term, ids⟩
  exact ⟨h.mem_of_mem h', h'.mem_of_mem h⟩

end TermMap

lemma InvertedIndex.Holds.unique {ix ix' : InvertedIndex} {held : TrackId → Option String} (h : ix.Holds held)
    (h' : ix'.Holds held) : ix = ix' := by
  obtain ⟨values, words⟩ := ix
  obtain ⟨values', words'⟩ := ix'
  exact congrArg₂ InvertedIndex.mk (h.values.unique h'.values) (h.words.unique h'.words)

namespace SortedIndex

variable {α : Type}

/-- The same entries but for the order of equal values. -/
structure Agrees (a b : SortedIndex α) : Prop where
  values : a.entries.map (·.1) = b.entries.map (·.1)
  perm : a.entries.Perm b.entries

lemma Holds.agrees [LE α] [Std.IsLinearOrder α] {ix ix' : SortedIndex α} {held : TrackId → Option α}
    (h : ix.Holds held) (h' : ix'.Holds held) : ix.Agrees ix' := by
  have hperm : ix.entries.Perm ix'.entries := by
    rw [List.perm_ext_iff_of_nodup (h.nodup.of_map _) (h'.nodup.of_map _)]
    rintro ⟨value, id⟩
    rw [h.mem, h'.mem]
  refine ⟨?_, hperm⟩
  apply List.Perm.eq_of_pairwise _ (List.pairwise_map.mpr h.sorted) (List.pairwise_map.mpr h'.sorted) (hperm.map _)
  intro a b _ _ hab hba
  exact Std.le_antisymm hab hba

end SortedIndex

lemma TextFields.eq_of_get? {α : Type} {a b : TextFields α}
    (h : ∀ f x y, a.get? f = some x → b.get? f = some y → x = y) : a = b := by
  obtain ⟨artist, album, genre⟩ := a
  obtain ⟨artist', album', genre'⟩ := b
  rw [h .artist artist artist' rfl rfl, h .album album album' rfl rfl, h .genre genre genre' rfl rfl]

namespace Catalog

structure Agrees (a b : Catalog) : Prop where
  texts : a.texts = b.texts
  numbers : ∀ f x y, a.numbers.get? f = some x → b.numbers.get? f = some y → x.Agrees y
  dates : ∀ f x y, a.dates.get? f = some x → b.dates.get? f = some y → x.Agrees y

lemma Holds.agrees {a b : Catalog} {held : TrackId → Option Track} (ha : a.Holds held) (hb : b.Holds held) :
    a.Agrees b where
  texts := by
    apply TextFields.eq_of_get?
    intro f x y hx hy
    exact (ha.texts f x hx).unique (hb.texts f y hy)
  numbers f x y hx hy := (ha.numbers f x hx).agrees (hb.numbers f y hy)
  dates f x y hx hy := (ha.dates f x hx).agrees (hb.dates f y hy)

end Catalog

end MusicQuery
