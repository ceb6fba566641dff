import MusicQuery.Index.Catalog
import MusicQuery.Proofs.Binary64.Order
import MusicQuery.Proofs.Index.Inverted
import MusicQuery.Proofs.Index.Sorted

namespace MusicQuery

variable {α β : Type}

namespace TextFields

@[simp] lemma get?_mapFields (g : Field → α → β) (x : TextFields α) (f : Field) :
    (x.mapFields g).get? f = (x.get? f).map (g f) := by
  cases f <;> rfl

lemma isSome_get? (x : TextFields α) (f : Field) : (x.get? f).isSome = f.isTextIndexed := by
  cases f <;> rfl

lemma eq_of_get?_replicate {a b : α} {f : Field} (h : (replicate a).get? f = some b) : b = a := by
  cases f <;> cases h <;> rfl

lemma mem_toList {x : TextFields α} {f : Field} {a : α} : (f, a) ∈ x.toList ↔ x.get? f = some a := by
  cases f <;> simp [toList, get?, eq_comm]

end TextFields

namespace NumberFields

@[simp] lemma get?_mapFields (g : Field → α → β) (x : NumberFields α) (f : Field) :
    (x.mapFields g).get? f = (x.get? f).map (g f) := by
  cases f <;> rfl

lemma isSome_get? (x : NumberFields α) (f : Field) : (x.get? f).isSome = decide (f.kind = .number) := by
  cases f <;> rfl

lemma eq_of_get?_replicate {a b : α} {f : Field} (h : (replicate a).get? f = some b) : b = a := by
  cases f <;> cases h <;> rfl

lemma mem_toList {x : NumberFields α} {f : Field} {a : α} : (f, a) ∈ x.toList ↔ x.get? f = some a := by
  cases f <;> simp [toList, get?, eq_comm]

end NumberFields

namespace DateFields

@[simp] lemma get?_mapFields (g : Field → α → β) (x : DateFields α) (f : Field) :
    (x.mapFields g).get? f = (x.get? f).map (g f) := by
  cases f <;> rfl

lemma isSome_get? (x : DateFields α) (f : Field) : (x.get? f).isSome = decide (f.kind = .date) := by
  cases f <;> rfl

lemma eq_of_get?_replicate {a b : α} {f : Field} (h : (replicate a).get? f = some b) : b = a := by
  cases f <;> cases h <;> rfl

lemma mem_toList {x : DateFields α} {f : Field} {a : α} : (f, a) ∈ x.toList ↔ x.get? f = some a := by
  cases f <;> simp [toList, get?, eq_comm]

end DateFields

namespace Catalog

structure Holds (c : Catalog) (held : TrackId → Option Track) : Prop where
  texts : ∀ f ix, c.texts.get? f = some ix → ix.Holds fun id => (held id).bind (·.text f)
  numbers : ∀ f ix, c.numbers.get? f = some ix → ix.Holds fun id => (held id).bind (·.key f)
  dates : ∀ f ix, c.dates.get? f = some ix → ix.Holds fun id => (held id).bind (·.date f)

/-- A catalog that serves as well, whatever the empty sets of its inverted indexes. -/
structure Serves (c : Catalog) (held : TrackId → Option Track) : Prop where
  texts : ∀ f ix, c.texts.get? f = some ix → ix.Serves fun id => (held id).bind (·.text f)
  numbers : ∀ f ix, c.numbers.get? f = some ix → ix.Holds fun id => (held id).bind (·.key f)
  dates : ∀ f ix, c.dates.get? f = some ix → ix.Holds fun id => (held id).bind (·.date f)

lemma Holds.serves {c : Catalog} {held : TrackId → Option Track} (h : c.Holds held) : c.Serves held :=
  ⟨fun f ix hix => (h.texts f ix hix).serves, h.numbers, h.dates⟩

lemma holds_empty : empty.Holds fun _ => none where
  texts _ _ h := TextFields.eq_of_get?_replicate h ▸ InvertedIndex.holds_empty
  numbers _ _ h := NumberFields.eq_of_get?_replicate h ▸ SortedIndex.holds_empty
  dates _ _ h := DateFields.eq_of_get?_replicate h ▸ SortedIndex.holds_empty

lemma update_bind (held : TrackId → Option Track) (id : TrackId) (o : Option Track) (g : Track → Option α) :
    (fun i => (Function.update held id o i).bind g) = Function.update (fun i => (held i).bind g) id (o.bind g) := by
  funext i
  by_cases hi : i = id
  · subst hi
    simp
  · simp [hi]

lemma update_none {held : TrackId → Option α} {id : TrackId} (h : held id = none) :
    Function.update held id none = held := by
  rw [← h, Function.update_eq_self]

section Fields

variable {id : TrackId}

lemma text_insert {ix : InvertedIndex} {held : TrackId → Option String} (h : ix.Holds held) (hid : held id = none)
    (text : Option String) : (text.elim ix (ix.insert id)).Holds (Function.update held id text) := by
  cases text with
  | none => rwa [update_none hid]
  | some text => exact h.insert hid text

lemma text_erase {ix : InvertedIndex} {held : TrackId → Option String} (h : ix.Holds held) (id : TrackId) :
    ((held id).elim ix (ix.erase id)).Holds (Function.update held id none) := by
  cases hid : held id with
  | none => rwa [update_none hid]
  | some text => exact h.erase hid

variable [LE α] [DecidableLE α] [Std.IsLinearOrder α] {ix : SortedIndex α} {held : TrackId → Option α}

lemma value_insert (h : ix.Holds held) (hid : held id = none) (value : Option α) :
    (value.elim ix (ix.insert id)).Holds (Function.update held id value) := by
  cases value with
  | none => rwa [update_none hid]
  | some value => exact h.insert hid value

omit [DecidableLE α] [Std.IsLinearOrder α] in
lemma value_erase (h : ix.Holds held) (id : TrackId) :
    (if (held id).isSome then ix.erase id else ix).Holds (Function.update held id none) := by
  cases hid : held id with
  | none => rwa [update_none hid]
  | some value => exact h.erase id

end Fields

variable {c : Catalog} {held : TrackId → Option Track} {t : Track}

lemma Holds.insert (h : c.Holds held) (hid : held t.id = none) :
    (c.insert t).Holds (Function.update held t.id (some t)) where
  texts f ix hix := by
    rw [Catalog.insert, TextFields.get?_mapFields] at hix
    obtain ⟨old, hold, rfl⟩ := Option.map_eq_some_iff.mp hix
    rw [update_bind]
    exact text_insert (h.texts f old hold) (by rw [hid]; rfl) (t.text f)
  numbers f ix hix := by
    rw [Catalog.insert, NumberFields.get?_mapFields] at hix
    obtain ⟨old, hold, rfl⟩ := Option.map_eq_some_iff.mp hix
    rw [update_bind]
    exact value_insert (h.numbers f old hold) (by rw [hid]; rfl) (t.key f)
  dates f ix hix := by
    rw [Catalog.insert, DateFields.get?_mapFields] at hix
    obtain ⟨old, hold, rfl⟩ := Option.map_eq_some_iff.mp hix
    rw [update_bind]
    exact value_insert (h.dates f old hold) (by rw [hid]; rfl) (t.date f)

lemma Holds.erase (h : c.Holds held) (hid : held t.id = some t) :
    (c.erase t).Holds (Function.update held t.id none) where
  texts f ix hix := by
    rw [Catalog.erase, TextFields.get?_mapFields] at hix
    obtain ⟨old, hold, rfl⟩ := Option.map_eq_some_iff.mp hix
    rw [update_bind]
    have he := text_erase (h.texts f old hold) t.id
    rwa [hid] at he
  numbers f ix hix := by
    rw [Catalog.erase, NumberFields.get?_mapFields] at hix
    obtain ⟨old, hold, rfl⟩ := Option.map_eq_some_iff.mp hix
    rw [update_bind]
    have he := value_erase (h.numbers f old hold) t.id
    rwa [hid] at he
  dates f ix hix := by
    rw [Catalog.erase, DateFields.get?_mapFields] at hix
    obtain ⟨old, hold, rfl⟩ := Option.map_eq_some_iff.mp hix
    rw [update_bind]
    have he := value_erase (h.dates f old hold) t.id
    rwa [hid] at he

lemma Holds.insertAll (h : c.Holds held) {ts : List Track} (hts : (ts.map (·.id)).Nodup)
    (hnew : ∀ t ∈ ts, held t.id = none) :
    (ts.foldl Catalog.insert c).Holds fun id => (ts.find? (·.id = id)).or (held id) := by
  induction ts generalizing c held with
  | nil => exact h
  | cons t ts ih =>
    obtain ⟨ht, hts⟩ := List.nodup_cons.mp hts
    have hne : ∀ d ∈ ts, d.id ≠ t.id := fun d hd hid => ht (List.mem_map.mpr ⟨d, hd, hid⟩)
    have hrest := ih (h.insert (hnew t List.mem_cons_self)) hts fun d hd => by
      rw [Function.update_of_ne (hne d hd)]
      exact hnew d (List.mem_cons_of_mem _ hd)
    have hheld : (fun id => ((t :: ts).find? (·.id = id)).or (held id)) =
        fun id => (ts.find? (·.id = id)).or (Function.update held t.id (some t) id) := by
      funext id
      by_cases hid : id = t.id
      · subst hid
        have hno : ts.find? (·.id = t.id) = none := List.find?_eq_none.mpr fun d hd => by simpa using hne d hd
        simp [hno]
      · simp [hid, Ne.symm hid]
    rw [hheld]
    exact hrest

lemma covers_iff :
    c.covers t = true ↔
      (∀ f ix, c.texts.get? f = some ix → ∀ text, t.text f = some text → ix.covers t.id text = true) ∧
      (∀ f ix, c.numbers.get? f = some ix → ix.get? t.id = t.key f) ∧
      ∀ f ix, c.dates.get? f = some ix → ix.get? t.id = t.date f := by
  simp only [Catalog.covers, Bool.and_eq_true, List.all_eq_true, Prod.forall, decide_eq_true_eq, Option.all_eq_true,
    TextFields.mem_toList, NumberFields.mem_toList, DateFields.mem_toList, and_assoc]

lemma Serves.covers (h : c.Serves held) (hid : held t.id = some t) : c.covers t = true := by
  refine covers_iff.mpr ⟨fun f ix hix text htext => ?_, fun f ix hix => ?_, fun f ix hix => ?_⟩
  · exact (h.texts f ix hix).covers (by rw [hid]; exact htext)
  · rw [(h.numbers f ix hix).get?, hid]
    rfl
  · rw [(h.dates f ix hix).get?, hid]
    rfl

lemma Holds.covers (h : c.Holds held) (hid : held t.id = some t) : c.covers t = true := h.serves.covers hid

end Catalog

end MusicQuery
