import MusicQuery.Proofs.Library.Agreement

namespace MusicQuery.Library

namespace Edit

def track? : Edit → Option TrackId
  | .insert t => some t.id
  | .erase id => some id
  | .replaceAll _ => none

def IsArrival (l : Library) : Edit → Prop
  | .insert t => l.get? t.id = none
  | _ => False

def versions (l : Library) : Edit → Nat
  | .erase id => if (l.get? id).isSome then 1 else 0
  | _ => 1

end Edit

variable {l : Library} {a b : Edit} {x y : TrackId}

section Erase

lemma shelf_erase (l : Library) (id : TrackId) : (l.erase id).shelf = l.shelf.erase id := by
  cases hg : l.get? id with
  | none => rw [erase_of_absent hg, Shelf.erase_of_absent hg]
  | some e => rw [erase_of_get? hg]

lemma stamps_erase (l : Library) (id : TrackId) : (l.erase id).stamps = l.stamps := by
  cases hg : l.get? id with
  | none => rw [erase_of_absent hg]
  | some e => rw [erase_of_get? hg]

lemma edition_erase (l : Library) (id : TrackId) (t : Track) : (l.erase id).edition t = l.edition t := by
  rw [edition, edition, stamps_erase]

end Erase

section Other

lemma get?_apply_of_other (ha : a.track? = some x) (hyx : y ≠ x) : (l.apply a).get? y = l.get? y := by
  cases a with
  | insert t =>
    cases ha
    rw [apply, get?_insert, if_neg hyx]
  | erase id =>
    cases ha
    rw [apply, get?, shelf_erase, Shelf.get?_erase, if_neg hyx, get?]
  | replaceAll ts => cases ha

lemma version_apply (l : Library) (a : Edit) : (l.apply a).version = l.version + a.versions l := by
  cases a with
  | erase id =>
    rw [apply, Edit.versions]
    cases hg : l.get? id with
    | none =>
      rw [erase_of_absent hg]
      rfl
    | some e =>
      rw [erase_of_get? hg]
      rfl
  | _ => rfl

lemma versions_apply_of_other (ha : a.track? = some x) (hb : b.track? = some y) (hyx : y ≠ x) :
    b.versions (l.apply a) = b.versions l := by
  cases b with
  | erase id =>
    cases hb
    rw [Edit.versions, Edit.versions, get?_apply_of_other ha hyx]
  | _ => rfl

end Other

section Commute

lemma shelf_erase_insert {t : Track} {id : TrackId} (h : t.id ≠ id) :
    ((l.insert t).erase id).shelf = ((l.erase id).insert t).shelf := by
  have hafter : ((l.erase id).insert t).shelf = (l.erase id).shelf.insert ((l.erase id).edition t) := rfl
  have hbefore : (l.insert t).shelf = l.shelf.insert (l.edition t) := rfl
  rw [hafter, shelf_erase, edition_erase, shelf_erase, hbefore]
  exact Shelf.erase_insert_comm h

lemma shelf_erase_erase (l : Library) (id i : TrackId) :
    ((l.erase id).erase i).shelf = ((l.erase i).erase id).shelf := by
  rw [shelf_erase, shelf_erase, shelf_erase, shelf_erase]
  exact Shelf.erase_comm l.shelf id i

lemma layout_insert_insert {t u : Track} (h : t.id ≠ u.id) (hnew : ¬ (l.get? t.id = none ∧ l.get? u.id = none)) :
    ((l.insert t).insert u).shelf.layout = ((l.insert u).insert t).shelf.layout := by
  have hcomm : (l.shelf.insert (l.edition t)).insert ((l.insert t).edition u) =
      (l.shelf.insert ((l.insert t).edition u)).insert (l.edition t) := Shelf.insert_comm h hnew
  apply (congrArg Shelf.layout hcomm).trans
  -- The two orders give the stamps the other way round, which no layout shows.
  apply Shelf.layout_insert_congr
  · exact Shelf.layout_insert_congr rfl rfl
  · rfl

variable (ha : a.track? = some x) (hb : b.track? = some y) (hxy : x ≠ y)
include ha hb hxy

lemma version_comm : ((l.apply a).apply b).version = ((l.apply b).apply a).version := by
  rw [version_apply, version_apply, version_apply, version_apply, versions_apply_of_other ha hb hxy.symm,
    versions_apply_of_other hb ha hxy]
  exact Nat.add_right_comm _ _ _

variable (hnew : ¬ (a.IsArrival l ∧ b.IsArrival l))
include hnew

lemma layout_comm : ((l.apply a).apply b).shelf.layout = ((l.apply b).apply a).shelf.layout := by
  cases a with
  | insert t =>
    cases ha
    cases b with
    | insert u =>
      cases hb
      exact layout_insert_insert hxy hnew
    | erase id =>
      cases hb
      exact congrArg Shelf.layout (shelf_erase_insert hxy)
    | replaceAll ts => cases hb
  | erase id =>
    cases ha
    cases b with
    | insert u =>
      cases hb
      exact congrArg Shelf.layout (shelf_erase_insert hxy.symm).symm
    | erase i =>
      cases hb
      exact congrArg Shelf.layout (shelf_erase_erase l x y)
    | replaceAll ts => cases hb
  | replaceAll ts => cases ha

lemma Sound.apply_comm (h : l.Sound) : ((l.apply a).apply b).Agrees ((l.apply b).apply a) where
  layout := layout_comm ha hb hxy hnew
  catalog := by
    apply ((h.apply a).apply b).catalog_agrees ((h.apply b).apply a)
    apply Shelf.tracks_of_layout
    exact layout_comm ha hb hxy hnew
  version := version_comm ha hb hxy

end Commute

end MusicQuery.Library
