import MusicQuery.Live.Board
import MusicQuery.Proofs.Library.History

namespace MusicQuery

namespace Change

def renew : Change → Edition → Edition
  | replaced _ new, e => if e.track.id = new.track.id then new else e
  | _, e => e

inductive Leads (before : List Edition) : Change → List Edition → Prop
  | inserted {new : Edition} (h : ∀ e ∈ before, e.track.id ≠ new.track.id) :
    Leads before (inserted new) (before ++ [new])
  | replaced {old new : Edition} (h : ∀ e ∈ before, e.track.id = new.track.id → e = old) :
    Leads before (replaced old new) (before.map (replaced old new).renew)
  | removed {old : Edition} (h : ∀ e ∈ before, e.track.id = old.track.id → e = old) :
    Leads before (removed old) (before.filter (·.track.id ≠ old.track.id))

variable {change : Change} {before after : List Edition} {e : Edition}

lemma renew_id (change : Change) (e : Edition) : (change.renew e).track.id = e.track.id := by
  cases change with
  | inserted new => rfl
  | removed old => rfl
  | replaced old new =>
    simp only [renew]
    split
    · next h => exact h.symm
    · rfl

lemma renew_of_ne (h : e.track.id ≠ change.id) : change.renew e = e := by
  cases change with
  | inserted new => rfl
  | removed old => rfl
  | replaced old new => exact if_neg h

lemma map_renew_of_ne {es : List Edition} (h : ∀ e ∈ es, e.track.id ≠ change.id) : es.map change.renew = es := by
  conv_rhs => rw [← List.map_id es]
  exact List.map_congr_left fun e he => renew_of_ne (h e he)

lemma Leads.filter {p : Edition → Bool} (h : change.Leads before after) (hp : change.old?.any p = change.new?.any p) :
    after.filter p = (before.filter p).map change.renew := by
  cases h with
  | @inserted new h =>
    have hnew : p new = false := hp.symm
    rw [List.filter_append, List.filter_singleton, hnew, cond_false, List.append_nil]
    exact (List.map_id _).symm
  | @removed old h =>
    have hold : p old = false := hp
    rw [List.filter_filter]
    refine (List.filter_congr fun e he => ?_).trans (List.map_id _).symm
    by_cases hid : e.track.id = old.track.id
    · rw [h e he hid, hold, Bool.false_and]
    · simp [hid]
  | @replaced old new h =>
    have hon : p old = p new := hp
    rw [List.filter_map]
    congr 1
    refine List.filter_congr fun e he => ?_
    by_cases hid : e.track.id = new.track.id
    · simp only [Function.comp, renew, if_pos hid]
      rw [h e he hid, hon]
    · simp only [Function.comp, renew, if_neg hid]

lemma Leads.old?_of_id (h : change.Leads before after) (he : e ∈ before) (hid : e.track.id = change.id) :
    change.old? = some e := by
  cases h with
  | inserted h => exact absurd hid (h e he)
  | replaced h => exact congrArg some (h e he hid).symm
  | removed h => exact congrArg some (h e he hid).symm

lemma Leads.new?_of_id (h : change.Leads before after) (he : e ∈ after) (hid : e.track.id = change.id) :
    change.new? = some e := by
  cases h with
  | inserted h =>
    rcases List.mem_append.mp he with hm | hm
    · exact absurd hid (h e hm)
    · exact congrArg some (List.mem_singleton.mp hm).symm
  | @replaced old new h =>
    obtain ⟨d, -, rfl⟩ := List.mem_map.mp he
    rw [renew_id] at hid
    have hid' : d.track.id = new.track.id := hid
    rw [renew, if_pos hid']
    rfl
  | removed h => exact absurd hid (of_decide_eq_true (List.mem_filter.mp he).2)

lemma Leads.renew_mem (h : change.Leads before after) (he : e ∈ before)
    (hnew : e.track.id = change.id → change.new?.isSome = true) : change.renew e ∈ after := by
  cases h with
  | inserted h => exact List.mem_append_left _ he
  | replaced h => exact List.mem_map_of_mem he
  | @removed old h =>
    refine List.mem_filter.mpr ⟨he, decide_eq_true fun hid => ?_⟩
    exact Bool.noConfusion (hnew hid)

end Change

namespace Library

variable {l : Library} (h : l.Sound)
include h

lemma Sound.leads_insert (t : Track) :
    ((l.get? t.id).elim (.inserted (l.edition t)) (.replaced · (l.edition t)) : Change).Leads l.shelf.editions
      (l.insert t).shelf.editions := by
  cases hg : l.get? t.id with
  | none =>
    have hshelf : l.shelf.get? (l.edition t).track.id = none := hg
    rw [Library.insert, Shelf.editions_insert_of_absent hshelf]
    exact .inserted (Shelf.get?_eq_none_iff.mp hshelf)
  | some old =>
    have hshelf : l.shelf.get? (l.edition t).track.id = some old := hg
    rw [Library.insert, Shelf.editions_insert_of_get? hshelf]
    exact .replaced fun e he hid => h.shelf.eq_of_id he hshelf hid

lemma Sound.leads_erase {id : TrackId} {old : Edition} (hg : l.get? id = some old) :
    (Change.removed old).Leads l.shelf.editions (l.erase id).shelf.editions := by
  have hid : old.track.id = id := Shelf.get?_id hg
  subst hid
  rw [erase_of_get? hg, Shelf.editions_erase]
  exact .removed fun e he hid => h.shelf.eq_of_id he hg hid

end Library

end MusicQuery
