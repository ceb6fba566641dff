import MusicQuery.Proofs.Library.Selection
import MusicQuery.Proofs.Live.Change
import MusicQuery.Proofs.Live.Update

namespace MusicQuery.LiveList

/-- The members are the ids of the published editions, which are distinct and stand in the library. -/
structure Sound (editions : List Edition) (l : LiveList) : Prop where
  members : ∀ id, l.members.contains id = true ↔ id ∈ l.published.map (·.track.id)
  nodup : (l.published.map (·.track.id)).Nodup
  current : ∀ e ∈ l.published, e ∈ editions

variable {l : LiveList} {change : Change} {before after : List Edition}

lemma Sound.publish {editions tracks : List Edition} (h : (editions.map (·.track.id)).Nodup)
    (hsub : tracks.Subperm editions) (p : Playlist) : (publish p tracks).Sound editions where
  members id := by
    rw [LiveList.publish, List.contains_iff_mem, IdSet.mem_ofList]
  nodup := by
    obtain ⟨es, hperm, hes⟩ := hsub
    exact (hperm.map _).nodup_iff.mp (h.sublist (hes.map _))
  current _ he := hsub.subset he

lemma swap_published (l : LiveList) (change : Change) : (l.swap change).published = l.published.map change.renew := by
  cases change with
  | inserted new => exact (List.map_id _).symm
  | removed old => exact (List.map_id _).symm
  | replaced old new => rfl

lemma swap_playlist (l : LiveList) (change : Change) : (l.swap change).playlist = l.playlist := by
  cases change <;> rfl

lemma swap_members (l : LiveList) (change : Change) : (l.swap change).members = l.members := by
  cases change <;> rfl

section Concern

variable {now : Instant}

lemma isConcerned_eq_false :
    l.isConcerned now change = false ↔
      l.holds now change.old? = l.holds now change.new? ∧
        (l.holds now change.new? = true → l.sortMoved change = false) ∧
        (l.members.contains change.id = true → l.holds now change.new? = true) := by
  simp only [isConcerned]
  cases l.holds now change.old? <;> cases l.holds now change.new? <;> cases l.sortMoved change <;>
    cases l.members.contains change.id <;> simp

lemma key?_renew {e : Edition} (h : change.Leads before after) (he : e ∈ before)
    (hk : e.track.id = change.id → l.sortMoved change = false) :
    Sorting.key? l.playlist.query.sorting (change.renew e).track =
      Sorting.key? l.playlist.query.sorting e.track := by
  cases h with
  | inserted h => rfl
  | removed h => rfl
  | @replaced old new h =>
    by_cases hid : e.track.id = new.track.id
    · rw [Change.renew, if_pos hid, h e he hid]
      exact Sorting.key?_eq_of_keyChanged (hk hid)
    · rw [Change.renew, if_neg hid]

end Concern

section Follow

variable {settings : Settings} {library : Library} {o : Occasion}

lemma follow_playlist : (l.follow settings library o change).playlist = l.playlist := by
  rw [follow]
  split
  · rfl
  · split
    · exact l.swap_playlist change
    · rfl

lemma follow_id (settings : Settings) (library : Library) (o : Occasion) (change : Change) (l : LiveList) :
    (l.follow settings library o change).id = l.id :=
  congrArg Playlist.id follow_playlist

lemma news?_playlist {u : Update} (hu : l.news? settings library o change = some u) : u.playlist = l.id := by
  rw [news?] at hu
  split at hu
  · obtain ⟨c, -, rfl⟩ := Option.map_eq_some_iff.mp hu
    rfl
  · cases hu

lemma tracks_eq_evaluate (settings : Settings) (o : Occasion) (hl : library.Sound) (p : Playlist) :
    p.tracks settings library o = p.query.evaluate (o.shuffle p.id) o.now library.shelf.editions :=
  hl.answer_eq settings o.now (o.shuffle p.id) p.query

lemma Sound.anew (hl : library.Sound) (p : Playlist) :
    (LiveList.publish p (p.tracks settings library o)).Sound library.shelf.editions := by
  rw [tracks_eq_evaluate settings o hl]
  exact .publish hl.shelf.nodup_ids (Query.evaluate_subperm _ _ _ _) p

variable (settings library) in
lemma follow_of_concerned (hc : l.isConcerned o.now change = true) :
    l.follow settings library o change = publish l.playlist (l.playlist.tracks settings library o) := by
  rw [follow, if_pos hc, refresh]

section Unconcerned

variable (hc : l.isConcerned o.now change = false)
include hc

lemma news?_of_unconcerned : l.news? settings library o change = none := by
  rw [news?, hc, if_neg Bool.false_ne_true]

lemma follow_members : (l.follow settings library o change).members = l.members := by
  rw [follow, hc, if_neg Bool.false_ne_true]
  split
  · exact l.swap_members change
  · rfl

lemma map_renew_evaluate (hch : change.Leads before after) (shuffle : Shuffle)
    (hr : l.playlist.query.isRandom = false) :
    (l.playlist.query.evaluate shuffle o.now before).map change.renew =
      l.playlist.query.evaluate shuffle o.now after := by
  obtain ⟨hsame, hmoved, -⟩ := isConcerned_eq_false.mp hc
  rw [Query.evaluate, Query.finish_map hr, ← hch.filter hsame, Query.evaluate]
  intro e he
  obtain ⟨hm, hp⟩ := List.mem_filter.mp he
  refine key?_renew hch hm fun hid => hmoved ?_
  rw [← hsame, hch.old?_of_id hm hid]
  exact hp

variable (h : l.Sound before)
include h

lemma Sound.follow_published : (l.follow settings library o change).published = l.published.map change.renew := by
  rw [follow, hc, if_neg Bool.false_ne_true]
  split
  · exact l.swap_published change
  · next hm =>
    refine (Change.map_renew_of_ne fun e he hid => hm ?_).symm
    exact (h.members _).mpr (hid ▸ List.mem_map_of_mem he)

lemma Sound.holds_of_published {e : Edition} (he : e ∈ l.published) (hid : e.track.id = change.id) :
    l.holds o.now change.new? = true := by
  obtain ⟨-, -, hmember⟩ := isConcerned_eq_false.mp hc
  exact hmember ((h.members _).mpr (hid ▸ List.mem_map_of_mem he))

lemma Sound.map_rank_follow (hch : change.Leads before after) :
    (l.follow settings library o change).published.map (·.rank l.playlist.query.sorting) =
      l.published.map (·.rank l.playlist.query.sorting) := by
  obtain ⟨-, hmoved, -⟩ := isConcerned_eq_false.mp hc
  rw [h.follow_published hc, List.map_map]
  refine List.map_congr_left fun e he => Prod.ext (change.renew_id e) ?_
  exact key?_renew hch (h.current e he) fun hid => hmoved (h.holds_of_published hc he hid)

end Unconcerned

lemma Sound.follow (h : l.Sound before) (hch : change.Leads before library.shelf.editions) (hl : library.Sound) :
    (l.follow settings library o change).Sound library.shelf.editions := by
  cases hc : l.isConcerned o.now change with
  | true =>
    rw [follow_of_concerned settings library hc]
    exact .anew hl l.playlist
  | false =>
    have hids : (l.published.map change.renew).map (·.track.id) = l.published.map (·.track.id) := by
      rw [List.map_map]
      exact List.map_congr_left fun e _ => change.renew_id e
    constructor
    · intro id
      rw [follow_members hc, h.follow_published hc, hids]
      exact h.members id
    · rw [h.follow_published hc, hids]
      exact h.nodup
    · rw [h.follow_published hc, List.forall_mem_map]
      intro e he
      refine hch.renew_mem (h.current e he) fun hid => ?_
      obtain ⟨new, hnew, -⟩ := (Option.any_eq_true _ _).mp (h.holds_of_published hc he hid)
      rw [hnew]
      rfl

end Follow

end MusicQuery.LiveList
