import MusicQuery.Proofs.Live.Published

namespace MusicQuery

/-- What a reader of one playlist holds after some news; those of other playlists tell it nothing. -/
def hear (id : Uuid) (held : List Edition) (news : List Update) : List Edition :=
  (news.filter (·.playlist = id)).foldl (fun held u => u.content.apply held) held

section Hear

variable {id : Uuid} {held : List Edition}

lemma hear_append (earlier later : List Update) :
    hear id held (earlier ++ later) = hear id (hear id held earlier) later := by
  rw [hear, hear, hear, List.filter_append, List.foldl_append]

lemma hear_full (earlier later : List Update) (tracks : List Edition) :
    hear id held (earlier ++ ⟨id, .full tracks⟩ :: later) = hear id tracks later := by
  rw [hear_append, hear, hear, List.filter_cons_of_pos (by simp), List.foldl_cons]
  rfl

lemma hear_of_filter {news rest : List Update} (h : news.filter (·.playlist = id) = rest) :
    hear id held news = rest.foldl (fun held u => u.content.apply held) held := by
  rw [hear, h]

end Hear

namespace LiveList

variable {l : LiveList} {change : Change} {before : List Edition} {settings : Settings} {library : Library}
  {o : Occasion} {held : List Edition}

lemma Sound.map_rank_hear (h : l.Sound before) (hch : change.Leads before library.shelf.editions)
    (hheld : held.map (·.rank l.playlist.query.sorting) = l.published.map (·.rank l.playlist.query.sorting)) :
    ((l.news? settings library o change).toList.foldl (fun held u => u.content.apply held) held).map
        (·.rank l.playlist.query.sorting) =
      (l.follow settings library o change).published.map (·.rank l.playlist.query.sorting) := by
  cases hc : l.isConcerned o.now change with
  | false =>
    rw [news?_of_unconcerned hc, h.map_rank_follow hc hch]
    exact hheld
  | true =>
    have hafter : l.follow settings library o change = l.refresh settings library o :=
      follow_of_concerned settings library hc
    rw [hafter, news?, if_pos hc]
    rcases UpdateContent.between?_cases h.nodup with ⟨hnone, hsame⟩ | ⟨c, hsome, hnext⟩
    · rw [hnone, ← hsame]
      exact hheld
    · rw [hsome, ← hnext]
      exact UpdateContent.map_rank_apply hheld c

end LiveList

namespace LiveLibrary

variable {l l' : LiveLibrary} {o : Occasion} {news : List Update} {id : Uuid} {entry : LiveList} {held : List Edition}

lemma Turn.map_rank_hear (turn : Turn l l' o news id) (h : l.Sound) (he : l'.list? id = some entry)
    (hheld : ∀ old, l.list? id = some old →
      held.map (·.rank old.playlist.query.sorting) = old.published.map (·.rank old.playlist.query.sorting)) :
    (hear id held news).map (·.rank entry.playlist.query.sorting) =
      entry.published.map (·.rank entry.playlist.query.sorting) := by
  cases turn with
  | absent hnone =>
    rw [hnone] at he
    cases he
  | kept hkept hlibrary hnews =>
    rw [hear_of_filter hnews]
    exact hheld entry (hkept ▸ he)
  | anew p hnew hnews =>
    rw [hnew] at he
    cases he
    rw [hear_of_filter hnews]
    rfl
  | followed old change hold hch hafter hnews =>
    rw [hafter] at he
    cases he
    rw [hear_of_filter hnews, LiveList.follow_playlist]
    exact (h.lists id old hold).map_rank_hear hch (hheld old hold)

lemma Turn.isCurrent_of_news (turn : Turn l l' o news id) (h' : l'.Sound) (he : l'.list? id = some entry)
    (hr : entry.playlist.query.isRandom = false) (hnews : ∃ u ∈ news, u.playlist = id) :
    entry.IsCurrent l'.library.shelf.editions o.now := by
  obtain ⟨u, hu, hid⟩ := hnews
  have hmem : u ∈ news.filter (·.playlist = id) := List.mem_filter.mpr ⟨hu, decide_eq_true hid⟩
  cases turn with
  | absent hnone =>
    rw [hnone] at he
    cases he
  | kept hkept hlibrary hnews =>
    rw [hnews] at hmem
    cases hmem
  | anew p hnew hnews =>
    rw [hnew] at he
    cases he
    exact LiveList.isCurrent_anew h'.library hr
  | followed old change hold hch hafter hnews =>
    rw [hafter] at he
    cases he
    rw [LiveList.follow_playlist] at hr
    cases hc : old.isConcerned o.now change with
    | false =>
      rw [hnews, LiveList.news?_of_unconcerned hc] at hmem
      cases hmem
    | true =>
      rw [LiveList.follow_of_concerned l'.settings l'.library hc]
      exact LiveList.isCurrent_anew h'.library hr

lemma map_rank_hear_run (settings : Settings) (steps : List (Occasion × Step)) (id : Uuid) (held : List Edition) :
    ∀ entry, (run settings steps).2.list? id = some entry →
      (hear id held (run settings steps).1).map (·.rank entry.playlist.query.sorting) =
        entry.published.map (·.rank entry.playlist.query.sorting) := by
  induction steps using List.reverseRecOn with
  | nil =>
    intro entry he
    cases he
  | append_singleton steps s ih =>
    intro entry he
    have hsound := sound_run settings steps
    rw [run_snoc] at he ⊢
    rw [hear_append]
    exact (hsound.turn s.1 s.2 id).map_rank_hear hsound he ih

/-- A reader that starts from any full news of a registered playlist and applies all later ones holds the published
ids in their order, under a fixed order with the published ranks; and whenever there are news, these are the ids of
an evaluation. -/
theorem run_subscriber (settings : Settings) (steps : List (Occasion × Step)) (id : Uuid)
    (earlier later : List Update) (tracks : List Edition) (entry : LiveList)
    (hnews : (run settings steps).1 = earlier ++ ⟨id, .full tracks⟩ :: later)
    (he : (run settings steps).2.list? id = some entry) :
    (hear id tracks later).map (·.track.id) = entry.published.map (·.track.id) ∧
      (∀ s, entry.playlist.query.sorting = some s → s.isRandom = false →
        List.Forall₂ (fun copy e => s.ties copy.track e.track = true) (hear id tracks later) entry.published) ∧
      ∀ past o s, steps = past ++ [(o, s)] → (∃ u ∈ ((run settings past).2.step o s).1, u.playlist = id) →
        entry.playlist.query.isRandom = false → ∀ shuffle,
          (hear id tracks later).map (·.track.id) =
            ((run settings steps).2.library.answer settings o.now shuffle entry.playlist.query).map
              (·.track.id) := by
  have hrank := map_rank_hear_run settings steps id [] entry he
  rw [hnews, hear_full] at hrank
  have hids : (hear id tracks later).map (·.track.id) = entry.published.map (·.track.id) := by
    simpa [Edition.rank, Function.comp_def] using congrArg (List.map Prod.fst) hrank
  refine ⟨hids, fun s hs _ => ?_, fun past o s hsteps hemitted hr shuffle => ?_⟩
  · rw [← List.forall₂_eq_eq_eq, List.forall₂_map_left_iff, List.forall₂_map_right_iff, hs] at hrank
    exact hrank.imp fun copy e hce => Sorting.ties_of_key? (congrArg Prod.snd hce)
  · have hsound := sound_run settings past
    have hlibrary := (sound_run settings steps).library
    rw [hids, hlibrary.answer_eq]
    subst hsteps
    rw [run_snoc] at he ⊢
    have hcur := (hsound.turn o s id).isCurrent_of_news (hsound.step o s) he hr hemitted
    rw [hcur shuffle]

/-- The new title of the first track makes no news, so that the reader keeps the old version of it. -/
theorem run_subscriber_retitled :
    let o : Occasion := ⟨default, fun _ => .identity⟩
    let rated : Playlist :=
      ⟨default, "rated", .plays { field := .rating, operator := .greaterThan, number := some .zero }, none, none⟩
    let first : Track := { id := 1, rating := some 3 }
    let second : Track := { id := 2, rating := some 5 }
    let steps := [(o, Step.register rated), (o, .insert first), (o, .insert { first with title := some "a" }),
      (o, .insert second)]
    let later : List Update := [⟨rated.id, .delta [⟨0, first⟩] []⟩, ⟨rated.id, .delta [⟨2, second⟩] []⟩]
    (run {} steps).1 = [] ++ ⟨rated.id, .full []⟩ :: later ∧
      ∃ entry, (run {} steps).2.list? rated.id = some entry ∧
        (hear rated.id [] later).map (·.track.id) = entry.published.map (·.track.id) ∧
        (hear rated.id [] later).map (·.track.id) =
          ((run {} steps).2.library.answer {} default .identity rated.query).map (·.track.id) := by
  intro o rated first second steps later
  have hnews : (run {} steps).1 = [] ++ ⟨rated.id, .full []⟩ :: later := by decide +revert
  have hlast : ((run {} (steps.take 3)).2.step o (.insert second)).1 = [⟨rated.id, .delta [⟨2, second⟩] []⟩] := by
    decide +revert
  obtain ⟨entry, he, hp⟩ : ∃ entry, (run {} steps).2.list? rated.id = some entry ∧ entry.playlist = rated :=
    ⟨_, rfl, rfl⟩
  obtain ⟨hids, -, hnow⟩ := run_subscriber {} steps rated.id [] later [] entry hnews he
  refine ⟨hnews, entry, he, hids, ?_⟩
  rw [← congrArg Playlist.query hp]
  refine hnow (steps.take 3) o (.insert second) rfl ?_ (congrArg (·.query.isRandom) hp) .identity
  rw [hlast]
  exact ⟨_, List.mem_singleton_self _, rfl⟩

end LiveLibrary

end MusicQuery
