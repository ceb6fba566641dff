import MusicQuery.Proofs.Library.Stamps
import MusicQuery.Proofs.Live.Difference
import MusicQuery.Proofs.Live.Drift
import MusicQuery.Proofs.Live.Published

namespace MusicQuery

lemma Edition.eq_of_map_id {es xs ys : List Edition} (h : (es.map (·.track.id)).Nodup) (hx : xs ⊆ es) (hy : ys ⊆ es)
    (hids : xs.map (·.track.id) = ys.map (·.track.id)) : xs = ys := by
  induction xs generalizing ys with
  | nil => exact (List.map_eq_nil_iff.mp hids.symm).symm
  | cons x xs ih =>
    cases ys with
    | nil => cases hids
    | cons y ys =>
      obtain ⟨hid, hids⟩ := List.cons.inj hids
      obtain ⟨hmx, hx⟩ := List.cons_subset.mp hx
      obtain ⟨hmy, hy⟩ := List.cons_subset.mp hy
      rw [List.inj_on_of_nodup_map h hmx hmy hid, ih hx hy hids]

namespace LiveList

variable {l : LiveList} {change : Change} {before : List Edition} {settings : Settings} {library : Library}
  {o : Occasion}

lemma mem_of_anew (hl : library.Sound) {p : Playlist} {e : Edition}
    (he : e ∈ (publish p (p.tracks settings library o)).published) :
    e ∈ library.shelf.editions ∧ p.query.rule.holds o.now e.track = true := by
  rw [publish, tracks_eq_evaluate settings o hl] at he
  exact Query.mem_of_mem_evaluate he

/-- Whether a change is a new version of a track of two lists, and with another key. -/
def Rekeys (l after : LiveList) (change : Change) : Prop :=
  ∃ old new, change = .replaced old new ∧ new.track.id ∈ l.published.map (·.track.id) ∧
    new.track.id ∈ after.published.map (·.track.id) ∧
    l.playlist.query.sorting.any (·.keyChanged old.track new.track) = true

variable (h : l.Sound before)
include h

lemma Sound.not_rekeys (hc : l.isConcerned o.now change = false) (after : LiveList) : ¬ l.Rekeys after change := by
  rintro ⟨old, new, rfl, hm, -, hkey⟩
  obtain ⟨-, hmoved, hmember⟩ := isConcerned_eq_false.mp hc
  exact Bool.eq_false_iff.mp (hmoved (hmember ((h.members _).mpr hm))) hkey

lemma Sound.news?_isSome (hc : l.isConcerned o.now change = true) :
    (l.news? settings library o change).isSome = true ↔
      l.published ≠ (l.follow settings library o change).published := by
  rw [news?, if_pos hc, Option.isSome_map, Option.isSome_iff_ne_none, ne_eq,
    UpdateContent.between?_eq_none_iff h.nodup, follow_of_concerned settings library hc]
  rfl

section Leads

variable (hch : change.Leads before library.shelf.editions) (hl : library.Sound)
include hch hl

/-- With the same ids before and after, nothing but a new version of a published track has changed the list; and then
the rule held of the old version and holds of the new one, so that only the key can have called for an evaluation. -/
lemma Sound.rekeys (hcur : l.IsCurrent before o.now) (hc : l.isConcerned o.now change = true)
    (hne : l.published ≠ (l.follow settings library o change).published)
    (hids : l.published.map (·.track.id) = (l.follow settings library o change).published.map (·.track.id)) :
    l.Rekeys (l.follow settings library o change) change := by
  rw [follow_of_concerned settings library hc] at hne hids ⊢
  by_cases hm : change.id ∈ l.published.map (·.track.id)
  · obtain ⟨e, he, hid⟩ := List.mem_map.mp hm
    obtain ⟨d, hd, hid'⟩ := List.mem_map.mp (hids ▸ hm)
    obtain ⟨hafter, hholds⟩ := mem_of_anew hl hd
    have hheld := (Query.mem_of_mem_evaluate (hcur .identity ▸ he)).2
    have hold : change.old? = some e := hch.old?_of_id (h.current e he) hid
    have hnew : change.new? = some d := hch.new?_of_id hafter hid'
    cases change with
    | inserted new => cases hold
    | removed old => cases hnew
    | replaced old new =>
      cases hold
      cases hnew
      refine ⟨_, _, rfl, hm, hids ▸ hm, ?_⟩
      simpa [isConcerned, holds, sortMoved, Change.old?, Change.new?, hheld, hholds] using hc
  · -- All that was published is still in the library.
    refine absurd (Edition.eq_of_map_id hl.shelf.nodup_ids (fun e he => ?_) (fun e he => ?_) hids) hne
    · have hid : e.track.id ≠ change.id := fun hid => hm (hid ▸ List.mem_map_of_mem he)
      have hrenew := hch.renew_mem (h.current e he) fun heq => absurd heq hid
      rwa [Change.renew_of_ne hid] at hrenew
    · exact (mem_of_anew hl he).1

lemma Sound.ne_of_rekeys (hfresh : ∀ new, change.new? = some new → new ∉ before)
    (hc : l.isConcerned o.now change = true) (hre : l.Rekeys (l.follow settings library o change) change) :
    l.published ≠ (l.follow settings library o change).published := by
  obtain ⟨old, new, rfl, -, hm, -⟩ := hre
  rw [follow_of_concerned settings library hc] at hm ⊢
  intro hsame
  -- The new version would be among the published ones before it came.
  obtain ⟨d, hd, hid⟩ := List.mem_map.mp hm
  have hnew : (Change.replaced old new).new? = some d := hch.new?_of_id (mem_of_anew hl hd).1 hid
  exact hfresh d hnew (h.current d (hsame ▸ hd))

lemma Sound.news?_isSome_iff (hcur : l.IsCurrent before o.now)
    (hfresh : ∀ new, change.new? = some new → new ∉ before) :
    (l.news? settings library o change).isSome = true ↔
      l.published.map (·.track.id) ≠ (l.follow settings library o change).published.map (·.track.id) ∨
        l.Rekeys (l.follow settings library o change) change := by
  cases hc : l.isConcerned o.now change with
  | false =>
    rw [news?_of_unconcerned hc, h.map_id_follow hc]
    simp [h.not_rekeys hc]
  | true =>
    rw [h.news?_isSome hc]
    constructor
    · intro hne
      by_contra hno
      rw [not_or, not_not] at hno
      exact hno.2 (h.rekeys hch hl hcur hc hne hno.1)
    · rintro (hids | hre)
      · exact fun hsame => hids (congrArg _ hsame)
      · exact h.ne_of_rekeys hch hl hfresh hc hre

end Leads

end LiveList

namespace LiveLibrary

variable {l : LiveLibrary} {o : Occasion} {s : Step} {id : Uuid} {entry : LiveList}

lemma step_of_unchanged {x : TrackId} (hx : s.track? = some x) (hs : s.change? l.library = none) :
    l.step o s = ([], l) := by
  cases s with
  | insert t => cases hs
  | erase id => rw [step, erase, Option.map_eq_none_iff.mp hs]
  | _ => cases hx

section News

variable (h : l.Sound)
include h

lemma Sound.pairwise_news {x : TrackId} (hx : s.track? = some x) :
    ((l.step o s).1.map (·.playlist)).Pairwise (· < ·) := by
  cases hs : s.change? l.library with
  | none =>
    rw [step_of_unchanged hx hs]
    exact .nil
  | some change =>
    rw [step_of_change? hs]
    exact h.board.pairwise_news fun _ _ => LiveList.news?_playlist

lemma Sound.news_of_change {change : Change} (hs : s.change? l.library = some change)
    (he : l.list? id = some entry) :
    (l.step o s).2.list? id = some (entry.follow l.settings (l.step o s).2.library o change) ∧
      ((∃ u ∈ (l.step o s).1, u.playlist = id) ↔
        (entry.news? l.settings (l.step o s).2.library o change).isSome = true) := by
  have hseen : seen id (follow { l with library := (l.step o s).2.library } o change) = _ :=
    seen_follow h.board (l.step o s).2.library change
  rw [← step_of_change? hs, he] at hseen
  obtain ⟨hnews, hlist⟩ := Prod.mk.inj hseen
  refine ⟨hlist, ?_⟩
  rw [Option.isSome_iff_exists]
  refine exists_congr fun u => ?_
  have hmem : u ∈ (l.step o s).1.filter (·.playlist = id) ↔
      entry.news? l.settings (l.step o s).2.library o change = some u := by
    rw [hnews]
    exact Option.mem_toList
  rw [← hmem, List.mem_filter, decide_eq_true_iff]

lemma Sound.news_iff (hstamped : l.library.Stamped) {x : TrackId} (hx : s.track? = some x)
    (he : l.list? id = some entry) (hcur : entry.IsCurrent l.library.shelf.editions o.now) :
    ∃ after, (l.step o s).2.list? id = some after ∧
      ((∃ u ∈ (l.step o s).1, u.playlist = id) ↔
        entry.published.map (·.track.id) ≠ after.published.map (·.track.id) ∨
          ∃ t old, s = .insert t ∧ l.library.get? t.id = some old ∧ t.id ∈ entry.published.map (·.track.id) ∧
            t.id ∈ after.published.map (·.track.id) ∧
            entry.playlist.query.sorting.any (·.keyChanged old.track t) = true) := by
  cases hs : s.change? l.library with
  | none =>
    rw [step_of_unchanged hx hs]
    refine ⟨entry, he, ?_⟩
    simp only [List.not_mem_nil, false_and, exists_false, ne_eq, not_true_eq_false, false_or, false_iff]
    rintro ⟨t, -, rfl, -⟩
    cases hs
  | some change =>
    obtain ⟨hlist, hnews⟩ := h.news_of_change (o := o) hs he
    refine ⟨_, hlist, ?_⟩
    rw [hnews, (h.lists id entry he).news?_isSome_iff (leads_step h.library hs) (h.step_library o s) hcur]
    · refine or_congr Iff.rfl ?_
      constructor
      · rintro ⟨old, new, rfl, hbefore, hafter, hkey⟩
        obtain ⟨t, rfl, hold, rfl⟩ := change?_eq_replaced_iff.mp hs
        exact ⟨t, old, rfl, hold, hbefore, hafter, hkey⟩
      · rintro ⟨t, old, rfl, hold, hbefore, hafter, hkey⟩
        have hreplaced := change?_eq_replaced_iff.mpr ⟨t, rfl, hold, rfl⟩
        cases hs.symm.trans hreplaced
        exact ⟨old, l.library.edition t, rfl, hbefore, hafter, hkey⟩
    · intro new hnew
      obtain ⟨t, rfl⟩ := new?_of_change? hs hnew
      exact hstamped.edition_not_mem t

end News

/-- While the clock stands still, or for a rule that does not look at it, an edit makes news of a playlist in a fixed
order exactly if it publishes other ids, or if the edited track was and is published and its key has changed; and the
news of an edit come in the order of the playlists, not more than one for each. -/
theorem run_news_iff (settings : Settings) (steps : List (Occasion × Step)) (o : Occasion) (s : Step) (x : TrackId)
    (hx : s.track? = some x) :
    (∀ id entry, (run settings steps).2.list? id = some entry → entry.playlist.query.isRandom = false →
      ((∀ s ∈ steps, s.1.now = o.now) ∨ entry.playlist.query.rule.hasRelativeDates = false) →
      ∃ after, ((run settings steps).2.step o s).2.list? id = some after ∧
        ((∃ u ∈ ((run settings steps).2.step o s).1, u.playlist = id) ↔
          entry.published.map (·.track.id) ≠ after.published.map (·.track.id) ∨
            ∃ t old, s = .insert t ∧ (run settings steps).2.library.get? t.id = some old ∧
              t.id ∈ entry.published.map (·.track.id) ∧ t.id ∈ after.published.map (·.track.id) ∧
              entry.playlist.query.sorting.any (·.keyChanged old.track t) = true)) ∧
      (((run settings steps).2.step o s).1.map (·.playlist)).Pairwise (· < ·) := by
  have hsound := sound_run settings steps
  have hstamped : (run settings steps).2.library.Stamped := by
    rw [run_library]
    exact Library.stamped_run _
  refine ⟨fun id entry he hr hclock => hsound.news_iff hstamped hx he ?_, hsound.pairwise_news hx⟩
  apply isCurrent_run settings steps id entry he hr
  intro s hs t
  rcases hclock with hclock | hfixed
  · rw [hclock s hs]
  · exact Rule.holds_fixed t _ hfixed

/-- Of two tracks the list has room for the better one. A worse rating of it is news though it stays the better one; a
better rating of the other calls for an evaluation, but is no news. -/
theorem run_news_best_rated :
    let o : Occasion := ⟨default, fun _ => .identity⟩
    let best : Playlist :=
      ⟨default, "best", .plays { field := .rating, operator := .greaterThan, number := some .zero },
        some ⟨.rating, false⟩, some 1⟩
    let rate (id : TrackId) (rating : UInt8) : Step := .insert { id, rating := some rating }
    let steps := [(o, Step.register best), (o, rate 1 2), (o, rate 2 5)]
    ∃ entry, (run {} steps).2.list? best.id = some entry ∧ entry.playlist.query.isRandom = false ∧
      (∀ s ∈ steps, s.1.now = o.now) ∧
      (∃ u ∈ ((run {} steps).2.step o (rate 2 4)).1, u.playlist = best.id) ∧
      ¬ ∃ u ∈ ((run {} steps).2.step o (rate 1 3)).1, u.playlist = best.id := by
  intro o best rate steps
  have hclock : ∀ s ∈ steps, s.1.now = o.now := by decide +revert
  have hfirst : ∀ a b : Edition, Sorting.keyLe ⟨.rating, false⟩ (.ofTrack .rating a.track) (.ofTrack .rating b.track) = false →
      (Query.finish .identity Edition.track best.query.sorting best.query.limit [a, b]).map (·.track.id) =
        [b.track.id] := by
    intro a b hab
    rw [Query.finish, Sorting.arrange_pair_of_not_keyLe rfl hab]
    rfl
  have hids : ∀ s ∈ [rate 2 4, rate 1 3], (((run {} steps).2.step o s).2.list? best.id).map
      (fun l => l.published.map (·.track.id)) = some [2] := by
    rw [List.forall_mem_cons, List.forall_mem_singleton]
    constructor
    · exact congrArg some (hfirst ⟨0, { id := 1, rating := some 2 }⟩ ⟨2, { id := 2, rating := some 4 }⟩ (by decide))
    · exact congrArg some (hfirst ⟨2, { id := 1, rating := some 3 }⟩ ⟨1, { id := 2, rating := some 5 }⟩ (by decide))
  obtain ⟨entry, he, hp, hentry⟩ : ∃ entry, (run {} steps).2.list? best.id = some entry ∧ entry.playlist = best ∧
      entry.published.map (·.track.id) = [2] :=
    ⟨_, rfl, rfl, hfirst ⟨0, { id := 1, rating := some 2 }⟩ ⟨1, { id := 2, rating := some 5 }⟩ (by decide)⟩
  have hr : entry.playlist.query.isRandom = false := congrArg (·.query.isRandom) hp
  refine ⟨entry, he, hr, hclock, ?_, ?_⟩
  · obtain ⟨after, hafter, hnews⟩ := (run_news_iff {} steps o (rate 2 4) 2 rfl).1 best.id entry he hr (Or.inl hclock)
    have hsame := hids (rate 2 4) List.mem_cons_self
    rw [hafter, Option.map_some, Option.some.injEq] at hsame
    rw [hnews, hentry, hsame, hp]
    exact Or.inr ⟨_, ⟨1, { id := 2, rating := some 5 }⟩, rfl, rfl, List.mem_cons_self, List.mem_cons_self, rfl⟩
  · obtain ⟨after, hafter, hnews⟩ := (run_news_iff {} steps o (rate 1 3) 1 rfl).1 best.id entry he hr (Or.inl hclock)
    have hsame := hids (rate 1 3) (List.mem_cons_of_mem _ List.mem_cons_self)
    rw [hafter, Option.map_some, Option.some.injEq] at hsame
    rw [hnews, hentry, hsame]
    rintro (hne | ⟨t, old, ht, -, hm, -⟩)
    · exact hne rfl
    · cases ht
      cases List.mem_singleton.mp hm

end LiveLibrary

end MusicQuery
