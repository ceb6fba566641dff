import MusicQuery.Proofs.Live.Run
import MusicQuery.Proofs.Rule.Clock

namespace MusicQuery

def LiveList.IsCurrent (editions : List Edition) (now : Instant) (l : LiveList) : Prop :=
  ∀ shuffle, l.published = l.playlist.query.evaluate shuffle now editions

namespace LiveList

variable {l : LiveList} {change : Change} {before : List Edition} {settings : Settings} {library : Library}
  {o : Occasion}

lemma isCurrent_anew (hl : library.Sound) {p : Playlist} (hr : p.query.isRandom = false) :
    (publish p (p.tracks settings library o)).IsCurrent library.shelf.editions o.now := by
  intro shuffle
  have htracks := tracks_eq_evaluate settings o hl p
  exact htracks.trans (Query.evaluate_shuffle hr)

lemma IsCurrent.clock {editions : List Edition} {now now' : Instant} (h : l.IsCurrent editions now)
    (hclock : ∀ t, l.playlist.query.rule.holds now t = l.playlist.query.rule.holds now' t) :
    l.IsCurrent editions now' :=
  fun shuffle => (h shuffle).trans (Query.evaluate_clock hclock)

lemma IsCurrent.follow (hcur : l.IsCurrent before o.now) (h : l.Sound before)
    (hch : change.Leads before library.shelf.editions) (hl : library.Sound)
    (hr : l.playlist.query.isRandom = false) :
    (l.follow settings library o change).IsCurrent library.shelf.editions o.now := by
  cases hc : l.isConcerned o.now change with
  | true =>
    rw [follow_of_concerned settings library hc]
    exact isCurrent_anew hl hr
  | false =>
    intro shuffle
    rw [h.follow_published hc, follow_playlist, hcur shuffle]
    exact map_renew_evaluate hc hch shuffle hr

end LiveList

namespace LiveLibrary

variable {l l' : LiveLibrary} {o : Occasion} {news : List Update} {id : Uuid} {entry : LiveList} {now : Instant}

lemma Turn.isCurrent (turn : Turn l l' o news id) (h : l.Sound) (h' : l'.Sound) (he : l'.list? id = some entry)
    (hr : entry.playlist.query.isRandom = false)
    (hclock : ∀ t, entry.playlist.query.rule.holds o.now t = entry.playlist.query.rule.holds now t)
    (hcur : ∀ old, l.list? id = some old → old.playlist = entry.playlist →
      old.IsCurrent l.library.shelf.editions now) :
    entry.IsCurrent l'.library.shelf.editions now := by
  cases turn with
  | absent hnone =>
    rw [hnone] at he
    cases he
  | kept hkept hlibrary =>
    rw [hlibrary]
    exact hcur entry (hkept ▸ he) rfl
  | anew p hnew =>
    rw [hnew] at he
    cases he
    exact (LiveList.isCurrent_anew h'.library hr).clock hclock
  | followed old change hold hch hafter =>
    rw [hafter] at he
    cases he
    rw [LiveList.follow_playlist] at hr hclock hcur
    have hnow := (hcur old hold rfl).clock fun t => (hclock t).symm
    have hfollow : (old.follow l'.settings l'.library o change).IsCurrent l'.library.shelf.editions o.now :=
      hnow.follow (h.lists id old hold) hch h'.library hr
    exact hfollow.clock (by rwa [LiveList.follow_playlist])

lemma isCurrent_run (settings : Settings) (steps : List (Occasion × Step)) (id : Uuid) :
    ∀ entry, (run settings steps).2.list? id = some entry → entry.playlist.query.isRandom = false →
      (∀ s ∈ steps, ∀ t, entry.playlist.query.rule.holds s.1.now t = entry.playlist.query.rule.holds now t) →
      entry.IsCurrent (run settings steps).2.library.shelf.editions now := by
  induction steps using List.reverseRecOn with
  | nil =>
    intro entry he
    cases he
  | append_singleton steps s ih =>
    obtain ⟨o, s⟩ := s
    intro entry he hr hclock
    have hsound := sound_run settings steps
    rw [run_snoc] at he ⊢
    refine (hsound.turn o s id).isCurrent hsound (hsound.step o s) he hr ?_ fun old hold hp => ?_
    · exact hclock (o, s) (List.mem_append_right _ List.mem_cons_self)
    · refine ih old hold (hp ▸ hr) fun s hs => ?_
      rw [hp]
      exact hclock s (List.mem_append_left _ hs)

/-- In every run a registered playlist in a fixed order has published the very answer to its query, provided that
the clock stands still or the rule does not look at it. -/
theorem run_published (settings : Settings) (steps : List (Occasion × Step)) (id : Uuid) (entry : LiveList)
    (now : Instant) (shuffle : Shuffle) (he : (run settings steps).2.list? id = some entry)
    (hr : entry.playlist.query.isRandom = false)
    (hclock : (∀ s ∈ steps, s.1.now = now) ∨ entry.playlist.query.rule.hasRelativeDates = false) :
    entry.published = (run settings steps).2.library.answer settings now shuffle entry.playlist.query := by
  have hsame : ∀ s ∈ steps, ∀ t,
      entry.playlist.query.rule.holds s.1.now t = entry.playlist.query.rule.holds now t := by
    intro s hs t
    rcases hclock with hclock | hfixed
    · rw [hclock s hs]
    · exact Rule.holds_fixed t _ hfixed
  rw [(sound_run settings steps).library.answer_eq]
  exact isCurrent_run settings steps id entry he hr hsame shuffle

theorem run_published_best_rated :
    let o : Occasion := ⟨default, fun _ => .identity⟩
    let best : Playlist :=
      ⟨default, "best", .plays { field := .rating, operator := .greaterThan, number := some .zero },
        some ⟨.rating, false⟩, some 1⟩
    let steps := [(o, Step.register best), (o, .insert { id := 1, rating := some 3 }),
      (o, .insert { id := 2, rating := some 5 }), (o, .insert { id := 2, rating := some 2 })]
    ∃ entry, (run {} steps).2.list? best.id = some entry ∧ entry.playlist.query.isRandom = false ∧
      entry.playlist.query.rule.hasRelativeDates = false ∧
      entry.published = (run {} steps).2.library.answer {} default .identity entry.playlist.query :=
  ⟨_, rfl, rfl, rfl, run_published {} _ default _ default .identity rfl rfl (Or.inr rfl)⟩

end LiveLibrary

end MusicQuery
