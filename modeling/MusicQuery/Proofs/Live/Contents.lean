import MusicQuery.Proofs.Live.Run

namespace MusicQuery

lemma length_limited_le {α : Type} (n : UInt64) (xs : List α) : (limited (some n) xs).length ≤ n.toNat :=
  xs.length_take_le n.toNat

namespace LiveList

def WithinLimit (l : LiveList) : Prop := ∀ n, l.playlist.query.limit = some n → l.published.length ≤ n.toNat

variable {l : LiveList} {change : Change} {before : List Edition} {settings : Settings} {library : Library}
  {o : Occasion}

lemma withinLimit_anew (settings : Settings) (library : Library) (o : Occasion) (p : Playlist) :
    (publish p (p.tracks settings library o)).WithinLimit := by
  intro n hn
  change p.query.limit = some n at hn
  simp only [publish, Playlist.tracks, Library.answer, Query.finish, hn]
  exact length_limited_le n _

lemma WithinLimit.follow (hw : l.WithinLimit) (h : l.Sound before) :
    (l.follow settings library o change).WithinLimit := by
  cases hc : l.isConcerned o.now change with
  | true =>
    rw [follow_of_concerned settings library hc]
    exact withinLimit_anew settings library o l.playlist
  | false =>
    intro n hn
    rw [follow_playlist] at hn
    rw [h.follow_published hc, List.length_map]
    exact hw n hn

end LiveList

namespace LiveLibrary

variable {l l' : LiveLibrary} {o : Occasion} {news : List Update} {id : Uuid} {entry : LiveList}

lemma Turn.withinLimit (turn : Turn l l' o news id) (h : l.Sound) (he : l'.list? id = some entry)
    (hw : ∀ old, l.list? id = some old → old.WithinLimit) : entry.WithinLimit := by
  cases turn with
  | absent hnone =>
    rw [hnone] at he
    cases he
  | kept hkept => exact hw entry (hkept ▸ he)
  | anew p hnew =>
    rw [hnew] at he
    cases he
    exact LiveList.withinLimit_anew l'.settings l'.library o p
  | followed old change hold hch hafter =>
    rw [hafter] at he
    cases he
    exact (hw old hold).follow (h.lists id old hold)

lemma withinLimit_run (settings : Settings) (steps : List (Occasion × Step)) (id : Uuid) :
    ∀ entry, (run settings steps).2.list? id = some entry → entry.WithinLimit := by
  induction steps using List.reverseRecOn with
  | nil =>
    intro entry he
    cases he
  | append_singleton steps s ih =>
    intro entry he
    have hsound := sound_run settings steps
    rw [run_snoc] at he
    exact (hsound.turn s.1 s.2 id).withinLimit hsound he ih

/-- However the clock has moved and whatever order a playlist has, its published tracks have distinct ids, are at
most as many as its limit, and stand in the library in these very versions; its members are their ids. -/
theorem run_contents (settings : Settings) (steps : List (Occasion × Step)) (id : Uuid) (entry : LiveList)
    (he : (run settings steps).2.list? id = some entry) :
    (entry.published.map (·.track.id)).Nodup ∧
      (∀ n, entry.playlist.query.limit = some n → entry.published.length ≤ n.toNat) ∧
      (∀ e ∈ entry.published, (run settings steps).2.library.get? e.track.id = some e) ∧
      ∀ i, entry.members.contains i = true ↔ i ∈ entry.published.map (·.track.id) := by
  have hsound := sound_run settings steps
  have hentry := hsound.lists id entry he
  refine ⟨hentry.nodup, withinLimit_run settings steps id entry he, fun e hm => ?_, hentry.members⟩
  exact hsound.library.shelf.mem_editions_iff.mp (hentry.current e hm)

theorem run_contents_random_pair :
    let o : Occasion := ⟨default, fun _ => .identity⟩
    let later : Occasion :=
      ⟨⟨0, 0, by decide, by decide, by decide⟩, fun _ => ⟨List.reverse, List.reverse_perm⟩⟩
    let pair : Playlist := ⟨default, "pair", .group .and [], some ⟨.random, true⟩, some 2⟩
    let steps := [(o, Step.insert { id := 1 }), (o, .insert { id := 2 }), (o, .insert { id := 3 }),
      (later, .register pair), (o, .insert { id := 2, title := some "a" })]
    ∃ entry, (run {} steps).2.list? pair.id = some entry ∧ entry.published.map (·.track.id) = [3, 2] ∧
      entry.published.length ≤ 2 ∧ ∀ e ∈ entry.published, (run {} steps).2.library.get? e.track.id = some e := by
  intro o later pair steps
  refine ⟨_, rfl, by decide +revert, ?_⟩
  obtain ⟨-, hlimit, hcurrent, -⟩ := run_contents {} steps pair.id _ rfl
  exact ⟨hlimit 2 rfl, hcurrent⟩

end LiveLibrary

end MusicQuery
