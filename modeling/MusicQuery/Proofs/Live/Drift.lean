import MusicQuery.Proofs.Live.Run

namespace MusicQuery

lemma Query.mem_evaluate_iff {q : Query} (hq : q.limit = none) (shuffle : Shuffle) (now : Instant)
    (es : List Edition) (e : Edition) :
    e ∈ q.evaluate shuffle now es ↔ e ∈ es ∧ q.rule.holds now e.track = true := by
  rw [evaluate, finish, hq, limited, Option.elim_none, (Sorting.arrange_perm _ _ _ _).mem_iff, List.mem_filter]

namespace LiveList

variable {l : LiveList} {change : Change} {before : List Edition} {settings : Settings} {library : Library}
  {o : Occasion}

/-- Whether a playlist takes a change for none though the track is not in it: the rule held of the old version too,
and the key has not moved. -/
def Overlooks (l : LiveList) (now : Instant) (change : Change) : Prop :=
  change.id ∉ l.published.map (·.track.id) ∧ l.holds now change.old? = true ∧ l.sortMoved change = false

lemma mem_ids_anew (hl : library.Sound) {p : Playlist} (hp : p.query.limit = none) (x : TrackId) :
    x ∈ (publish p (p.tracks settings library o)).published.map (·.track.id) ↔
      (library.get? x).any (fun e => p.query.rule.holds o.now e.track) = true := by
  rw [publish, tracks_eq_evaluate settings o hl, List.mem_map, Option.any_eq_true]
  constructor
  · rintro ⟨e, he, rfl⟩
    obtain ⟨hm, hholds⟩ := (Query.mem_evaluate_iff hp _ _ _ e).mp he
    exact ⟨e, hl.shelf.mem_editions_iff.mp hm, hholds⟩
  · rintro ⟨e, he, hholds⟩
    exact ⟨e, (Query.mem_evaluate_iff hp _ _ _ e).mpr ⟨Shelf.mem_of_get? he, hholds⟩, Shelf.get?_id he⟩

lemma Sound.map_id_follow (h : l.Sound before) (hc : l.isConcerned o.now change = false) :
    (l.follow settings library o change).published.map (·.track.id) = l.published.map (·.track.id) := by
  rw [h.follow_published hc, List.map_map]
  exact List.map_congr_left fun e _ => change.renew_id e

variable (settings o change) in
lemma Sound.mem_ids_follow (h : l.Sound before) (hl : library.Sound) (hp : l.playlist.query.limit = none)
    (hnew : library.get? change.id = change.new?) :
    change.id ∈ (l.follow settings library o change).published.map (·.track.id) ↔
      l.holds o.now change.new? = true ∧ ¬ l.Overlooks o.now change := by
  cases hc : l.isConcerned o.now change with
  | true =>
    rw [follow_of_concerned settings library hc, mem_ids_anew hl hp, hnew]
    refine (and_iff_left_of_imp fun hholds hover => ?_).symm
    obtain ⟨-, hold, hmoved⟩ := hover
    have hholds' : l.holds o.now change.new? = true := hholds
    simp [isConcerned, hholds', hold, hmoved] at hc
  | false =>
    -- The rule holds of both versions or of neither, and the list is the one from before.
    obtain ⟨hsame, hmoved, hmember⟩ := isConcerned_eq_false.mp hc
    rw [h.map_id_follow hc, Overlooks, hsame]
    constructor
    · exact fun hm => ⟨hmember ((h.members _).mpr hm), fun hover => hover.1 hm⟩
    · rintro ⟨hholds, hseen⟩
      by_contra hm
      exact hseen ⟨hm, hholds, hmoved hholds⟩

end LiveList

namespace LiveLibrary

def Step.track? : Step → Option TrackId
  | .insert t => some t.id
  | .erase id => some id
  | _ => none

variable {l : LiveLibrary} {o : Occasion} {id : Uuid} {entry after : LiveList}

lemma list?_follow (l : LiveLibrary) (o : Occasion) (change : Change) (id : Uuid) :
    (l.follow o change).2.list? id = (l.list? id).map (·.follow l.settings l.library o change) :=
  Board.find?_map (LiveList.follow_id l.settings l.library o change) l.board id

/-- Whether the old version of a track, if there is one, fulfils the rule of a playlist that does not have the track,
and has the key of the new version. -/
def Overlooked (l : LiveLibrary) (now : Instant) (entry : LiveList) (e : Edition) : Prop :=
  e.track.id ∉ entry.published.map (·.track.id) ∧
    ∃ old, l.library.get? e.track.id = some old ∧ entry.playlist.query.rule.holds now old.track = true ∧
      entry.playlist.query.sorting.any (·.keyChanged old.track e.track) = false

lemma Sound.mem_ids_insert (h : l.Sound) (t : Track) (he : l.list? id = some entry)
    (hafter : (l.insert o t).2.list? id = some after) (hp : entry.playlist.query.limit = none) :
    t.id ∈ after.published.map (·.track.id) ↔
      entry.playlist.query.rule.holds o.now t = true ∧ ¬ l.Overlooked o.now entry (l.library.edition t) := by
  have hget : (l.library.insert t).get? t.id = some (l.library.edition t) := by
    rw [Library.get?_insert, if_pos rfl]
  have hentry := h.lists id entry he
  have hlist : l.board.find? id = some entry := he
  rw [LiveLibrary.insert, list?_follow, list?, hlist, Option.map_some, Option.some.injEq] at hafter
  subst hafter
  rw [Overlooked]
  cases hg : l.library.get? t.id with
  | none =>
    have hfollow := hentry.mem_ids_follow (.inserted (l.library.edition t)) l.settings o (h.library.insert t) hp hget
    refine hfollow.trans (and_congr Iff.rfl (not_congr ?_))
    simp [LiveList.Overlooks, LiveList.holds, Change.old?, Library.edition, hg]
  | some old =>
    have hfollow :=
      hentry.mem_ids_follow (.replaced old (l.library.edition t)) l.settings o (h.library.insert t) hp hget
    refine hfollow.trans (and_congr Iff.rfl (not_congr ?_))
    simp [LiveList.Overlooks, LiveList.holds, LiveList.sortMoved, Change.old?, Change.id, Library.edition, hg]

lemma Sound.not_mem_ids_of_absent (h : l.Sound) (he : l.list? id = some entry) {x : TrackId}
    (hx : l.library.get? x = none) : x ∉ entry.published.map (·.track.id) := by
  intro hm
  obtain ⟨e, hpublished, rfl⟩ := List.mem_map.mp hm
  exact Shelf.get?_eq_none_iff.mp hx e ((h.lists id entry he).current e hpublished) rfl

lemma get?_step_erase (l : LiveLibrary) (o : Occasion) (x : TrackId) :
    (l.step o (.erase x)).2.library.get? x = none := by
  rw [step, erase]
  cases hg : l.library.get? x with
  | none => exact hg
  | some old =>
    show (l.library.erase x).get? x = none
    rw [Library.erase_of_get? hg]
    exact (Shelf.get?_erase l.library.shelf x x).trans (if_pos rfl)

/-- After an edit a playlist without limit has the edited track just if the library has it, the rule holds of it at the
clock of the edit, and it was not overlooked. -/
theorem run_membership (settings : Settings) (steps : List (Occasion × Step)) (o : Occasion) (s : Step) (x : TrackId)
    (hs : s.track? = some x) (id : Uuid) (entry after : LiveList)
    (he : (run settings steps).2.list? id = some entry)
    (hafter : ((run settings steps).2.step o s).2.list? id = some after)
    (hp : entry.playlist.query.limit = none) :
    x ∈ after.published.map (·.track.id) ↔
      ∃ e, ((run settings steps).2.step o s).2.library.get? x = some e ∧
        entry.playlist.query.rule.holds o.now e.track = true ∧
        ¬ (run settings steps).2.Overlooked o.now entry e := by
  have hsound := sound_run settings steps
  cases s with
  | insert t =>
    cases hs
    have hget : ((run settings steps).2.step o (.insert t)).2.library.get? t.id =
        some ((run settings steps).2.library.edition t) :=
      (Library.get?_insert _ t t.id).trans (if_pos rfl)
    rw [hsound.mem_ids_insert t he hafter hp, hget]
    simp [Library.edition]
  | erase i =>
    cases hs
    have hnone := get?_step_erase (run settings steps).2 o x
    have hout := (hsound.step o (.erase x)).not_mem_ids_of_absent hafter hnone
    simp [hnone] at hout ⊢
    exact hout
  | replaceAll ts => cases hs
  | register p => cases hs
  | unregister i => cases hs
  | refresh i => cases hs

/-- A track that was not played within the day leaves the list when it gets a title after the clock was set back. -/
theorem run_membership_set_back :
    let o (second : Fin 86402) : Occasion :=
      ⟨⟨second, 0, by rw [firstSecond]; omega, by rw [lastSecond]; omega, by decide⟩, fun _ => .identity⟩
    let rested : Playlist := ⟨default, "rested",
      .plays { field := .lastPlayed, operator := .lessThan, date := some (.ago 1 .days) }, none, none⟩
    let played : Track := { id := 1, lastPlayed := some (o 0).now }
    let steps := [(o 0, Step.register rested), (o 86401, .insert played)]
    ∃ entry after, (run {} steps).2.list? rested.id = some entry ∧
      ((run {} steps).2.step (o 0) (.insert { played with title := some "a" })).2.list? rested.id = some after ∧
      1 ∉ after.published.map (·.track.id) := by
  intro o rested played steps
  refine ⟨_, _, rfl, rfl, fun hm => ?_⟩
  obtain ⟨e, he, hholds, -⟩ :=
    (run_membership {} steps (o 0) (.insert { played with title := some "a" }) 1 rfl rested.id _ _ rfl rfl rfl).mp hm
  cases he
  revert hholds
  decide +revert

/-- A track that was played more than a day ago gets a title: the rule has come to hold of it, and yet the playlist does
not have it. -/
theorem run_overlooked :
    let o (second : Fin 86402) : Occasion :=
      ⟨⟨second, 0, by rw [firstSecond]; omega, by rw [lastSecond]; omega, by decide⟩, fun _ => .identity⟩
    let rested : Playlist := ⟨default, "rested",
      .plays { field := .lastPlayed, operator := .lessThan, date := some (.ago 1 .days) }, none, none⟩
    let played : Track := { id := 1, lastPlayed := some (o 0).now }
    let steps := [(o 0, Step.register rested), (o 0, .insert played)]
    let last := ((run {} steps).2.step (o 86401) (.insert { played with title := some "a" })).2
    ∃ entry e, last.list? rested.id = some entry ∧ entry.playlist.query.limit = none ∧ last.library.get? 1 = some e ∧
      rested.query.rule.holds (o 86401).now e.track = true ∧ 1 ∉ entry.published.map (·.track.id) := by
  intro o rested played steps last
  exact ⟨_, _, rfl, rfl, rfl, by decide +revert, by decide +revert⟩

end LiveLibrary

end MusicQuery
