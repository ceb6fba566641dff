import MusicQuery.Proofs.Library.Commute
import MusicQuery.Proofs.Live.Published

namespace MusicQuery.LiveLibrary

def Step.ofEdit : Library.Edit → Step
  | .insert t => .insert t
  | .erase id => .erase id
  | .replaceAll ts => .replaceAll ts

lemma Step.edit?_ofEdit (a : Library.Edit) : (ofEdit a).edit? = some a := by
  cases a <;> rfl

section Edit

variable (settings : Settings) (steps : List (Occasion × Step)) (o : Occasion) (a : Library.Edit) {id : Uuid}

lemma library_run_edit :
    (run settings (steps ++ [(o, .ofEdit a)])).2.library = (run settings steps).2.library.apply a := by
  rw [run_snoc, step_library, Step.edit?_ofEdit]
  rfl

lemma playlist_run_edit :
    ((run settings (steps ++ [(o, .ofEdit a)])).2.list? id).map (·.playlist) =
      ((run settings steps).2.list? id).map (·.playlist) := by
  have hlist := congrArg Prod.snd (seen_run_snoc settings steps o (.ofEdit a) id)
  have hplaylist := congrArg (Option.map (·.playlist)) hlist
  rw [Step.playlist_alone] at hplaylist
  cases a <;> exact hplaylist

end Edit

section Still

variable {settings : Settings} {steps steps' : List (Occasion × Step)} {id : Uuid} {entry entry' : LiveList}
  {now : Instant}

lemma published_of_still (hclock : ∀ s ∈ steps, s.1.now = now) (he : (run settings steps).2.list? id = some entry)
    (hr : entry.playlist.query.isRandom = false) :
    entry.published = (run settings steps).2.library.answer settings now .identity entry.playlist.query := by
  rw [(sound_run settings steps).library.answer_eq]
  apply isCurrent_run settings steps id entry he hr
  intro s hs t
  rw [hclock s hs]

lemma map_track_published_of_agrees
    (h : (run settings steps).2.library.Agrees (run settings steps').2.library)
    (hclock : ∀ s ∈ steps, s.1.now = now) (hclock' : ∀ s ∈ steps', s.1.now = now)
    (he : (run settings steps).2.list? id = some entry) (he' : (run settings steps').2.list? id = some entry')
    (hp : entry'.playlist = entry.playlist) (hr : entry.playlist.query.isRandom = false) :
    entry'.published.map (·.track) = entry.published.map (·.track) := by
  have hr' : entry'.playlist.query.isRandom = false := hp ▸ hr
  rw [published_of_still hclock he hr, published_of_still hclock' he' hr', hp]
  symm
  apply h.map_track_answer (sound_run settings steps).library (sound_run settings steps').library hr

end Still

/-- Edits of two tracks that are not both new lead to the same tracks in the same places, to the same version, to the
same indexes but for the order of equal values, and to the same answers in a fixed order. While the clock stands still,
the playlists in a fixed order publish the same tracks in the same order. -/
theorem run_commute (settings : Settings) (steps : List (Occasion × Step)) (o o' p p' : Occasion)
    (a b : Library.Edit) (x y : TrackId) (ha : a.track? = some x) (hb : b.track? = some y) (hxy : x ≠ y)
    (hnew : ¬ (a.IsArrival (run settings steps).2.library ∧ b.IsArrival (run settings steps).2.library)) :
    let first := steps ++ [(o, .ofEdit a)] ++ [(o', .ofEdit b)]
    let second := steps ++ [(p, .ofEdit b)] ++ [(p', .ofEdit a)]
    let one := (run settings first).2
    let other := (run settings second).2
    one.library.Agrees other.library ∧
      (∀ executor now shuffle shuffle' q, q.isRandom = false →
        (one.library.answer executor now shuffle q).map (·.track) =
          (other.library.answer executor now shuffle' q).map (·.track)) ∧
      ∀ now, (∀ s ∈ first, s.1.now = now) → (∀ s ∈ second, s.1.now = now) →
        ∀ id entry, one.list? id = some entry → entry.playlist.query.isRandom = false →
          ∃ same, other.list? id = some same ∧ same.playlist = entry.playlist ∧
            same.published.map (·.track) = entry.published.map (·.track) := by
  intro first second one other
  have hone : one.library.Sound := (sound_run settings first).library
  have hother : other.library.Sound := (sound_run settings second).library
  have hagrees : one.library.Agrees other.library := by
    rw [library_run_edit, library_run_edit, library_run_edit, library_run_edit]
    exact (sound_run settings steps).library.apply_comm ha hb hxy hnew
  refine ⟨hagrees, ?_, ?_⟩
  · intro executor now shuffle shuffle' q hr
    exact hagrees.map_track_answer hone hother hr executor executor now shuffle shuffle'
  · intro now hfirst hsecond id entry he hr
    have hplaylist : (other.list? id).map (·.playlist) = (one.list? id).map (·.playlist) := by
      rw [playlist_run_edit, playlist_run_edit, playlist_run_edit, playlist_run_edit]
    rw [he] at hplaylist
    obtain ⟨same, hsame, hp⟩ := Option.map_eq_some_iff.mp hplaylist
    have htracks := map_track_published_of_agrees hagrees hfirst hsecond he hsame hp hr
    exact ⟨same, hsame, hp, htracks⟩

theorem run_commute_of_tied :
    let o : Occasion := ⟨default, fun _ => .identity⟩
    let best : Playlist :=
      ⟨default, "best", .plays { field := .rating, operator := .greaterThan, number := some .zero },
        some ⟨.rating, false⟩, some 1⟩
    let steps := [(o, Step.register best), (o, .insert { id := 1, rating := some 3 }),
      (o, .insert { id := 2, rating := some 4 })]
    let renewed := Library.Edit.insert { id := 1, rating := some 5 }
    let arrived := Library.Edit.insert { id := 3, rating := some 5 }
    let one := (run {} (steps ++ [(o, .ofEdit renewed)] ++ [(o, .ofEdit arrived)])).2
    let other := (run {} (steps ++ [(o, .ofEdit arrived)] ++ [(o, .ofEdit renewed)])).2
    one.library.Agrees other.library ∧
      ∃ entry, one.list? best.id = some entry ∧ ∃ same, other.list? best.id = some same ∧
        same.playlist = entry.playlist ∧ same.published.map (·.track) = entry.published.map (·.track) := by
  intro o best steps renewed arrived one other
  have hnew : ¬ (renewed.IsArrival (run {} steps).2.library ∧ arrived.IsArrival (run {} steps).2.library) := by
    rintro ⟨h, -⟩
    cases h
  have hstill : ∀ e e' : Step, ∀ s ∈ steps ++ [(o, e)] ++ [(o, e')], s.1.now = o.now := by
    intro e e' s hs
    simp only [steps, List.cons_append, List.nil_append, List.mem_cons, List.not_mem_nil, or_false] at hs
    rcases hs with rfl | rfl | rfl | rfl | rfl <;> rfl
  obtain ⟨hagrees, -, hpublished⟩ := run_commute {} steps o o o o renewed arrived 1 3 rfl rfl (by decide) hnew
  have hsame := hpublished o.now (hstill _ _) (hstill _ _) best.id _ rfl rfl
  exact ⟨hagrees, _, rfl, hsame⟩

end MusicQuery.LiveLibrary
