import MusicQuery.Proofs.Live.Run

namespace MusicQuery

namespace LiveList

variable {l : LiveList} {settings : Settings} {library : Library} {o o' : Occasion} (hnow : o.now = o'.now)
include hnow

lemma tracks_of_now {p : Playlist} (hr : p.query.isRandom = false) :
    p.tracks settings library o = p.tracks settings library o' := by
  rw [Playlist.tracks, Playlist.tracks, hnow]
  exact Query.finish_shuffle hr

variable (hr : l.playlist.query.isRandom = false)
include hr

lemma refresh_of_now : l.refresh settings library o = l.refresh settings library o' := by
  rw [refresh, refresh, tracks_of_now hnow hr]

lemma follow_of_now (change : Change) :
    l.follow settings library o change = l.follow settings library o' change := by
  rw [follow, follow, hnow, refresh_of_now hnow hr]

lemma news?_of_now (change : Change) : l.news? settings library o change = l.news? settings library o' change := by
  rw [news?, news?, hnow, refresh_of_now hnow hr]

end LiveList

namespace LiveLibrary

variable {settings : Settings} {library : Library} {o o' : Occasion} {id : Uuid} {entry : Option LiveList} {s : Step}

def Step.playlist? : Step → Option Uuid
  | .register p => some p.id
  | .unregister id => some id
  | .refresh id => some id
  | _ => none

def Step.concerns (id : Uuid) (s : Step) : Bool := s.playlist?.all (· = id)

lemma edit?_of_other (h : s.concerns id = false) : s.edit? = none := by
  cases s with
  | insert t => cases h
  | erase i => cases h
  | replaceAll ts => cases h
  | _ => rfl

lemma alone_of_other (h : s.concerns id = false) : s.alone settings library o id entry = ([], entry) := by
  cases s with
  | insert t => cases h
  | erase i => cases h
  | replaceAll ts => cases h
  | register p =>
    have hne : ¬ p.id = id := of_decide_eq_false h
    rw [Step.alone, if_neg hne]
  | unregister i =>
    have hne : ¬ i = id := of_decide_eq_false h
    rw [Step.alone, if_neg (Ne.symm hne)]
  | refresh i =>
    have hne : ¬ i = id := of_decide_eq_false h
    rw [Step.alone, if_neg hne]

lemma follows_of_absent {change : Change} (h : (follows settings library o change entry).2 = none) :
    (follows settings library o change entry).1 = [] := by
  have hnone : entry = none := Option.map_eq_none_iff.mp h
  rw [hnone]
  rfl

lemma announced_of_absent (h : (announced entry).2 = none) : (announced entry).1 = [] := by
  have hnone : entry = none := h
  rw [hnone]
  rfl

lemma alone_of_absent :
    (s.alone settings library o id entry).2 = none → (s.alone settings library o id entry).1 = [] := by
  cases s with
  | insert t => exact follows_of_absent
  | erase i =>
    rw [Step.alone]
    cases library.get? i with
    | none => exact fun _ => rfl
    | some old => exact follows_of_absent
  | replaceAll ts => exact announced_of_absent
  | register p =>
    rw [Step.alone]
    split
    · exact announced_of_absent
    · exact fun _ => rfl
  | unregister i => exact fun _ => rfl
  | refresh i =>
    rw [Step.alone]
    split
    · exact announced_of_absent
    · exact fun _ => rfl

section Fixed

variable (hentry : ∀ e ∈ entry, e.playlist.query.isRandom = false)
  (hs : ∀ p, s = .register p → p.id = id → p.query.isRandom = false)
include hentry

lemma refresh_of_now (hnow : o.now = o'.now) :
    entry.map (·.refresh settings library o) = entry.map (·.refresh settings library o') := by
  apply Option.map_congr
  intro e he
  exact LiveList.refresh_of_now hnow (hentry e he)

lemma follows_of_now (hnow : o.now = o'.now) (change : Change) :
    follows settings library o change entry = follows settings library o' change entry := by
  apply Prod.ext
  · apply congrArg Option.toList
    apply Option.bind_congr
    intro e he
    exact LiveList.news?_of_now hnow (hentry e he) change
  · apply Option.map_congr
    intro e he
    exact LiveList.follow_of_now hnow (hentry e he) change

include hs

lemma alone_of_now (hnow : o.now = o'.now) :
    s.alone settings library o id entry = s.alone settings library o' id entry := by
  cases s with
  | insert t =>
    rw [Step.alone, Step.alone]
    exact follows_of_now hentry hnow _
  | erase i =>
    rw [Step.alone, Step.alone]
    cases library.get? i with
    | none => rfl
    | some old => exact follows_of_now hentry hnow _
  | replaceAll ts => rw [Step.alone, Step.alone, refresh_of_now hentry hnow]
  | register p =>
    rw [Step.alone, Step.alone]
    split
    · next hid => rw [LiveList.tracks_of_now hnow (hs p rfl hid)]
    · rfl
  | unregister i => rfl
  | refresh i => rw [Step.alone, Step.alone, refresh_of_now hentry hnow]

lemma alone_isRandom : ∀ e ∈ (s.alone settings library o id entry).2, e.playlist.query.isRandom = false := by
  intro e he
  have hplaylist : s.playlistAfter id (entry.map (·.playlist)) = some e.playlist := by
    rw [← Step.playlist_alone settings library o]
    exact congrArg (Option.map (·.playlist)) he
  have hold : ∀ p ∈ entry.map (·.playlist), p.query.isRandom = false := by
    intro p hp
    obtain ⟨old, hmem, rfl⟩ := Option.map_eq_some_iff.mp hp
    exact hentry old hmem
  cases s with
  | register p =>
    rw [Step.playlistAfter] at hplaylist
    split at hplaylist
    · next hid =>
      cases hplaylist
      exact hs _ rfl hid
    · exact hold _ hplaylist
  | unregister i =>
    rw [Step.playlistAfter] at hplaylist
    split at hplaylist
    · cases hplaylist
    · exact hold _ hplaylist
  | _ => exact hold _ hplaylist

end Fixed

section Run

variable {steps own : List (Occasion × Step)}

def timed (s : Occasion × Step) : Instant × Step := (s.1.now, s.2)

lemma run_library_of_timed (hown : own.map timed = (steps.filter (·.2.concerns id)).map timed) :
    (run settings own).2.library = (run settings steps).2.library := by
  have hedits : ∀ steps : List (Occasion × Step),
      steps.filterMap (·.2.edit?) = (steps.map timed).filterMap (·.2.edit?) := by
    intro steps
    rw [List.filterMap_map]
    rfl
  rw [run_library, run_library, hedits own, hown, ← hedits, List.filterMap_filter]
  congr 1
  apply List.filterMap_congr
  intro s _
  cases hs : s.2.concerns id with
  | false => exact (edit?_of_other hs).symm
  | true => rfl

lemma seen_run_of_timed (hown : own.map timed = (steps.filter (·.2.concerns id)).map timed)
    (hr : ∀ s ∈ steps, ∀ p, s.2 = .register p → p.id = id → p.query.isRandom = false) :
    seen id (run settings own) = seen id (run settings steps) ∧
      ∀ e ∈ (run settings steps).2.list? id, e.playlist.query.isRandom = false := by
  induction steps using List.reverseRecOn generalizing own with
  | nil =>
    rw [List.map_eq_nil_iff.mp hown]
    exact ⟨rfl, by rintro e ⟨⟩⟩
  | append_singleton steps s ih =>
    obtain ⟨o, s⟩ := s
    have hpast : ∀ s ∈ steps, ∀ p, s.2 = .register p → p.id = id → p.query.isRandom = false :=
      fun s hs => hr s (List.mem_append_left _ hs)
    have hlast : ∀ p, s = .register p → p.id = id → p.query.isRandom = false :=
      hr (o, s) (List.mem_append_right _ List.mem_cons_self)
    have hlist : (run settings (steps ++ [(o, s)])).2.list? id =
        (s.alone settings (run settings steps).2.library o id ((run settings steps).2.list? id)).2 :=
      congrArg Prod.snd (seen_run_snoc settings steps o s id)
    rw [List.filter_append, List.filter_singleton] at hown
    rw [hlist]
    cases hs : s.concerns id with
    | false =>
      rw [hs, cond_false, List.append_nil] at hown
      obtain ⟨hseen, hentry⟩ := ih hown hpast
      rw [seen_run_snoc, alone_of_other hs, List.append_nil]
      exact ⟨hseen, hentry⟩
    | true =>
      rw [hs, cond_true, List.map_append] at hown
      obtain ⟨past, last, rfl, hfront, hback⟩ := List.map_eq_append_iff.mp hown
      obtain ⟨⟨o', s'⟩, rfl, hsame⟩ := List.map_eq_singleton_iff.mp hback
      obtain ⟨hnow, rfl⟩ := Prod.mk.inj hsame
      obtain ⟨hseen, hentry⟩ := ih hfront hpast
      have hold : (run settings past).2.list? id = (run settings steps).2.list? id := congrArg Prod.snd hseen
      rw [seen_run_snoc, seen_run_snoc, hseen, run_library_of_timed hfront, hold, alone_of_now hentry hlast hnow]
      exact ⟨rfl, alone_isRandom hentry hlast⟩

lemma Sound.no_news_of_absent {l : LiveLibrary} (h : l.Sound) (ho : (l.step o s).2.list? id = none) :
    ∀ u ∈ (l.step o s).1, u.playlist ≠ id := by
  have hseen := seen_step h.board o id s
  have hnone : (s.alone l.settings l.library o id (l.list? id)).2 = none := (congrArg Prod.snd hseen).symm.trans ho
  have hnews : (l.step o s).1.filter (·.playlist = id) = [] :=
    (congrArg Prod.fst hseen).trans (alone_of_absent hnone)
  rw [List.filter_eq_nil_iff] at hnews
  intro u hu hid
  exact hnews u hu (decide_eq_true hid)

end Run

/-- Without the steps of all others a playlist in a fixed order has the same news and publishes the same, and every
query has the same answer, whatever comes out of a shuffle; and there are no news of a playlist that is not
registered. -/
theorem run_apart (settings : Settings) (steps own : List (Occasion × Step)) (id : Uuid)
    (hown : own.map timed = (steps.filter (·.2.concerns id)).map timed)
    (hr : ∀ s ∈ steps, ∀ p, s.2 = .register p → p.id = id → p.query.isRandom = false) :
    (run settings own).1.filter (·.playlist = id) = (run settings steps).1.filter (·.playlist = id) ∧
      (run settings own).2.list? id = (run settings steps).2.list? id ∧
      (∀ now shuffle q, (run settings own).2.library.answer settings now shuffle q =
        (run settings steps).2.library.answer settings now shuffle q) ∧
      ∀ o s, ((run settings steps).2.step o s).2.list? id = none →
        ∀ u ∈ ((run settings steps).2.step o s).1, u.playlist ≠ id := by
  have hseen : seen id (run settings own) = seen id (run settings steps) := (seen_run_of_timed hown hr).1
  obtain ⟨hnews, hlist⟩ := Prod.mk.inj hseen
  refine ⟨hnews, hlist, fun now shuffle q => ?_, fun o s => (sound_run settings steps).no_news_of_absent⟩
  rw [run_library_of_timed hown]

theorem run_apart_from_random :
    let o : Occasion := ⟨default, fun _ => .identity⟩
    let o' : Occasion := ⟨default, fun _ => ⟨List.reverse, List.reverse_perm⟩⟩
    let best : Playlist :=
      ⟨default, "best", .plays { field := .rating, operator := .greaterThan, number := some .zero },
        some ⟨.rating, false⟩, some 1⟩
    let mixed : Playlist := ⟨⟨1⟩, "mixed", .group .and [], some ⟨.random, true⟩, none⟩
    let first : Track := { id := 1, rating := some 3 }
    let second : Track := { id := 2, rating := some 5 }
    let steps := [(o, Step.register mixed), (o, .register best), (o, .insert first), (o, .refresh mixed.id),
      (o, .insert second), (o, .unregister mixed.id)]
    let own := [(o', Step.register best), (o', .insert first), (o', .insert second)]
    own.map timed = (steps.filter (·.2.concerns best.id)).map timed ∧
      (∀ s ∈ steps, ∀ p, s.2 = .register p → p.id = best.id → p.query.isRandom = false) ∧
      (run {} own).1.filter (·.playlist = best.id) = (run {} steps).1.filter (·.playlist = best.id) ∧
      (run {} own).2.list? best.id = (run {} steps).2.list? best.id := by
  intro o o' best mixed first second steps own
  have hown : own.map timed = (steps.filter (·.2.concerns best.id)).map timed := rfl
  have hr : ∀ s ∈ steps, ∀ p, s.2 = .register p → p.id = best.id → p.query.isRandom = false := by
    intro s hs p hp hid
    rcases List.mem_cons.mp hs with rfl | hs
    · cases hp
      exact absurd hid (by decide)
    · rcases List.mem_cons.mp hs with rfl | hs
      · cases hp
        rfl
      · simp only [List.mem_cons, List.not_mem_nil, or_false] at hs
        rcases hs with rfl | rfl | rfl | rfl <;> cases hp
  obtain ⟨hnews, hlist, -⟩ := run_apart {} steps own best.id hown hr
  exact ⟨hown, hr, hnews, hlist⟩

end LiveLibrary

end MusicQuery
