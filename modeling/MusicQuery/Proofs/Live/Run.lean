import Mathlib.Data.List.Induction
import MusicQuery.Proofs.Live.Step

namespace MusicQuery.LiveLibrary

/-- What a step does to the playlist of an id, with its news: the playlist is absent afterwards, or nothing has
happened to it, or it was evaluated anew, or it has followed a change of the library. -/
inductive Turn (l l' : LiveLibrary) (o : Occasion) (news : List Update) (id : Uuid) : Prop
  | absent (h : l'.list? id = none)
  | kept (h : l'.list? id = l.list? id) (library : l'.library = l.library)
    (hnews : news.filter (·.playlist = id) = [])
  | anew (p : Playlist) (h : l'.list? id = some (.publish p (p.tracks l'.settings l'.library o)))
    (hnews : news.filter (·.playlist = id) = [⟨id, .full (p.tracks l'.settings l'.library o)⟩])
  | followed (entry : LiveList) (change : Change) (before : l.list? id = some entry)
    (leads : change.Leads l.library.shelf.editions l'.library.shelf.editions)
    (h : l'.list? id = some (entry.follow l'.settings l'.library o change))
    (hnews : news.filter (·.playlist = id) = (entry.news? l'.settings l'.library o change).toList)

section Turn

variable {l l' : LiveLibrary} {o : Occasion} {news : List Update} {id : Uuid}

lemma turn_follows {change : Change} (hs : l'.settings = l.settings)
    (hch : change.Leads l.library.shelf.editions l'.library.shelf.editions)
    (h : seen id (news, l') = follows l.settings l'.library o change (l.list? id)) : Turn l l' o news id := by
  obtain ⟨hnews, hlist⟩ := Prod.mk.inj h
  rw [← hs] at hnews hlist
  cases he : l.list? id with
  | none =>
    rw [he] at hlist
    exact .absent hlist
  | some entry =>
    rw [he] at hlist hnews
    exact .followed entry change he hch hlist hnews

lemma turn_announced {entry : Option LiveList}
    (hentry : ∀ e ∈ entry, e = .publish e.playlist (e.playlist.tracks l'.settings l'.library o) ∧ e.id = id)
    (h : seen id (news, l') = announced entry) : Turn l l' o news id := by
  obtain ⟨hnews, hlist⟩ := Prod.mk.inj h
  cases entry with
  | none => exact .absent hlist
  | some e =>
    obtain ⟨he, hid⟩ := hentry e rfl
    rw [he] at hlist hnews
    subst hid
    exact .anew e.playlist hlist hnews

lemma turn_refreshed {entry : Option LiveList} (hentry : ∀ e ∈ entry, e.id = id)
    (h : seen id (news, l') = announced (entry.map (·.refresh l'.settings l'.library o))) :
    Turn l l' o news id := by
  apply turn_announced _ h
  intro e he
  obtain ⟨old, hold, rfl⟩ := Option.map_eq_some_iff.mp he
  exact ⟨rfl, hentry old hold⟩

lemma turn_kept (hl : l'.library = l.library) (h : seen id (news, l') = ([], l.list? id)) : Turn l l' o news id := by
  obtain ⟨hnews, hlist⟩ := Prod.mk.inj h
  exact .kept hlist hl hnews

lemma turn_step {l : LiveLibrary} (ho : l.board.Ascending) (hl : l.library.Sound) (s : Step) :
    Turn l (l.step o s).2 o (l.step o s).1 id := by
  have h := seen_step ho o id s
  have hid : ∀ e ∈ l.list? id, e.id = id := fun e he => Board.find?_id he
  cases s with
  | insert t => exact turn_follows rfl (hl.leads_insert t) h
  | erase i =>
    cases hg : l.library.get? i with
    | none =>
      have hstep : l.step o (.erase i) = ([], l) := by
        rw [step, erase, hg]
      rw [hstep]
      exact turn_kept rfl rfl
    | some old =>
      have hstep : l.step o (.erase i) = follow { l with library := l.library.erase i } o (.removed old) := by
        rw [step, erase, hg]
      rw [hstep]
      exact turn_follows rfl (hl.leads_erase hg) (seen_follow ho _ _)
  | replaceAll ts => exact turn_refreshed hid h
  | register p =>
    rw [Step.alone] at h
    split at h
    · next hp => exact turn_announced (by rintro e ⟨⟩; exact ⟨rfl, hp⟩) h
    · exact turn_kept rfl h
  | unregister i =>
    rw [Step.alone] at h
    split at h
    · exact .absent (congrArg Prod.snd h)
    · exact turn_kept rfl h
  | refresh i =>
    have hlibrary : (l.step o (.refresh i)).2.library = l.library := step_library l o (.refresh i)
    rw [Step.alone, ← step_settings l o (.refresh i), ← hlibrary] at h
    split at h
    · exact turn_refreshed hid h
    · exact turn_kept hlibrary h

end Turn

structure Sound (l : LiveLibrary) : Prop where
  library : l.library.Sound
  board : l.board.Ascending
  lists : ∀ id entry, l.list? id = some entry → entry.Sound l.library.shelf.editions

lemma sound_start (settings : Settings) : Sound { settings } where
  library := Library.sound_empty
  board := .nil
  lists id entry h := by cases h

section Step

variable {l : LiveLibrary} (h : l.Sound) (o : Occasion) (s : Step)
include h

lemma Sound.step_library : (l.step o s).2.library.Sound := by
  rw [LiveLibrary.step_library]
  cases s.edit? with
  | none => exact h.library
  | some edit => exact h.library.apply edit

lemma Sound.step_board : (l.step o s).2.board.Ascending := by
  cases s with
  | insert t => exact h.board.map (LiveList.follow_id _ _ _ _)
  | erase id =>
    rw [LiveLibrary.step, erase]
    split
    · exact h.board.map (LiveList.follow_id _ _ _ _)
    · exact h.board
  | replaceAll ts => exact h.board.map fun _ => rfl
  | register p => exact h.board.insert _
  | unregister id => exact h.board.erase id
  | refresh id =>
    rw [LiveLibrary.step, refresh]
    split
    · exact h.board.insert _
    · exact h.board

lemma Sound.turn (id : Uuid) : Turn l (l.step o s).2 o (l.step o s).1 id := turn_step h.board h.library s

lemma Sound.step : (l.step o s).2.Sound where
  library := h.step_library o s
  board := h.step_board o s
  lists id entry he := by
    cases h.turn o s id with
    | absent hnone =>
      rw [hnone] at he
      cases he
    | kept hkept hlibrary =>
      rw [hlibrary]
      exact h.lists id entry (hkept ▸ he)
    | anew p hnew =>
      rw [hnew] at he
      cases he
      exact .anew (h.step_library o s) p
    | followed before change hbefore hch hafter =>
      rw [hafter] at he
      cases he
      exact (h.lists id before hbefore).follow hch (h.step_library o s)

end Step

lemma sound_run (settings : Settings) (steps : List (Occasion × Step)) : (run settings steps).2.Sound := by
  induction steps using List.reverseRecOn with
  | nil => exact sound_start settings
  | append_singleton steps s ih =>
    rw [run_snoc]
    exact ih.step s.1 s.2

section Run

variable (settings : Settings) (steps : List (Occasion × Step)) (o : Occasion) (s : Step)

lemma run_settings : (run settings steps).2.settings = settings := by
  induction steps using List.reverseRecOn with
  | nil => rfl
  | append_singleton steps e ih =>
    rw [run_snoc, step_settings]
    exact ih

lemma run_library : (run settings steps).2.library = Library.run (steps.filterMap (·.2.edit?)) := by
  induction steps using List.reverseRecOn with
  | nil => rfl
  | append_singleton steps e ih =>
    rw [run_snoc, step_library, ih, List.filterMap_append, Library.run, Library.run, List.foldl_append]
    cases he : e.2.edit? <;> simp [he]

lemma seen_run_snoc (id : Uuid) :
    seen id (run settings (steps ++ [(o, s)])) =
      ((seen id (run settings steps)).1 ++
          (s.alone settings (run settings steps).2.library o id ((run settings steps).2.list? id)).1,
        (s.alone settings (run settings steps).2.library o id ((run settings steps).2.list? id)).2) := by
  have h := seen_step (sound_run settings steps).board o id s
  rw [run_settings] at h
  rw [run_snoc, ← h, seen, seen, seen, List.filter_append]

end Run

end MusicQuery.LiveLibrary
