import MusicQuery.Live.Library
import MusicQuery.Proofs.Live.Board
import MusicQuery.Proofs.Live.List

namespace MusicQuery.LiveLibrary

inductive Step where
  | insert (t : Track)
  | erase (id : TrackId)
  | replaceAll (ts : List Track)
  | register (p : Playlist)
  | unregister (id : Uuid)
  | refresh (id : Uuid)

def step (l : LiveLibrary) (o : Occasion) : Step → List Update × LiveLibrary
  | .insert t => l.insert o t
  | .erase id => l.erase o id
  | .replaceAll ts => l.replaceAll o ts
  | .register p => l.register o p
  | .unregister id => ([], l.unregister id)
  | .refresh id => l.refresh o id

def run (settings : Settings) (steps : List (Occasion × Step)) : List Update × LiveLibrary :=
  steps.foldl (fun r s => (r.1 ++ (r.2.step s.1 s.2).1, (r.2.step s.1 s.2).2)) ([], { settings })

lemma run_snoc (settings : Settings) (steps : List (Occasion × Step)) (o : Occasion) (s : Step) :
    run settings (steps ++ [(o, s)]) =
      ((run settings steps).1 ++ ((run settings steps).2.step o s).1, ((run settings steps).2.step o s).2) := by
  simp only [run, List.foldl_append, List.foldl_cons, List.foldl_nil]

def Step.edit? : Step → Option Library.Edit
  | .insert t => some (.insert t)
  | .erase id => some (.erase id)
  | .replaceAll ts => some (.replaceAll ts)
  | _ => none

lemma step_settings (l : LiveLibrary) (o : Occasion) (s : Step) : (l.step o s).2.settings = l.settings := by
  cases s with
  | erase id =>
    rw [step, erase]
    split <;> rfl
  | refresh id =>
    rw [step, refresh]
    split <;> rfl
  | _ => rfl

lemma step_library (l : LiveLibrary) (o : Occasion) (s : Step) :
    (l.step o s).2.library = s.edit?.elim l.library l.library.apply := by
  cases s with
  | erase id =>
    rw [step, erase]
    cases hg : l.library.get? id with
    | none => exact (Library.erase_of_absent hg).symm
    | some old => rfl
  | refresh id =>
    rw [step, refresh]
    split <;> rfl
  | _ => rfl

def Step.change? (library : Library) : Step → Option Change
  | .insert t => some ((library.get? t.id).elim (.inserted (library.edition t)) (.replaced · (library.edition t)))
  | .erase id => (library.get? id).map .removed
  | _ => none

section Change

variable {l : LiveLibrary} {o : Occasion} {s : Step} {change : Change}

lemma step_of_change? (hs : s.change? l.library = some change) :
    l.step o s = follow { l with library := (l.step o s).2.library } o change := by
  cases s with
  | insert t =>
    cases hs
    rfl
  | erase id =>
    obtain ⟨old, hold, rfl⟩ := Option.map_eq_some_iff.mp hs
    rw [step, erase, hold]
    rfl
  | _ => cases hs

lemma leads_step (h : l.library.Sound) (hs : s.change? l.library = some change) :
    change.Leads l.library.shelf.editions (l.step o s).2.library.shelf.editions := by
  rw [step_library]
  cases s with
  | insert t =>
    cases hs
    exact h.leads_insert t
  | erase id =>
    obtain ⟨old, hold, rfl⟩ := Option.map_eq_some_iff.mp hs
    exact h.leads_erase hold
  | _ => cases hs

lemma change?_eq_replaced_iff {old new : Edition} :
    s.change? l.library = some (.replaced old new) ↔
      ∃ t, s = .insert t ∧ l.library.get? t.id = some old ∧ new = l.library.edition t := by
  constructor
  · intro hs
    cases s with
    | insert t =>
      rw [Step.change?] at hs
      cases hg : l.library.get? t.id with
      | none =>
        rw [hg] at hs
        cases hs
      | some e =>
        rw [hg] at hs
        cases hs
        exact ⟨t, rfl, hg, rfl⟩
    | erase id =>
      obtain ⟨e, -, he⟩ := Option.map_eq_some_iff.mp hs
      cases he
    | _ => cases hs
  · rintro ⟨t, rfl, hg, rfl⟩
    rw [Step.change?, hg]
    rfl

lemma new?_of_change? (hs : s.change? l.library = some change) {new : Edition} (hnew : change.new? = some new) :
    ∃ t, new = l.library.edition t := by
  cases s with
  | insert t =>
    refine ⟨t, ?_⟩
    rw [Step.change?] at hs
    cases hg : l.library.get? t.id <;> rw [hg] at hs <;> cases hs <;> cases hnew <;> rfl
  | erase id =>
    obtain ⟨e, -, rfl⟩ := Option.map_eq_some_iff.mp hs
    cases hnew
  | _ => cases hs

end Change

section Alone

variable (settings : Settings) (library : Library) (o : Occasion)

def follows (change : Change) (entry : Option LiveList) : List Update × Option LiveList :=
  ((entry.bind (·.news? settings library o change)).toList, entry.map (·.follow settings library o change))

def announced (entry : Option LiveList) : List Update × Option LiveList := ((entry.map (·.fullUpdate)).toList, entry)

/-- The news of a step for the playlist of an id, which may be absent, and what it makes of that playlist. -/
def Step.alone (id : Uuid) (entry : Option LiveList) : Step → List Update × Option LiveList
  | .insert t =>
    follows settings (library.insert t) o
      ((library.get? t.id).elim (.inserted (library.edition t)) (.replaced · (library.edition t))) entry
  | .erase i =>
    match library.get? i with
    | some old => follows settings (library.erase i) o (.removed old) entry
    | none => ([], entry)
  | .replaceAll ts => announced (entry.map (·.refresh settings (library.replaceAll ts) o))
  | .register p => if p.id = id then announced (some (.publish p (p.tracks settings library o))) else ([], entry)
  | .unregister i => ([], if id = i then none else entry)
  | .refresh i => if i = id then announced (entry.map (·.refresh settings library o)) else ([], entry)

def Step.playlistAfter (id : Uuid) (old : Option Playlist) : Step → Option Playlist
  | .register p => if p.id = id then some p else old
  | .unregister i => if id = i then none else old
  | _ => old

lemma map_playlist_map {f : LiveList → LiveList} (hf : ∀ e, (f e).playlist = e.playlist) (entry : Option LiveList) :
    (entry.map f).map (·.playlist) = entry.map (·.playlist) := by
  rw [Option.map_map]
  apply Option.map_congr
  intro e _
  exact hf e

lemma Step.playlist_alone (s : Step) (id : Uuid) (entry : Option LiveList) :
    (s.alone settings library o id entry).2.map (·.playlist) = s.playlistAfter id (entry.map (·.playlist)) := by
  have hrefresh : ∀ (library : Library) (e : LiveList), (e.refresh settings library o).playlist = e.playlist :=
    fun _ _ => rfl
  cases s with
  | insert t => exact map_playlist_map (fun _ => LiveList.follow_playlist) entry
  | erase i =>
    rw [alone]
    cases library.get? i with
    | none => rfl
    | some old => exact map_playlist_map (fun _ => LiveList.follow_playlist) entry
  | replaceAll ts => exact map_playlist_map (hrefresh _) entry
  | register p =>
    rw [alone, playlistAfter]
    split <;> rfl
  | unregister i =>
    rw [alone, playlistAfter]
    split <;> rfl
  | refresh i =>
    rw [alone]
    split
    · exact map_playlist_map (hrefresh _) entry
    · rfl

end Alone

section Seen

variable {l : LiveLibrary} {o : Occasion} {id : Uuid}

/-- The part of news and of a live library that belongs to the playlist of an id. -/
def seen (id : Uuid) (r : List Update × LiveLibrary) : List Update × Option LiveList :=
  (r.1.filter (·.playlist = id), r.2.list? id)

lemma seen_publish (e : LiveList) :
    seen id ([e.fullUpdate], { l with board := l.board.insert e }) =
      if e.id = id then announced (some e) else ([], l.list? id) := by
  have hfind : (l.board.insert e).find? id = if e.id = id then some e else l.list? id := Board.find?_insert _ _ _
  have hnews : [e.fullUpdate].filter (·.playlist = id) = if e.id = id then [e.fullUpdate] else [] := by
    simp [LiveList.fullUpdate, List.filter_cons]
  rw [seen, list?, hnews, hfind]
  split <;> rfl

lemma seen_refresh (i : Uuid) :
    seen id (l.refresh o i) =
      if i = id then announced ((l.list? id).map (·.refresh l.settings l.library o)) else ([], l.list? id) := by
  rw [refresh]
  cases he : l.board.find? i with
  | none =>
    by_cases hi : i = id
    · have hnone : l.list? id = none := hi ▸ he
      rw [if_pos hi, seen, hnone]
      rfl
    · rw [if_neg hi]
      rfl
  | some entry =>
    have hid : entry.id = i := Board.find?_id he
    refine (seen_publish (entry.refresh l.settings l.library o)).trans ?_
    have hfresh : (entry.refresh l.settings l.library o).id = i := hid
    rw [hfresh]
    by_cases hi : i = id
    · have hsome : l.list? id = some entry := hi ▸ he
      rw [if_pos hi, if_pos hi, hsome]
      rfl
    · rw [if_neg hi, if_neg hi]

variable (ho : l.board.Ascending)
include ho

lemma seen_follow (library : Library) (change : Change) :
    seen id (follow { l with library } o change) = follows l.settings library o change (l.list? id) := by
  apply Prod.ext
  · exact ho.filter_news _ (fun _ _ => LiveList.news?_playlist) id
  · exact Board.find?_map (LiveList.follow_id l.settings library o change) l.board id

lemma seen_replaceAll (ts : List Track) :
    seen id (l.replaceAll o ts) =
      announced ((l.list? id).map (·.refresh l.settings (l.library.replaceAll ts) o)) := by
  have hid : ∀ x : LiveList, (x.refresh l.settings (l.library.replaceAll ts) o).id = x.id := fun _ => rfl
  have hfind := Board.find?_map hid l.board id
  have hnews := (ho.map hid).filter_news (some ∘ LiveList.fullUpdate) (fun x u hu => by cases hu; rfl) id
  rw [hfind, List.filterMap_eq_map, ← Option.map_eq_bind] at hnews
  exact Prod.ext hnews hfind

lemma seen_step (o : Occasion) (id : Uuid) (s : Step) :
    seen id (l.step o s) = s.alone l.settings l.library o id (l.list? id) := by
  cases s with
  | insert t => exact seen_follow ho _ _
  | erase i =>
    rw [step, erase, Step.alone]
    cases hg : l.library.get? i with
    | none => rfl
    | some old => exact seen_follow ho _ _
  | replaceAll ts => exact seen_replaceAll ho ts
  | register p => exact seen_publish _
  | unregister i => exact Prod.ext rfl (Board.find?_erase l.board i id)
  | refresh i => exact seen_refresh i

end Seen

end MusicQuery.LiveLibrary
