import MusicQuery.Proofs.AnswerCache
import MusicQuery.Proofs.Live.Run
import MusicQuery.Service

namespace MusicQuery

def Query.SharesKey (q r : Query) : Prop := ∃ key, q.key? = some key ∧ r.key? = some key

lemma Query.SharesKey.eq {q r : Query} (h : q.SharesKey r) (hq : q.rule.HasReadableDates)
    (hr : r.rule.HasReadableDates) : q = r := by
  obtain ⟨key, hkey, hkey'⟩ := h
  exact Query.key?_injective hkey hkey' hq hr

lemma Query.SharesKey.not_isRandom {q r : Query} (h : q.SharesKey r) : q.isRandom = false := by
  obtain ⟨key, hkey, -⟩ := h
  exact (Query.key?_eq_some hkey).2.2.1

lemma LiveLibrary.step_version (l : LiveLibrary) (o : Occasion) (s : Step) :
    (l.step o s).2.library = l.library ∨ l.library.version < (l.step o s).2.library.version := by
  cases s with
  | insert t => exact Or.inr (Nat.lt_succ_self _)
  | erase id =>
    rw [step, erase]
    split
    · next old hold =>
      refine Or.inr ?_
      rw [follow, Library.erase_of_get? hold]
      exact Nat.lt_succ_self _
    · exact Or.inl rfl
  | replaceAll ts => exact Or.inr (Nat.lt_succ_self _)
  | register p => exact Or.inl rfl
  | unregister id => exact Or.inl rfl
  | refresh id =>
    rw [step, refresh]
    split <;> exact Or.inl rfl

namespace Service

inductive Step where
  | insert (t : Track)
  | erase (id : TrackId)
  | replaceAll (ts : List Track)
  | register (p : Playlist)
  | unregister (id : Uuid)
  | refresh (id : Uuid)
  | evaluate (shuffle : Shuffle) (q : Query)

def step (s : Service) (o : Occasion) : Step → Service
  | .insert t => s.insert o t
  | .erase id => s.erase o id
  | .replaceAll ts => s.replaceAll o ts
  | .register p => match s.register o p with
    | .ok s' => s'
    | .error _ => s
  | .unregister id => s.unregister id
  | .refresh id => s.refresh o id
  | .evaluate shuffle q => (s.evaluate o.now shuffle q).2

def run (settings : Settings) (steps : List (Occasion × Step)) : Service :=
  steps.foldl (fun s e => s.step e.1 e.2) (start settings)

def Step.query? : Step → Option Query
  | .evaluate _ q => some q
  | _ => none

def asked (steps : List (Occasion × Step)) : List Query := steps.filterMap (·.2.query?)

variable {s s' : Service} {qs : List Query}

/-- A kept answer is of the version of the library or an earlier one. If it is of that version, it is right for one of
the queries that have been asked, which has its key. -/
def Fits (l : Library) (qs : List Query) (key : QueryKey) (e : CachedAnswer) : Prop :=
  e.version ≤ l.version ∧ ∃ q ∈ qs, q.key? = some key ∧
    (e.version = l.version → ∀ now shuffle, e.answer = q.evaluate shuffle now l.shelf.editions)

structure Sound (s : Service) (qs : List Query) : Prop where
  live : s.live.Sound
  cache : ∀ c ∈ s.cache, ∀ key e, (key, e) ∈ c.kept.entries → Fits s.library qs key e

lemma sound_start (settings : Settings) : (start settings).Sound [] where
  live := LiveLibrary.sound_start settings
  cache c hc key e he := by
    rw [Option.mem_def, start, AnswerCache.ofSize?] at hc
    split at hc
    · cases hc
    · cases hc
      cases he

section Later

variable {l l' : Library} {key : QueryKey} {e : CachedAnswer}

lemma Fits.later (h : Fits l qs key e) (hlater : l' = l ∨ l.version < l'.version) : Fits l' qs key e := by
  rcases hlater with rfl | hlt
  · exact h
  · obtain ⟨hpast, q, hq, hkey, -⟩ := h
    exact ⟨by omega, q, hq, hkey, fun hversion => by omega⟩

lemma Fits.more (h : Fits l qs key e) (new : List Query) : Fits l (qs ++ new) key e := by
  obtain ⟨hpast, q, hq, hright⟩ := h
  exact ⟨hpast, q, List.mem_append_left _ hq, hright⟩

lemma fits_fresh (hl : l.Sound) {q : Query} (hkey : q.key? = some key) (settings : Settings) (now : Instant)
    (shuffle : Shuffle) : Fits l (qs ++ [q]) key ⟨l.version, l.answer settings now shuffle q⟩ := by
  refine ⟨Nat.le_refl _, q, List.mem_append_right _ (List.mem_singleton_self q), hkey, fun _ now' shuffle' => ?_⟩
  rw [hl.answer_eq]
  exact Query.evaluate_of_key? hkey _ shuffle shuffle' now now'

end Later

lemma Sound.unasked (h : s.Sound qs) : s.Sound (qs ++ []) := by
  rwa [List.append_nil]

lemma Sound.advance (h : s.Sound qs) (o : Occasion) (step : LiveLibrary.Step)
    (hlive : s'.live = (s.live.step o step).2) (hcache : s'.cache = s.cache) : s'.Sound (qs ++ []) := by
  refine Sound.unasked ⟨?_, fun c hc key e he => ?_⟩
  · rw [hlive]
    exact h.live.step o step
  · rw [hcache] at hc
    rw [library, hlive]
    exact (h.cache c hc key e he).later (s.live.step_version o step)

section Evaluate

variable (h : s.Sound qs) (now : Instant) (shuffle : Shuffle) (q : Query)
include h

lemma Sound.evaluate_answer :
    ∃ r, (r = q ∨ r ∈ qs ∧ r.SharesKey q) ∧
      (s.evaluate now shuffle q).1 = r.evaluate shuffle now s.library.shelf.editions := by
  have hfresh := h.live.library.answer_eq s.settings now shuffle q
  rw [Service.evaluate]
  split
  · next cache key hcache hkey =>
    split
    · next answer cache' hlookup =>
      have hmem := AnswerCache.lookup_eq_some (congrArg Prod.fst hlookup)
      obtain ⟨-, r, hr, hrkey, hright⟩ := h.cache cache hcache key _ hmem
      exact ⟨r, .inr ⟨hr, key, hrkey, hkey⟩, hright rfl now shuffle⟩
    · exact ⟨q, .inl rfl, hfresh⟩
  · exact ⟨q, .inl rfl, hfresh⟩

lemma Sound.evaluate : (s.evaluate now shuffle q).2.Sound (qs ++ [q]) := by
  rw [Service.evaluate]
  split
  · next cache key hcache hkey =>
    have hkept (k : QueryKey) (e : CachedAnswer) (he : (k, e) ∈ (cache.lookup key s.library.version).2.kept.entries) :
        Fits s.library (qs ++ [q]) k e :=
      (h.cache cache hcache k e (AnswerCache.mem_lookup he)).more [q]
    split
    · next answer cache' hlookup =>
      rw [hlookup] at hkept
      refine ⟨h.live, fun c hc k e he => hkept k e ?_⟩
      cases hc
      exact he
    · next cache' hlookup =>
      rw [hlookup] at hkept
      refine ⟨h.live, fun c hc k e he => ?_⟩
      cases hc
      rcases RecencyList.mem_of_mem_put he with heq | ⟨hold, -⟩
      · cases heq
        exact fits_fresh h.live.library hkey s.settings now shuffle
      · exact hkept k e hold
  · exact ⟨h.live, fun c hc k e he => (h.cache c hc k e he).more [q]⟩

end Evaluate

lemma Sound.step (h : s.Sound qs) (o : Occasion) (step : Step) :
    (s.step o step).Sound (qs ++ step.query?.toList) := by
  cases step with
  | insert t => exact h.advance o (.insert t) rfl rfl
  | erase id => exact h.advance o (.erase id) rfl rfl
  | replaceAll ts => exact h.advance o (.replaceAll ts) rfl rfl
  | register p =>
    have hregister : s.register o p = p.query.rule.validate.map fun _ => s.publish (s.live.register o p) := by
      rw [Service.register]
      cases p.query.rule.validate <;> rfl
    rw [Service.step, hregister]
    cases p.query.rule.validate with
    | error e => exact h.unasked
    | ok u => exact h.advance o (.register p) rfl rfl
  | unregister id => exact h.advance o (.unregister id) rfl rfl
  | refresh id => exact h.advance o (.refresh id) rfl rfl
  | evaluate shuffle q => exact h.evaluate o.now shuffle q

lemma sound_run (settings : Settings) (steps : List (Occasion × Step)) : (run settings steps).Sound (asked steps) := by
  induction steps using List.reverseRecOn with
  | nil => exact sound_start settings
  | append_singleton steps e ih =>
    have hasked : asked (steps ++ [e]) = asked steps ++ e.2.query?.toList := by
      cases hq : e.2.query? <;> simp [asked, hq]
    rw [run, List.foldl_append, hasked]
    exact ih.step e.1 e.2

/-- Whatever has been done before and however much is kept, a query in a fixed order is answered as the library answers
it now, or as it answers now one of the earlier queries, which has the same key. That one is the same query, if the
dates of both could have been read from a text. The tracks are always in the versions that stand in the library. -/
theorem run_evaluate (settings : Settings) (steps : List (Occasion × Step)) (now : Instant) (shuffle : Shuffle)
    (q : Query) (hq : q.isRandom = false) :
    let s := run settings steps
    let given := (s.evaluate now shuffle q).1
    (∃ r, (r = q ∨ r ∈ asked steps ∧ r.SharesKey q) ∧ ∀ other, given = s.library.answer settings now other r) ∧
      (q.rule.HasReadableDates → (∀ r ∈ asked steps, r.SharesKey q → r.rule.HasReadableDates) →
        ∀ other, given = s.library.answer settings now other q) ∧
      ∀ e ∈ given, s.library.get? e.track.id = some e := by
  intro s given
  have hsound := sound_run settings steps
  obtain ⟨r, hr, hgiven⟩ := hsound.evaluate_answer now shuffle q
  have hrandom : r.isRandom = false := by
    rcases hr with rfl | ⟨-, hshares⟩
    · exact hq
    · exact hshares.not_isRandom
  have hanswer (other : Shuffle) : given = s.library.answer settings now other r :=
    hgiven.trans ((Query.evaluate_shuffle hrandom).trans (hsound.live.library.answer_eq settings now other r).symm)
  refine ⟨⟨r, hr, hanswer⟩, fun hdates hothers => ?_, fun e he => ?_⟩
  · rcases hr with rfl | ⟨hasked, hshares⟩
    · exact hanswer
    · obtain rfl := hshares.eq (hothers r hasked hshares) hdates
      exact hanswer
  · have he : e ∈ r.evaluate shuffle now s.library.shelf.editions := hgiven ▸ he
    exact hsound.live.library.shelf.mem_editions_iff.mp ((r.evaluate_subperm shuffle now _).subset he)

theorem run_evaluate_kept :
    let o : Occasion := ⟨default, fun _ => .identity⟩
    let leap : Instant := ⟨59, 1500000000, by decide, by decide, by decide⟩
    let minute : Instant := ⟨60, 0, by decide, by decide, by decide⟩
    let played : Query :=
      ⟨.plays { field := .lastPlayed, operator := .greaterThan, date := some (.at leap) }, some ⟨.rating, false⟩, some 1⟩
    let steps := [(o, Step.insert { id := 1, rating := some 3, lastPlayed := some minute }), (o, .evaluate .identity played),
      (o, .insert { id := 1, rating := some 4, lastPlayed := some minute }), (o, .evaluate .identity played)]
    played.isRandom = false ∧ played.rule.HasReadableDates ∧
      ((run {} steps).evaluate default .identity played).2.counts.hits = 1 ∧
      ((run {} steps).evaluate default .identity played).1 =
        (run {} steps).library.answer {} default .identity played := by
  intro o leap minute played steps
  have hleap : leap.IsReadable := Instant.isReadable_iff.mpr (by decide)
  have hdates : played.rule.HasReadableDates := by
    simp [played, Rule.HasReadableDates, Rule.moments, Moment.IsReadable, hleap]
  have hasked : asked steps = [played, played] := rfl
  refine ⟨rfl, hdates, by decide +kernel, ?_⟩
  refine (run_evaluate {} steps default .identity played rfl).2.1 hdates (fun r hr _ => ?_) .identity
  rw [hasked] at hr
  simp only [List.mem_cons, List.not_mem_nil, or_false, or_self] at hr
  exact hr ▸ hdates

/-- A leap second after second 29 is written as a moment of second 30. A track that was played between the two is given
to the query for the later one, because it has been given to the query for the earlier one. -/
theorem run_evaluate_of_dates_written_alike :
    let o : Occasion := ⟨default, fun _ => .identity⟩
    let leap : Instant := ⟨29, 1500000000, by decide, by decide, by decide⟩
    let half : Instant := ⟨30, 500000000, by decide, by decide, by decide⟩
    let after (i : Instant) : Query :=
      ⟨.plays { field := .lastPlayed, operator := .greaterThan, date := some (.at i) }, none, none⟩
    let t : Track := { id := 1, lastPlayed := some ⟨30, 0, by decide, by decide, by decide⟩ }
    let steps := [(o, Step.insert t), (o, .evaluate .identity (after leap))]
    leap.render = half.render ∧ (after half).rule.validate = .ok () ∧ (after half).isRandom = false ∧
      ((run {} steps).evaluate default .identity (after half)).1.map (·.track.id) = [1] ∧
      (run {} steps).library.answer {} default .identity (after half) = [] := by
  intro o leap half after t steps
  exact ⟨by decide +kernel, rfl, rfl, by decide +kernel, by decide +kernel⟩

end Service

end MusicQuery
