import MusicQuery.Proofs.Live.Channel
import MusicQuery.Proofs.Service

namespace MusicQuery

namespace Service

def Step.live? : Step → Option LiveLibrary.Step
  | .insert t => some (.insert t)
  | .erase id => some (.erase id)
  | .replaceAll ts => some (.replaceAll ts)
  | .register p => match p.query.rule.validate with
    | .ok _ => some (.register p)
    | .error _ => none
  | .unregister id => some (.unregister id)
  | .refresh id => some (.refresh id)
  | .evaluate _ _ => none

def news (s : Service) (o : Occasion) (step : Step) : List Update :=
  step.live?.elim [] fun live => (s.live.step o live).1

lemma evaluate_channel (s : Service) (now : Instant) (shuffle : Shuffle) (q : Query) :
    (s.evaluate now shuffle q).2.channel = s.channel := by
  rw [evaluate]
  split
  · split <;> rfl
  · rfl

lemma step_channel (s : Service) (o : Occasion) (step : Step) :
    (s.step o step).channel = s.channel.sendAll (s.news o step) := by
  cases step with
  | register p =>
    rw [Service.step, register, news, Step.live?]
    cases p.query.rule.validate <;> rfl
  | evaluate shuffle q => exact s.evaluate_channel o.now shuffle q
  | _ => rfl

end Service

structure Audience where
  service : Service
  readers : Nat → Option Reader

namespace Audience

inductive Event where
  | act (o : Occasion) (s : Service.Step)
  | stop
  | subscribe (name : Nat)
  | drain (name : Nat)

def Event.concerns (name : Nat) : Event → Prop
  | subscribe n => n = name
  | drain n => n = name
  | _ => False

def reading (a : Audience) (name : Nat) : Event → List Update × Option Reader
  | .subscribe n => ([], if n = name then some a.service.subscribe else a.readers name)
  | .drain n =>
    if n = name then (a.readers name).elim ([], none) fun r => (a.service.channel.drain r).map id some
    else ([], a.readers name)
  | _ => ([], a.readers name)

/-- What is published at an event. A service that has been stopped does nothing more. -/
def news (a : Audience) : Event → List Update
  | .act o s => if a.service.channel.closed then [] else a.service.news o s
  | _ => []

def step (a : Audience) (e : Event) : Audience where
  service := match e with
    | .act o s => if a.service.channel.closed then a.service else a.service.step o s
    | .stop => a.service.stop
    | _ => a.service
  readers name := (a.reading name e).2

def start (settings : Settings) : Audience := ⟨.start settings, fun _ => none⟩

def run (a : Audience) (events : List Event) : Audience := events.foldl step a

def published (a : Audience) : List Event → List Update
  | [] => []
  | e :: events => a.news e ++ (a.step e).published events

def taken (a : Audience) (name : Nat) : List Event → List Update
  | [] => []
  | e :: events => (a.reading name e).1 ++ (a.step e).taken name events

structure Logs (a : Audience) (log : List Update) : Prop where
  channel : a.service.channel.log.Logs log
  read_le : ∀ name, ∀ r ∈ a.readers name, r.read ≤ log.length

/-- What a log has for the reader of a name that it was not given yet. -/
def ahead (a : Audience) (log : List Update) (name : Nat) : List Update :=
  (a.readers name).elim [] fun r => log.drop r.read

lemma logs_start (settings : Settings) : (start settings).Logs [] where
  channel := BoundedLog.logs_ofCapacity _
  read_le name r hr := by cases hr

section Step

variable {a : Audience} {log : List Update} {name : Nat} {e : Event}

lemma capacity_step (a : Audience) (e : Event) :
    (a.step e).service.channel.log.capacity = a.service.channel.log.capacity := by
  cases e with
  | act o s =>
    rw [step]
    split
    · rfl
    · rw [Service.step_channel, Channel.capacity_sendAll]
  | _ => rfl

lemma reading_of_not_concerns (a : Audience) (h : ¬ e.concerns name) : a.reading name e = ([], a.readers name) := by
  cases e with
  | subscribe n => exact Prod.ext rfl (if_neg h)
  | drain n => exact if_neg h
  | _ => rfl

lemma isSome_step (h : (a.readers name).isSome = true) (e : Event) : ((a.step e).readers name).isSome = true := by
  obtain ⟨r, hr⟩ := Option.isSome_iff_exists.mp h
  show (a.reading name e).2.isSome = true
  by_cases he : e.concerns name
  · cases e with
    | subscribe n => exact congrArg Option.isSome (if_pos he)
    | drain n =>
      obtain rfl : n = name := he
      rw [reading, if_pos rfl, hr]
      rfl
    | _ => exact he.elim
  · rwa [reading_of_not_concerns a he]

variable (h : a.Logs log)
include h

lemma Logs.reading_drain {r : Reader} (hr : a.readers name = some r) :
    a.reading name (.drain name) = (a.service.channel.log.unread r.read, some ⟨a.service.channel.log.sent⟩) := by
  have hread : r.read ≤ a.service.channel.log.sent := h.channel.sent ▸ h.read_le name r hr
  rw [reading, if_pos rfl, hr, Option.elim_some, Channel.drain_eq h.channel.held_le hread]
  rfl

lemma Logs.channel_step (e : Event) : (a.step e).service.channel.log.Logs (log ++ a.news e) := by
  cases e with
  | act o s =>
    rw [step, news]
    split
    · rw [List.append_nil]
      exact h.channel
    · rw [Service.step_channel]
      exact Channel.logs_sendAll h.channel _
  | stop => exact (List.append_nil log).symm ▸ ⟨h.channel.sent, h.channel.held⟩
  | _ => exact (List.append_nil log).symm ▸ h.channel

lemma Logs.reading_le (e : Event) : ∀ r ∈ (a.reading name e).2, r.read ≤ log.length := by
  have hsent : a.service.channel.log.sent ≤ log.length := h.channel.sent.le
  by_cases he : e.concerns name
  · cases e with
    | subscribe n =>
      obtain rfl : n = name := he
      rintro r hr
      rw [reading, if_pos rfl] at hr
      cases hr
      exact hsent
    | drain n =>
      obtain rfl : n = name := he
      rintro r hr
      cases hn : a.readers n with
      | none =>
        rw [reading, if_pos rfl, hn] at hr
        cases hr
      | some r' =>
        rw [h.reading_drain hn] at hr
        cases hr
        exact hsent
    | _ => exact he.elim
  · rw [reading_of_not_concerns a he]
    exact h.read_le name

lemma Logs.step (e : Event) : (a.step e).Logs (log ++ a.news e) where
  channel := h.channel_step e
  read_le name r hr := by
    have hle := h.reading_le e r hr
    rw [List.length_append]
    omega

lemma Logs.unread_sublist (r : Reader) : (a.service.channel.log.unread r.read).Sublist (log.drop r.read) := by
  rw [h.channel.unread]
  exact List.drop_sublist _ _

lemma Logs.reading_sublist (name : Nat) (e : Event) :
    ((a.reading name e).1 ++ (a.step e).ahead (log ++ a.news e) name).Sublist (a.ahead log name ++ a.news e) := by
  have hend : log.drop a.service.channel.log.sent = [] := by rw [h.channel.sent, List.drop_length]
  by_cases he : e.concerns name
  · cases e with
    | subscribe n =>
      obtain rfl : n = name := he
      have hnews : a.news (.subscribe n) = [] := rfl
      have hreader : (a.step (.subscribe n)).readers n = some ⟨a.service.channel.log.sent⟩ := if_pos rfl
      rw [ahead, hreader, hnews, List.append_nil, Option.elim_some, hend]
      exact List.nil_sublist _
    | drain n =>
      obtain rfl : n = name := he
      have hnews : a.news (.drain n) = [] := rfl
      rw [hnews, List.append_nil, List.append_nil]
      cases hr : a.readers n with
      | none =>
        have hnone : a.reading n (.drain n) = ([], none) := by rw [reading, if_pos rfl, hr]; rfl
        have hreader : (a.step (.drain n)).readers n = none := congrArg Prod.snd hnone
        rw [ahead, hreader, hnone]
        exact List.nil_sublist _
      | some r =>
        have hreading := h.reading_drain hr
        have hreader : (a.step (.drain n)).readers n = some ⟨a.service.channel.log.sent⟩ := congrArg Prod.snd hreading
        rw [ahead, ahead, hreader, hr, hreading, Option.elim_some, Option.elim_some, hend, List.append_nil]
        exact h.unread_sublist r
    | _ => exact he.elim
  · have hreading := reading_of_not_concerns a he
    have hreader : (a.step e).readers name = a.readers name := congrArg Prod.snd hreading
    rw [ahead, ahead, hreader, hreading, List.nil_append]
    cases hr : a.readers name with
    | none => exact List.nil_sublist _
    | some r =>
      rw [Option.elim_some, Option.elim_some, List.drop_append_of_le_length (h.read_le name r hr)]

end Step

section Run

variable {a : Audience} {log : List Update} {name : Nat} {events : List Event}

lemma capacity_run (a : Audience) (events : List Event) :
    (a.run events).service.channel.log.capacity = a.service.channel.log.capacity := by
  induction events generalizing a with
  | nil => rfl
  | cons e events ih => exact (ih (a.step e)).trans (capacity_step a e)

lemma isSome_run (h : (a.readers name).isSome = true) (events : List Event) :
    ((a.run events).readers name).isSome = true := by
  induction events generalizing a with
  | nil => exact h
  | cons e events ih => exact ih (isSome_step h e)

lemma isSome_of_subscribed (a : Audience) (h : .subscribe name ∈ events) :
    ((a.run events).readers name).isSome = true := by
  obtain ⟨before, after, rfl⟩ := List.append_of_mem h
  rw [run, List.foldl_append]
  exact isSome_run (congrArg Option.isSome (if_pos rfl)) after

lemma readers_run (hquiet : ∀ e ∈ events, ¬ e.concerns name) : (a.run events).readers name = a.readers name := by
  induction events generalizing a with
  | nil => rfl
  | cons e events ih =>
    obtain ⟨he, hevents⟩ := List.forall_mem_cons.mp hquiet
    exact (ih hevents).trans (congrArg Prod.snd (reading_of_not_concerns a he))

lemma Logs.run (h : a.Logs log) (events : List Event) : (a.run events).Logs (log ++ a.published events) := by
  induction events generalizing a log with
  | nil => exact (List.append_nil log).symm ▸ h
  | cons e events ih =>
    have hrest := ih (h.step e)
    rwa [List.append_assoc] at hrest

lemma Logs.taken_sublist (h : a.Logs log) (name : Nat) (events : List Event) :
    (a.taken name events).Sublist (a.ahead log name ++ a.published events) := by
  induction events generalizing a log with
  | nil => exact List.nil_sublist _
  | cons e events ih =>
    have hstep := h.reading_sublist name e
    have hrest := ih (h.step e)
    rw [taken, published, ← List.append_assoc]
    refine .trans ?_ (hstep.append_right _)
    rw [List.append_assoc]
    exact hrest.append_left _

lemma Logs.reader_at_end (h : a.Logs log) {e : Event}
    (he : e = .subscribe name ∨ e = .drain name ∧ (a.readers name).isSome = true) :
    a.news e = [] ∧ (a.step e).readers name = some ⟨log.length⟩ := by
  rw [← h.channel.sent]
  rcases he with rfl | ⟨rfl, hsome⟩
  · exact ⟨rfl, if_pos rfl⟩
  · obtain ⟨r, hr⟩ := Option.isSome_iff_exists.mp hsome
    exact ⟨rfl, congrArg Prod.snd (h.reading_drain hr)⟩

end Run

/-- Whatever goes on between two drains of a reader, or between its coming and its first drain, it is given the newest
of the updates that were published in between, without a gap and in their order, and all of them if the channel can
hold them. The reader then stands at the end; if it has missed updates, it is told how many before it goes on. In the
course of all events no reader is given an update twice or in another order. -/
theorem run_drain (settings : Settings) (name : Nat) :
    (∀ (before : List Event) (e : Event) (between : List Event),
      e = .subscribe name ∨ e = .drain name ∧ .subscribe name ∈ before → (∀ e' ∈ between, ¬ e'.concerns name) →
      let since := (((start settings).run before).step e).published between
      let now := (((start settings).run before).step e).run between
      let drained := (now.reading name (.drain name)).1
      let capacity := 2 ^ Nat.clog 2 settings.notificationCapacity
      drained <:+ since ∧ drained.length = min since.length capacity ∧ (since.length ≤ capacity → drained = since) ∧
        ∃ r, now.readers name = some r ∧ now.service.channel.drain r = (drained, ⟨now.service.channel.log.sent⟩) ∧
          (capacity < since.length →
            ∃ place, now.service.channel.log.receive r.read = .lagged (since.length - capacity) place)) ∧
    ∀ events : List Event, ((start settings).taken name events).Sublist ((start settings).published events) := by
  refine ⟨?_, fun events => (logs_start settings).taken_sublist name events⟩
  intro before e between he hquiet since now drained capacity
  have hbefore := (logs_start settings).run before
  obtain ⟨hnews, hstart⟩ := hbefore.reader_at_end (he.imp_right (And.imp_right (isSome_of_subscribed _)))
  have hnow : now.Logs ([] ++ (start settings).published before ++ since) := by
    have hlogs := (hbefore.step e).run between
    rwa [hnews, List.append_nil] at hlogs
  rw [List.nil_append] at hstart hnow
  obtain ⟨r, hr, hread⟩ : ∃ r, now.readers name = some r ∧ r.read = ((start settings).published before).length :=
    ⟨_, (readers_run hquiet).trans hstart, rfl⟩
  have hcapacity : now.service.channel.log.capacity = capacity := by
    rw [capacity_run, capacity_step, capacity_run]
    exact BoundedLog.roundUp_eq_pow _
  have hsince : ((start settings).published before ++ since).drop r.read = since := by rw [hread, List.drop_left]
  have hdrain : now.service.channel.drain r = (since.rtake capacity, ⟨now.service.channel.log.sent⟩) := by
    rw [Channel.drain_eq hnow.channel.held_le (hnow.channel.sent ▸ hnow.read_le name r hr), hnow.channel.unread, hsince,
      hcapacity]
  have hdrained : drained = since.rtake capacity := by
    show (now.reading name (.drain name)).1 = _
    rw [hnow.reading_drain hr, hnow.channel.unread, hsince, hcapacity]
  rw [hdrained]
  refine ⟨List.drop_suffix _ _, ?_, fun hle => ?_, r, hr, hdrain, fun hlt => ⟨now.service.channel.log.gone, ?_⟩⟩
  · rw [List.rtake, List.length_drop]
    omega
  · rw [List.rtake, Nat.sub_eq_zero_of_le hle, List.drop_zero]
  · rw [hnow.channel.receive_of_lt (by rwa [hsince, hcapacity]), hsince, hcapacity]

theorem run_drain_of_two_readers :
    let o : Occasion := ⟨default, fun _ => .identity⟩
    let all : Playlist := ⟨default, "all", { rule := .group .and [] }⟩
    let put (id : TrackId) : Event := .act o (.insert { id })
    let a := start { notificationCapacity := 3 }
    let coming := [put 1, .subscribe 1, put 2, put 3]
    let leaving := [put 4, put 5]
    let first := ((a.run [.act o (.register all)]).step (.subscribe 0)).run (coming ++ .drain 1 :: leaving)
    let drained := (a.run (.act o (.register all) :: .subscribe 0 :: coming)).step (.drain 1)
    (∀ e ∈ coming ++ .drain 1 :: leaving, ¬ e.concerns 0) ∧ (∀ e ∈ leaving, ¬ e.concerns 1) ∧
      .subscribe 1 ∈ Event.act o (.register all) :: .subscribe 0 :: coming ∧
      (first.reading 0 (.drain 0)).1.length = 4 ∧
      ((drained.run leaving).reading 1 (.drain 1)).1 = drained.published leaving := by
  intro o all put a coming leaving first drained
  have hfirst : ∀ e ∈ coming ++ .drain 1 :: leaving, ¬ e.concerns 0 := by
    simp [coming, leaving, put, Event.concerns]
  have hsecond : ∀ e ∈ leaving, ¬ e.concerns 1 := by
    simp [leaving, put, Event.concerns]
  have hcame : .subscribe 1 ∈ Event.act o (.register all) :: .subscribe 0 :: coming := by
    simp [coming]
  obtain ⟨-, hlength, -⟩ := (run_drain { notificationCapacity := 3 } 0).1 [.act o (.register all)] (.subscribe 0)
    (coming ++ .drain 1 :: leaving) (.inl rfl) hfirst
  obtain ⟨-, -, hall, -⟩ := (run_drain { notificationCapacity := 3 } 1).1
    (.act o (.register all) :: .subscribe 0 :: coming) (.drain 1) leaving (.inr ⟨rfl, hcame⟩) hsecond
  refine ⟨hfirst, hsecond, hcame, hlength.trans ?_, hall ?_⟩
  · decide +kernel
  · decide +kernel

end Audience

end MusicQuery
