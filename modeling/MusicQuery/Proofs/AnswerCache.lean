import Mathlib.Tactic.Common
import MusicQuery.AnswerCache
import MusicQuery.Proofs.Rule.Clock
import MusicQuery.Proofs.Rule.Kept
import MusicQuery.Proofs.Library.Selection
import MusicQuery.Proofs.RecencyList

namespace MusicQuery

section Keys

variable {q r : Query} {key : QueryKey}

lemma Query.key?_eq_some (h : q.key? = some key) :
    q.rule.hasRelativeDates = false ∧ q.rule.hasNonFiniteNumbers = false ∧ q.isRandom = false ∧
      key = ⟨q.rule.toText, q.sorting, q.limit⟩ := by
  rw [key?] at h
  split at h
  · cases h
  · next hplain =>
    simp only [Bool.or_eq_true, not_or, Bool.not_eq_true] at hplain
    exact ⟨hplain.1.1, hplain.1.2, hplain.2, (Option.some.inj h).symm⟩

theorem Query.key?_injective (hq : q.key? = some key) (hr : r.key? = some key) (hdates : q.rule.HasReadableDates)
    (hdates' : r.rule.HasReadableDates) : q = r := by
  obtain ⟨-, hfinite, -, rfl⟩ := Query.key?_eq_some hq
  obtain ⟨-, hfinite', -, hkey⟩ := Query.key?_eq_some hr
  obtain ⟨htext, hsorting, hlimit⟩ := QueryKey.mk.inj hkey
  have hrule := Rule.toText_injective hfinite hfinite' hdates hdates' htext
  cases q
  cases r
  simp_all

lemma Query.evaluate_of_key? (h : q.key? = some key) (es : List Edition) (shuffle shuffle' : Shuffle)
    (now now' : Instant) : q.evaluate shuffle now es = q.evaluate shuffle' now' es := by
  obtain ⟨hfixed, -, hrandom, -⟩ := Query.key?_eq_some h
  rw [Query.evaluate_shuffle hrandom]
  exact Query.evaluate_clock fun t => Rule.holds_fixed t q.rule hfixed

end Keys

namespace AnswerCache

variable {c : AnswerCache} {key : QueryKey} {version : Nat} {answer : List Edition} {e : CachedAnswer}

def Keeps (c : AnswerCache) (key : QueryKey) : Prop := c.kept.Holds key

lemma lookup_of_not_keeps (h : ¬ c.Keeps key) : c.lookup key version = (none, { c with misses := c.misses + 1 }) := by
  rw [lookup, RecencyList.get_of_absent h]
  simp [RecencyList.pop_of_absent h]

lemma lookup_of_peek? (h : c.kept.peek? key = some e) :
    c.lookup key e.version = (some e.answer, { c with kept := (c.kept.get key).2, hits := c.hits + 1 }) := by
  rw [lookup, RecencyList.get_of_held h]
  simp

lemma lookup_of_stale (h : c.kept.peek? key = some e) (hversion : e.version ≠ version) :
    c.lookup key version = (none, { c with kept := c.kept.pop key, misses := c.misses + 1 }) := by
  have hpop := RecencyList.pop_get c.kept key
  rw [RecencyList.get_of_held h] at hpop
  rw [lookup, RecencyList.get_of_held h]
  simp [hversion, hpop]

lemma lookup_cases (c : AnswerCache) (key : QueryKey) (version : Nat) :
    (¬ c.Keeps key ∧ c.lookup key version = (none, { c with misses := c.misses + 1 })) ∨
      ∃ e, c.kept.peek? key = some e ∧
        (e.version = version ∧ c.lookup key version =
            (some e.answer, { c with kept := (c.kept.get key).2, hits := c.hits + 1 }) ∨
          e.version ≠ version ∧ c.lookup key version =
            (none, { c with kept := c.kept.pop key, misses := c.misses + 1 })) := by
  cases hpeek : c.kept.peek? key with
  | none =>
    have hno := RecencyList.peek?_eq_none_iff.mp hpeek
    exact Or.inl ⟨hno, lookup_of_not_keeps hno⟩
  | some e =>
    refine Or.inr ⟨e, rfl, ?_⟩
    by_cases hversion : e.version = version
    · subst hversion
      exact Or.inl ⟨rfl, lookup_of_peek? hpeek⟩
    · exact Or.inr ⟨hversion, lookup_of_stale hpeek hversion⟩

lemma lookup_eq_some (h : (c.lookup key version).1 = some answer) : (key, ⟨version, answer⟩) ∈ c.kept.entries := by
  rcases lookup_cases c key version with ⟨-, hc⟩ | ⟨e, hpeek, ⟨rfl, hc⟩ | ⟨-, hc⟩⟩
  · rw [hc] at h
    cases h
  · rw [hc] at h
    cases h
    exact RecencyList.mem_of_peek? hpeek
  · rw [hc] at h
    cases h

lemma mem_lookup {entry : QueryKey × CachedAnswer} (h : entry ∈ (c.lookup key version).2.kept.entries) :
    entry ∈ c.kept.entries := by
  rcases lookup_cases c key version with ⟨-, hc⟩ | ⟨e, -, ⟨rfl, hc⟩ | ⟨-, hc⟩⟩
  · rwa [hc] at h
  · rw [hc] at h
    exact RecencyList.mem_of_mem_get h
  · rw [hc] at h
    exact (RecencyList.mem_pop_iff.mp h).1

end AnswerCache

end MusicQuery
