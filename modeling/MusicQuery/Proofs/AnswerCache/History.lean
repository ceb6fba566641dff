import MusicQuery.Proofs.AnswerCache

namespace MusicQuery.AnswerCache

open RecencyList (Later)

inductive Use where
  | get (key : QueryKey) (version : Nat)
  | put (key : QueryKey) (version : Nat) (answer : List Edition)
  | clear

def Use.isGet : Use → Bool
  | get _ _ => true
  | _ => false

def Use.putUnder (key : QueryKey) : Use → Option (Nat × List Edition)
  | put k version answer => if k = key then some (version, answer) else none
  | _ => none

def use (c : AnswerCache) : Use → AnswerCache
  | .get key version => (c.lookup key version).2
  | .put key version answer => c.insert key version answer
  | .clear => c.clear

def touched? (c : AnswerCache) : Use → Option QueryKey
  | .get key version => (c.lookup key version).1.map fun _ => key
  | .put key _ _ => some key
  | .clear => none

def touches (c : AnswerCache) : List Use → List QueryKey
  | [] => []
  | u :: uses => (c.touched? u).toList ++ (c.use u).touches uses

def ofCapacity (capacity : Nat) : AnswerCache := { kept := { capacity } }

def run (capacity : Nat) (uses : List Use) : AnswerCache := uses.foldl use (ofCapacity capacity)

def lastPut? (uses : List Use) (key : QueryKey) : Option (Nat × List Edition) :=
  (uses.filterMap (Use.putUnder key)).getLast?

variable {c : AnswerCache} {key : QueryKey} {version : Nat} {answer : List Edition}

section History

lemma run_snoc (capacity : Nat) (uses : List Use) (u : Use) :
    run capacity (uses ++ [u]) = (run capacity uses).use u := by
  rw [run, List.foldl_append]
  rfl

lemma touches_snoc (c : AnswerCache) (uses : List Use) (u : Use) :
    c.touches (uses ++ [u]) = c.touches uses ++ ((uses.foldl use c).touched? u).toList := by
  induction uses generalizing c with
  | nil => simp [touches]
  | cons v uses ih => rw [List.cons_append, touches, ih, touches, List.foldl_cons, List.append_assoc]

lemma lastPut?_snoc (uses : List Use) (u : Use) (key : QueryKey) :
    lastPut? (uses ++ [u]) key = (u.putUnder key).or (lastPut? uses key) := by
  rw [lastPut?, List.filterMap_append, List.getLast?_append]
  cases h : u.putUnder key <;> simp [h, lastPut?]

end History

/-- The answers that are kept are those of the last puts of their keys. -/
structure Follows (c : AnswerCache) (uses : List Use) (touches : List QueryKey) : Prop where
  puts : ∀ key e, (key, e) ∈ c.kept.entries → lastPut? uses key = some (e.version, e.answer)
  order : c.kept.Ordered touches
  counts : c.hits + c.misses = uses.countP Use.isGet

variable {uses : List Use} {keys : List QueryKey}

section Steps

variable (h : c.Follows uses keys)
include h

lemma Follows.puts_peek {e : CachedAnswer} (hpeek : c.kept.peek? key = some e) :
    lastPut? uses key = some (e.version, e.answer) := h.puts key e (RecencyList.mem_of_peek? hpeek)

lemma Follows.get (key : QueryKey) (version : Nat) :
    (c.use (.get key version)).Follows (uses ++ [.get key version])
      (keys ++ (c.touched? (.get key version)).toList) := by
  have hlast (k : QueryKey) : lastPut? (uses ++ [.get key version]) k = lastPut? uses k :=
    lastPut?_snoc uses _ k
  have hcounts : c.hits + c.misses + 1 = (uses ++ [Use.get key version]).countP Use.isGet := by
    rw [h.counts, List.countP_append]
    rfl
  have hputs (k : QueryKey) (e : CachedAnswer) (he : (k, e) ∈ (c.use (.get key version)).kept.entries) :
      lastPut? (uses ++ [.get key version]) k = some (e.version, e.answer) :=
    (hlast k).trans (h.puts k e (mem_lookup he))
  rw [use] at hputs ⊢
  rw [touched?]
  rcases lookup_cases c key version with ⟨-, hc⟩ | ⟨e, hpeek, ⟨-, hc⟩ | ⟨-, hc⟩⟩
  · rw [hc] at hputs ⊢
    exact ⟨hputs, by simpa using h.order, hcounts⟩
  · rw [hc] at hputs ⊢
    refine ⟨hputs, h.order.get hpeek, ?_⟩
    show c.hits + 1 + c.misses = _
    omega
  · rw [hc] at hputs ⊢
    exact ⟨hputs, by simpa using h.order.pop key, hcounts⟩

lemma Follows.put (hcapacity : 0 < c.capacity) (key : QueryKey) (version : Nat) (answer : List Edition) :
    (c.use (.put key version answer)).Follows (uses ++ [.put key version answer]) (keys ++ [key]) := by
  refine ⟨fun k e he => ?_, h.order.put hcapacity key ⟨version, answer⟩, ?_⟩
  · rw [lastPut?_snoc]
    rcases RecencyList.mem_of_mem_put he with heq | ⟨hold, hne⟩
    · cases heq
      simp [Use.putUnder]
    · have hne : key ≠ k := Ne.symm hne
      simp [Use.putUnder, hne, h.puts k e hold]
  · rw [List.countP_append]
    exact h.counts

lemma Follows.clear : (c.use .clear).Follows (uses ++ [.clear]) keys := by
  refine ⟨fun k e he => (List.not_mem_nil he).elim, ⟨.nil, Nat.zero_le _⟩, ?_⟩
  rw [List.countP_append]
  exact h.counts

end Steps

lemma capacity_use (c : AnswerCache) (u : Use) : (c.use u).capacity = c.capacity := by
  cases u with
  | get key version =>
    rw [use]
    rcases lookup_cases c key version with ⟨-, hc⟩ | ⟨e, hpeek, ⟨-, hc⟩ | ⟨-, hc⟩⟩
    · rw [hc]
      rfl
    · rw [hc, RecencyList.get_of_held hpeek]
      rfl
    · rw [hc]
      rfl
  | put key version answer => rfl
  | clear => rfl

lemma follows_run {capacity : Nat} (hcapacity : 0 < capacity) (uses : List Use) :
    (run capacity uses).capacity = capacity ∧
      (run capacity uses).Follows uses ((ofCapacity capacity).touches uses) := by
  induction uses using List.reverseRecOn with
  | nil => exact ⟨rfl, fun key e he => (List.not_mem_nil he).elim, ⟨.nil, Nat.zero_le _⟩, rfl⟩
  | append_singleton uses u ih =>
    obtain ⟨hsame, h⟩ := ih
    rw [run_snoc, touches_snoc]
    refine ⟨(capacity_use _ u).trans hsame, ?_⟩
    cases u with
    | get key version => exact h.get key version
    | put key version answer => exact h.put (hsame.symm ▸ hcapacity) key version answer
    | clear => simpa [touched?] using h.clear

lemma Follows.lookup_eq_some_iff (h : c.Follows uses keys) :
    (c.lookup key version).1 = some answer ↔ c.Keeps key ∧ lastPut? uses key = some (version, answer) := by
  rcases lookup_cases c key version with ⟨hno, hc⟩ | ⟨e, hpeek, ⟨rfl, hc⟩ | ⟨hne, hc⟩⟩
  · simp [hc, hno]
  · have hkeeps : c.Keeps key := ⟨e, RecencyList.mem_of_peek? hpeek⟩
    simp [hc, hkeeps, h.puts_peek hpeek]
  · simp [hc, h.puts_peek hpeek, hne]

section Losses

variable (h : c.Follows uses keys) (hkeeps : c.Keeps key) {other : QueryKey}
include h hkeeps

lemma Follows.lost_by_get_iff :
    ¬ (c.use (.get other version)).Keeps key ↔
      other = key ∧ (lastPut? uses key).map (·.1) ≠ some version := by
  rw [use]
  rcases lookup_cases c other version with ⟨hno, hc⟩ | ⟨e, hpeek, ⟨rfl, hc⟩ | ⟨hne, hc⟩⟩
  · rw [hc]
    refine iff_of_false (not_not_intro hkeeps) ?_
    rintro ⟨rfl, -⟩
    exact hno hkeeps
  · rw [hc]
    refine iff_of_false (not_not_intro (RecencyList.holds_get_iff.mpr hkeeps)) ?_
    rintro ⟨rfl, hlast⟩
    rw [h.puts_peek hpeek] at hlast
    exact hlast rfl
  · rw [hc]
    have hgone : ¬ (c.kept.pop other).Holds key ↔ other = key := by
      rw [RecencyList.holds_pop_iff, not_and_not_right]
      exact ⟨fun hkey => (hkey hkeeps).symm, fun hkey _ => hkey.symm⟩
    refine hgone.trans ⟨fun hkey => ⟨hkey, ?_⟩, fun hkey => hkey.1⟩
    rw [← hkey, h.puts_peek hpeek]
    simpa using hne

lemma Follows.lost_by_put_iff :
    ¬ (c.use (.put other version answer)).Keeps key ↔
      ¬ c.Keeps other ∧ c.size = c.capacity ∧ ∀ k, c.Keeps k → k ≠ key → Later keys k key :=
  h.order.lost_by_put_iff hkeeps

end Losses

lemma ofSize?_of_pos {capacity : Nat} (h : 0 < capacity) : ofSize? capacity = some (ofCapacity capacity) := by
  rw [ofSize?, if_neg (Nat.ne_of_gt h)]
  rfl

/-- A key is kept when it is put. It is hit at a version exactly if it is still kept and was put last at that version,
and gives the answer of that put. It is lost only by clearing, by a get at another version, and to a new key in a full
cache, if every other key that is kept has been put or hit since. -/
theorem run_history {capacity : Nat} (hcapacity : 0 < capacity) (uses : List Use) :
    let c := run capacity uses
    ofSize? capacity = some (run capacity []) ∧
      (∀ key version answer, (c.lookup key version).1 = some answer ↔
        c.Keeps key ∧ lastPut? uses key = some (version, answer)) ∧
      (∀ key version answer, (c.use (.put key version answer)).Keeps key) ∧
      (∀ key version, (lastPut? uses key).map (·.1) ≠ some version → ¬ (c.use (.get key version)).Keeps key) ∧
      c.hits + c.misses = uses.countP Use.isGet ∧ c.size ≤ capacity ∧
      ∀ u key, c.Keeps key → (¬ (c.use u).Keeps key ↔
        u = .clear ∨
        (∃ version, u = .get key version ∧ (lastPut? uses key).map (·.1) ≠ some version) ∨
        ∃ new version answer, u = .put new version answer ∧ ¬ c.Keeps new ∧ c.size = capacity ∧
          ∀ other, c.Keeps other → other ≠ key → Later ((ofCapacity capacity).touches uses) other key) := by
  intro c
  obtain ⟨hsame, h⟩ := follows_run hcapacity uses
  refine ⟨ofSize?_of_pos hcapacity, fun _ _ _ => h.lookup_eq_some_iff,
    fun _ _ _ => ⟨_, List.mem_cons_self⟩, fun key version hlast hkept => ?_, h.counts,
    h.order.size_le.trans_eq hsame, fun u key hkeeps => ?_⟩
  · obtain ⟨e, he⟩ := hkept
    exact (h.lost_by_get_iff ⟨e, mem_lookup he⟩).mpr ⟨rfl, hlast⟩ ⟨e, he⟩
  · cases u with
    | get other version =>
      rw [h.lost_by_get_iff hkeeps]
      simp
    | put other version answer =>
      rw [h.lost_by_put_iff hkeeps, hsame]
      simp [c]
    | clear =>
      refine iff_of_true ?_ (Or.inl rfl)
      rintro ⟨e, he⟩
      exact List.not_mem_nil he

theorem run_history_of_three_keys :
    let query (rule : String) : QueryKey := ⟨rule, none, none⟩
    let uses : List Use := [.put (query "a") 0 [], .put (query "b") 0 [], .get (query "a") 0]
    let c := run 2 uses
    0 < 2 ∧ (c.lookup (query "a") 0).1 = some [] ∧ ¬ (c.use (.put (query "c") 1 [])).Keeps (query "b") ∧
      ¬ (c.use (.get (query "a") 1)).Keeps (query "a") := by
  intro query uses c
  obtain ⟨-, hhit, -, hstale, -, -, hlost⟩ := run_history (by decide : 0 < 2) uses
  have hkeeps (key : QueryKey) : c.Keeps key ↔ query "a" = key ∨ query "b" = key := by
    have hentries : c.kept.entries = [(query "a", ⟨0, []⟩), (query "b", ⟨0, []⟩)] := rfl
    simp [Keeps, RecencyList.Holds, hentries, eq_comm, exists_or]
  refine ⟨by decide, (hhit _ _ _).mpr ⟨(hkeeps _).mpr (Or.inl rfl), rfl⟩, ?_, hstale _ 1 (by decide)⟩
  refine (hlost _ _ ((hkeeps _).mpr (Or.inr rfl))).mpr (Or.inr (Or.inr ⟨_, _, _, rfl, ?_, rfl, ?_⟩))
  · rw [hkeeps]
    decide
  · intro other hother hne
    obtain rfl := ((hkeeps other).mp hother).resolve_right fun hb => hne hb.symm
    exact ⟨[query "a", query "b"], [query "a"], rfl, by decide, by decide⟩

end MusicQuery.AnswerCache
