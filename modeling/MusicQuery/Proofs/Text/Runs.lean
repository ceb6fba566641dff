import MusicQuery.Proofs.Text.Words

namespace MusicQuery.Text

/-- A stretch of a text, from one place up to another, in which no blank stands. -/
structure IsFree (text : List Char) (start stop : Nat) : Prop where
  start_lt : start < stop
  stop_le : stop ≤ text.length
  free : ∀ i, start ≤ i → i < stop → ∀ c ∈ text[i]?, isBlank c = false

structure IsLongestFree (text : List Char) (start stop : Nat) : Prop extends IsFree text start stop where
  longest : ∀ start' stop', start' ≤ start → stop ≤ stop' → IsFree text start' stop' → start' = start ∧ stop' = stop

/-- A stretch without blanks between two blanks or ends of a text; there may be nothing in it. -/
structure IsRun (text : List Char) (start stop : Nat) : Prop where
  start_le : start ≤ stop
  stop_le : stop ≤ text.length
  free : ∀ i, start ≤ i → i < stop → ∀ c ∈ text[i]?, isBlank c = false
  before : ∀ i, i + 1 = start → ∀ c ∈ text[i]?, isBlank c = true
  after : ∀ c ∈ text[stop]?, isBlank c = true

section Longest

variable {text : List Char} {start stop : Nat} {c : Char}

lemma IsFree.extend_front (h : IsFree text (start + 1) stop) (hc : text[start]? = some c)
    (hfree : isBlank c = false) : IsFree text start stop := by
  refine ⟨Nat.lt_of_succ_lt h.start_lt, h.stop_le, fun i hstart hi d hd => ?_⟩
  rcases Nat.eq_or_lt_of_le hstart with rfl | hlt
  · exact Option.mem_unique hc hd ▸ hfree
  · exact h.free i hlt hi d hd

lemma IsFree.extend_back (h : IsFree text start stop) (hc : text[stop]? = some c) (hfree : isBlank c = false) :
    IsFree text start (stop + 1) := by
  have hlt : stop < text.length := (List.getElem?_eq_some_iff.mp hc).1
  refine ⟨Nat.lt_succ_of_lt h.start_lt, hlt, fun i hstart hi d hd => ?_⟩
  rcases Nat.lt_succ_iff_lt_or_eq.mp hi with hi | rfl
  · exact h.free i hstart hi d hd
  · exact Option.mem_unique hc hd ▸ hfree

lemma IsFree.not_blank (h : IsFree text start stop) {i : Nat} (hstart : start ≤ i) (hi : i < stop) :
    ¬ ∀ c ∈ text[i]?, isBlank c = true := by
  intro hblank
  have hlt : i < text.length := hi.trans_le h.stop_le
  have hmem : text[i] ∈ text[i]? := List.getElem?_eq_getElem hlt
  exact Bool.false_ne_true ((h.free i hstart hi _ hmem).symm.trans (hblank _ hmem))

-- With a character at one of its ends that is no blank the stretch would be longer.
lemma IsLongestFree.isRun (h : IsLongestFree text start stop) : IsRun text start stop := by
  refine ⟨h.start_lt.le, h.stop_le, h.free, fun i hi c hc => ?_, fun c hc => ?_⟩
  · subst hi
    by_contra hblank
    have hfree := h.toIsFree.extend_front hc (eq_false_of_ne_true hblank)
    have hsame := (h.longest i stop (Nat.le_succ i) (Nat.le_refl _) hfree).1
    exact Nat.ne_of_lt (Nat.lt_succ_self i) hsame
  · by_contra hblank
    have hfree := h.toIsFree.extend_back hc (eq_false_of_ne_true hblank)
    have hsame := (h.longest start (stop + 1) (Nat.le_refl _) (Nat.le_succ stop) hfree).2
    exact Nat.succ_ne_self stop hsame

lemma IsRun.isLongestFree (h : IsRun text start stop) (hlt : start < stop) : IsLongestFree text start stop := by
  refine ⟨⟨hlt, h.stop_le, h.free⟩, fun start' stop' hstart hstop hfree => ⟨?_, ?_⟩⟩
  · by_contra hne
    exact hfree.not_blank (by omega) (by omega) (h.before (start - 1) (by omega))
  · by_contra hne
    exact hfree.not_blank (by omega) (by omega) h.after

lemma isLongestFree_iff : IsLongestFree text start stop ↔ IsRun text start stop ∧ start < stop :=
  ⟨fun h => ⟨h.isRun, h.start_lt⟩, fun ⟨h, hlt⟩ => h.isLongestFree hlt⟩

end Longest

section Cons

variable {c : Char} {cs : List Char} {start stop : Nat}

lemma isRun_nil : IsRun [] start stop ↔ start = 0 ∧ stop = 0 := by
  constructor
  · intro h
    have hstop : stop ≤ 0 := h.stop_le
    have hstart := h.start_le
    omega
  · rintro ⟨rfl, rfl⟩
    exact ⟨Nat.le_refl _, Nat.le_refl _, by simp, by simp, by simp⟩

lemma isRun_cons_zero : IsRun (c :: cs) 0 0 ↔ isBlank c = true := by
  constructor
  · exact fun h => h.after c rfl
  · intro h
    exact ⟨Nat.le_refl _, Nat.zero_le _, by omega, by omega, by simpa using h⟩

lemma isRun_cons_start : IsRun (c :: cs) 0 (stop + 1) ↔ isBlank c = false ∧ IsRun cs 0 stop := by
  constructor
  · intro h
    refine ⟨h.free 0 (Nat.le_refl _) (Nat.succ_pos _) c rfl, Nat.zero_le _, Nat.le_of_succ_le_succ h.stop_le,
      fun i _ hi => ?_, by omega, h.after⟩
    exact h.free (i + 1) (Nat.zero_le _) (by omega)
  · rintro ⟨hc, h⟩
    refine ⟨Nat.zero_le _, Nat.succ_le_succ h.stop_le, fun i _ hi => ?_, by omega, h.after⟩
    cases i with
    | zero => simpa using hc
    | succ i => exact h.free i (Nat.zero_le _) (by omega)

lemma isRun_cons_succ :
    IsRun (c :: cs) (start + 1) (stop + 1) ↔ IsRun cs start stop ∧ (start = 0 → isBlank c = true) := by
  constructor
  · intro h
    refine ⟨⟨Nat.le_of_succ_le_succ h.start_le, Nat.le_of_succ_le_succ h.stop_le, fun i hstart hi => ?_,
      fun i hi => ?_, h.after⟩, ?_⟩
    · exact h.free (i + 1) (by omega) (by omega)
    · exact h.before (i + 1) (by omega)
    · rintro rfl
      exact h.before 0 rfl c rfl
  · rintro ⟨h, hc⟩
    refine ⟨Nat.succ_le_succ h.start_le, Nat.succ_le_succ h.stop_le, fun i hstart hi => ?_, fun i hi => ?_, h.after⟩
    · cases i with
      | zero => omega
      | succ i => exact h.free i (by omega) (by omega)
    · cases i with
      | zero => simpa using hc (by omega)
      | succ i => exact h.before i (by omega)

end Cons

def runPlaces : List Char → List (Nat × Nat)
  | [] => [(0, 0)]
  | c :: cs =>
    let later := (runPlaces cs).map fun p => (p.1 + 1, p.2 + 1)
    if isBlank c then (0, 0) :: later
    else match later with
      | [] => []
      | p :: ps => (0, p.2) :: ps

section Places

variable {c : Char} {cs : List Char} {start stop : Nat}

lemma mem_later_iff {ps : List (Nat × Nat)} {p : Nat × Nat} :
    p ∈ ps.map (fun p => (p.1 + 1, p.2 + 1)) ↔ ∃ start stop, (start, stop) ∈ ps ∧ p = (start + 1, stop + 1) := by
  rw [List.mem_map]
  constructor
  · rintro ⟨⟨start, stop⟩, hmem, rfl⟩
    exact ⟨start, stop, hmem, rfl⟩
  · rintro ⟨start, stop, hmem, rfl⟩
    exact ⟨(start, stop), hmem, rfl⟩

lemma runPlaces_of_blank (hc : isBlank c = true) :
    runPlaces (c :: cs) = (0, 0) :: (runPlaces cs).map fun p => (p.1 + 1, p.2 + 1) := by
  rw [runPlaces]
  exact if_pos hc

lemma runPlaces_of_free (hc : isBlank c = false) {first : Nat} {ps : List (Nat × Nat)}
    (hcs : runPlaces cs = (first, stop) :: ps) :
    runPlaces (c :: cs) = (0, stop + 1) :: ps.map fun p => (p.1 + 1, p.2 + 1) := by
  rw [runPlaces, hcs]
  simp [hc]

lemma runPlaces_eq_cons (text : List Char) : ∃ stop ps, runPlaces text = (0, stop) :: ps := by
  induction text with
  | nil => exact ⟨0, [], rfl⟩
  | cons c cs ih =>
    obtain ⟨stop, ps, hcs⟩ := ih
    cases hc : isBlank c with
    | true => exact ⟨0, _, runPlaces_of_blank hc⟩
    | false => exact ⟨stop + 1, _, runPlaces_of_free hc hcs⟩

lemma pairwise_runPlaces (text : List Char) : (runPlaces text).Pairwise fun p q => p.2 < q.1 := by
  have hlater {ps : List (Nat × Nat)} (h : ps.Pairwise fun p q => p.2 < q.1) :
      (ps.map fun p => (p.1 + 1, p.2 + 1)).Pairwise fun p q => p.2 < q.1 :=
    List.pairwise_map.mpr (h.imp Nat.succ_lt_succ)
  induction text with
  | nil => exact List.pairwise_singleton _ _
  | cons c cs ih =>
    cases hc : isBlank c with
    | true =>
      rw [runPlaces_of_blank hc]
      refine List.pairwise_cons.mpr ⟨fun q hq => ?_, hlater ih⟩
      obtain ⟨start, stop, -, rfl⟩ := mem_later_iff.mp hq
      exact Nat.succ_pos start
    | false =>
      obtain ⟨stop, ps, hcs⟩ := runPlaces_eq_cons cs
      rw [hcs] at ih
      obtain ⟨hfirst, hps⟩ := List.pairwise_cons.mp ih
      rw [runPlaces_of_free hc hcs]
      refine List.pairwise_cons.mpr ⟨fun q hq => ?_, hlater hps⟩
      obtain ⟨start, stop', hmem, rfl⟩ := mem_later_iff.mp hq
      exact Nat.succ_lt_succ (hfirst _ hmem)

lemma mem_runPlaces_iff {text : List Char} : (start, stop) ∈ runPlaces text ↔ IsRun text start stop := by
  induction text generalizing start stop with
  | nil => rw [isRun_nil, runPlaces, List.mem_singleton, Prod.mk.injEq]
  | cons c cs ih =>
    cases hc : isBlank c with
    | true =>
      rw [runPlaces_of_blank hc, List.mem_cons, mem_later_iff]
      cases start with
      | zero =>
        cases stop with
        | zero => simp [isRun_cons_zero, hc]
        | succ stop => simp [isRun_cons_start, hc]
      | succ start =>
        cases stop with
        | zero => exact iff_of_false (by simp) fun h => absurd h.start_le (by omega)
        | succ stop => simp [isRun_cons_succ, hc, ih]
    | false =>
      obtain ⟨first, ps, hcs⟩ := runPlaces_eq_cons cs
      have hlater := (List.pairwise_cons.mp (hcs ▸ pairwise_runPlaces cs)).1
      have hmem {start stop : Nat} : IsRun cs start stop ↔ (start = 0 ∧ stop = first) ∨ (start, stop) ∈ ps := by
        rw [← ih, hcs, List.mem_cons, Prod.mk.injEq]
      have hpos {start stop : Nat} (h : (start, stop) ∈ ps) : start ≠ 0 := Nat.ne_zero_of_lt (hlater _ h)
      rw [runPlaces_of_free hc hcs, List.mem_cons, mem_later_iff]
      cases start with
      | zero =>
        cases stop with
        | zero => simp [isRun_cons_zero, hc]
        | succ stop =>
          have hnot : (0, stop) ∉ ps := fun h => hpos h rfl
          simp [isRun_cons_start, hc, hmem, hnot]
      | succ start =>
        cases stop with
        | zero => exact iff_of_false (by simp) fun h => absurd h.start_le (by omega)
        | succ stop =>
          simp only [isRun_cons_succ, hc, hmem, Prod.mk.injEq, Nat.add_right_cancel_iff, Bool.false_eq_true]
          constructor
          · rintro (⟨hstart, -⟩ | ⟨start', stop', hps, rfl, rfl⟩)
            · omega
            · exact ⟨Or.inr hps, hpos hps⟩
          · rintro ⟨⟨hstart, -⟩ | hps, hne⟩
            · exact (hne hstart).elim
            · exact Or.inr ⟨start, stop, hps, rfl, rfl⟩

lemma runs_eq_map (text : List Char) : runs text = (runPlaces text).map fun p => text.extract p.1 p.2 := by
  have hlater (c : Char) (cs : List Char) (ps : List (Nat × Nat)) :
      (ps.map fun p => (p.1 + 1, p.2 + 1)).map (fun p => (c :: cs).extract p.1 p.2) =
        ps.map fun p => cs.extract p.1 p.2 := by
    simp
  induction text with
  | nil => rfl
  | cons c cs ih =>
    cases hc : isBlank c with
    | true =>
      rw [runs, if_pos hc, ih, runPlaces_of_blank hc, List.map_cons, hlater]
      rfl
    | false =>
      obtain ⟨stop, ps, hcs⟩ := runPlaces_eq_cons cs
      rw [hcs] at ih
      rw [runs, if_neg (by simp [hc]), ih, runPlaces_of_free hc hcs, List.map_cons, List.map_cons, hlater]
      rfl

lemma words_eq_map (text : List Char) :
    words text = ((runPlaces text).filter fun p => p.1 < p.2).map fun p => text.extract p.1 p.2 := by
  rw [words, runs_eq_map, List.filter_map]
  refine congrArg (List.map _) (List.filter_congr fun p hp => ?_)
  have hstop := (mem_runPlaces_iff.mp hp).stop_le
  have hlength : (text.extract p.1 p.2).length = p.2 - p.1 := by
    rw [List.extract_eq_take_drop, List.length_take, List.length_drop]
    omega
  rw [Function.comp_apply, Bool.eq_iff_iff, Bool.not_eq_true', List.isEmpty_eq_false_iff, ← List.length_pos_iff, hlength,
    decide_eq_true_eq]
  omega

lemma isSingleWord_iff {text : List Char} : isSingleWord text = true ↔ ∀ c ∈ text, isBlank c = false := by
  simp [isSingleWord]

lemma IsRun.isSingleWord {text : List Char} (h : IsRun text start stop) :
    isSingleWord (text.extract start stop) = true := by
  refine isSingleWord_iff.mpr fun c hc => ?_
  obtain ⟨i, hi⟩ := List.mem_iff_getElem?.mp hc
  rw [List.extract_eq_take_drop, List.getElem?_take, List.getElem?_drop] at hi
  split at hi
  · next hlt => exact h.free (start + i) (by omega) (by omega) c hi
  · cases hi

lemma ne_nil_of_mem_words {text word : List Char} (h : word ∈ words text) : word ≠ [] := by
  rintro rfl
  cases (List.mem_filter.mp h).2

end Places

/-- A needle without blanks lies inside a text exactly if it lies inside a word of it, and the words of a text are its
longest stretches without a blank, each once and in the order of the text. -/
theorem words_longest (text : List Char) :
    (∀ needle : List Char, needle ≠ [] → (∀ c ∈ needle, isBlank c = false) →
      isSingleWord needle = true ∧
        (occursIn needle text = true ↔ ∃ word ∈ words text, occursIn needle word = true)) ∧
    (∀ word ∈ words text, word ≠ [] ∧ isSingleWord word = true) ∧
    ∃ places : List (Nat × Nat), places.Pairwise (fun p q => p.2 < q.1) ∧
      (∀ start stop, (start, stop) ∈ places ↔ IsLongestFree text start stop) ∧
      words text = places.map fun p => text.extract p.1 p.2 := by
  refine ⟨fun needle hne hblanks => ?_, fun word hword => ⟨ne_nil_of_mem_words hword, ?_⟩,
    (runPlaces text).filter fun p => p.1 < p.2, (pairwise_runPlaces text).filter _, fun start stop => ?_,
    words_eq_map text⟩
  · have hsingle := isSingleWord_iff.mpr hblanks
    refine ⟨hsingle, ?_⟩
    simp only [occursIn_iff]
    exact (infix_words hne hsingle text).symm
  · rw [words_eq_map] at hword
    obtain ⟨p, hp, rfl⟩ := List.mem_map.mp hword
    exact (mem_runPlaces_iff.mp (List.mem_of_mem_filter hp)).isSingleWord
  · rw [List.mem_filter, mem_runPlaces_iff, decide_eq_true_eq, isLongestFree_iff]

theorem words_longest_of_mixed_blanks :
    let text := ['\t', 'a', 'b', '\u3000', ' ', 'b', 'c', 'd', '\n']
    let needle := ['b', 'c']
    needle ≠ [] ∧ (∀ c ∈ needle, isBlank c = false) ∧ words text = [['a', 'b'], ['b', 'c', 'd']] ∧
      ∃ word ∈ words text, occursIn needle word = true := by
  intro text needle
  have hne : needle ≠ [] := by decide
  have hblanks : ∀ c ∈ needle, isBlank c = false := isSingleWord_iff.mp (by decide)
  obtain ⟨-, hfound⟩ := (words_longest text).1 needle hne hblanks
  exact ⟨hne, hblanks, by decide +kernel, hfound.mp (by decide +kernel)⟩

end MusicQuery.Text
