import MusicQuery.Proofs.Library.Selection

namespace MusicQuery

def ValueRange.kind : ValueRange → FieldKind
  | .numbers _ => .number
  | .dates _ => .date

lemma Library.seekRange_eq_none {f : Field} {range : ValueRange} (h : range.kind ≠ f.kind) (l : Library) :
    l.seekRange f range = none := by
  cases range with
  | numbers bounds => cases f <;> first | rfl | exact absurd rfl h
  | dates bounds => cases f <;> first | rfl | exact absurd rfl h

namespace Rule

variable {ranges : Bool} {now : Instant} {rule : Rule} {f : Field}

lemma plan_contains {query : String} (h : rule.plan ranges now = .textSeek f query .contains) (t : Track) :
    rule.holds now t = true ↔ ∃ text, t.text f = some text ∧
      InvertedIndex.normalize query <:+: InvertedIndex.normalize text := by
  rw [plan_textSeek h, Option.any_eq_true]
  simp only [TextMatch.admits, Text.occursIn_iff]

lemma plan_startsWith {query : String} (h : rule.plan ranges now = .textSeek f query .startsWith) (t : Track) :
    rule.holds now t = true ↔ ∃ text, t.text f = some text ∧
      InvertedIndex.normalize query <+: InvertedIndex.normalize text := by
  rw [plan_textSeek h, Option.any_eq_true]
  simp only [TextMatch.admits, List.isPrefixOf_iff_prefix]

lemma plan_numbers {bounds : Bounds Binary64} (h : rule.plan ranges now = .valueRange f (.numbers bounds)) (t : Track) :
    rule.holds now t = true ↔ ∃ x, t.number f = some x ∧ bounds.admits Binary64.le Binary64.lt x = true := by
  rw [range?_holds (plan_valueRange h), ValueRange.admits, Option.any_eq_true]

lemma plan_dates {bounds : Bounds Instant} (h : rule.plan ranges now = .valueRange f (.dates bounds)) (t : Track) :
    rule.holds now t = true ↔ ∃ i, t.date f = some i ∧ bounds.admits (· ≤ ·) (· < ·) i = true := by
  rw [range?_holds (plan_valueRange h), ValueRange.admits, Option.any_eq_true]

lemma plan_nan {bounds : Bounds Binary64} (h : rule.plan ranges now = .valueRange f (.numbers bounds))
    {b : Bound Binary64} (hb : b ∈ bounds.lower ∨ b ∈ bounds.upper) (hn : b.value.isNaN = true) (t : Track) :
    rule.holds now t = false := by
  rw [Bool.eq_false_iff]
  intro hholds
  obtain ⟨x, -, hx⟩ := (plan_numbers h t).mp hholds
  rw [SortedIndex.not_admits_nan hb hn] at hx
  cases hx

lemma select_of_crossed_kinds {settings : Settings} {range : ValueRange}
    (h : rule.plan settings.valueIndexRanges now = .valueRange f range) (hkind : range.kind ≠ f.kind) (l : Library) :
    l.select settings now rule = l.scan settings (rule.holds now) := by
  rw [Library.select, h, Library.seek, Library.seekRange_eq_none hkind]

/-- A text seek stands for a rule that holds exactly where its field has a text that contains the query, or starts with
it, without regard to case. A range stands for a rule that holds exactly where its field has a value within the bounds,
which is nowhere if one of them is NaN; where the index of the field holds values of another kind, the tracks are
scanned. -/
theorem plan_exact (settings : Settings) (now : Instant) (rule : Rule) :
    (∀ f query, rule.plan settings.valueIndexRanges now = .textSeek f query .contains → ∀ t : Track,
      rule.holds now t = true ↔ ∃ text, t.text f = some text ∧
        InvertedIndex.normalize query <:+: InvertedIndex.normalize text) ∧
    (∀ f query, rule.plan settings.valueIndexRanges now = .textSeek f query .startsWith → ∀ t : Track,
      rule.holds now t = true ↔ ∃ text, t.text f = some text ∧
        InvertedIndex.normalize query <+: InvertedIndex.normalize text) ∧
    (∀ f bounds, rule.plan settings.valueIndexRanges now = .valueRange f (.numbers bounds) →
      (∀ t : Track, rule.holds now t = true ↔
        ∃ x, t.number f = some x ∧ bounds.admits Binary64.le Binary64.lt x = true) ∧
      ∀ b, b ∈ bounds.lower ∨ b ∈ bounds.upper → b.value.isNaN = true → ∀ t : Track, rule.holds now t = false) ∧
    (∀ f bounds, rule.plan settings.valueIndexRanges now = .valueRange f (.dates bounds) → ∀ t : Track,
      rule.holds now t = true ↔ ∃ i, t.date f = some i ∧ bounds.admits (· ≤ ·) (· < ·) i = true) ∧
    ∀ f range, rule.plan settings.valueIndexRanges now = .valueRange f range → range.kind ≠ f.kind → ∀ l : Library,
      l.select settings now rule = l.scan settings (rule.holds now) :=
  ⟨fun _ _ h => plan_contains h, fun _ _ h => plan_startsWith h,
    fun _ _ h => ⟨plan_numbers h, fun _ hb hn => plan_nan h hb hn⟩, fun _ _ h => plan_dates h,
    fun _ _ h hkind => select_of_crossed_kinds h hkind⟩

/-- A rule for numbers may name a field of dates; the least number with NaN is the other one, so that `between` with NaN
has no NaN among its bounds, while a comparison with NaN has. -/
theorem plan_exact_of_crossed_kinds_and_nan :
    let settings : Settings := { valueIndexRanges := true }
    let now : Instant := ⟨0, 0, by decide, by decide, by decide⟩
    let artist : Rule := .text { field := .artist, operator := .startsWith, value := "QU" }
    let played : Rule := .number { field := .lastPlayed, operator := .lessThan, value := .zero }
    let still : Rule := .number { field := .bpm, operator := .between, value := .nan, secondValue := some .negativeZero }
    let lost : Rule := .number { field := .bpm, operator := .greaterThanOrEqual, value := .nan }
    let recent : Rule := .file { field := .dateAdded, operator := .greaterThan, date := some (.ago 1 .days) }
    artist.plan true now = .textSeek .artist "QU" .startsWith ∧
      artist.holds now { id := 1, artist := some "Queen" } = true ∧
      played.plan true now = .valueRange .lastPlayed (.numbers ⟨none, some ⟨.zero, false⟩⟩) ∧
      ValueRange.kind (.numbers ⟨none, some ⟨.zero, false⟩⟩) ≠ Field.kind .lastPlayed ∧
      (∀ l : Library, l.select settings now played = l.scan settings (played.holds now)) ∧
      still.holds now { id := 1, bpm := some .zero } = true ∧
      (∀ t : Track, lost.holds now t = false) ∧
      recent.holds now { id := 1, dateAdded := some now } = true := by
  intro settings now artist played still lost recent
  have hkind : ValueRange.kind (.numbers ⟨none, some ⟨.zero, false⟩⟩) ≠ Field.kind .lastPlayed := by decide
  refine ⟨rfl, ?_, rfl, hkind, (plan_exact settings now played).2.2.2.2 _ _ rfl hkind, ?_, ?_, ?_⟩
  · exact ((plan_exact settings now artist).2.1 .artist "QU" rfl _).mpr ⟨"Queen", rfl, by decide⟩
  · exact (((plan_exact settings now still).2.2.1 .bpm
      ⟨some ⟨.negativeZero, true⟩, some ⟨.negativeZero, true⟩⟩ rfl).1 _).mpr ⟨.zero, rfl, by decide⟩
  · exact ((plan_exact settings now lost).2.2.1 .bpm ⟨some ⟨.nan, true⟩, none⟩ rfl).2 ⟨.nan, true⟩ (Or.inl rfl) rfl
  · exact ((plan_exact settings now recent).2.2.2.1 .dateAdded _ rfl _).mpr ⟨now, rfl, by decide⟩

end Rule

end MusicQuery
