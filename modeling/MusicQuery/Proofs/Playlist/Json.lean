import MusicQuery.Playlist.Json
import MusicQuery.Proofs.Rule.Kept
import MusicQuery.Proofs.Uuid

namespace MusicQuery

lemma Uuid.ofJson?_kept (id : Uuid) : Uuid.ofJson? id.toJson.kept = some id := by
  have hkept : id.toJson.kept = id.toJson := rfl
  rw [hkept, Uuid.ofJson?, Uuid.toJson]
  simp [Json.toString?, Uuid.read?_render]

lemma Sorting.optional_kept (sorting : Option Sorting) :
    Json.optional Sorting.ofJson? (some (Json.orNull toJson sorting).kept) = some sorting := by
  cases sorting with
  | none => rfl
  | some s =>
    obtain ⟨field, ascending⟩ := s
    cases field <;> rfl

lemma Json.optional_limit (limit : Option UInt64) :
    optional toUInt64? (some (orNull (fun n => .int n.toNat) limit).kept) = some limit := by
  cases limit with
  | none => rfl
  | some n =>
    have hlt := n.toNat_lt
    have hin : (0 : Int) ≤ n.toNat ∧ (n.toNat : Int) ≤ 0xffffffffffffffff := by omega
    simp [orNull, kept, optional, toUInt64?, toIntIn?, hin]

namespace Playlist

def slots (p : Playlist) : List (String × Option Json) := [
  ("id", some p.id.toJson), ("name", some (.str p.name)), ("rootRule", some p.query.rule.toJson),
  ("sorting", some (.orNull Sorting.toJson p.query.sorting)),
  ("limit", some (.orNull (fun n => .int n.toNat) p.query.limit))]

lemma toJson_eq (p : Playlist) : p.toJson = .obj (Json.present p.slots) := rfl

lemma legible_toJson {p : Playlist}
    (h : ∀ x ∈ p.query.rule.numbers, x.isFinite = true → (Json.float x).Legible) : p.toJson.kept.Legible := by
  have hrule := Rule.legible_toJson p.query.rule h
  have hsorting : (Json.orNull Sorting.toJson p.query.sorting).kept.Legible := by
    cases p.query.sorting <;> simp [Json.orNull, Sorting.toJson, Json.kept, Json.keptMembers, Json.Legible,
      Json.LegibleMembers]
  have hlimit : (Json.orNull (fun n : UInt64 => .int n.toNat) p.query.limit).kept.Legible := by
    cases p.query.limit with
    | none => trivial
    | some n =>
      have hlt := n.toNat_lt
      simp only [Json.orNull, Json.kept, Json.Legible]
      omega
  rw [toJson_eq]
  apply Json.legible_kept
  simp [slots, Uuid.toJson, Rule.legible_str, hrule, hsorting, hlimit]

lemma ofJson?_kept {p : Playlist} (h : p.toJson.depth ≤ Json.depthLimit) (hdates : p.query.rule.HasReadableDates) :
    ofJson? p.toJson.kept =
      p.query.rule.kept?.map fun rule => { p with query := { p.query with rule := rule } } := by
  have hrecord : p.toJson.kept.record ["id", "name", "rootRule", "sorting", "limit"] =
      some (p.slots.map fun s => s.2.map Json.kept) := by
    rw [toJson_eq]
    exact Json.record_kept (by simp [slots])
  have hdepth : p.query.rule.toJson.depth < Json.depthLimit := by
    simp only [toJson, Json.depth, Json.depthMembers] at h
    omega
  have hrule : ruleOfJson? p.query.rule.toJson.kept = p.query.rule.kept? := by
    rw [ruleOfJson?, Json.isReadable_kept, Json.depth_kept, Rule.ofJson?_kept hdates]
    simp [hdepth]
  have hname : (Json.str p.name).kept.toString? = some p.name := rfl
  rw [ofJson?, hrecord]
  simp only [slots, List.map_cons, List.map_nil, Option.map_some, Json.required, Uuid.ofJson?_kept, hname, hrule,
    Sorting.optional_kept, Json.optional_limit, Option.bind_eq_bind, Option.bind_some]
  cases p.query.rule.kept? <;> rfl

variable {p : Playlist}

lemma ofText_eq (hdepth : p.toJson.depth ≤ Json.depthLimit) (hdates : p.query.rule.HasReadableDates)
    (hnumbers : ∀ x ∈ p.query.rule.numbers, x.isFinite = true →
      (Json.read? (Json.renderFloat x)).bind Json.toNumber? = some x) :
    ofText p.toText = match p.query.rule.kept? with
      | none => .error .unreadable
      | some rule => match rule.validate with
        | .ok () => .ok { p with query := { p.query with rule := rule } }
        | .error fault => .error (.senseless fault) := by
  have hlegible := legible_toJson fun x hx hfinite => Json.legible_float hfinite (hnumbers x hx hfinite)
  have hscan : Json.scan? p.toText.toList = some p.toJson.kept := by
    rw [toText, Json.toText, String.toList_ofList, ← Json.render_kept, Json.scan?_render hlegible]
  rw [ofText, hscan, Option.bind_some, ofJson?_kept hdepth hdates]
  cases p.query.rule.kept? with
  | none => rfl
  | some rule => cases hv : rule.validate <;> simp [hv] <;> rfl

/-- A playlist of which the text nests no deeper than texts may, whose finite numbers are read back from their texts,
and whose dates could have been read from a text, is itself read back. Where a number is infinite or NaN, the text is refused, or it gives a playlist that
differs in nothing but the rule, and that rule holds of the same tracks at all times. -/
theorem ofText_toText (p : Playlist) (hvalid : p.query.rule.validate = .ok ())
    (hdepth : p.toJson.depth ≤ Json.depthLimit) (hdates : p.query.rule.HasReadableDates)
    (hnumbers : ∀ x ∈ p.query.rule.numbers, x.isFinite = true →
      (Json.read? (Json.renderFloat x)).bind Json.toNumber? = some x) :
    ((∀ x ∈ p.query.rule.numbers, x.isFinite = true) → ofText p.toText = .ok p) ∧
      (ofText p.toText = .error .unreadable ∨
        (∃ fault, ofText p.toText = .error (.senseless fault) ∧ fault.kind = "MissingOperand") ∨
        ∃ q, ofText p.toText = .ok q ∧ q.id = p.id ∧ q.name = p.name ∧ q.query.sorting = p.query.sorting ∧
          q.query.limit = p.query.limit ∧ ∀ now t, q.query.rule.holds now t = p.query.rule.holds now t) := by
  rw [ofText_eq hdepth hdates hnumbers]
  constructor
  · intro hfinite
    rw [Rule.kept?_of_finite p.query.rule (Rule.hasNonFiniteNumbers_eq_false hfinite)]
    simp [hvalid]
  · cases hkept : p.query.rule.kept? with
    | none => exact Or.inl rfl
    | some rule =>
      right
      rcases Rule.kept?_succeeds p.query.rule rule hvalid hkept with ⟨fault, herror, hkind⟩ | ⟨hok, hsame⟩
      · left
        refine ⟨fault, ?_, hkind⟩
        simp [herror]
      · right
        refine ⟨{ p with query := { p.query with rule := rule } }, ?_, rfl, rfl, rfl, rfl, hsame⟩
        simp [hok]

theorem ofText_toText_recent :
    let half : Binary64 := ⟨0x3fe0000000000000⟩
    let leap : Instant := ⟨59, 1500000000, by decide, by decide, by decide⟩
    let p : Playlist := ⟨default, "\"recent\"\n", .group .or [
      .number { field := .rating, operator := .between, value := half, secondValue := some half },
      .plays {
        field := .lastPlayed, operator := .between, date := some (.at leap), secondDate := some (.ago 2 .weeks),
        negated := true }],
      some ⟨.rating, false⟩, some 10⟩
    p.query.rule.validate = .ok () ∧ p.toJson.depth ≤ Json.depthLimit ∧ p.query.rule.HasReadableDates ∧
      half ∈ p.query.rule.numbers ∧ (Json.read? (Json.renderFloat half)).bind Json.toNumber? = some half ∧
      ofText p.toText = .ok p := by
  intro half leap p
  have hread : (Json.read? (Json.renderFloat half)).bind Json.toNumber? = some half := by decide +kernel
  have hnumbers : ∀ x ∈ p.query.rule.numbers, x = half := by simp [p, Rule.numbers, Rule.allNumbers]
  have hleap : leap.IsReadable := Instant.isReadable_iff.mpr (by decide)
  have hdates : p.query.rule.HasReadableDates := by
    simp [p, Rule.HasReadableDates, Rule.moments, Rule.allMoments, Moment.IsReadable, hleap]
  refine ⟨rfl, by decide +kernel, hdates, by decide +kernel, hread, ?_⟩
  have htext := ofText_toText p rfl (by decide +kernel) hdates fun x hx _ => by rw [hnumbers x hx, hread]
  refine htext.1 fun x hx => ?_
  rw [hnumbers x hx]
  rfl

end Playlist

end MusicQuery
