import MusicQuery.Proofs.Instant.Text
import MusicQuery.Proofs.Json.Record
import MusicQuery.Rule.Json

namespace MusicQuery

open Json (present)

section Values

lemma Field.ofJson?_toJson (tagged : Bool) (f : Field) : Field.ofJson? tagged f.toJson = some f := by
  cases f <;> rfl

lemma Operator.ofJson?_toJson (tagged : Bool) (op : Operator) : Operator.ofJson? tagged op.toJson = some op := by
  cases op <;> rfl

lemma TimeUnit.ofJson?_name (tagged : Bool) (unit : TimeUnit) :
    TimeUnit.ofJson? tagged (.str unit.name) = some unit := by
  cases unit <;> rfl

lemma Junction.ofJson?_name (tagged : Bool) (j : Junction) : Junction.ofJson? tagged (.str j.name) = some j := by
  cases j <;> rfl

lemma Instant.ofJson?_toJson {i : Instant} (h : i.IsReadable) : Instant.ofJson? i.toJson = some i := by
  simp [Instant.ofJson?, Instant.toJson, Json.toString?, Instant.read?_render (Instant.isReadable_iff.mp h)]

lemma Json.toUInt32?_toNat (n : UInt32) : (Json.int n.toNat).toUInt32? = some n := by
  have hlt := n.toNat_lt
  have hin : (0 : Int) ≤ n.toNat ∧ (n.toNat : Int) ≤ 0xffffffff := by omega
  simp only [toUInt32?, toIntIn?, if_pos hin]
  simp

def Moment.IsReadable (m : Moment) : Prop := ∀ i, m = .at i → i.IsReadable

lemma Moment.ofJson?_toJson (nested : Bool) {m : Moment} (h : m.IsReadable) :
    Moment.ofJson? nested m.toJson = some m := by
  cases m with
  | «at» i =>
    have htag : (Moment.at i).toJson.tag? "kind" Form.all Form.name nested = some .absolute := rfl
    have hrecord : (Moment.at i).toJson.record ["kind", "date"] = some [some (.str "absolute"), some i.toJson] := rfl
    rw [ofJson?, htag, Option.bind_eq_bind, Option.bind_some, hrecord]
    simp [Json.required, Instant.ofJson?_toJson (h i rfl)]
  | ago amount unit =>
    have htag : (ago amount unit).toJson.tag? "kind" Form.all Form.name nested = some .relative := rfl
    have hrecord : (ago amount unit).toJson.record ["kind", "amount", "unit"] =
        some [some (.str "relative"), some (.int amount.toNat), some (.str unit.name)] := rfl
    rw [ofJson?, htag, Option.bind_eq_bind, Option.bind_some, hrecord]
    simp [Json.required, Json.toUInt32?_toNat, TimeUnit.ofJson?_name]

lemma Moment.kept_toJson (m : Moment) : m.toJson.kept = m.toJson := by
  cases m <;> rfl

lemma Json.optional_some {α : Type} (read : Json → Option α) {j : Json} (h : j ≠ .null) :
    optional read (some j) = (read j).map some := by
  rw [optional]
  rintro rfl
  exact h rfl

lemma Moment.optional_kept {m : Option Moment} (h : ∀ x ∈ m, x.IsReadable) :
    Json.optional (Moment.ofJson? true) (m.map (Json.kept ∘ toJson)) = some m := by
  cases m with
  | none => rfl
  | some m =>
    have hrecord : m.toJson ≠ .null := by cases m <;> nofun
    rw [Option.map_some, Function.comp_apply, kept_toJson, Json.optional_some _ hrecord,
      ofJson?_toJson _ (h m rfl)]
    rfl

lemma Json.optional_strings (formats : Option (List String)) :
    optional (toItems? toString?) (formats.map (kept ∘ fun formats => arr (formats.map str))) = some formats := by
  cases formats with
  | none => rfl
  | some formats =>
    have hkept : keptItems (formats.map str) = formats.map str := by
      rw [keptItems_eq_map, List.map_map]
      rfl
    have hread : (formats.map str).mapM toString? = some formats := by
      induction formats with
      | nil => rfl
      | cons s formats ih => simp_all [toString?, keptItems_eq_map]
    simp [kept, hkept, optional, toItems?, hread]

lemma Json.optional_float (x : Option Binary64) :
    optional toNumber? (x.map (kept ∘ float)) = some (x.filter Binary64.isFinite) := by
  cases x with
  | none => rfl
  | some x => cases h : x.isFinite <;> simp [kept, h, optional, toNumber?, Option.filter_some]

end Values

section Leaves

/-- The members of the JSON of a leaf in their order, also those that are left out. -/
def TextRule.slots (r : TextRule) : List (String × Option Json) := [
  ("type", some (.str "stringMetadata")), ("field", some r.field.toJson), ("operator", some r.operator.toJson),
  ("value", some (.str r.value)), ("caseSensitive", some (.bool r.caseSensitive)), ("negated", some (.bool r.negated))]

def NumberRule.slots (r : NumberRule) : List (String × Option Json) := [
  ("type", some (.str "numericMetadata")), ("field", some r.field.toJson), ("operator", some r.operator.toJson),
  ("value", some (.float r.value)), ("secondValue", r.secondValue.map .float), ("negated", some (.bool r.negated))]

def PlayRule.slots (r : PlayRule) : List (String × Option Json) := [
  ("type", some (.str "playStatistics")), ("field", some r.field.toJson), ("operator", some r.operator.toJson),
  ("numericValue", r.number.map .float), ("secondNumericValue", r.secondNumber.map .float),
  ("dateValue", r.date.map Moment.toJson), ("secondDateValue", r.secondDate.map Moment.toJson),
  ("negated", some (.bool r.negated))]

def FileRule.slots (r : FileRule) : List (String × Option Json) := [
  ("type", some (.str "fileProperty")), ("field", some r.field.toJson), ("operator", some r.operator.toJson),
  ("dateValue", r.date.map Moment.toJson), ("secondDateValue", r.secondDate.map Moment.toJson),
  ("listValue", r.formats.map fun formats => .arr (formats.map .str)), ("negated", some (.bool r.negated))]

/-- What is read back: a number that is not finite is lost where it may be absent, and nothing is read where it may
not. -/
def NumberRule.kept? (r : NumberRule) : Option NumberRule :=
  if r.value.isFinite then some { r with secondValue := r.secondValue.filter Binary64.isFinite } else none

def PlayRule.kept (r : PlayRule) : PlayRule :=
  { r with number := r.number.filter Binary64.isFinite, secondNumber := r.secondNumber.filter Binary64.isFinite }

namespace Rule

mutual

def moments : Rule → List Moment
  | plays r => r.date.toList ++ r.secondDate.toList
  | file r => r.date.toList ++ r.secondDate.toList
  | group _ members => allMoments members
  | _ => []

def allMoments : List Rule → List Moment
  | [] => []
  | r :: rs => r.moments ++ allMoments rs

end

def HasReadableDates (r : Rule) : Prop := ∀ m ∈ r.moments, m.IsReadable

lemma hasReadableDates_of_none {r : Rule} (h : r.moments = []) : r.HasReadableDates := by
  simp [HasReadableDates, h]

lemma toJson_text (r : TextRule) : (text r).toJson = .obj (present r.slots) := rfl

lemma toJson_number (r : NumberRule) : (number r).toJson = .obj (present r.slots) := by
  rw [toJson, Json.member?_eq "secondValue"]
  simp [NumberRule.slots, present, Json.member?]

lemma toJson_plays (r : PlayRule) : (plays r).toJson = .obj (present r.slots) := by
  rw [toJson, Json.member?_eq "numericValue", Json.member?_eq "secondNumericValue", Json.member?_eq "dateValue",
    Json.member?_eq "secondDateValue"]
  simp [PlayRule.slots, present, Json.member?]

lemma toJson_file (r : FileRule) : (file r).toJson = .obj (present r.slots) := by
  rw [toJson, Json.member?_eq "dateValue", Json.member?_eq "secondDateValue", Json.member?_eq "listValue"]
  simp [FileRule.slots, present, Json.member?]

lemma required_field (f : Field) : Json.required (Field.ofJson? true) (some f.toJson.kept) = some f :=
  Field.ofJson?_toJson true f

lemma required_operator (op : Operator) :
    Json.required (Operator.ofJson? true) (some op.toJson.kept) = some op :=
  Operator.ofJson?_toJson true op

lemma required_text (s : String) : Json.required Json.toString? (some (Json.str s).kept) = some s := rfl

lemma flag?_kept (b : Bool) : flag? (some (Json.bool b).kept) = some b := rfl

lemma textOfJson?_kept (r : TextRule) : textOfJson? (text r).toJson.kept = some r := by
  have hrecord : (text r).toJson.kept.record ["type", "field", "operator", "value", "caseSensitive", "negated"] =
      some (r.slots.map fun s => s.2.map Json.kept) := by
    rw [toJson_text]
    exact Json.record_kept (by simp [TextRule.slots])
  rw [textOfJson?, hrecord]
  simp [TextRule.slots, required_field, required_operator, required_text, flag?_kept]

lemma required_float (x : Binary64) :
    Json.required Json.toNumber? (some (Json.float x).kept) = if x.isFinite then some x else none := by
  cases h : x.isFinite <;> simp [Json.kept, h, Json.required, Json.toNumber?]

lemma numberOfJson?_kept (r : NumberRule) : numberOfJson? (number r).toJson.kept = r.kept? := by
  have hrecord : (number r).toJson.kept.record ["type", "field", "operator", "value", "secondValue", "negated"] =
      some (r.slots.map fun s => s.2.map Json.kept) := by
    rw [toJson_number]
    exact Json.record_kept (by simp [NumberRule.slots])
  rw [numberOfJson?, hrecord]
  cases h : r.value.isFinite <;>
    simp [NumberRule.slots, required_field, required_operator, required_float, flag?_kept, NumberRule.kept?, h,
      Json.optional_float]

lemma playsOfJson?_kept {r : PlayRule} (h : (plays r).HasReadableDates) :
    playsOfJson? (plays r).toJson.kept = some r.kept := by
  have hdate := Moment.optional_kept fun m hm => h m (List.mem_append_left _ (Option.mem_toList.mpr hm))
  have hsecond := Moment.optional_kept fun m hm => h m (List.mem_append_right _ (Option.mem_toList.mpr hm))
  have hrecord : (plays r).toJson.kept.record ["type", "field", "operator", "numericValue", "secondNumericValue",
      "dateValue", "secondDateValue", "negated"] = some (r.slots.map fun s => s.2.map Json.kept) := by
    rw [toJson_plays]
    exact Json.record_kept (by simp [PlayRule.slots])
  rw [playsOfJson?, hrecord]
  simp [PlayRule.slots, required_field, required_operator, flag?_kept, PlayRule.kept, Json.optional_float, hdate,
    hsecond]

lemma fileOfJson?_kept {r : FileRule} (h : (file r).HasReadableDates) :
    fileOfJson? (file r).toJson.kept = some r := by
  have hdate := Moment.optional_kept fun m hm => h m (List.mem_append_left _ (Option.mem_toList.mpr hm))
  have hsecond := Moment.optional_kept fun m hm => h m (List.mem_append_right _ (Option.mem_toList.mpr hm))
  have hrecord : (file r).toJson.kept.record ["type", "field", "operator", "dateValue", "secondDateValue",
      "listValue", "negated"] = some (r.slots.map fun s => s.2.map Json.kept) := by
    rw [toJson_file]
    exact Json.record_kept (by simp [FileRule.slots])
  rw [fileOfJson?, hrecord]
  simp [FileRule.slots, required_field, required_operator, flag?_kept, hdate, hsecond, Json.optional_strings]

end Rule

end Leaves

namespace Rule

section Trees

mutual

def kept? : Rule → Option Rule
  | text r => some (text r)
  | number r => r.kept?.map number
  | plays r => some (plays r.kept)
  | file r => some (file r)
  | group junction members => (keptAll? members).map (group junction)

def keptAll? : List Rule → Option (List Rule)
  | [] => some []
  | r :: rs => do some ((← r.kept?) :: (← keptAll? rs))

end

variable {levels : Nat} {nested : Bool}

lemma depth_pos (r : Rule) : 0 < r.toJson.depth := by
  cases r <;> simp [toJson, Json.depth]

lemma tag?_text (r : TextRule) :
    (text r).toJson.kept.tag? "type" Form.all Form.name nested = some .text := by
  rw [toJson_text]
  exact Json.tag?_kept (by simp) List.mem_cons_self

lemma tag?_number (r : NumberRule) :
    (number r).toJson.kept.tag? "type" Form.all Form.name nested = some .number := by
  rw [toJson_number]
  exact Json.tag?_kept (by simp) List.mem_cons_self

lemma tag?_plays (r : PlayRule) :
    (plays r).toJson.kept.tag? "type" Form.all Form.name nested = some .plays := by
  rw [toJson_plays]
  exact Json.tag?_kept (by simp) List.mem_cons_self

lemma tag?_file (r : FileRule) :
    (file r).toJson.kept.tag? "type" Form.all Form.name nested = some .file := by
  rw [toJson_file]
  exact Json.tag?_kept (by simp) List.mem_cons_self

mutual

theorem ofJsonWithin_kept :
    ∀ (r : Rule) (levels : Nat) (nested : Bool), r.toJson.depth ≤ levels → r.HasReadableDates →
      ofJsonWithin levels nested r.toJson.kept = r.kept?
  | text r, levels + 1, _, _, _ => by
    simp [ofJsonWithin, tag?_text, textOfJson?_kept, kept?]
  | number r, levels + 1, _, _, _ => by
    simp [ofJsonWithin, tag?_number, numberOfJson?_kept, kept?]
  | plays r, levels + 1, _, _, hdates => by
    simp [ofJsonWithin, tag?_plays, playsOfJson?_kept hdates, kept?]
  | file r, levels + 1, _, _, hdates => by
    simp [ofJsonWithin, tag?_file, fileOfJson?_kept hdates, kept?]
  | group junction members, levels + 1, nested, h, hdates => by
    have htag : (group junction members).toJson.kept.tag? "type" Form.all Form.name nested = some .group := rfl
    have hrecord : (group junction members).toJson.kept.record ["type", "operator", "children"] =
        some [some (.str "combined"), some (.str junction.name), some (.arr (Json.keptItems (toJsons members)))] := rfl
    have hdepth : Json.depthItems (toJsons members) ≤ levels := by
      simp only [toJson, Json.depth, Json.depthMembers] at h
      omega
    simp [ofJsonWithin, htag, hrecord, Json.required, Junction.ofJson?_name, Json.toItems?,
      mapM_ofJsonWithin_kept members levels hdepth hdates, kept?]
  | r, 0, _, h, _ => absurd (depth_pos r) (by omega)

theorem mapM_ofJsonWithin_kept :
    ∀ (rs : List Rule) (levels : Nat), Json.depthItems (toJsons rs) ≤ levels → (∀ m ∈ allMoments rs, m.IsReadable) →
      (Json.keptItems (toJsons rs)).mapM (ofJsonWithin levels true) = keptAll? rs
  | [], _, _, _ => rfl
  | r :: rs, levels, h, hdates => by
    simp only [toJsons, Json.depthItems] at h
    have hfirst : r.HasReadableDates := fun m hm => hdates m (List.mem_append_left _ hm)
    have hothers : ∀ m ∈ allMoments rs, m.IsReadable := fun m hm => hdates m (List.mem_append_right _ hm)
    simp [toJsons, Json.keptItems, ofJsonWithin_kept r levels true (by omega) hfirst,
      mapM_ofJsonWithin_kept rs levels (by omega) hothers, keptAll?]

end

theorem ofJson?_kept {r : Rule} (h : r.HasReadableDates) : ofJson? r.toJson.kept = r.kept? := by
  rw [ofJson?, Json.depth_kept]
  exact ofJsonWithin_kept r _ false le_rfl h

end Trees

section Numbers

mutual

def numbers : Rule → List Binary64
  | number r => r.value :: r.secondValue.toList
  | plays r => r.number.toList ++ r.secondNumber.toList
  | group _ members => allNumbers members
  | _ => []

def allNumbers : List Rule → List Binary64
  | [] => []
  | r :: rs => r.numbers ++ allNumbers rs

end

lemma legible_str (s : String) : (Json.str s).kept.Legible := trivial

lemma legible_bool (b : Bool) : (Json.bool b).kept.Legible := trivial

lemma legible_moment (m : Moment) : m.toJson.kept.Legible := by
  rw [Moment.kept_toJson]
  cases m with
  | «at» i => simp [Moment.toJson, Instant.toJson, Json.Legible, Json.LegibleMembers]
  | ago amount unit =>
    have hlt := amount.toNat_lt
    simp only [Moment.toJson, Json.Legible, Json.LegibleMembers, and_true, true_and]
    omega

lemma legible_float {x : Binary64} (h : x.isFinite = true → (Json.float x).Legible) :
    (Json.float x).kept.Legible := by
  cases hx : x.isFinite with
  | true => simpa [Json.kept, hx] using h hx
  | false => simp [Json.kept, hx, Json.Legible]

lemma legible_strings (formats : List String) : (Json.arr (formats.map .str)).kept.Legible := by
  rw [Json.kept, Json.Legible, Json.keptItems_eq_map, Json.legibleItems_iff]
  simp [Json.kept, Json.Legible]

mutual

theorem legible_toJson :
    ∀ r : Rule, (∀ x ∈ r.numbers, x.isFinite = true → (Json.float x).Legible) → r.toJson.kept.Legible
  | text r, _ => by
    rw [toJson_text]
    apply Json.legible_kept
    simp [TextRule.slots, Field.toJson, Operator.toJson, legible_str, legible_bool]
  | number r, h => by
    rw [toJson_number]
    apply Json.legible_kept
    have hvalue := legible_float (h r.value (by simp [numbers]))
    have hsecond (x : Binary64) (hx : r.secondValue = some x) := legible_float (h x (by simp [numbers, hx]))
    simpa [NumberRule.slots, Field.toJson, Operator.toJson, legible_str, legible_bool, hvalue] using hsecond
  | plays r, h => by
    rw [toJson_plays]
    apply Json.legible_kept
    have hnumber (x : Binary64) (hx : r.number = some x) := legible_float (h x (by simp [numbers, hx]))
    have hsecond (x : Binary64) (hx : r.secondNumber = some x) := legible_float (h x (by simp [numbers, hx]))
    simpa [PlayRule.slots, Field.toJson, Operator.toJson, legible_str, legible_bool, legible_moment] using
      ⟨hnumber, hsecond⟩
  | file r, _ => by
    rw [toJson_file]
    apply Json.legible_kept
    simp [FileRule.slots, Field.toJson, Operator.toJson, legible_str, legible_bool, legible_moment, legible_strings]
  | group junction members, h => by
    have hmembers := legible_toJsons members h
    simp [toJson, Json.kept, Json.keptMembers, Json.Legible, Json.LegibleMembers, hmembers]

theorem legible_toJsons :
    ∀ rs : List Rule, (∀ x ∈ allNumbers rs, x.isFinite = true → (Json.float x).Legible) →
      Json.LegibleItems (Json.keptItems (toJsons rs))
  | [], _ => trivial
  | r :: rs, h =>
    ⟨legible_toJson r fun x hx => h x (List.mem_append_left _ hx),
      legible_toJsons rs fun x hx => h x (List.mem_append_right _ hx)⟩

end

end Numbers

end Rule

end MusicQuery
