import MusicQuery.Rule.Basic
import MusicQuery.Track.Json

namespace MusicQuery

def Field.toJson (f : Field) : Json := .str f.name

def Field.ofJson? (tagged : Bool) : Json → Option Field := Json.toOneOf? all name tagged

def Operator.toJson (op : Operator) : Json := .str op.name

def Operator.ofJson? (tagged : Bool) : Json → Option Operator := Json.toOneOf? all name tagged

def TimeUnit.ofJson? (tagged : Bool) : Json → Option TimeUnit := Json.toOneOf? all name tagged

def Junction.ofJson? (tagged : Bool) : Json → Option Junction := Json.toOneOf? all name tagged

namespace Moment

inductive Form where
  | absolute
  | relative

namespace Form

def all : List Form := [absolute, relative]

def name : Form → String
  | absolute => "absolute"
  | relative => "relative"

end Form

def toJson : Moment → Json
  | .at instant => .obj [("kind", .str "absolute"), ("date", instant.toJson)]
  | ago amount unit => .obj [("kind", .str "relative"), ("amount", .int amount.toNat), ("unit", .str unit.name)]

/-- Inside a rule the place of the form may stand for its name. -/
def ofJson? (nested : Bool) (j : Json) : Option Moment := do
  match ← j.tag? "kind" Form.all Form.name nested with
  | .absolute =>
    match ← j.record ["kind", "date"] with
    | [_, date] => some (.at (← Json.required Instant.ofJson? date))
    | _ => none
  | .relative =>
    match ← j.record ["kind", "amount", "unit"] with
    | [_, amount, unit] =>
      some (ago (← Json.required Json.toUInt32? amount) (← Json.required (TimeUnit.ofJson? true) unit))
    | _ => none

end Moment

namespace Rule

inductive Form where
  | text
  | number
  | plays
  | file
  | group

namespace Form

def all : List Form := [text, number, plays, file, group]

def name : Form → String
  | text => "stringMetadata"
  | number => "numericMetadata"
  | plays => "playStatistics"
  | file => "fileProperty"
  | group => "combined"

end Form

mutual

def toJson : Rule → Json
  | text r => .obj [("type", .str "stringMetadata"), ("field", r.field.toJson), ("operator", r.operator.toJson),
      ("value", .str r.value), ("caseSensitive", .bool r.caseSensitive), ("negated", .bool r.negated)]
  | number r => .obj ([("type", .str "numericMetadata"), ("field", r.field.toJson),
      ("operator", r.operator.toJson), ("value", .float r.value)] ++
      Json.member? "secondValue" .float r.secondValue ++ [("negated", .bool r.negated)])
  | plays r => .obj ([("type", .str "playStatistics"), ("field", r.field.toJson),
      ("operator", r.operator.toJson)] ++ Json.member? "numericValue" .float r.number ++
      Json.member? "secondNumericValue" .float r.secondNumber ++ Json.member? "dateValue" Moment.toJson r.date ++
      Json.member? "secondDateValue" Moment.toJson r.secondDate ++ [("negated", .bool r.negated)])
  | file r => .obj ([("type", .str "fileProperty"), ("field", r.field.toJson), ("operator", r.operator.toJson)] ++
      Json.member? "dateValue" Moment.toJson r.date ++ Json.member? "secondDateValue" Moment.toJson r.secondDate ++
      Json.member? "listValue" (fun formats => .arr (formats.map .str)) r.formats ++
      [("negated", .bool r.negated)])
  | group junction members => .obj [("type", .str "combined"), ("operator", .str junction.name),
      ("children", .arr (toJsons members))]

def toJsons : List Rule → List Json
  | [] => []
  | r :: rs => r.toJson :: toJsons rs

end

def flag? : Option Json → Option Bool := Json.withDefault false Json.toBool?

def textOfJson? (j : Json) : Option TextRule := do
  match ← j.record ["type", "field", "operator", "value", "caseSensitive", "negated"] with
  | [_, field, operator, value, caseSensitive, negated] => some {
      field := ← Json.required (Field.ofJson? true) field
      operator := ← Json.required (Operator.ofJson? true) operator
      value := ← Json.required Json.toString? value
      caseSensitive := ← flag? caseSensitive
      negated := ← flag? negated }
  | _ => none

def numberOfJson? (j : Json) : Option NumberRule := do
  match ← j.record ["type", "field", "operator", "value", "secondValue", "negated"] with
  | [_, field, operator, value, secondValue, negated] => some {
      field := ← Json.required (Field.ofJson? true) field
      operator := ← Json.required (Operator.ofJson? true) operator
      value := ← Json.required Json.toNumber? value
      secondValue := ← Json.optional Json.toNumber? secondValue
      negated := ← flag? negated }
  | _ => none

def playsOfJson? (j : Json) : Option PlayRule := do
  match ← j.record ["type", "field", "operator", "numericValue", "secondNumericValue", "dateValue",
      "secondDateValue", "negated"] with
  | [_, field, operator, value, secondValue, date, secondDate, negated] => some {
      field := ← Json.required (Field.ofJson? true) field
      operator := ← Json.required (Operator.ofJson? true) operator
      number := ← Json.optional Json.toNumber? value
      secondNumber := ← Json.optional Json.toNumber? secondValue
      date := ← Json.optional (Moment.ofJson? true) date
      secondDate := ← Json.optional (Moment.ofJson? true) secondDate
      negated := ← flag? negated }
  | _ => none

def fileOfJson? (j : Json) : Option FileRule := do
  match ← j.record ["type", "field", "operator", "dateValue", "secondDateValue", "listValue", "negated"] with
  | [_, field, operator, date, secondDate, formats, negated] => some {
      field := ← Json.required (Field.ofJson? true) field
      operator := ← Json.required (Operator.ofJson? true) operator
      date := ← Json.optional (Moment.ofJson? true) date
      secondDate := ← Json.optional (Moment.ofJson? true) secondDate
      formats := ← Json.optional (Json.toItems? Json.toString?) formats
      negated := ← flag? negated }
  | _ => none

/-- Reads a rule that is nested at most some levels deep. A rule inside another may give the place of its shape
for its name. -/
def ofJsonWithin : Nat → Bool → Json → Option Rule
  | 0, _, _ => none
  | levels + 1, nested, j => do
    match ← j.tag? "type" Form.all Form.name nested with
    | .text => text <$> textOfJson? j
    | .number => number <$> numberOfJson? j
    | .plays => plays <$> playsOfJson? j
    | .file => file <$> fileOfJson? j
    | .group =>
      match ← j.record ["type", "operator", "children"] with
      | [_, operator, children] =>
        let junction ← Json.required (Junction.ofJson? true) operator
        group junction <$> Json.required (Json.toItems? (ofJsonWithin levels true)) children
      | _ => none

/-- Each nested rule is deeper by one value at least, so the depth of the value bounds the levels. -/
def ofJson? (j : Json) : Option Rule := ofJsonWithin j.depth false j

def toText (r : Rule) : String := r.toJson.toText

def ofText? (text : String) : Option Rule := (Json.read? text.toList).bind ofJson?

end Rule

end MusicQuery
