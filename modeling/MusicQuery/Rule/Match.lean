import MusicQuery.Rule.Basic
import MusicQuery.Text.Lowercase
import MusicQuery.Text.Words
import MusicQuery.Track

namespace MusicQuery

namespace Operator

def holdsText (op : Operator) (value operand : List Char) : Bool :=
  match op with
  | equals => value = operand
  | notEquals => value ≠ operand
  | contains => Text.occursIn operand value
  | startsWith => operand.isPrefixOf value
  | _ => false

/-- `between` takes its bounds in either order. -/
def holdsNumber (op : Operator) (value operand : Binary64) (second : Option Binary64) : Bool :=
  match op with
  | equals => value.eq operand
  | notEquals => !value.eq operand
  | greaterThan => operand.lt value
  | greaterThanOrEqual => operand.le value
  | lessThan => value.lt operand
  | lessThanOrEqual => value.le operand
  | between => second.any fun other => (operand.min other).le value && value.le (operand.max other)
  | _ => false

/-- Dates are equal if their days are. -/
def holdsDate (op : Operator) (value operand : Instant) (second : Option Instant) : Bool :=
  match op with
  | equals => value.day = operand.day
  | notEquals => value.day ≠ operand.day
  | greaterThan => operand < value
  | greaterThanOrEqual => operand ≤ value
  | lessThan => value < operand
  | lessThanOrEqual => value ≤ operand
  | between => second.any fun other => min operand other ≤ value && value ≤ max operand other
  | _ => false

def holdsFormat (op : Operator) (format : List Char) (formats : List String) : Bool :=
  let same (candidate : String) : Bool := Text.lower candidate.toList = format
  match op with
  | equals => formats.head?.any same
  | notEquals => !formats.head?.any same
  | inList => formats.any same
  | _ => false

def holdsMissing (op : Operator) : Bool := op = notEquals

def holdsMoment (op : Operator) (now : Instant) (value : Option Instant) (operand second : Option Moment) : Bool :=
  match value, operand with
  | none, _ => op.holdsMissing
  | some _, none => false
  | some value, some operand => op.holdsDate value (operand.resolve now) (second.map (·.resolve now))

end Operator

def TextRule.holds (r : TextRule) (t : Track) : Bool :=
  match t.text r.field with
  | none => r.operator.holdsMissing
  | some value =>
    if r.caseSensitive then r.operator.holdsText value.toList r.value.toList
    else r.operator.holdsText (Text.lower value.toList) (Text.lower r.value.toList)

def NumberRule.holds (r : NumberRule) (t : Track) : Bool :=
  match t.number r.field with
  | none => r.operator.holdsMissing
  | some value => r.operator.holdsNumber value r.value r.secondValue

def PlayRule.holds (now : Instant) (r : PlayRule) (t : Track) : Bool :=
  if r.field = .lastPlayed then r.operator.holdsMoment now (t.date r.field) r.date r.secondDate
  else match t.number r.field, r.number with
    | none, _ => r.operator.holdsMissing
    | some _, none => false
    | some value, some operand => r.operator.holdsNumber value operand r.secondNumber

def FileRule.holds (now : Instant) (r : FileRule) (t : Track) : Bool :=
  if r.field = .format then
    match t.text .format with
    | none => r.operator.holdsMissing
    | some format => r.operator.holdsFormat (Text.lower format.toList) (r.formats.getD [])
  else r.operator.holdsMoment now (t.date r.field) r.date r.secondDate

namespace Rule

mutual

/-- Whether a track fulfils a rule at some time of the clock. A negated leaf is the complement of the leaf, also on
a missing field. -/
def holds (now : Instant) (t : Track) : Rule → Bool
  | text r => r.negated ^^ r.holds t
  | number r => r.negated ^^ r.holds t
  | plays r => r.negated ^^ r.holds now t
  | file r => r.negated ^^ r.holds now t
  | group .and members => allHold now t members
  | group .or members => anyHolds now t members

def allHold (now : Instant) (t : Track) : List Rule → Bool
  | [] => true
  | r :: rs => r.holds now t && allHold now t rs

def anyHolds (now : Instant) (t : Track) : List Rule → Bool
  | [] => false
  | r :: rs => r.holds now t || anyHolds now t rs

end

theorem allHold_eq_all (now : Instant) (t : Track) (rs : List Rule) :
    allHold now t rs = rs.all (holds now t) := by
  induction rs with
  | nil => rfl
  | cons r rs ih => simp [allHold, ih]

theorem anyHolds_eq_any (now : Instant) (t : Track) (rs : List Rule) :
    anyHolds now t rs = rs.any (holds now t) := by
  induction rs with
  | nil => rfl
  | cons r rs ih => simp [anyHolds, ih]

end Rule

end MusicQuery
