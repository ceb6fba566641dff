import MusicQuery.Index.Inverted
import MusicQuery.Rule.Basic

namespace MusicQuery

structure Bound (α : Type) where
  value : α
  inclusive : Bool
deriving DecidableEq

structure Bounds (α : Type) where
  lower : Option (Bound α)
  upper : Option (Bound α)
deriving DecidableEq

inductive ValueRange where
  | numbers (bounds : Bounds Binary64)
  | dates (bounds : Bounds Instant)
deriving DecidableEq

inductive Plan where
  | textSeek (field : Field) (query : String) (mode : TextMatch)
  | valueRange (field : Field) (range : ValueRange)
  | scan
deriving DecidableEq

def Operator.bounds? {α : Type} (least greatest : α → α → α) (op : Operator) (value : α) (second : Option α) :
    Option (Bounds α) :=
  match op with
  | greaterThan => some ⟨some ⟨value, false⟩, none⟩
  | greaterThanOrEqual => some ⟨some ⟨value, true⟩, none⟩
  | lessThan => some ⟨none, some ⟨value, false⟩⟩
  | lessThanOrEqual => some ⟨none, some ⟨value, true⟩⟩
  | between => second.map fun other => ⟨some ⟨least value other, true⟩, some ⟨greatest value other, true⟩⟩
  | _ => none

def Operator.numberBounds? (op : Operator) (value : Binary64) (second : Option Binary64) : Option ValueRange :=
  (op.bounds? Binary64.min Binary64.max value second).map .numbers

def Operator.dateBounds? (op : Operator) (now : Instant) (value second : Option Moment) : Option ValueRange :=
  value.bind fun v => (op.bounds? min max (v.resolve now) (second.map (·.resolve now))).map .dates

def TextRule.isSeekable (r : TextRule) : Bool :=
  !r.negated && !r.caseSensitive && (r.operator = .contains || r.operator = .startsWith) && r.field.isTextIndexed

namespace Rule

def isSeekable : Rule → Bool
  | text r => r.isSeekable
  | _ => false

def range? (now : Instant) : Rule → Option (Field × ValueRange)
  | number r => if r.negated then none else (r.operator.numberBounds? r.value r.secondValue).map (r.field, ·)
  | plays r =>
    if r.negated then none
    else if r.field = .lastPlayed then (r.operator.dateBounds? now r.date r.secondDate).map (r.field, ·)
    else r.number.bind fun value => (r.operator.numberBounds? value r.secondNumber).map (r.field, ·)
  | file r =>
    if r.negated || r.field ≠ .dateAdded then none
    else (r.operator.dateBounds? now r.date r.secondDate).map (r.field, ·)
  | _ => none

def plan (ranges : Bool) (now : Instant) (rule : Rule) : Plan :=
  match rule with
  | text r =>
    if r.isSeekable then .textSeek r.field r.value (if r.operator = .startsWith then .startsWith else .contains)
    else .scan
  | rule =>
    match if ranges then rule.range? now else none with
    | some (f, range) => if f.isValueIndexed then .valueRange f range else .scan
    | none => .scan

end Rule

end MusicQuery
