import MusicQuery.Binary64.Basic
import MusicQuery.Field
import MusicQuery.Moment
import MusicQuery.Operator

namespace MusicQuery

inductive Junction where
  | and
  | or
deriving DecidableEq

namespace Junction

def all : List Junction := [and, or]

def name : Junction → String
  | and => "AND"
  | or => "OR"

def dual : Junction → Junction
  | and => or
  | or => and

theorem dual_dual (j : Junction) : j.dual.dual = j := by
  cases j <;> rfl

end Junction

structure TextRule where
  field : Field
  operator : Operator
  value : String
  caseSensitive : Bool := false
  negated : Bool := false
deriving DecidableEq

structure NumberRule where
  field : Field
  operator : Operator
  value : Binary64
  secondValue : Option Binary64 := none
  negated : Bool := false
deriving DecidableEq

structure PlayRule where
  field : Field
  operator : Operator
  number : Option Binary64 := none
  secondNumber : Option Binary64 := none
  date : Option Moment := none
  secondDate : Option Moment := none
  negated : Bool := false
deriving DecidableEq

structure FileRule where
  field : Field
  operator : Operator
  date : Option Moment := none
  secondDate : Option Moment := none
  formats : Option (List String) := none
  negated : Bool := false
deriving DecidableEq

/-- A condition on tracks. Only leaves can be negated. -/
inductive Rule where
  | text (rule : TextRule)
  | number (rule : NumberRule)
  | plays (rule : PlayRule)
  | file (rule : FileRule)
  | group (junction : Junction) (members : List Rule)

namespace Rule

instance : Inhabited Rule := ⟨group .and []⟩

mutual

def negate : Rule → Rule
  | text r => text { r with negated := !r.negated }
  | number r => number { r with negated := !r.negated }
  | plays r => plays { r with negated := !r.negated }
  | file r => file { r with negated := !r.negated }
  | group junction members => group junction.dual (negateAll members)

def negateAll : List Rule → List Rule
  | [] => []
  | r :: rs => r.negate :: negateAll rs

end

def anyRelative (moments : List (Option Moment)) : Bool := moments.any (·.any Moment.isRelative)

def anyNonFinite (numbers : List (Option Binary64)) : Bool := numbers.any (·.any (!·.isFinite))

mutual

def hasRelativeDates : Rule → Bool
  | plays r => anyRelative [r.date, r.secondDate]
  | file r => anyRelative [r.date, r.secondDate]
  | group _ members => someHasRelativeDates members
  | _ => false

def someHasRelativeDates : List Rule → Bool
  | [] => false
  | r :: rs => r.hasRelativeDates || someHasRelativeDates rs

end

mutual

/-- Whether a number in the rule is infinite or NaN, which has no written form. -/
def hasNonFiniteNumbers : Rule → Bool
  | number r => anyNonFinite [some r.value, r.secondValue]
  | plays r => anyNonFinite [r.number, r.secondNumber]
  | group _ members => someHasNonFiniteNumbers members
  | _ => false

def someHasNonFiniteNumbers : List Rule → Bool
  | [] => false
  | r :: rs => r.hasNonFiniteNumbers || someHasNonFiniteNumbers rs

end

def sameNumber : Option Binary64 → Option Binary64 → Bool
  | some x, some y => x.eq y
  | none, none => true
  | _, _ => false

mutual

/-- Equality of rules whose numbers are compared as numbers, so that NaN differs from itself. -/
def same : Rule → Rule → Bool
  | text r, text s => r = s
  | number r, number s =>
    r.field = s.field && r.operator = s.operator && r.value.eq s.value && sameNumber r.secondValue s.secondValue &&
      r.negated = s.negated
  | plays r, plays s =>
    r.field = s.field && r.operator = s.operator && sameNumber r.number s.number &&
      sameNumber r.secondNumber s.secondNumber && r.date = s.date && r.secondDate = s.secondDate &&
      r.negated = s.negated
  | file r, file s => r = s
  | group j rs, group k ss => j = k && sameAll rs ss
  | _, _ => false

def sameAll : List Rule → List Rule → Bool
  | [], [] => true
  | r :: rs, s :: ss => r.same s && sameAll rs ss
  | _, _ => false

end

end Rule

end MusicQuery
