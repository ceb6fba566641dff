import MusicQuery.Instant.Basic

namespace MusicQuery

inductive TimeUnit where
  | hours
  | days
  | weeks
  | months
  | years
deriving DecidableEq

namespace TimeUnit

def all : List TimeUnit := [hours, days, weeks, months, years]

def name : TimeUnit → String
  | hours => "hours"
  | days => "days"
  | weeks => "weeks"
  | months => "months"
  | years => "years"

def seconds : TimeUnit → Nat
  | hours => 3600
  | days => 86400
  | weeks => 604800
  | months => 2592000
  | years => 31536000

/-- The longest span whose milliseconds fit a signed word of 64 bits. -/
def spanLimit : Nat := 9223372036854775

def span? (unit : TimeUnit) (amount : UInt32) : Option Nat :=
  let seconds := amount.toNat * unit.seconds
  if seconds ≤ spanLimit then some seconds else none

def product? (a b : Int64) : Option Int64 :=
  if Int64.minValue.toInt ≤ a.toInt * b.toInt ∧ a.toInt * b.toInt ≤ Int64.maxValue.toInt then some (a * b) else none

def parts : TimeUnit → Nat × Nat
  | hours => (1, 3600)
  | days => (1, 86400)
  | weeks => (1, 7 * 86400)
  | months => (30, 86400)
  | years => (365, 86400)

/-- The seconds of a span, computed in words. There is no result if the count of its parts is no word, and no span if
its seconds or their milliseconds are none. -/
def checkedSpan? (unit : TimeUnit) (amount : UInt32) : Option (Option Int64) :=
  (product? (.ofNat amount.toNat) (.ofNat unit.parts.1)).map fun count =>
    (product? count (.ofNat unit.parts.2)).filter fun seconds => (product? seconds (.ofNat 1000)).isSome

end TimeUnit

inductive Moment where
  | at (instant : Instant)
  | ago (amount : UInt32) (unit : TimeUnit)
deriving DecidableEq

namespace Moment

def resolve (now : Instant) : Moment → Instant
  | .at instant => instant
  | ago amount unit => ((unit.span? amount).bind now.before?).getD Instant.earliest

def isRelative : Moment → Bool
  | .at _ => false
  | ago _ _ => true

end Moment

end MusicQuery
