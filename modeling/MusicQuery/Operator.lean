namespace MusicQuery

inductive Operator where
  | equals
  | notEquals
  | contains
  | startsWith
  | greaterThan
  | greaterThanOrEqual
  | lessThan
  | lessThanOrEqual
  | between
  | inList
deriving DecidableEq

namespace Operator

def all : List Operator :=
  [equals, notEquals, contains, startsWith, greaterThan, greaterThanOrEqual, lessThan, lessThanOrEqual, between,
    inList]

def name : Operator → String
  | equals => "equals"
  | notEquals => "notEquals"
  | contains => "contains"
  | startsWith => "startsWith"
  | greaterThan => "greaterThan"
  | greaterThanOrEqual => "greaterThanOrEqual"
  | lessThan => "lessThan"
  | lessThanOrEqual => "lessThanOrEqual"
  | between => "between"
  | inList => "inList"

def ofText : List Operator := [equals, notEquals, contains, startsWith]

def ofOrder : List Operator :=
  [equals, notEquals, greaterThan, greaterThanOrEqual, lessThan, lessThanOrEqual, between]

def ofFormat : List Operator := [equals, notEquals, inList]

def isRange : Operator → Bool
  | greaterThan | greaterThanOrEqual | lessThan | lessThanOrEqual | between => true
  | _ => false

end Operator

end MusicQuery
