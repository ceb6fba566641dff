import MusicQuery.Binary64.Basic

namespace MusicQuery

/-- A JSON value. `unreadable` stands where the text is well formed but denotes nothing: a number beyond the
range of doubles, a string with one half of a surrogate pair, or an object with such a name. -/
inductive Json where
  | null
  | bool (value : Bool)
  | int (value : Int)
  | float (value : Binary64)
  | str (value : String)
  | arr (items : List Json)
  | obj (members : List (String × Json))
  | unreadable

namespace Json

instance : Inhabited Json := ⟨null⟩

mutual

def depth : Json → Nat
  | arr items => depthItems items + 1
  | obj members => depthMembers members + 1
  | _ => 0

def depthItems : List Json → Nat
  | [] => 0
  | j :: js => max j.depth (depthItems js)

def depthMembers : List (String × Json) → Nat
  | [] => 0
  | (_, j) :: ms => max j.depth (depthMembers ms)

end

mutual

def isReadable : Json → Bool
  | unreadable => false
  | arr items => readableItems items
  | obj members => readableMembers members
  | _ => true

def readableItems : List Json → Bool
  | [] => true
  | j :: js => j.isReadable && readableItems js

def readableMembers : List (String × Json) → Bool
  | [] => true
  | (_, j) :: ms => j.isReadable && readableMembers ms

end

def memberOnce (name : String) (members : List (String × Json)) : Option (Option Json) :=
  match members.filter (·.1 = name) with
  | [] => some none
  | [m] => some (some m.2)
  | _ => none

/-- The members of a record under the given names; other members are passed over. A record may also be an array
of its first members in the order of the names. -/
def record (names : List String) : Json → Option (List (Option Json))
  | obj members => names.mapM (memberOnce · members)
  | arr items =>
    if items.length ≤ names.length then
      some (items.map some ++ List.replicate (names.length - items.length) none)
    else none
  | _ => none

def required {α : Type} (read : Json → Option α) : Option Json → Option α
  | some j => read j
  | none => none

/-- A member that may be absent or `null`. -/
def optional {α : Type} (read : Json → Option α) : Option Json → Option (Option α)
  | some null => some none
  | some j => (read j).map some
  | none => some none

/-- A member that may be absent, but not `null`. -/
def withDefault {α : Type} (default : α) (read : Json → Option α) : Option Json → Option α
  | some j => read j
  | none => some default

def toBool? : Json → Option Bool
  | bool b => some b
  | _ => none

def toString? : Json → Option String
  | str s => some s
  | _ => none

def toNumber? : Json → Option Binary64
  | int i => some (Binary64.ofInt i)
  | float x => some x
  | _ => none

def toIntIn? (low high : Int) : Json → Option Int
  | int i => if low ≤ i ∧ i ≤ high then some i else none
  | _ => none

def toUInt64? (j : Json) : Option UInt64 := (j.toIntIn? 0 0xffffffffffffffff).map fun i => UInt64.ofNat i.toNat

def toUInt32? (j : Json) : Option UInt32 := (j.toIntIn? 0 0xffffffff).map fun i => UInt32.ofNat i.toNat

def toUInt8? (j : Json) : Option UInt8 := (j.toIntIn? 0 0xff).map fun i => UInt8.ofNat i.toNat

def toInt32? (j : Json) : Option Int32 := (j.toIntIn? (-0x80000000) 0x7fffffff).map Int32.ofInt

def toItems? {α : Type} (read : Json → Option α) : Json → Option (List α)
  | arr items => items.mapM read
  | _ => none

/-- One of several by its name, which stands alone or as an object `name: null`. Inside a tagged record an empty
object may stand for this `null`. -/
def toOneOf? {α : Type} (all : List α) (name : α → String) (tagged : Bool) : Json → Option α
  | str s => all.find? (name · = s)
  | obj [(s, null)] => all.find? (name · = s)
  | obj [(s, obj [])] => if tagged then all.find? (name · = s) else none
  | _ => none

def toTag? {α : Type} (all : List α) (name : α → String) (byPlace : Bool) : Json → Option α
  | str s => all.find? (name · = s)
  | int i => if byPlace && 0 ≤ i then all[i.toNat]? else none
  | _ => none

def tag? {α : Type} (key : String) (all : List α) (name : α → String) (byPlace : Bool) : Json → Option α
  | obj members => (memberOnce key members).bind (required (toTag? all name byPlace))
  | arr (first :: _) => toTag? all name byPlace first
  | _ => none

def member? {α : Type} (name : String) (write : α → Json) : Option α → List (String × Json)
  | some a => [(name, write a)]
  | none => []

def orNull {α : Type} (write : α → Json) : Option α → Json
  | some a => write a
  | none => null

end Json

end MusicQuery
