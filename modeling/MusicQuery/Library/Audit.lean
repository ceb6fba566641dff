import MusicQuery.Library.Basic

namespace MusicQuery

inductive LibraryFault where
  | uncovered (id : TrackId)
  | staleText (field : Field) (text : List Char) (id : TrackId)
  | staleWord (field : Field) (word : List Char) (id : TrackId)
  | wrongNumbers (field : Field) (entries expected : Nat)
  | wrongDates (field : Field) (entries expected : Nat)
deriving DecidableEq

namespace LibraryFault

def context : LibraryFault → String
  | uncovered id => "track TrackId(" ++ toString id.toNat ++ ") is missing index entries"
  | staleText f text id =>
    f.name ++ " index maps \"" ++ String.ofList text ++ "\" to stale track " ++ toString id.toNat
  | staleWord f word id =>
    f.name ++ " token \"" ++ String.ofList word ++ "\" maps to stale track " ++ toString id.toNat
  | wrongNumbers f entries expected =>
    f.name ++ " value index has " ++ toString entries ++ " entries, expected " ++ toString expected
  | wrongDates f entries expected =>
    f.name ++ " date index has " ++ toString entries ++ " entries, expected " ++ toString expected

def kind : String := "InvalidState"

def message (e : LibraryFault) : String := kind ++ ": " ++ e.context

end LibraryFault

namespace Library

def firstFault {α : Type} (check : α → Except LibraryFault Unit) (xs : List α) : Except LibraryFault Unit :=
  xs.forM check

def textOf (l : Library) (f : Field) (id : TrackId) : Option (List Char) :=
  ((l.get? id).bind fun e => e.track.text f).map InvertedIndex.normalize

def checkText (l : Library) (f : Field) (ix : InvertedIndex) : Except LibraryFault Unit := do
  firstFault (fun (text, ids) => firstFault (fun id =>
    if l.textOf f id = some text then .ok () else .error (.staleText f text id)) ids) ix.values
  firstFault (fun (word, ids) => firstFault (fun id =>
    if (l.textOf f id).any fun text => word ∈ Text.words text then .ok () else .error (.staleWord f word id)) ids)
    ix.words

def countWith {α : Type} (l : Library) (value : Track → Option α) : Nat :=
  l.shelf.tracks.countP fun t => (value t).isSome

def audit (l : Library) : Except LibraryFault Unit := do
  firstFault (fun t => if l.catalog.covers t then .ok () else .error (.uncovered t.id)) l.shelf.tracks
  firstFault (fun (f, ix) => l.checkText f ix) l.catalog.texts.toList
  firstFault (fun (f, ix) =>
    let expected := l.countWith (·.key f)
    if ix.entries.length = expected ∧ ix.isSorted then .ok ()
    else .error (.wrongNumbers f ix.entries.length expected)) l.catalog.numbers.toList
  firstFault (fun (f, ix) =>
    let expected := l.countWith (·.date f)
    if ix.entries.length = expected ∧ ix.isSorted then .ok ()
    else .error (.wrongDates f ix.entries.length expected)) l.catalog.dates.toList

end Library

end MusicQuery
