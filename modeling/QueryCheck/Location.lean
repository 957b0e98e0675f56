import QueryCheck.Number.Digits

/-!
# Places in a specification document

A location is the list of steps from the top of the document: names of mapping entries, numbers of
sequence elements, and at its end a mark that says whether the key or the value of an entry is meant.
-/

namespace QueryCheck

structure Location where
  segments : List String
deriving DecidableEq, Inhabited

namespace Location

def keyMark : String := "$key"

def valueMark : String := "$val"

def elementSegment (index : Nat) : String :=
  String.ofList ('#' :: natText index)

def root : Location :=
  ⟨[]⟩

def child (place : Location) (segment : String) : Location :=
  ⟨place.segments ++ [segment]⟩

def element (place : Location) (index : Nat) : Location :=
  place.child (elementSegment index)

def value (place : Location) : Location :=
  place.child valueMark

def valueOf (place : Location) (name : String) : Location :=
  (place.child name).value

def keyOf (place : Location) (name : String) : Location :=
  (place.child name).child keyMark

def isEmpty (place : Location) : Bool :=
  place.segments.isEmpty

def collectElements {α β : Type} (find : α → Location → List β) (place : Location) :
    Nat → List α → List β
  | _, [] => []
  | index, item :: rest =>
    find item (place.element index) ++ collectElements find place (index + 1) rest

def convertElements {α β ε : Type} (convert : α → Location → Except ε β) (place : Location) :
    Nat → List α → Except ε (List β)
  | _, [] => .ok []
  | index, item :: rest => do
    let first ← convert item (place.element index)
    let others ← convertElements convert place (index + 1) rest
    .ok (first :: others)

def text (place : Location) : String :=
  ">".intercalate place.segments

end Location

end QueryCheck
