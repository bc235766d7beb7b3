import EntityQuery.Sql.Token

/-!
Output with places that are filled out of order. Tokens go to the slot that is active; a marker names a slot
that may be written before it has a place and placed later. What is never placed does not show.
-/

namespace EntityQuery.Sql

/-- The places that are filled out of order. -/
inductive Marker where
  | distinct (select : Nat)
  | condition (select : Nat)
  /-- The restrictions to the entities of a SELECT. -/
  | qualifier (select : Nat)
  /-- The joins after a table of a FROM clause. -/
  | joinTail (path : String)
  /-- A slot that is never placed, for tokens taken aside. -/
  | scratch (number : Nat)
deriving DecidableEq, Repr, Inhabited

def Marker.name : Marker → String
  | distinct select => "DISTINCT_MARKER" ++ toString select
  | condition select => "WHERE_MARKER" ++ toString select
  | qualifier select => "ENTITY_QUALIFIER" ++ toString select
  | joinTail path => "FROM_TAIL" ++ path
  | scratch number => "SCRATCH" ++ toString number

/-- Where tokens are kept: the output itself or the slot of a marker. -/
inductive Slot where
  | root
  | marker (marker : Marker)
deriving DecidableEq, Repr, Inhabited

inductive Fragment where
  | token (token : Token)
  | hole (marker : Marker)

/-- A use of a buffer that it cannot answer. -/
inductive BufferFault where
  | noMarker (marker : Marker)
  | notPushed
  | alreadyPlaced (marker : Marker)
  | insideItself (marker : Marker)
  | trimAcrossMarker
  | nothingToTrim
deriving DecidableEq, Repr, Inhabited

def BufferFault.message : BufferFault → String
  | noMarker marker => s!"no marker named {marker.name}"
  | notPushed => "pop_marker called without a pushed marker"
  | alreadyPlaced marker => s!"marker {marker.name} is already placed"
  | insideItself marker => s!"marker {marker.name} can't be placed inside itself"
  | trimAcrossMarker => "can't trim across a marker"
  | nothingToTrim => "nothing left to trim"

/-- The output: the slots that exist with their fragments, the markers that have a place, and the markers
that are active, innermost first. -/
structure Buffer where
  slots : List (Slot × List Fragment) := [(.root, [])]
  placed : List Marker := []
  active : List Marker := []
deriving Inhabited

namespace Buffer

/-- Sets the fragments of a slot, which is added if it does not exist. -/
def putSlot (slot : Slot) (fragments : List Fragment) :
    List (Slot × List Fragment) → List (Slot × List Fragment)
  | [] => [(slot, fragments)]
  | (other, held) :: rest =>
    if other = slot then (slot, fragments) :: rest else (other, held) :: putSlot slot fragments rest

variable (buffer : Buffer)

def fragments (slot : Slot) : List Fragment :=
  (buffer.slots.lookup slot).getD []

def hasMarker (marker : Marker) : Bool :=
  (buffer.slots.lookup (.marker marker)).isSome

def setFragments (slot : Slot) (fragments : List Fragment) : Buffer :=
  { buffer with slots := putSlot slot fragments buffer.slots }

/-- Gives a marker a slot if it has none. -/
def create (marker : Marker) : Buffer :=
  if buffer.hasMarker marker then buffer else buffer.setFragments (.marker marker) []

/-- The slot that tokens go to. -/
def activeSlot : Slot :=
  match buffer.active with
  | [] => .root
  | marker :: _ => .marker marker

def appendFragment (fragment : Fragment) : Buffer :=
  buffer.setFragments buffer.activeSlot (buffer.fragments buffer.activeSlot ++ [fragment])

def append (token : Token) : Buffer :=
  buffer.appendFragment (.token token)

/-- Makes a marker active, giving it a slot if it has none and `creating` is set. -/
def push (marker : Marker) (creating : Bool) : Except BufferFault Buffer :=
  if creating || buffer.hasMarker marker then
    let created := buffer.create marker
    .ok { created with active := marker :: created.active }
  else .error (.noMarker marker)

/-- Makes the marker active that was so before. -/
def pop : Except BufferFault Buffer :=
  match buffer.active with
  | [] => .error .notPushed
  | _ :: rest => .ok { buffer with active := rest }

/-- Places a marker at the end of the active slot. -/
def place (marker : Marker) : Except BufferFault Buffer :=
  let created := buffer.create marker
  if marker ∈ created.placed then .error (.alreadyPlaced marker)
  else if marker ∈ created.active then .error (.insideItself marker)
  else .ok ({ created with placed := marker :: created.placed }.appendFragment (.hole marker))

def trim : Except BufferFault Buffer :=
  match (buffer.fragments buffer.activeSlot).getLast? with
  | some (.token _) =>
    .ok (buffer.setFragments buffer.activeSlot (buffer.fragments buffer.activeSlot).dropLast)
  | some (.hole _) => .error .trimAcrossMarker
  | none => .error .nothingToTrim

/-- The tokens of some fragments, each place replaced by the content of its marker. Places are nested at
most as deeply as there are slots. -/
def expand : Nat → List Fragment → List Token
  | 0, fragments => fragments.flatMap fun
    | .token token => [token]
    | .hole _ => []
  | depth + 1, fragments => fragments.flatMap fun
    | .token token => [token]
    | .hole marker => expand depth (buffer.fragments (.marker marker))

def tokens (slot : Slot) : List Token :=
  buffer.expand buffer.slots.length (buffer.fragments slot)

def isEmpty (marker : Marker) : Bool :=
  (buffer.tokens (.marker marker)).all fun token => token.text.isEmpty

def render : String :=
  tokensText (buffer.tokens .root)

end Buffer

end EntityQuery.Sql
