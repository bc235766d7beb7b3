import EntityQuery.Compile.Occurrence

/-!
Identification variables. Each SELECT opens a frame and names are looked for from the inside out; every
declaration gets a root of its own, so that occurrences in different frames are never the same.
-/

namespace EntityQuery

/-- What a variable stands for. -/
structure Variable where
  entity : String
  /-- The step that leads to it, if a join introduces it. -/
  definedBy : Option (Occurrence × Hop) := none
deriving DecidableEq, Repr, Inhabited

/-- The variables of a statement. -/
structure Scope where
  /-- The roots of the declared names, innermost frame first. -/
  frames : List (List (String × String)) := [[]]
  roots : List (String × Variable) := []
deriving DecidableEq, Repr, Inhabited

namespace Scope

variable (scope : Scope)

def pushFrame : Scope :=
  { scope with frames := [] :: scope.frames }

/-- Closes the innermost frame, but never the last one. -/
def popFrame : Scope :=
  match scope.frames with
  | _ :: next :: rest => { scope with frames := next :: rest }
  | _ => scope

/-- Sets what a root stands for. -/
def putVariable (root : String) (entry : Variable) :
    List (String × Variable) → List (String × Variable)
  | [] => [(root, entry)]
  | (other, held) :: rest =>
    if other = root then (root, entry) :: rest else (other, held) :: putVariable root entry rest

/-- The root for a new declaration of a name: the name, or the name with a number if it is taken. -/
def freshRoot (name : String) : String :=
  if (scope.roots.lookup name).isSome then name ++ "#" ++ toString scope.roots.length else name

/-- Declares a variable in the innermost frame, unless it has one of that name. -/
def declare? (id : String) (entry : Variable) : Option (Scope × Occurrence) :=
  let name := Text.lower id
  let root := scope.freshRoot name
  match scope.frames with
  | [] => none
  | frame :: rest =>
    if (frame.lookup name).isSome then none
    else
      some ({ frames := (frame ++ [(name, root)]) :: rest
              roots := putVariable root entry scope.roots }, .ofVariable root)

/-- The occurrence of the innermost visible variable of a name. -/
def lookup? (id : String) : Option Occurrence :=
  (scope.frames.findSome? fun frame => frame.lookup (Text.lower id)).map .ofVariable

/-- What the root of an occurrence stands for, visible or not. -/
def declared? (root : String) : Option Variable :=
  scope.roots.lookup root

end Scope

end EntityQuery
