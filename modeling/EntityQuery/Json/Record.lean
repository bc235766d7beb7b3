import EntityQuery.Document
import EntityQuery.Number.Width

/-!
Content of JSON documents that is no plain text or flag: alternatives with content, as objects of one
member that name them, and numbers and characters within their bounds.
-/

namespace EntityQuery.Json

def strictMembers (value : Json) : Except Fault (List (String × Json)) :=
  Document.orShape value.members?

def alternativeContent : Json → Except Fault (String × Json)
  | .obj [(name, content)] => .ok (name, content)
  | _ => .error .shape

def natural : Json → Except Fault UInt64
  | .int n => if fitsUnsigned 64 n then .ok n.toNat.toUInt64 else .error .shape
  | _ => .error .shape

def integer32 : Json → Except Fault Int
  | .int n => if fitsSigned 32 n then .ok n else .error .shape
  | _ => .error .shape

def character (value : Json) : Except Fault Char :=
  match value with
  | .str s =>
    match s.toList with
    | [c] => .ok c
    | _ => .error .shape
  | _ => .error .shape

end EntityQuery.Json
