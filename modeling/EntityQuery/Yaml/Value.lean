import EntityQuery.Document
import EntityQuery.Number.Literal
import EntityQuery.Yaml.Node

/-!
YAML nodes as documents. A plain scalar without a tag stands for nothing, a truth value or a number if it is
spelled like one; where a text is asked for, a scalar is a text whatever its spelling and its tag.
-/

namespace EntityQuery.Yaml

open Text

def isNullWord (text : String) : Bool :=
  text ∈ ["null", "Null", "NULL", "~"]

def isNullText (text : String) : Bool :=
  text.isEmpty || isNullWord text

def flagOfText? (text : String) : Option Bool :=
  if text ∈ ["true", "True", "TRUE"] then some true
  else if text ∈ ["false", "False", "FALSE"] then some false
  else none

/-! ### Numbers -/

def baseValue? (base : Nat) (digits : List Char) : Option Nat :=
  if digits.isEmpty then none
  else digits.foldlM (fun n c => do
    let digit ← hexDigit? c
    if digit < base then some (base * n + digit) else none) 0

/-- The value of digits after a mark that gives their base, or of decimal digits. -/
def naturalOfChars? : List Char → Option Nat
  | '0' :: 'x' :: digits => baseValue? 16 digits
  | '0' :: 'o' :: digits => baseValue? 8 digits
  | '0' :: 'b' :: digits => baseValue? 2 digits
  | digits => baseValue? 10 digits

/-- Whether digits start with a zero that is not the only one. Such a text is no number. -/
def hasLeadingZero (digits : List Char) : Bool :=
  1 < digits.length && digits.head? = some '0' && digits.all Char.isDigit

def integerOfText? (text : String) : Option Int :=
  let (negative, digits) := Literal.takeSign text.toList
  if hasLeadingZero digits then none
  else (naturalOfChars? digits).map fun (n : Nat) => if negative then -(n : Int) else n

/-- Whether a plain text is spelled like an infinity or like no number. -/
def isNonFinite (text : String) : Bool :=
  text ∈ [".inf", ".Inf", ".INF", "+.inf", "+.Inf", "+.INF", "-.inf", "-.Inf", "-.INF",
    ".nan", ".NaN", ".NAN"]

/-- The floating-point number a text is spelled like. Those that are not finite are nothing. -/
def fractionOfText? (text : String) : Option Json :=
  if isNonFinite text then some .null else (Literal.decimal? text).map Json.double

def isWord (n : Int) : Bool :=
  fitsSigned 64 n || fitsUnsigned 64 n

/-- The value of a plain text. A whole number of more than 64 bits has none, unless it is so large that it
can only be a floating-point number. -/
def valueOfText? (text : String) : Option Json :=
  if isNullText text then some .null
  else
    match flagOfText? text with
    | some flag => some (.bool flag)
    | none =>
      let fraction : Json :=
        if hasLeadingZero (Literal.takeSign text.toList).2 then .str text
        else (fractionOfText? text).getD (.str text)
      match integerOfText? text with
      | none => some fraction
      | some n =>
        if isWord n then some (.int n)
        else if fitsSigned 128 n || fitsUnsigned 128 n then none
        else some fraction

/-- The value of a scalar. A tag of the document's own gives it none. -/
def scalarValue? (tag : Option Tag) (style : Style) (text : String) : Option Json :=
  match tag with
  | none | some .illegible => if style = .plain then valueOfText? text else some (.str text)
  | some .null => if isNullWord text then some .null else none
  | some .bool => (flagOfText? text).map .bool
  | some .int => ((integerOfText? text).filter isWord).map .int
  | some .float => fractionOfText? text
  | some .shared => some (.str text)
  | some (.own _) => none

def Tag.isOwn : Tag → Bool
  | .own _ => true
  | _ => false

namespace Node

def text? : Node → Option String
  | .scalar _ _ text => some text
  | _ => none

/-- The truth value of a scalar that is plain, or a literal block said to be one. -/
def flag? : Node → Option Bool
  | .scalar _ .plain text => flagOfText? text
  | .scalar (some .bool) .literal text => flagOfText? text
  | _ => none

/-- Whether a plain scalar stands for nothing. One with a tag does only if the tag says so, and then must be
a word for nothing. -/
def absent? : Node → Option Bool
  | .scalar none .plain text => some (isNullText text)
  | .scalar (some .null) .plain text => if isNullWord text then some true else none
  | _ => some false

/-- The items of a sequence, which may be left out if there are none. -/
def items? : Node → Option (List Node)
  | .scalar _ .plain "" => some []
  | .sequence _ items => some items
  | _ => none

/-- The members of a mapping, which may be left out if there are none. -/
def members? : Node → Option (List (String × Node))
  | .scalar _ .plain "" => some []
  | .mapping _ entries => entries.mapM fun (key, value) => key.text?.map (·, value)
  | _ => none

/-- An alternative is a scalar, or a tag of the document's own on a scalar that stands for nothing. -/
def alternative? : Node → Option String
  | .scalar (some (.own name)) style text =>
    if style = .plain && isNullText text then some name else none
  | .scalar _ _ text => some text
  | _ => none

mutual

/-- The value of a node. A tag of the document's own gives it none. -/
def toJson? : Node → Option Json
  | .scalar tag style text => scalarValue? tag style text
  | .sequence tag items => if tag.any Tag.isOwn then none else (itemsToJson? items).map .arr
  | .mapping tag entries => if tag.any Tag.isOwn then none else (entriesToJson? entries).map .object

def itemsToJson? : List Node → Option (List Json)
  | [] => some []
  | item :: rest => do return (← toJson? item) :: (← itemsToJson? rest)

def entriesToJson? : List (Node × Node) → Option (List (String × Json))
  | [] => some []
  | (key, value) :: rest => do return (← key.text?, ← toJson? value) :: (← entriesToJson? rest)

end

instance : Document Node where
  text? := text?
  flag? := flag?
  absent? := absent?
  items? := items?
  members? := members?
  leadingFields? _ _ := none
  alternative? := alternative?
  toJson? := toJson?

end Node

end EntityQuery.Yaml
