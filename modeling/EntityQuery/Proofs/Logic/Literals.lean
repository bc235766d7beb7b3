import EntityQuery.Compile.Statement
import Mathlib.Data.List.TakeWhile
import Mathlib.Tactic.Lemma

/-!
Integer literals and the numbers that they stand for.

Main statement: a literal is bound as its number, or is malformed if it has none (`integer_literals_exact`).
-/

namespace EntityQuery

namespace Literal

open Text

/-- Whether a run of digits stands for a number. -/
def Numeral (digits : List Char) (n : Nat) : Prop :=
  digits ≠ [] ∧ (∀ c ∈ digits, c.isDigit = true) ∧ Nat.ofDigitChars 10 digits 0 = n

/-- How a number is spelled, by whether it is flagged as a negative one. The flag takes the place of a sign. -/
inductive Spelled : Bool → List Char → Int → Prop
  | plain {digits : List Char} {n : Nat} (h : Numeral digits n) : Spelled false digits n
  | plus {digits : List Char} {n : Nat} (h : Numeral digits n) : Spelled false ('+' :: digits) n
  | minus {digits : List Char} {n : Nat} (h : Numeral digits n) : Spelled false ('-' :: digits) (-n)
  | flagged {digits : List Char} {n : Nat} (h : Numeral digits n) : Spelled true digits (-n)

/-- Whether a literal, with blanks around it or not, stands for a number, which has at most 64 bits. -/
def Denotes (text : String) (negative : Bool) (value : Int) : Prop :=
  (∃ before core after, text.toList = before ++ core ++ after ∧ (∀ c ∈ before ++ after, isWhiteSpace c = true) ∧
    Spelled negative core value) ∧ -(Nat.pow 2 63 : Int) ≤ value ∧ value ≤ (Nat.pow 2 63 : Int) - 1

variable {digits cs before core after : List Char} {n : Nat} {negative : Bool} {value : Int} {text : String}

/-! ### Blanks -/

lemma trim_eq (htext : text.toList = before ++ core ++ after) (hblank : ∀ c ∈ before ++ after, isWhiteSpace c = true)
    (hne : core ≠ []) (hcore : ∀ c ∈ core, isWhiteSpace c = false) : (trim text).toList = core := by
  have hsolid : ∀ cs : List Char, (∀ c ∈ cs, isWhiteSpace c = false) → cs.dropWhile isWhiteSpace = cs := by
    rintro (_ | ⟨c, rest⟩) h
    · rfl
    · exact List.dropWhile_cons_of_neg (by simp [h c])
  rw [List.forall_mem_append] at hblank
  have hbefore : before.dropWhile isWhiteSpace = [] := List.dropWhile_eq_nil_iff.2 hblank.1
  have hafter : after.reverse.dropWhile isWhiteSpace = [] := List.dropWhile_eq_nil_iff.2 (by simpa using hblank.2)
  simp [trim, trimStartChars, htext, List.dropWhile_append, hbefore, hafter, hsolid core hcore,
    hsolid core.reverse (by simpa using hcore), hne]

lemma exists_trim (text : String) : ∃ before after, text.toList = before ++ (trim text).toList ++ after ∧
    ∀ c ∈ before ++ after, isWhiteSpace c = true := by
  refine ⟨text.toList.takeWhile isWhiteSpace, ((trimStartChars text.toList).reverse.takeWhile isWhiteSpace).reverse, ?_, ?_⟩
  · simp only [trim, trimStartChars, String.toList_ofList, List.append_assoc, ← List.reverse_append,
      List.takeWhile_append_dropWhile, List.reverse_reverse]
  · rw [List.forall_mem_append]
    exact ⟨fun _ => List.mem_takeWhile_imp, fun _ hc => List.mem_takeWhile_imp (List.mem_reverse.1 hc)⟩

/-- What is spelled has no blanks in it. -/
lemma Spelled.solid (h : Spelled negative core value) : core ≠ [] ∧ ∀ c ∈ core, isWhiteSpace c = false := by
  have hdigits : ∀ {digits n}, Numeral digits n → ∀ c ∈ digits, isWhiteSpace c = false := by
    intro digits n h c hc
    have hbounds : 48 ≤ c.toNat ∧ c.toNat ≤ 57 := by simpa [Char.isDigit, UInt32.le_iff_toNat_le] using h.2.1 c hc
    have hranges : ∀ range ∈ whiteSpaceRanges, range.2 < 48 ∨ 57 < range.1 := by decide
    grind [isWhiteSpace, inRanges]
  cases h with
  | plain h | flagged h => exact ⟨h.1, hdigits h⟩
  | plus h | minus h => exact ⟨List.cons_ne_nil _ _, List.forall_mem_cons.2 ⟨by decide, hdigits h⟩⟩

lemma spelled_trim : Spelled negative (trim text).toList value ↔ ∃ before core after, text.toList = before ++ core ++ after ∧
    (∀ c ∈ before ++ after, isWhiteSpace c = true) ∧ Spelled negative core value := by
  constructor
  · intro h
    obtain ⟨before, after, htext, hblank⟩ := exists_trim text
    exact ⟨before, _, after, htext, hblank, h⟩
  · rintro ⟨before, core, after, htext, hblank, h⟩
    rwa [trim_eq htext hblank h.solid.1 h.solid.2]

/-! ### Numbers -/

lemma natural?_eq_some_iff : natural? digits = some n ↔ Numeral digits n := by
  have hvalue : digitsValue digits = Nat.ofDigitChars 10 digits 0 := rfl
  simp [natural?, Numeral, hvalue, and_assoc]

/-- **A number without a flag** is spelled with the sign that is taken off before its digits are read. -/
lemma spelled_iff : Spelled false cs value ↔
    ∃ n : Nat, natural? (takeSign cs).2 = some n ∧ (if (takeSign cs).1 then -(n : Int) else n) = value := by
  simp only [natural?_eq_some_iff]
  constructor
  · rintro (⟨hne, hdigits, hvalue⟩ | h | h)
    · have hsign : takeSign cs = (false, cs) := by
        unfold takeSign
        split
        · exact absurd (hdigits '-' List.mem_cons_self) (by decide)
        · exact absurd (hdigits '+' List.mem_cons_self) (by decide)
        · rfl
      rw [hsign]
      exact ⟨_, ⟨hne, hdigits, hvalue⟩, rfl⟩
    · exact ⟨_, h, rfl⟩
    · exact ⟨_, h, rfl⟩
  · rintro ⟨n, h, rfl⟩
    unfold takeSign at h ⊢
    split at h
    · exact .minus h
    · exact .plus h
    · exact .plain h

lemma spelled_signed :
    Spelled false (Compile.signed text negative).toList value ↔ Spelled negative (trim text).toList value := by
  cases negative with
  | false => rfl
  | true =>
    rw [show (Compile.signed text true).toList = '-' :: (trim text).toList by simp [Compile.signed], spelled_iff]
    simp only [natural?_eq_some_iff]
    generalize (trim text).toList = cs
    constructor
    · rintro ⟨n, h, rfl⟩
      exact .flagged h
    · intro h
      cases h with
      | flagged h => exact ⟨_, h, rfl⟩

/-- **A literal is read as the number that it stands for.** -/
lemma integer?_signed : integer? (Compile.signed text negative) = some value ↔ Denotes text negative value := by
  have hfits : fitsSigned 64 value = true ↔ -(Nat.pow 2 63 : Int) ≤ value ∧ value ≤ (Nat.pow 2 63 : Int) - 1 := by
    simp only [fitsSigned, Bool.and_eq_true, decide_eq_true_eq, Int.le_sub_one_iff, Nat.reduceSub]
  rw [Denotes, ← spelled_trim, ← spelled_signed, spelled_iff, ← hfits, integer?]
  simp only [Option.bind_eq_bind, Option.bind_eq_some_iff, Option.ite_none_right_eq_some, Option.some.injEq]
  constructor
  · rintro ⟨n, hn, hrange, rfl⟩
    exact ⟨⟨n, hn, rfl⟩, hrange⟩
  · rintro ⟨⟨n, hn, rfl⟩, hrange⟩
    exact ⟨n, hn, hrange, rfl⟩

end Literal

namespace Compile

/-- **Integer literals are exact.** A literal is bound as a number, under the next name, exactly if it stands for that number. It
is malformed exactly if it stands for none, and then nothing is bound. -/
theorem integer_literals_exact (text : String) (negative : Bool) (hint : Option String) (held : List Composite) (env : Env)
    (state : State) :
    (∀ value, expression (.integerLiteral text negative) hint held env state = .ok held { state with
        parameters := state.parameters ++ [(env.settings.parameterPrefix ++ toString state.parameters.length, .int value)]
        buffer := state.buffer.append (.bind (env.settings.parameterPrefix ++ toString state.parameters.length) "INTEGER") } ↔
      Literal.Denotes text negative value) ∧
    (expression (.integerLiteral text negative) hint held env state =
        .error (.malformed (.integer (signed text negative))) state ↔ ¬ ∃ value, Literal.Denotes text negative value) := by
  have hrun : expression (.integerLiteral text negative) hint held = integerLiteral text negative held := by unfold expression; rfl
  simp only [hrun, ← Literal.integer?_signed, integerLiteral]
  cases Literal.integer? (signed text negative) with
  | none => exact ⟨fun value => ⟨fun h => (by cases h), fun h => (by cases h)⟩, fun _ => by simp, fun _ => rfl⟩
  | some n =>
    refine ⟨fun value => ⟨fun h => ?_, fun h => ?_⟩, fun h => (by cases h), fun h => absurd ⟨n, rfl⟩ h⟩
    · injection h with _ hstate
      simpa using List.append_cancel_left (congrArg State.parameters hstate)
    · cases h
      rfl

end Compile

end EntityQuery
