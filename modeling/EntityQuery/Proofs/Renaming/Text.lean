import EntityQuery.Proofs.Joins.Keys
import Mathlib.Data.List.TakeWhile

/-!
Texts that begin with a name. A renaming of variables changes the name that a root, a path or a key begins with and leaves
what follows it; it never makes two texts the same, and it commutes with what is made of them.
-/

namespace EntityQuery

/-! ### Names at the beginning -/

variable {c sign : Char} {more : String} {change : Char → Char} {root : String} {sep : Char} {name : List Char}

namespace Text

/-- The letters and digits of the basic alphabet that a text begins with. -/
def leading (text : String) : List Char :=
  text.toList.takeWhile Char.isAlphanum

/-- What follows the name that a text begins with. -/
def trailing (text : String) : List Char :=
  text.toList.dropWhile Char.isAlphanum

def endsName (cs : List Char) : Bool :=
  cs.head?.all fun c => !c.isAlphanum

variable {text : String} {name rest : List Char}

@[simp] lemma leading_append_trailing (text : String) : leading text ++ trailing text = text.toList :=
  List.takeWhile_append_dropWhile

lemma isAlphanum_of_mem_leading (h : c ∈ leading text) : c.isAlphanum = true :=
  List.mem_takeWhile_imp h

lemma endsName_trailing (text : String) : endsName (trailing text) = true := by
  unfold endsName trailing
  induction text.toList with
  | nil => rfl
  | cons c rest ih =>
    rw [List.dropWhile_cons]
    split
    · exact ih
    · rename_i hc
      simpa using hc

lemma parts_ofList (hname : ∀ c ∈ name, c.isAlphanum = true) (hrest : endsName rest = true) :
    leading (.ofList (name ++ rest)) = name ∧ trailing (.ofList (name ++ rest)) = rest := by
  rw [leading, trailing, String.toList_ofList, List.takeWhile_append_of_pos hname, List.dropWhile_append_of_pos hname]
  cases rest with
  | nil => simp
  | cons c others =>
    simp only [endsName, List.head?_cons, Option.all_some, Bool.not_eq_true'] at hrest
    simp [hrest]

lemma eq_ofList (text : String) : text = .ofList (leading text ++ trailing text) := by
  rw [leading_append_trailing, String.ofList_toList]

lemma endsName_append {more : List Char} (hrest : endsName rest = true) (hmore : endsName more = true) :
    endsName (rest ++ more) = true := by
  cases rest with
  | nil => exact hmore
  | cons c others => exact hrest

lemma endsName_of_head (hc : c.isAlphanum = false) : endsName (c :: rest) = true := by
  simp [endsName, hc]

lemma append_eq_ofList (text more : String) : text ++ more = .ofList (leading text ++ (trailing text ++ more.toList)) := by
  apply String.toList_injective
  simp [← List.append_assoc]

lemma parts_append (h : endsName more.toList = true) :
    leading (text ++ more) = leading text ∧ trailing (text ++ more) = trailing text ++ more.toList := by
  rw [append_eq_ofList]
  exact parts_ofList (fun _ hc => isAlphanum_of_mem_leading hc) (endsName_append (endsName_trailing text) h)

end Text

/-! ### Renamings -/

/-- **A renaming of variables**: what it makes of the names as they are written, and of the names that texts begin with,
which are in lower case. -/
structure Renaming where
  id : String → String
  image : List Char → List Char
  injective : Function.Injective image
  alphanum : ∀ name, (∀ c ∈ name, c.isAlphanum = true) → ∀ c ∈ image name, c.isAlphanum = true
  low : ∀ name, (∀ c ∈ name, Text.isLow c = true) → ∀ c ∈ image name, Text.isLow c = true

namespace Renaming

open Text

variable (r : Renaming)

def text (held : String) : String :=
  .ofList (r.image (leading held) ++ trailing held)

variable {r} {held : String}

lemma isAlphanum_image_leading (h : c ∈ r.image (leading held)) : c.isAlphanum = true :=
  r.alphanum _ (fun _ hc => isAlphanum_of_mem_leading hc) c h

@[simp] lemma leading_text (r : Renaming) (held : String) : leading (r.text held) = r.image (leading held) :=
  (parts_ofList (fun _ hc => isAlphanum_image_leading hc) (endsName_trailing held)).1

@[simp] lemma trailing_text (r : Renaming) (held : String) : trailing (r.text held) = trailing held :=
  (parts_ofList (fun _ hc => isAlphanum_image_leading hc) (endsName_trailing held)).2

/-- **A renaming never makes two texts the same.** -/
lemma text_injective (r : Renaming) : Function.Injective r.text := by
  intro first second h
  have hleading := congrArg leading h
  have htrailing := congrArg trailing h
  rw [leading_text, leading_text] at hleading
  rw [trailing_text, trailing_text] at htrailing
  rw [eq_ofList first, eq_ofList second, r.injective hleading, htrailing]

lemma text_append (h : endsName more.toList = true) : r.text (held ++ more) = r.text held ++ more := by
  apply String.toList_injective
  simp [text, parts_append h]

end Renaming

/-! ### Roots and paths -/

namespace Text

/-- Whether a text begins with a name in lower case, which nothing follows or a sign that ends a word. -/
def isHeaded (text : String) : Bool :=
  (leading text).all isLow && (trailing text).head?.all fun c => c = '_' || c = '#'

/-- Whether a text begins with a name in lower case, which nothing follows, a sign that ends a word or a point. -/
def isPathed (text : String) : Bool :=
  (leading text).all isLow && (trailing text).head?.all fun c => c = '_' || c = '#' || c = '.'

lemma isHeaded_append (h : isHeaded root = true)
    (hmore : more.toList = sign :: rest) (hsign : sign = '_' ∨ sign = '#') : isHeaded (root ++ more) = true := by
  have hends : endsName more.toList = true := by
    rw [hmore]
    rcases hsign with rfl | rfl <;> exact endsName_of_head (by decide)
  simp only [isHeaded, Bool.and_eq_true] at h ⊢
  rw [(parts_append hends).1, (parts_append hends).2, hmore]
  refine ⟨h.1, ?_⟩
  cases htrailing : trailing root with
  | nil => simpa using hsign
  | cons c others =>
    rw [htrailing] at h
    exact h.2

lemma isPathed_append (h : isHeaded root = true)
    (hmore : more = "" ∨ ∃ rest, more.toList = '.' :: rest) : isPathed (root ++ more) = true := by
  have hends : endsName more.toList = true := by
    rcases hmore with rfl | ⟨rest, hrest⟩
    · rfl
    · rw [hrest]
      exact endsName_of_head (by decide)
  simp only [isHeaded, isPathed, Bool.and_eq_true] at h ⊢
  rw [(parts_append hends).1, (parts_append hends).2]
  refine ⟨h.1, ?_⟩
  cases htrailing : trailing root with
  | nil =>
    rcases hmore with rfl | ⟨rest, hrest⟩
    · rfl
    · rw [hrest]
      rfl
  | cons c others =>
    have hc := h.2
    rw [htrailing] at hc
    rcases (by simpa using hc : c = '_' ∨ c = '#') with rfl | rfl <;> rfl

end Text

/-! ### Lower case -/

namespace Text

lemma lowerAfter_sign (hsign : sign = '_' ∨ sign = '#') (before rest : List Char) :
    lowerAfter before (sign :: rest) = sign :: lowerAfter (sign :: before) rest := by
  have hlow : sign.toNat ≠ 0x03A3 ∧ lowerChar sign = [sign] := by
    rcases hsign with rfl | rfl <;> decide +kernel
  rw [lowerAfter, if_neg hlow.1, hlow.2]
  rfl

lemma meetsCased_sign (hsign : sign = '_' ∨ sign = '#') (near before before' : List Char) :
    meetsCased (near ++ sign :: before) = meetsCased (near ++ sign :: before') := by
  have hends : inRanges caseIgnorableRanges sign = false := by
    rcases hsign with rfl | rfl <;> decide +kernel
  induction near with
  | nil => simp [meetsCased, hends]
  | cons c others ih =>
    unfold meetsCased at ih ⊢
    by_cases hc : inRanges caseIgnorableRanges c = true
    · simpa [hc] using ih
    · simp [hc]

lemma lowerAfter_congr (hsign : sign = '_' ∨ sign = '#') (near before before' rest : List Char) :
    lowerAfter (near ++ sign :: before) rest = lowerAfter (near ++ sign :: before') rest := by
  induction rest generalizing near with
  | nil => rfl
  | cons c others ih =>
    rw [lowerAfter, lowerAfter, meetsCased_sign hsign near before before']
    have hrest := ih (c :: near)
    rw [List.cons_append, List.cons_append] at hrest
    rw [hrest]

lemma lowerAfter_append (h : ∀ c ∈ name, isLow c = true) (before rest : List Char) :
    lowerAfter before (name ++ rest) = name ++ lowerAfter (name.reverse ++ before) rest := by
  induction name generalizing before with
  | nil => rfl
  | cons c others ih =>
    have hc := h c List.mem_cons_self
    simp only [isLow, Bool.and_eq_true, beq_iff_eq, bne_iff_ne] at hc
    rw [List.cons_append, lowerAfter, if_neg hc.2, hc.1, ih fun other hother => h other (List.mem_cons_of_mem _ hother)]
    simp

lemma lowerAfter_trailing (h : (rest.head?.all fun c => c = '_' || c = '#') = true)
    (before before' : List Char) : lowerAfter before rest = lowerAfter before' rest := by
  cases rest with
  | nil => rfl
  | cons sign others =>
    have hsign : sign = '_' ∨ sign = '#' := by simpa using h
    rw [lowerAfter_sign hsign, lowerAfter_sign hsign]
    exact congrArg (sign :: ·) (lowerAfter_congr hsign [] before before' others)

lemma head_lowerAfter (h : (rest.head?.all fun c => c = '_' || c = '#') = true)
    (before : List Char) : (lowerAfter before rest).head? = rest.head? := by
  cases rest with
  | nil => rfl
  | cons sign others =>
    rw [lowerAfter_sign (by simpa using h)]
    rfl

lemma endsName_of_signs (h : (rest.head?.all fun c => c = '_' || c = '#') = true) : endsName rest = true := by
  cases rest with
  | nil => rfl
  | cons sign others =>
    rcases (by simpa using h : sign = '_' ∨ sign = '#') with rfl | rfl <;> exact endsName_of_head (by decide)

variable {held : String}

lemma lower_of_isHeaded (h : isHeaded held = true) : lower held = .ofList (leading held ++ lowerAfter [] (trailing held)) := by
  simp only [isHeaded, Bool.and_eq_true, List.all_eq_true] at h
  rw [lower, ← leading_append_trailing, lowerAfter_append h.1, lowerAfter_trailing h.2]

lemma parts_lower (h : isHeaded held = true) :
    leading (lower held) = leading held ∧ trailing (lower held) = lowerAfter [] (trailing held) := by
  have hsigns := h
  simp only [isHeaded, Bool.and_eq_true] at hsigns
  rw [lower_of_isHeaded h]
  refine parts_ofList (fun _ hc => isAlphanum_of_mem_leading hc) (endsName_of_signs ?_)
  rw [head_lowerAfter hsigns.2]
  exact hsigns.2

lemma isHeaded_lower (h : isHeaded held = true) : isHeaded (lower held) = true := by
  have hsigns := h
  simp only [isHeaded, Bool.and_eq_true] at hsigns ⊢
  rw [(parts_lower h).1, (parts_lower h).2, head_lowerAfter hsigns.2]
  exact hsigns

/-! ### Single characters -/

lemma toLower_of_le (h : 128 ≤ c.toNat) : c.toLower = c := by
  have hval : c.toNat = c.val.toNat := rfl
  have hlast : 'Z'.val.toNat = 90 := rfl
  refine dif_neg fun hrange => ?_
  have hbound := UInt32.le_iff_toNat_le.1 hrange.2
  omega

lemma isAlphanum_toLower (c : Char) : c.toLower.isAlphanum = c.isAlphanum := by
  have hbasic : ∀ n < 128, (Char.ofNat n).toLower.isAlphanum = (Char.ofNat n).isAlphanum := by decide +kernel
  rcases Nat.lt_or_ge c.toNat 128 with hc | hc
  · simpa only [Char.ofNat_toNat] using hbasic c.toNat hc
  · rw [toLower_of_le hc]

lemma toLower_of_isLow (h : isLow c = true) : c.toLower = c := by
  rcases Nat.lt_or_ge c.toNat 128 with hc | hc
  · simp only [isLow, lowerChar, hc, if_true, Bool.and_eq_true, beq_iff_eq, List.cons.injEq, and_true] at h
    exact h.1
  · exact toLower_of_le hc

lemma lt_of_isAlphanum (h : c.isAlphanum = true) : c.toNat < 128 := by
  have hbound : c.val ≤ 'z'.val := by
    rcases Bool.or_eq_true_iff.1 h with halpha | hdigit
    · rcases Bool.or_eq_true_iff.1 halpha with hupper | hlower
      · have hrange : c.val ≥ 'A'.val ∧ c.val ≤ 'Z'.val := of_decide_eq_true hupper
        exact Nat.le_trans hrange.2 (by decide)
      · exact of_decide_eq_true (Bool.and_eq_true_iff.1 hlower).2
    · have hle : c.val ≤ '9'.val := of_decide_eq_true (Bool.and_eq_true_iff.1 hdigit).2
      exact Nat.le_trans hle (by decide)
  exact Nat.lt_of_le_of_lt hbound (by decide)

lemma isLow_toLower (h : c.isAlphanum = true) : isLow c.toLower = true := by
  have hbasic : ∀ n < 128, isLow (Char.ofNat n).toLower = true := by decide +kernel
  simpa only [Char.ofNat_toNat] using hbasic c.toNat (lt_of_isAlphanum h)

lemma lowerAfter_of_isAlphanum (h : ∀ c ∈ name, c.isAlphanum = true) (before : List Char) :
    lowerAfter before name = name.map Char.toLower := by
  induction name generalizing before with
  | nil => rfl
  | cons c rest ih =>
    have hc := lt_of_isAlphanum (h c List.mem_cons_self)
    rw [lowerAfter, if_neg (by omega), lowerChar, if_pos hc, ih fun c hc => h c (List.mem_cons_of_mem _ hc)]
    rfl

lemma lower_of_isAlphanum (h : held.toList.all Char.isAlphanum = true) : lower held = lowerBasic held := by
  apply String.toList_injective
  rw [lower, String.toList_ofList, lowerAfter_of_isAlphanum (List.all_eq_true.1 h), lowerBasic, String.toList_map]

lemma isAlphanum_of_mem_lowerBasic (h : held.toList.all Char.isAlphanum = true)
    (hc : c ∈ (lowerBasic held).toList) : c.isAlphanum = true ∧ isLow c = true := by
  rw [lowerBasic, String.toList_map] at hc
  obtain ⟨d, hd, rfl⟩ := List.mem_map.1 hc
  have hd := List.all_eq_true.1 h d hd
  exact ⟨(isAlphanum_toLower d).trans hd, isLow_toLower hd⟩

lemma leading_lower_of_isAlphanum (h : held.toList.all Char.isAlphanum = true) :
    leading (lower held) = (lower held).toList ∧ trailing (lower held) = [] := by
  rw [lower_of_isAlphanum h]
  have hname : ∀ c ∈ (lowerBasic held).toList, c.isAlphanum = true := fun c hc => (isAlphanum_of_mem_lowerBasic h hc).1
  exact ⟨List.takeWhile_eq_self_iff.2 hname, List.dropWhile_eq_nil_iff.2 hname⟩

lemma isHeaded_lower_of_isAlphanum (h : held.toList.all Char.isAlphanum = true) : isHeaded (lower held) = true := by
  obtain ⟨hleading, htrailing⟩ := leading_lower_of_isAlphanum h
  rw [isHeaded, hleading, htrailing, lower_of_isAlphanum h]
  simpa using fun c hc => (isAlphanum_of_mem_lowerBasic h hc).2

lemma isAlphanum_plainChar (c : Char) : (Compile.plainChar c).isAlphanum = c.isAlphanum := by
  unfold Compile.plainChar
  split
  · rename_i hc
    rcases (by simpa [or_assoc] using hc : c = '.' ∨ c = ':' ∨ c = '#') with rfl | rfl | rfl <;> rfl
  · rfl

lemma plainChar_of_isAlphanum (h : c.isAlphanum = true) : Compile.plainChar c = c := by
  refine if_neg fun hc => ?_
  rcases (by simpa [or_assoc] using hc : c = '.' ∨ c = ':' ∨ c = '#') with rfl | rfl | rfl <;> cases h

lemma map_of_low (hsame : ∀ c, c.isAlphanum = true → isLow c = true → change c = c)
    (hname : ∀ c ∈ name, c.isAlphanum = true) (hlow : ∀ c ∈ name, isLow c = true) : name.map change = name :=
  (List.map_congr_left fun c hc => hsame c (hname c hc) (hlow c hc)).trans (List.map_id' name)

lemma leading_map (hkind : ∀ c, (change c).isAlphanum = c.isAlphanum)
    (hsame : ∀ c, c.isAlphanum = true → isLow c = true → change c = c) (h : (leading held).all isLow = true) :
    leading (held.map change) = leading held := by
  have hmap : leading (held.map change) = (leading held).map change := by
    simp only [leading, String.toList_map, List.takeWhile_map, Function.comp_def, hkind]
  rw [hmap, map_of_low hsame (fun _ hc => isAlphanum_of_mem_leading hc) (List.all_eq_true.1 h)]

lemma trailing_map (hkind : ∀ c, (change c).isAlphanum = c.isAlphanum) :
    trailing (held.map change) = (trailing held).map change := by
  simp only [trailing, String.toList_map, List.dropWhile_map, Function.comp_def, hkind]

lemma isHeaded_map_plainChar (h : isPathed held = true) : isHeaded (held.map Compile.plainChar) = true := by
  simp only [isPathed, isHeaded, Bool.and_eq_true] at h ⊢
  rw [leading_map isAlphanum_plainChar (fun c hc _ => plainChar_of_isAlphanum hc) h.1,
    trailing_map isAlphanum_plainChar]
  refine ⟨h.1, ?_⟩
  cases htrailing : trailing held with
  | nil => rfl
  | cons c others =>
    have hc := h.2
    rw [htrailing] at hc
    rcases (by simpa [or_assoc] using hc : c = '_' ∨ c = '#' ∨ c = '.') with rfl | rfl | rfl <;> rfl

end Text

namespace Renaming

open Text

variable {r : Renaming} {held : String}

lemma isHeaded_text (h : isHeaded held = true) : isHeaded (r.text held) = true := by
  simp only [isHeaded, Bool.and_eq_true, List.all_eq_true, leading_text, trailing_text] at h ⊢
  exact ⟨r.low _ h.1, h.2⟩

/-- **A renaming commutes with lower case.** -/
lemma lower_text (h : isHeaded held = true) : lower (r.text held) = r.text (lower held) := by
  rw [lower_of_isHeaded (isHeaded_text h), leading_text, trailing_text, text, (parts_lower h).1, (parts_lower h).2]

lemma map_text (hkind : ∀ c, (change c).isAlphanum = c.isAlphanum)
    (hsame : ∀ c, c.isAlphanum = true → isLow c = true → change c = c) (h : (leading held).all isLow = true) :
    (r.text held).map change = r.text (held.map change) := by
  have himage : (r.image (leading held)).map change = r.image (leading held) :=
    map_of_low hsame (fun _ hc => isAlphanum_image_leading hc) (r.low _ (List.all_eq_true.1 h))
  apply String.toList_injective
  rw [text, text, leading_map hkind hsame h, trailing_map hkind, String.toList_map, String.toList_ofList,
    String.toList_ofList, List.map_append, himage]

lemma lowerBasic_text (h : isHeaded held = true) : lowerBasic (r.text held) = r.text (lowerBasic held) := by
  simp only [isHeaded, Bool.and_eq_true] at h
  exact map_text isAlphanum_toLower (fun c _ hlow => toLower_of_isLow hlow) h.1

lemma map_plainChar_text (h : isPathed held = true) :
    (r.text held).map Compile.plainChar = r.text (held.map Compile.plainChar) := by
  simp only [isPathed, Bool.and_eq_true] at h
  exact map_text isAlphanum_plainChar (fun c hc _ => plainChar_of_isAlphanum hc) h.1

end Renaming

/-! ### Keys -/

namespace Text

lemma head_splitChars (h : (splitChars sep rest).1.head? = some c) : rest.head? = some c ∧ c ≠ sep := by
  cases rest with
  | nil => cases h
  | cons first others =>
    by_cases hfirst : first = sep
    · subst hfirst
      rw [splitChars_sep] at h
      cases h
    · rw [splitChars_of_ne hfirst] at h
      cases h
      exact ⟨rfl, hfirst⟩

end Text

namespace Renaming

open Text

variable {r : Renaming} {held : String}

/-- The pieces of a path: only the first one is renamed, which is headed by the name. -/
lemma split_text (r : Renaming) (h : isPathed held = true) :
    ∃ root rest, split '.' held = root :: rest ∧ split '.' (r.text held) = r.text root :: rest ∧ isHeaded root = true := by
  have hpoint : ∀ name : List Char, (∀ c ∈ name, c.isAlphanum = true) → '.' ∉ name := fun name hname hmem =>
    absurd (hname _ hmem) (by decide)
  have hname : ∀ c ∈ leading held, c.isAlphanum = true := fun _ hc => isAlphanum_of_mem_leading hc
  have himage : ∀ c ∈ r.image (leading held), c.isAlphanum = true := fun _ hc => isAlphanum_image_leading hc
  simp only [isPathed, Bool.and_eq_true] at h
  have hhead : ∀ c, (splitChars '.' (trailing held)).1.head? = some c → c = '_' ∨ c = '#' := by
    intro c hc
    obtain ⟨hc, hne⟩ := head_splitChars hc
    have hsign := h.2
    rw [hc] at hsign
    simpa [hne] using hsign
  have hends : endsName (splitChars '.' (trailing held)).1 = true := by
    refine endsName_of_signs ?_
    cases hfirst : (splitChars '.' (trailing held)).1.head? with
    | none => rfl
    | some c => simpa using hhead c hfirst
  obtain ⟨hleading, htrailing⟩ := parts_ofList hname hends
  refine ⟨.ofList (leading held ++ (splitChars '.' (trailing held)).1),
    (splitChars '.' (trailing held)).2.map .ofList, ?_, ?_, ?_⟩
  · rw [split, ← leading_append_trailing held, splitChars_append (hpoint _ hname)]
    rfl
  · rw [split, ← leading_append_trailing (r.text held), leading_text, trailing_text,
      splitChars_append (hpoint _ himage), text, hleading, htrailing]
    rfl
  · simp only [isHeaded, Bool.and_eq_true]
    rw [hleading, htrailing]
    refine ⟨h.1, ?_⟩
    cases hfirst : (splitChars '.' (trailing held)).1.head? with
    | none => rfl
    | some c => simpa using hhead c hfirst

/-- **The key of a renamed path is the renamed key.** -/
lemma aliasKey_text (h : isPathed held = true) (table : Table) :
    Compile.aliasKey (r.text held) table = r.text (Compile.aliasKey held table) := by
  obtain ⟨root, rest, hsplit, hsplit', hroot⟩ := r.split_text h
  have hpoint : ∀ more : String, endsName ("." ++ more).toList = true := fun more => by simp [endsName]
  have hcolon : ∀ more : String, endsName (":" ++ more).toList = true := fun more => by simp [endsName]
  unfold Compile.aliasKey splitFirst?
  rw [hsplit, hsplit']
  cases rest with
  | nil =>
    have hheld : held = root := by
      have hjoin := join_split '.' held
      rw [hsplit, join, String.intercalate_singleton] at hjoin
      exact hjoin.symm
    simp only [hheld, lower_text hroot, String.append_assoc]
    rw [text_append (hcolon _)]
  | cons next others =>
    simp only [lower_text hroot, String.append_assoc]
    rw [text_append (hpoint _)]

end Renaming

end EntityQuery
