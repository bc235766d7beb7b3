import EntityQuery.Proofs.Scoping.Clear
import Mathlib.Data.List.Basic

/-!
The names of variables. What is in lower case stays as it is, so a variable is found under the root that it is declared
with; and the root of a new declaration is always new, as long as no name has the sign that numbers are put after.
-/

namespace EntityQuery

/-! ### Lower case -/

variable {c : Char} {other : String}

namespace Text

def isLow (c : Char) : Bool :=
  lowerChar c == [c] && c.toNat != 0x03A3

/-- Whether a form of a character is in lower case and has the sign for numbered names only if the character is it. -/
def isTame (c : Char) (form : List Char) : Bool :=
  form.all fun low => isLow low && (low != '#' || c == '#')

/-- Whether no form that a run leads to is in another run: it lies before or behind it, or between its characters. -/
def CaseRun.misses (run other : CaseRun) : Bool :=
  let first := ((run.first : Int) + run.shift).toNat
  let last := ((run.last : Int) + run.shift).toNat
  Nat.blt last other.first || Nat.blt other.last first ||
    (Nat.blt 0 first && other.step == 2 && (run.step == 2 || run.first == run.last) && (first + other.first) % 2 == 1)

/-- The runs, and the characters that no form may be. -/
def avoidedRuns : List CaseRun :=
  ⟨0x0023, 0x0023, 1, 0⟩ :: ⟨0x0130, 0x0130, 1, 0⟩ :: ⟨0x03A3, 0x03A3, 1, 0⟩ :: caseRuns

lemma misses_avoidedRuns : ∀ run ∈ caseRuns, ∀ other ∈ avoidedRuns, run.misses other = true := by
  decide +kernel

variable {n : Nat} {text : String}

lemma CaseRun.covers_eq_false_of_misses {run other : CaseRun} (h : run.misses other = true)
    (hcovers : run.covers n = true) : other.covers ((n : Int) + run.shift).toNat = false := by
  simp only [CaseRun.covers, Bool.and_eq_true, decide_eq_true_eq, beq_iff_eq] at hcovers
  obtain ⟨⟨hfirst, hlast⟩, hstep⟩ := hcovers
  by_contra hother
  simp only [CaseRun.covers, Bool.not_eq_false, Bool.and_eq_true, decide_eq_true_eq, beq_iff_eq] at hother
  obtain ⟨⟨hfirst', hlast'⟩, hstep'⟩ := hother
  simp only [CaseRun.misses, Bool.or_eq_true, Bool.and_eq_true, beq_iff_eq, Nat.blt_eq] at h
  rcases h with (h | h) | ⟨⟨⟨hpositive, htwo⟩, hrun⟩, hodd⟩
  · omega
  · omega
  · rw [htwo] at hstep'
    rcases hrun with hrun | hrun
    · rw [hrun] at hstep
      omega
    · omega

lemma toNat_ofNat (n : Nat) : (Char.ofNat n).toNat = n ∨ Char.ofNat n = Char.ofNat 0 := by
  by_cases h : n.isValidChar
  · left
    rw [Char.ofNat, dif_pos h]
    rfl
  · right
    rw [Char.ofNat, dif_neg h]
    rfl

lemma isLow_ofNat (h : ∀ run ∈ avoidedRuns, run.covers n = false) : isLow (Char.ofNat n) = true ∧ Char.ofNat n ≠ '#' := by
  have hbasic : ∀ n < 128, isLow (Char.ofNat n) = true ∨ ∃ run ∈ avoidedRuns, run.covers n = true := by
    decide +kernel
  have hmem : ∀ n, n = 0x0023 ∨ n = 0x0130 ∨ n = 0x03A3 → (⟨n, n, 1, 0⟩ : CaseRun) ∈ avoidedRuns := by
    rintro n (rfl | rfl | rfl) <;> simp [avoidedRuns]
  rcases toNat_ofNat n with hvalue | hzero
  · constructor
    · by_cases hn : n < 128
      · refine (hbasic n hn).resolve_right ?_
        rintro ⟨run, hrun, hcovers⟩
        exact absurd (h run hrun) (by simp [hcovers])
      · have hruns : caseRuns.find? (fun run => run.covers n) = none := by
          rw [List.find?_eq_none]
          intro run hrun
          rw [h run (List.mem_cons_of_mem _ (List.mem_cons_of_mem _ (List.mem_cons_of_mem _ hrun)))]
          exact Bool.false_ne_true
        have hdotted : n ≠ 0x0130 := by
          rintro rfl
          exact absurd (h _ (hmem _ (.inr (.inl rfl)))) (by decide)
        have hsigma : n ≠ 0x03A3 := by
          rintro rfl
          exact absurd (h _ (hmem _ (.inr (.inr rfl)))) (by decide)
        simp [isLow, lowerChar, hvalue, hn, hdotted, hsigma, hruns]
    · intro hsign
      have hn : n = 0x23 := by
        rw [← hvalue, hsign]
        rfl
      rw [hn] at h
      exact absurd (h _ (hmem _ (.inl rfl))) (by decide)
  · rw [hzero]
    decide +kernel

lemma isTame_basic : ∀ n < 128, isTame (Char.ofNat n) [(Char.ofNat n).toLower] = true := by
  decide +kernel

lemma isTame_lowerChar (h : c.toNat ≠ 0x03A3) : isTame c (lowerChar c) = true := by
  unfold lowerChar
  split
  · rename_i hbasic
    simpa only [Char.ofNat_toNat] using isTame_basic c.toNat hbasic
  · split
    · rename_i hdotted
      rw [← c.ofNat_toNat, hdotted]
      decide +kernel
    · rename_i hbasic hdotted
      cases hrun : caseRuns.find? fun run => run.covers c.toNat with
      | some run =>
        have hcovers := List.find?_some hrun
        have hmisses := misses_avoidedRuns run (List.mem_of_find?_eq_some hrun)
        have hfree : ∀ other ∈ avoidedRuns, other.covers ((c.toNat : Int) + run.shift).toNat = false :=
          fun other hother => CaseRun.covers_eq_false_of_misses (hmisses other hother) hcovers
        obtain ⟨hlow, hsign⟩ := isLow_ofNat hfree
        simp [isTame, hlow, hsign]
      | none =>
        have hlow : isLow c = true := by simp [isLow, lowerChar, hbasic, hdotted, hrun, h]
        simp only [isTame, List.all_cons, List.all_nil, hlow, Bool.true_and, Bool.and_true]
        cases hsign : c == '#' <;> simp [bne, hsign]

lemma isTame_lowerAfter (before cs : List Char) : ∀ low ∈ lowerAfter before cs, isLow low = true ∧ (low = '#' → '#' ∈ cs) := by
  induction cs generalizing before with
  | nil => simp [lowerAfter]
  | cons c rest ih =>
    intro low hlow
    rw [lowerAfter, List.mem_append] at hlow
    rcases hlow with hlow | hlow
    · split at hlow
      · -- both forms of sigma are in lower case
        have hsigma : isLow (Char.ofNat 0x03C2) = true ∧ isLow (Char.ofNat 0x03C3) = true := by decide +kernel
        have hsign : Char.ofNat 0x03C2 ≠ '#' ∧ Char.ofNat 0x03C3 ≠ '#' := by decide
        rw [List.mem_singleton] at hlow
        split at hlow
        · exact ⟨hlow ▸ hsigma.1, fun h => absurd (hlow ▸ h) hsign.1⟩
        · exact ⟨hlow ▸ hsigma.2, fun h => absurd (hlow ▸ h) hsign.2⟩
      · have htame := List.all_eq_true.1 (isTame_lowerChar ‹_›) low hlow
        simp only [Bool.and_eq_true, Bool.or_eq_true, bne_iff_ne, beq_iff_eq] at htame
        refine ⟨htame.1, fun hsign => ?_⟩
        rcases htame.2 with hne | hc
        · exact absurd hsign hne
        · rw [hc]
          exact List.mem_cons_self
    · obtain ⟨hisLow, hsign⟩ := ih (c :: before) low hlow
      exact ⟨hisLow, fun h => List.mem_cons_of_mem _ (hsign h)⟩

lemma lowerAfter_of_isLow {before cs : List Char} (h : ∀ c ∈ cs, isLow c = true) : lowerAfter before cs = cs := by
  induction cs generalizing before with
  | nil => rfl
  | cons c rest ih =>
    have hc := h c List.mem_cons_self
    simp only [isLow, Bool.and_eq_true, beq_iff_eq, bne_iff_ne] at hc
    rw [lowerAfter, if_neg hc.2, hc.1, ih fun other hother => h other (List.mem_cons_of_mem _ hother)]
    rfl

lemma isLow_of_mem_lower (h : c ∈ (lower text).toList) : isLow c = true := by
  rw [lower, String.toList_ofList] at h
  exact (isTame_lowerAfter [] text.toList c h).1

lemma sign_not_mem_lower (h : '#' ∉ text.toList) : '#' ∉ (lower text).toList := by
  intro hmem
  rw [lower, String.toList_ofList] at hmem
  exact h ((isTame_lowerAfter [] text.toList '#' hmem).2 rfl)

lemma lower_of_isLow (h : ∀ c ∈ text.toList, isLow c = true) : lower text = text := by
  rw [lower, lowerAfter_of_isLow h, String.ofList_toList]

lemma lower_lower (text : String) : lower (lower text) = lower text :=
  lower_of_isLow fun _ h => isLow_of_mem_lower h

/-! ### Numbers in names -/

lemma isDigit_of_mem_toString (h : c ∈ (toString n).toList) : c.isDigit = true := by
  rw [Nat.toString_eq_ofList_toDigits, String.toList_ofList] at h
  exact Nat.isDigit_of_mem_toDigits (by decide) (by decide) h

lemma isLow_of_isDigit (h : c.isDigit = true) : isLow c = true := by
  have hdigits : ∀ n < 128, (Char.ofNat n).isDigit = true → isLow (Char.ofNat n) = true := by decide +kernel
  have hbound : c.toNat < 128 := by
    simp only [Char.isDigit, Bool.and_eq_true, decide_eq_true_eq, UInt32.le_iff_toNat_le] at h
    have hc : c.toNat = c.val.toNat := rfl
    have hlast : '9'.val.toNat = 57 := rfl
    omega
  have hlow := hdigits c.toNat hbound
  rw [Char.ofNat_toNat] at hlow
  exact hlow h

lemma toString_injective {m : Nat} (h : (toString m).toList = (toString n).toList) : m = n := by
  rw [Nat.toString_eq_ofList_toDigits, Nat.toString_eq_ofList_toDigits, String.toList_ofList,
    String.toList_ofList] at h
  rw [← Nat.ofDigitChars_ten_toDigits (n := m), h, Nat.ofDigitChars_ten_toDigits]

end Text

/-! ### Roots -/

lemma lookup_concat_cases {κ α : Type} [BEq κ] [LawfulBEq κ] {entries : List (κ × α)} {key other : κ} {value found : α}
    (h : (entries ++ [(key, value)]).lookup other = some found) :
    entries.lookup other = some found ∨ other = key ∧ found = value := by
  rw [List.lookup_append, Option.or_eq_some_iff] at h
  refine h.imp_right fun h => ?_
  rw [List.lookup_cons] at h
  split at h
  · rename_i heq
    exact ⟨eq_of_beq heq, (Option.some.inj h.2).symm⟩
  · cases h.2

namespace Scope

/-- A scope in which a name with the sign for numbered names is a plain one with a number that has been used. -/
def Numbered (scope : Scope) : Prop :=
  ∀ root entry, scope.roots.lookup root = some entry → '#' ∈ root.toList →
    ∃ name number, root = name ++ "#" ++ toString number ∧ '#' ∉ name.toList ∧ number < scope.roots.length

variable {scope changed : Scope} {name root id : String} {entry : Variable} {occurrence : Occurrence}

lemma freshRoot_eq (scope : Scope) (name : String) : scope.freshRoot name = name ∧ scope.roots.lookup name = none ∨
    scope.freshRoot name = name ++ "#" ++ toString scope.roots.length := by
  unfold freshRoot
  cases scope.roots.lookup name with
  | none => exact .inl ⟨rfl, rfl⟩
  | some entry => exact .inr rfl

lemma toList_numbered (name : String) (number : Nat) :
    (name ++ "#" ++ toString number).toList = name.toList ++ '#' :: (toString number).toList := by
  simp [String.toList_append]

lemma mem_freshRoot (h : c ∈ (scope.freshRoot name).toList) : c ∈ name.toList ∨ c = '#' ∨ c.isDigit = true := by
  rcases scope.freshRoot_eq name with ⟨hroot, -⟩ | hroot
  · rw [hroot] at h
    exact .inl h
  · rw [hroot, toList_numbered, List.mem_append, List.mem_cons] at h
    exact h.imp_right (Or.imp_right Text.isDigit_of_mem_toString)

/-- **The root of a new declaration is new.** -/
lemma Numbered.lookup_freshRoot (h : scope.Numbered) (hname : '#' ∉ name.toList) :
    scope.roots.lookup (scope.freshRoot name) = none := by
  rcases scope.freshRoot_eq name with ⟨hroot, hnone⟩ | hroot
  · rw [hroot, hnone]
  · rw [hroot]
    cases hlookup : scope.roots.lookup (name ++ "#" ++ toString scope.roots.length) with
    | none => rfl
    | some entry =>
      have hsign : '#' ∈ (name ++ "#" ++ toString scope.roots.length).toList := by simp
      obtain ⟨other, number, heq, -, hnumber⟩ := h _ entry hlookup hsign
      have hlists := congrArg String.toList heq
      rw [toList_numbered, toList_numbered] at hlists
      have hdigits : '#' ∉ (toString scope.roots.length).toList := by
        intro hmem
        exact absurd (Text.isDigit_of_mem_toString hmem) (by decide)
      obtain ⟨-, -, hsame⟩ := (List.append_cons_inj_of_notMem hname hdigits).1 hlists
      have hlength := Text.toString_injective hsame
      omega

lemma lookup_putVariable (root other : String) (entry : Variable) (roots : List (String × Variable)) :
    (putVariable root entry roots).lookup other = if other = root then some entry else roots.lookup other := by
  induction roots with
  | nil => grind [putVariable]
  | cons first rest ih =>
    obtain ⟨name, held⟩ := first
    grind [putVariable]

lemma putVariable_of_lookup_eq_none {roots : List (String × Variable)} (h : roots.lookup root = none) :
    putVariable root entry roots = roots ++ [(root, entry)] := by
  induction roots with
  | nil => rfl
  | cons first rest ih =>
    obtain ⟨other, held⟩ := first
    rw [List.lookup_cons] at h
    split at h
    · cases h
    · rename_i hne
      have hother : other ≠ root := by
        rintro rfl
        simp at hne
      rw [putVariable, if_neg hother, ih h]
      rfl

lemma lower_freshRoot (scope : Scope) (id : String) :
    Text.lower (scope.freshRoot (Text.lower id)) = scope.freshRoot (Text.lower id) := by
  have hsign : Text.isLow '#' = true := by decide +kernel
  apply Text.lower_of_isLow
  intro c hc
  rcases mem_freshRoot hc with hc | rfl | hc
  · exact Text.isLow_of_mem_lower hc
  · exact hsign
  · exact Text.isLow_of_isDigit hc

lemma declare?_eq_some (h : scope.declare? id entry = some (changed, occurrence)) :
    ∃ frame rest, scope.frames = frame :: rest ∧ frame.lookup (Text.lower id) = none ∧
      changed = { frames := (frame ++ [(Text.lower id, scope.freshRoot (Text.lower id))]) :: rest
                  roots := putVariable (scope.freshRoot (Text.lower id)) entry scope.roots } ∧
      occurrence = .root (scope.freshRoot (Text.lower id)) := by
  unfold declare? at h
  cases hframes : scope.frames with
  | nil => simp [hframes] at h
  | cons frame rest =>
    simp only [hframes] at h
    split at h
    · cases h
    · rename_i hnew
      cases h
      exact ⟨frame, rest, rfl, Option.not_isSome_iff_eq_none.1 hnew, rfl, by rw [Occurrence.ofVariable, lower_freshRoot]⟩

lemma popFrame_eq {frames : List (List (String × String))} (h : scope.frames.tail = frames) (hframes : frames ≠ []) :
    scope.popFrame = { scope with frames } := by
  subst h
  obtain ⟨frames, roots⟩ := scope
  rcases frames with _ | ⟨first, _ | ⟨next, rest⟩⟩
  · exact absurd rfl hframes
  · exact absurd rfl hframes
  · rfl

lemma roots_popFrame (scope : Scope) : scope.popFrame.roots = scope.roots := by
  unfold popFrame
  split <;> rfl

/-- What a declaration of a plain name changes: there is one root more, and the name leads to it. -/
structure Declared (scope changed : Scope) (id root : String) (entry : Variable) : Prop where
  low : Text.lower root = root
  fresh : scope.roots.lookup root = none
  roots : changed.roots = scope.roots ++ [(root, entry)]
  frames : ∃ frame rest, scope.frames = frame :: rest ∧ frame.lookup (Text.lower id) = none ∧
    changed.frames = (frame ++ [(Text.lower id, root)]) :: rest
  numbered : changed.Numbered

lemma Declared.lookup_root (h : Declared scope changed id root entry) : changed.declared? root = some entry := by
  rw [declared?, h.roots, List.lookup_append, h.fresh]
  simp

lemma Declared.declared?_of_declared? (h : Declared scope changed id root entry) {held : Variable}
    (hother : scope.declared? other = some held) : changed.declared? other = some held := by
  rw [declared?] at hother
  rw [declared?, h.roots, List.lookup_append, hother]
  rfl

def Sees (scope : Scope) (name root : String) : Prop :=
  (scope.frames.headD []).lookup name = some root ∧ Text.lower root = root

lemma Sees.unique (h : scope.Sees name root) (h' : scope.Sees name other) : root = other := by
  have hsame := h.1.symm.trans h'.1
  cases hsame
  rfl

lemma Sees.lookup? (h : scope.Sees (Text.lower id) root) : scope.lookup? id = some (.root root) := by
  obtain ⟨hlookup, hlow⟩ := h
  unfold Scope.lookup?
  cases hframes : scope.frames with
  | nil => simp [hframes] at hlookup
  | cons frame rest =>
    rw [hframes] at hlookup
    rw [List.findSome?_cons, show frame.lookup (Text.lower id) = some root from hlookup]
    simp [Occurrence.ofVariable, hlow]

lemma Sees.of_begins (h : scope.Sees name root) (hinner : scope.frames.headD [] <+: changed.frames.headD []) :
    changed.Sees name root := by
  obtain ⟨added, hadded⟩ := hinner
  refine ⟨?_, h.2⟩
  rw [← hadded, List.lookup_append, h.1]
  rfl

lemma Declared.sees (h : Declared scope changed id root entry) : changed.Sees (Text.lower id) root := by
  obtain ⟨frame, rest, -, hnew, hframes⟩ := h.frames
  refine ⟨?_, h.low⟩
  rw [hframes, List.headD_cons, List.lookup_append, hnew]
  simp

lemma Numbered.declare? (h : scope.Numbered) (hplain : plainName id = true)
    (hok : scope.declare? id entry = some (changed, occurrence)) :
    ∃ root, occurrence = .root root ∧ Declared scope changed id root entry := by
  have hname : '#' ∉ (Text.lower id).toList := Text.sign_not_mem_lower (by simpa [plainName] using hplain)
  have hfresh := h.lookup_freshRoot hname
  have hput : putVariable (scope.freshRoot (Text.lower id)) entry scope.roots = _ := putVariable_of_lookup_eq_none hfresh
  obtain ⟨frame, rest, hframes, hnew, rfl, rfl⟩ := declare?_eq_some hok
  refine ⟨_, rfl, scope.lower_freshRoot id, hfresh, hput, ⟨frame, rest, hframes, hnew, rfl⟩, ?_⟩
  -- the new root is plain, or numbered by the roots there were
  intro root held hroot hsign
  have hlength : (putVariable (scope.freshRoot (Text.lower id)) entry scope.roots).length = scope.roots.length + 1 := by
    rw [hput, List.length_append, List.length_singleton]
  rw [lookup_putVariable] at hroot
  dsimp only
  split at hroot
  · rename_i heq
    rcases scope.freshRoot_eq (Text.lower id) with ⟨hsame, -⟩ | hnumbered
    · rw [heq, hsame] at hsign
      exact absurd hsign hname
    · exact ⟨Text.lower id, scope.roots.length, heq.trans hnumbered, hname, by omega⟩
  · obtain ⟨name, number, heq, hplain, hnumber⟩ := h root held hroot hsign
    exact ⟨name, number, heq, hplain, by omega⟩

end Scope

/-! ### Names that are made -/

namespace Compile

/-- A name that is made has none of the signs that paths and numbered names are put together with. -/
lemma plain_of_mem_alias {path : String} {number : Nat} (h : c ∈ (path.map plainChar ++ "_alias" ++ toString number).toList) :
    c ≠ '.' ∧ c ≠ ':' ∧ c ≠ '#' := by
  simp only [String.toList_append, List.mem_append, String.toList_map, List.mem_map] at h
  rcases h with (⟨other, -, rfl⟩ | h) | h
  · unfold plainChar
    split
    · decide
    · rename_i hplain
      simpa [Bool.or_eq_true, not_or, and_assoc] using hplain
  · have hletters : ("_alias".toList.all fun c => c != '.' && c != ':' && c != '#') = true := by decide
    simpa [and_assoc] using List.all_eq_true.1 hletters c h
  · have hdigit := Text.isDigit_of_mem_toString h
    refine ⟨?_, ?_, ?_⟩ <;> rintro rfl <;> cases hdigit

lemma plainName_alias (path : String) (number : Nat) : plainName (path.map plainChar ++ "_alias" ++ toString number) = true := by
  simp only [plainName, Bool.not_eq_true', List.contains_eq_mem, decide_eq_false_iff_not]
  exact fun hmem => (plain_of_mem_alias hmem).2.2 rfl

end Compile

end EntityQuery
