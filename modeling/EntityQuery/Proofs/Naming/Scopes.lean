import EntityQuery.Proofs.Scoping.Names

/-!
Scopes against what has happened to them. A journal notes, for every open frame, which occurrences were declared in it under
which names, and which variables have ever been declared. A scope answers as its journal does: the numbers in roots are only
there to tell apart what the journal tells apart.

Main statement: after any calls, what is declared next is new, what was declared keeps its meaning, look-ups find what the
innermost frame that has the name noted last, a declaration is refused exactly if the innermost frame has the name, and a
frame that is opened and closed again leaves look-ups as they were (`scope_laws`).
-/

namespace EntityQuery.Scope

variable {scope changed : Scope} {place : Occurrence} {id : String} {entry : Variable} {frame : List (String × String)}

/-- A use of a scope. -/
inductive Call where
  | push
  | pop
  | declare (id : String) (entry : Variable)
  | lookup (id : String)

/-- **What has happened to a scope**: what was declared in the open frames, innermost frame and latest declaration first, and
all that was ever declared. -/
structure Journal where
  frames : List (List (String × Occurrence)) := [[]]
  given : List (Occurrence × Variable) := []

namespace Journal

/-- Notes that the innermost frame is closed, which the last one never is. -/
def close (journal : Journal) : Journal :=
  match journal.frames with
  | _ :: next :: rest => { journal with frames := next :: rest }
  | _ => journal

/-- Notes a declaration. -/
def note (journal : Journal) (name : String) (place : Occurrence) (entry : Variable) : Journal :=
  { frames := ((name, place) :: journal.frames.headD []) :: journal.frames.tail
    given := (place, entry) :: journal.given }

/-- What a name was declared as last in the innermost frame that declares it. -/
def latest? (journal : Journal) (name : String) : Option Occurrence :=
  journal.frames.findSome? fun noted => noted.lookup name

end Journal

/-- A scope and its journal after a call. A declaration that is refused changes nothing. -/
def Call.run (held : Scope × Journal) : Call → Scope × Journal
  | push => (held.1.pushFrame, { held.2 with frames := [] :: held.2.frames })
  | pop => (held.1.popFrame, held.2.close)
  | declare id entry =>
    match held.1.declare? id entry with
    | none => held
    | some (scope, place) => (scope, held.2.note (Text.lower id) place entry)
  | lookup _ => held

def Call.isPlain : Call → Bool
  | declare id _ => plainName id
  | push | pop | lookup _ => true

/-- **Calls that close the frames that they open**, and no others. -/
inductive Call.Balanced : List Call → Prop
  | nil : Balanced []
  | declare (id : String) (entry : Variable) {rest : List Call} (h : Balanced rest) : Balanced (.declare id entry :: rest)
  | lookup (id : String) {rest : List Call} (h : Balanced rest) : Balanced (.lookup id :: rest)
  | nested {inner rest : List Call} (h : Balanced inner) (h' : Balanced rest) : Balanced (.push :: (inner ++ .pop :: rest))

/-! ### Scopes and journals -/

def Matches (frame : List (String × String)) (noted : List (String × Occurrence)) : Prop :=
  ∀ name, (frame.lookup name).map .ofVariable = noted.lookup name

/-- **A scope as its journal has it.** -/
structure Kept (scope : Scope) (journal : Journal) : Prop where
  numbered : scope.Numbered
  open_ : scope.frames ≠ []
  frames : List.Forall₂ Matches scope.frames journal.frames
  given : ∀ place entry, (place, entry) ∈ journal.given → ∃ root, place = .root root ∧ scope.declared? root = some entry

lemma Matches.declare {noted : List (String × Occurrence)} (h : Matches frame noted)
    {name root : String} (hnew : frame.lookup name = none) (hlow : Text.lower root = root) :
    Matches (frame ++ [(name, root)]) ((name, .root root) :: noted) := by
  intro other
  rw [List.lookup_append, List.lookup_cons, List.lookup_cons]
  by_cases hother : other = name
  · subst hother
    simp [hnew, Occurrence.ofVariable, hlow]
  · have hne : (other == name) = false := by simpa using hother
    rw [hne, ← h other]
    simp

namespace Kept

variable {journal : Journal}

lemma start : Kept {} {} where
  numbered := by
    intro root entry hroot
    cases hroot
  open_ := List.cons_ne_nil _ _
  frames := .cons (fun _ => rfl) .nil
  given := by simp

lemma pop (h : Kept scope journal) : Kept scope.popFrame journal.close := by
  obtain ⟨hnumbered, hopen, hframes, hgiven⟩ := h
  unfold popFrame Journal.close
  generalize hscope : scope.frames = frames at *
  generalize hjournal : journal.frames = noted at *
  cases hframes with
  | nil => exact absurd rfl hopen
  | cons hfirst hrest =>
    cases hrest with
    | nil => exact ⟨hnumbered, by simp [hscope], by rw [hscope, hjournal]; exact .cons hfirst .nil, hgiven⟩
    | cons hsecond hrest => exact ⟨hnumbered, List.cons_ne_nil _ _, .cons hsecond hrest, hgiven⟩

lemma innermost (h : Kept scope journal) : ∃ frame rest noted others, scope.frames = frame :: rest ∧
    journal.frames = noted :: others ∧ Matches frame noted ∧ List.Forall₂ Matches rest others := by
  obtain ⟨frame, rest, hscope⟩ := List.exists_cons_of_ne_nil h.open_
  have hframes := h.frames
  rw [hscope] at hframes
  cases hjournal : journal.frames with
  | nil => rw [hjournal] at hframes; cases hframes
  | cons noted others =>
    rw [hjournal, List.forall₂_cons] at hframes
    exact ⟨frame, rest, noted, others, hscope, rfl, hframes⟩

/-- **A declaration is noted.** -/
lemma declare (h : Kept scope journal) (hplain : plainName id = true) (hok : scope.declare? id entry = some (changed, place)) :
    Kept changed (journal.note (Text.lower id) place entry) := by
  obtain ⟨root, rfl, hdeclared⟩ := h.numbered.declare? hplain hok
  obtain ⟨frame, rest, hframes, hnew, hchanged⟩ := hdeclared.frames
  obtain ⟨_, _, noted, others, hscope, hnoted, hfirst, hrest⟩ := h.innermost
  cases hframes.symm.trans hscope
  refine ⟨hdeclared.numbered, by simp [hchanged], ?_, fun place held hheld => ?_⟩
  · rw [hchanged, Journal.note, hnoted]
    exact .cons (hfirst.declare hnew hdeclared.low) hrest
  · rcases List.mem_cons.1 hheld with heq | hheld
    · cases heq
      exact ⟨root, rfl, hdeclared.lookup_root⟩
    · obtain ⟨other, rfl, hother⟩ := h.given place held hheld
      exact ⟨other, rfl, hdeclared.declared?_of_declared? hother⟩

/-- **A call keeps scope and journal together.** -/
lemma run (h : Kept scope journal) {call : Call} (hplain : call.isPlain = true) :
    Kept (call.run (scope, journal)).1 (call.run (scope, journal)).2 := by
  cases call with
  | push => exact ⟨h.numbered, List.cons_ne_nil _ _, .cons (fun _ => rfl) h.frames, h.given⟩
  | pop => exact h.pop
  | declare id entry =>
    rcases hdeclare : scope.declare? id entry with _ | ⟨changed, place⟩
    · simpa only [Call.run, hdeclare] using h
    · simpa only [Call.run, hdeclare] using h.declare hplain hdeclare
  | lookup id => exact h

lemma calls {calls : List Call} (hplain : ∀ call ∈ calls, call.isPlain = true) (h : Kept scope journal) :
    Kept (calls.foldl Call.run (scope, journal)).1 (calls.foldl Call.run (scope, journal)).2 := by
  induction calls generalizing scope journal with
  | nil => exact h
  | cons call rest ih =>
    obtain ⟨hcall, hrest⟩ := List.forall_mem_cons.1 hplain
    exact ih hrest (h.run hcall)

/-! ### Answers -/

lemma lookup?_eq (h : Kept scope journal) (id : String) : scope.lookup? id = journal.latest? (Text.lower id) := by
  unfold lookup? Journal.latest?
  have hframes := h.frames
  generalize scope.frames = frames, journal.frames = noted at hframes
  induction hframes with
  | nil => rfl
  | @cons frame noted _ _ hfirst _ ih =>
    rw [List.findSome?_cons, List.findSome?_cons, ← hfirst]
    cases frame.lookup (Text.lower id) with
    | none => exact ih
    | some root => rfl

lemma declare?_eq_none_iff (h : Kept scope journal) (id : String) (entry : Variable) :
    scope.declare? id entry = none ↔ ((journal.frames.headD []).lookup (Text.lower id)).isSome = true := by
  obtain ⟨frame, rest, noted, others, hscope, hnoted, hfirst, -⟩ := h.innermost
  unfold declare?
  rw [hscope, hnoted, List.headD_cons, ← hfirst, Option.isSome_map]
  simp

/-- **What is declared next has not been given before.** -/
lemma fresh (h : Kept scope journal) (hplain : plainName id = true) (hok : scope.declare? id entry = some (changed, place)) :
    ∀ held, (place, held) ∉ journal.given := by
  intro held hheld
  obtain ⟨root, rfl, hdeclared⟩ := h.numbered.declare? hplain hok
  obtain ⟨_, heq, hroot⟩ := h.given _ held hheld
  cases heq
  rw [declared?, hdeclared.fresh] at hroot
  cases hroot

end Kept

lemma Call.frames_pop {held : Scope × Journal} {outer : List (List (String × String))}
    (h : held.1.frames = frame :: outer) (houter : outer ≠ []) : (Call.pop.run held).1.frames = outer := by
  have hpop : held.1.popFrame = _ := popFrame_eq (by rw [h]; rfl) houter
  exact congrArg Scope.frames hpop

lemma Call.Balanced.frames {calls : List Call} (h : Call.Balanced calls) {held : Scope × Journal}
    {frame : List (String × String)} {outer : List (List (String × String))} (hframes : held.1.frames = frame :: outer) :
    ∃ inner, (calls.foldl Call.run held).1.frames = inner :: outer := by
  induction h generalizing held frame outer with
  | nil => exact ⟨frame, hframes⟩
  | declare id entry _ ih =>
    rw [List.foldl_cons, Call.run]
    rcases hdeclare : held.1.declare? id entry with _ | ⟨changed, place⟩
    · exact ih hframes
    · obtain ⟨_, _, hdeclared, -, rfl, -⟩ := declare?_eq_some hdeclare
      rw [hframes] at hdeclared
      cases hdeclared
      exact ih rfl
  | lookup id _ ih => exact ih hframes
  | nested _ _ ih ih' =>
    rw [List.foldl_cons, List.foldl_append, List.foldl_cons]
    obtain ⟨inner, hinner⟩ := @ih (Call.push.run held) [] held.1.frames rfl
    have hopen : held.1.frames ≠ [] := by simp [hframes]
    exact ih' ((frames_pop hinner hopen).trans hframes)

/-- **The laws of scopes.** After any calls that declare names without the sign for numbered names: a declaration gives an
occurrence that none gave before; every occurrence that was given stands for the variable that it was declared with, visible
or not; a look-up finds what its name, whose case does not matter, was declared as last in the innermost frame that has it; a
declaration is refused exactly if the innermost frame has the name; and a frame that is opened and closed again, with
balanced calls between, leaves all look-ups as they were. -/
theorem scope_laws {calls : List Call} (hplain : ∀ call ∈ calls, call.isPlain = true) {scope : Scope} {journal : Journal}
    (hrun : calls.foldl Call.run ({}, {}) = (scope, journal)) :
    (∀ id entry changed place, plainName id = true → scope.declare? id entry = some (changed, place) →
        ∀ held, (place, held) ∉ journal.given) ∧
      (∀ place entry, (place, entry) ∈ journal.given → scope.declared? place.rootName = some entry) ∧
      (∀ id, scope.lookup? id = journal.latest? (Text.lower id)) ∧
      (∀ id entry, scope.declare? id entry = none ↔ ((journal.frames.headD []).lookup (Text.lower id)).isSome = true) ∧
      ∀ inner, Call.Balanced inner → ∀ id,
        ((.push :: (inner ++ [.pop])).foldl Call.run (scope, journal)).1.lookup? id = scope.lookup? id := by
  have hkept := Kept.start.calls hplain
  rw [hrun] at hkept
  refine ⟨fun id entry changed place hid hok => hkept.fresh hid hok, fun place entry hgiven => ?_, hkept.lookup?_eq,
    hkept.declare?_eq_none_iff, fun inner hinner id => ?_⟩
  · obtain ⟨root, rfl, hroot⟩ := hkept.given place entry hgiven
    exact hroot
  · obtain ⟨last, hlast⟩ := @Call.Balanced.frames inner hinner (Call.push.run (scope, journal)) [] scope.frames rfl
    rw [List.foldl_cons, List.foldl_append, List.foldl_cons, List.foldl_nil, lookup?, Call.frames_pop hlast hkept.open_]
    rfl

/-- A name that is declared in a frame, again in one inside it and, after that is closed, in another. -/
def shadowing : List Call :=
  [.declare "g" { entity := "Gallery" }, .push, .declare "G" { entity := "Artist" }, .pop, .push, .pop, .pop, .push,
    .declare "g" { entity := "Painting" }, .declare "G" { entity := "Artist" }]

/-- The three declarations have roots of their own, the fourth is refused, and the innermost one is found until its frame is
closed. -/
theorem scope_laws_shadowing :
    ∃ scope journal, shadowing.foldl Call.run ({}, {}) = (scope, journal) ∧ (∀ call ∈ shadowing, call.isPlain = true) ∧
      journal.given.map Prod.fst = [.root "g#2", .root "g#1", .root "g"] ∧
      scope.declared? "g#1" = some { entity := "Artist" } ∧ scope.lookup? "G" = some (.root "g#2") ∧
      scope.declare? "G" { entity := "Artist" } = none ∧
      ([.push, .declare "g" { entity := "Gallery" }, .pop].foldl Call.run (scope, journal)).1.lookup? "G" =
        some (.root "g#2") := by
  have hplain : ∀ call ∈ shadowing, call.isPlain = true := by decide +kernel
  obtain ⟨-, hgiven, hlookup, hrefused, hclosed⟩ := scope_laws hplain rfl
  have hfound := (hlookup "G").trans (show _ = some (.root "g#2") by decide +kernel)
  refine ⟨_, _, rfl, hplain, by decide +kernel, hgiven (.root "g#1") _ (by decide +kernel), hfound,
    (hrefused "G" _).2 (by decide +kernel), (hclosed [.declare "g" { entity := "Gallery" }] ?_ "G").trans hfound⟩
  exact .declare _ _ .nil

end EntityQuery.Scope
