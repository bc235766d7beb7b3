import EntityQuery.Compile.Join
import EntityQuery.Proofs.Buffer.Placement
import EntityQuery.Proofs.Outcome

/-!
Joins as they are written. A join is written with a condition that ties the table it starts from to its own; joins are in
order if each starts from an alias that stands before it.
-/

namespace EntityQuery

open Sql

/-! ### Joins among fragments -/

namespace Sql

/-- The aliases that the joins among some fragments introduce. -/
def joinLabels (fragments : List Fragment) : List String :=
  fragments.filterMap fun
    | .token (.join _ _ label) => some label
    | _ => none

/-- **Whether joins are in order**: the condition of each ties an alias that stands before the join to the alias of the
join itself. Given are the aliases that stand before the present join, and its own alias if there is one. -/
def joinsOrdered (known : List String) : Option String → List Fragment → Bool
  | _, [] => true
  | own, .token (.join _ _ label) :: rest => joinsOrdered (own.toList ++ known) (some label) rest
  | own, .token (.link left right) :: rest =>
    known.contains left.qualifier && own == some right.qualifier && joinsOrdered known own rest
  | own, .token (.word _) :: rest => joinsOrdered known own rest
  | _, _ :: _ => false

/-- Whether a fragment belongs to the condition of a join from one alias to another. -/
def isLink (near far : String) : Fragment → Bool
  | .token (.link left right) => left.qualifier == near && right.qualifier == far
  | .token (.word _) => true
  | _ => false

/-- What is written for one join from an alias to another. -/
def JoinBlock (near far : String) (block : List Fragment) : Prop :=
  ∃ kind name condition, block = .token (.join kind name far) :: condition ∧ condition.all (isLink near far) = true

variable {near far : String} {block before condition : List Fragment} {known : List String}

@[simp] lemma joinLabels_append (left right : List Fragment) : joinLabels (left ++ right) = joinLabels left ++ joinLabels right :=
  List.filterMap_append

lemma joinLabels_of_isLink (h : condition.all (isLink near far) = true) : joinLabels condition = [] := by
  refine List.filterMap_eq_nil_iff.2 fun fragment hfragment => ?_
  have hlink := List.all_eq_true.1 h fragment hfragment
  cases fragment with
  | hole marker => rfl
  | token token => cases token <;> first | rfl | cases hlink

lemma JoinBlock.joinLabels (h : JoinBlock near far block) : joinLabels block = [far] := by
  obtain ⟨kind, name, condition, rfl, hcondition⟩ := h
  show far :: Sql.joinLabels condition = [far]
  rw [joinLabels_of_isLink hcondition]

lemma joinsOrdered_of_isLink (h : condition.all (isLink near far) = true) (hnear : near ∈ known) :
    joinsOrdered known (some far) condition = true := by
  induction condition with
  | nil => rfl
  | cons fragment rest ih =>
    rw [List.all_cons, Bool.and_eq_true] at h
    obtain ⟨hfragment, hrest⟩ := h
    cases fragment with
    | hole marker => cases hfragment
    | token token =>
      cases token with
      | word text => exact ih hrest
      | link left right =>
        simp only [isLink, Bool.and_eq_true, beq_iff_eq] at hfragment
        simp [joinsOrdered, hfragment, hnear, ih hrest]
      | _ => cases hfragment

/-- **A join may follow others** if the alias that it starts from stands before it. -/
lemma JoinBlock.joinsOrdered_append (h : JoinBlock near far block) {own : Option String}
    (hbefore : joinsOrdered known own before = true) (hnear : near ∈ own.toList ++ known ++ Sql.joinLabels before) :
    joinsOrdered known own (before ++ block) = true := by
  induction before generalizing known own with
  | nil =>
    obtain ⟨kind, name, condition, rfl, hcondition⟩ := h
    exact joinsOrdered_of_isLink hcondition (by simpa [Sql.joinLabels] using hnear)
  | cons fragment rest ih =>
    cases fragment with
    | hole marker => cases hbefore
    | token token =>
      cases token with
      | word text => exact ih hbefore hnear
      | link left right =>
        simp only [joinsOrdered, Bool.and_eq_true, List.cons_append] at hbefore ⊢
        exact ⟨hbefore.1, ih hbefore.2 hnear⟩
      | join kind name label =>
        refine ih hbefore ?_
        have hlabels : Sql.joinLabels (.token (.join kind name label) :: rest) = label :: Sql.joinLabels rest := rfl
        rw [hlabels] at hnear
        simp only [List.mem_append, List.mem_cons, Option.mem_toList, Option.some.injEq] at hnear ⊢
        tauto
      | _ => cases hbefore

end Sql

/-! ### Steps that write -/

namespace Compile

variable {env : Env} {state mid later : State} {block block' : List Fragment}

/-- A step that adds some fragments to the slot being written and changes nothing else. -/
structure Adds (state later : State) (block : List Fragment) : Prop where
  same : later = { state with buffer := later.buffer }
  active : later.buffer.active = state.buffer.active
  fragments : ∀ slot, later.buffer.fragments slot =
    state.buffer.fragments slot ++ if slot = state.buffer.activeSlot then block else []

namespace Adds

lemma refl (state : State) : Adds state state [] :=
  ⟨rfl, rfl, fun slot => by simp⟩

lemma activeSlot (h : Adds state later block) : later.buffer.activeSlot = state.buffer.activeSlot := by
  simp only [Buffer.activeSlot, h.active]

lemma trans (h : Adds state mid block) (h' : Adds mid later block') : Adds state later (block ++ block') := by
  refine ⟨?_, h'.active.trans h.active, fun slot => ?_⟩
  · rw [h'.same, h.same]
  · rw [h'.fragments, h.fragments, h.activeSlot, List.append_assoc]
    split <;> simp

lemma emit {token : Token} (h : emit token env state = .ok answer later) : Adds state later [.token token] := by
  cases h
  exact ⟨rfl, rfl, fun slot => state.buffer.fragments_appendFragment (.token token) slot⟩

lemma fragments_activeSlot (h : Adds state later block) : later.buffer.fragments state.buffer.activeSlot =
    state.buffer.fragments state.buffer.activeSlot ++ block := by
  rw [h.fragments, if_pos rfl]

lemma fragments_of_ne (h : Adds state later block) {slot : Slot} (hne : slot ≠ state.buffer.activeSlot) :
    later.buffer.fragments slot = state.buffer.fragments slot := by
  rw [h.fragments, if_neg hne, List.append_nil]

end Adds

lemma adds_links {first : Bool} {pairs : List KeyPair} (h : links near far first pairs env state = .ok answer later) :
    ∃ condition, Adds state later condition ∧ condition.all (isLink near far) = true := by
  induction pairs generalizing first state with
  | nil =>
    cases h
    exact ⟨[], .refl _, rfl⟩
  | cons pair rest ih =>
    have hpair : ∀ {state : State}, (do
        Compile.emit (.link (← columnRef near pair.source) (← columnRef far pair.target))
        links near far false rest : Compile Unit) env state = .ok answer later →
        ∃ condition, Adds state later condition ∧ condition.all (isLink near far) = true := by
      intro state hok
      obtain ⟨left, _, hleft, hnext⟩ := bind_eq_ok.1 hok
      obtain ⟨hnear, rfl⟩ := columnRef_eq_ok hleft
      obtain ⟨right, _, hright, hlast⟩ := bind_eq_ok.1 hnext
      obtain ⟨hfar, rfl⟩ := columnRef_eq_ok hright
      obtain ⟨_, mid, hlink, hrest⟩ := bind_eq_ok.1 hlast
      obtain ⟨condition, hadds, hcondition⟩ := ih hrest
      refine ⟨_, (Adds.emit hlink).trans hadds, ?_⟩
      simp [isLink, hnear, hfar, hcondition]
    unfold links at h
    cases first with
    | true => exact hpair h
    | false =>
      obtain ⟨_, mid, hword, h⟩ := bind_eq_ok.1 h
      obtain ⟨condition, hadds, hcondition⟩ := hpair h
      exact ⟨_, (Adds.emit hword).trans hadds, by simpa [isLink] using hcondition⟩

/-- **What is written for a join.** -/
lemma adds_joinTable {kind : JoinKind} {hop : TableHop} (h : joinTable kind hop near far env state = .ok answer later) :
    ∃ block, Adds state later block ∧ JoinBlock near far block := by
  obtain ⟨name, _, hname, hnext⟩ := bind_eq_ok.1 h
  obtain rfl := qualify_eq_ok hname
  obtain ⟨_, headed, hhead, hrest⟩ := bind_eq_ok.1 hnext
  obtain ⟨_, linked, hlinks, hword⟩ := bind_eq_ok.1 hrest
  obtain ⟨condition, hadds, hcondition⟩ := adds_links hlinks
  refine ⟨_, ((Adds.emit hhead).trans hadds).trans (Adds.emit hword), kind, name, condition ++ [_], rfl, ?_⟩
  simp [hcondition, isLink]

end Compile

end EntityQuery
