import EntityQuery.Proofs.Blindness.TwoRuns
import EntityQuery.Proofs.Steps.Parts
import Mathlib.Data.List.Induction
import Mathlib.Data.List.Sort
import Mathlib.Data.String.Basic

/-!
Parameters of one shape. What is written for a parameter depends on the shape of its value alone: a key of one
column is unwrapped, and a key of several columns is bound in the order of the columns' names, whatever order
they are given in.
-/

namespace EntityQuery

/-! ### Members in order -/

variable {other value : Json}

namespace Json

variable {α : Type} {key : String} {members : List (String × α)}

lemma mem_keys_putMember {name : String} {value : α} :
    name ∈ (putMember key value members).map Prod.fst ↔ name = key ∨ name ∈ members.map Prod.fst := by
  induction members with
  | nil => simp [putMember]
  | cons member rest ih =>
    obtain ⟨k, v⟩ := member
    rcases lt_trichotomy key k with h | rfl | h
    · rw [putMember, if_pos h, List.map_cons, List.mem_cons]
    · simp [putMember]
    · rw [putMember, if_neg h.not_gt, if_pos h]
      simp only [List.map_cons, List.mem_cons, ih]
      exact or_left_comm

lemma sorted_putMember {value : α} (h : (members.map Prod.fst).Pairwise (· < ·)) :
    ((putMember key value members).map Prod.fst).Pairwise (· < ·) := by
  induction members with
  | nil => simp [putMember]
  | cons member rest ih =>
    obtain ⟨k, v⟩ := member
    obtain ⟨hleast, hrest⟩ := List.pairwise_cons.1 h
    rcases lt_trichotomy key k with hk | rfl | hk
    · rw [putMember, if_pos hk]
      exact List.pairwise_cons.2 ⟨fun name hname => (List.mem_cons.1 hname).elim (fun heq => heq ▸ hk)
        fun hin => hk.trans (hleast name hin), h⟩
    · rw [putMember, if_neg (lt_irrefl _), if_neg (lt_irrefl _)]
      exact h
    · rw [putMember, if_neg hk.not_gt, if_pos hk]
      exact List.pairwise_cons.2 ⟨fun name hname => (mem_keys_putMember.1 hname).elim (fun heq => heq ▸ hk)
        (hleast name), ih hrest⟩

lemma keys_sortMembers (members : List (String × α)) : ((sortMembers members).map Prod.fst).Pairwise (· < ·) ∧
      ∀ name, name ∈ (sortMembers members).map Prod.fst ↔ name ∈ members.map Prod.fst := by
  induction members using List.reverseRecOn with
  | nil => simp [sortMembers]
  | append_singleton members member ih =>
    have hlast : sortMembers (members ++ [member]) = putMember member.1 member.2 (sortMembers members) := by
      simp [sortMembers]
    rw [hlast]
    refine ⟨sorted_putMember ih.1, fun name => ?_⟩
    rw [mem_keys_putMember, ih.2, List.map_append, List.mem_append, or_comm]
    simp

lemma keys_sortMembers_eq {β : Type} {others : List (String × β)} (h : (members.map Prod.fst).Perm (others.map Prod.fst)) :
    (sortMembers members).map Prod.fst = (sortMembers others).map Prod.fst := by
  refine (keys_sortMembers members).1.eq_of_mem_iff (keys_sortMembers others).1 fun name => ?_
  rw [(keys_sortMembers members).2, (keys_sortMembers others).2, h.mem_iff]

/-! ### Values of one shape -/

namespace SameShape

mutual

theorem refl : ∀ value : Json, SameShape value value
  | .null => .null
  | .bool _ | .int _ | .double _ | .str _ => .scalar rfl rfl
  | .arr items => .arr (refl_items items)
  | .obj members => .obj (.refl members) rfl (refl_members members)

theorem refl_items : ∀ items : List Json, List.Forall₂ SameShape items items
  | [] => .nil
  | item :: rest => .cons (refl item) (refl_items rest)

theorem refl_members : ∀ members : List (String × Json),
    List.Forall₂ SameShape (members.map Prod.snd) (members.map Prod.snd)
  | [] => .nil
  | (_, value) :: rest => .cons (refl value) (refl_members rest)

end

lemma keys_perm {members others : List (String × Json)} (h : SameShape (.obj members) (.obj others)) :
    (members.map Prod.fst).Perm (others.map Prod.fst) := by
  cases h with
  | scalar h => cases h
  | obj horder hkeys => exact hkeys ▸ horder.map Prod.fst

lemma single (h : SameShape (.obj [(key, value)]) other) : ∃ value', other = .obj [(key, value')] ∧ SameShape value value' := by
  cases h with
  | scalar h => cases h
  | @obj _ others ordered horder hkeys hvalues =>
    obtain ⟨⟨key', value'⟩, rfl⟩ : ∃ member, ordered = [member] :=
      List.length_eq_one_iff.1 (by simpa using (congrArg List.length hkeys).symm)
    obtain rfl : key = key' := by simpa using hkeys
    rw [List.perm_singleton.1 horder.symm]
    exact ⟨value', rfl, by simpa using hvalues⟩

lemma unwrap (h : SameShape value other) : SameShape (Compile.unwrap value) (Compile.unwrap other) := by
  induction value using Compile.unwrap.induct generalizing other with
  | case1 key value ih =>
    obtain ⟨value', rfl, hvalue⟩ := h.single
    show SameShape (Compile.unwrap value) (Compile.unwrap value')
    exact ih hvalue
  | case2 value hne =>
    have hother : ∀ key value', other = .obj [(key, value')] → False := by
      rintro key value' rfl
      cases h with
      | scalar _ h => cases h
      | @obj members _ ordered horder hkeys hvalues =>
        have hlength : members.length = 1 := by
          simpa [horder.length_eq] using congrArg List.length hkeys
        obtain ⟨⟨key, value⟩, rfl⟩ := List.length_eq_one_iff.1 hlength
        exact hne key value rfl
    rw [Compile.unwrap.eq_2 value hne, Compile.unwrap.eq_2 other hother]
    exact h

end SameShape

end Json

lemma Request.SameShape.refl (request : Request) : request.SameShape request where
  named name := by cases request.named.lookup name <;> constructor; exact Json.SameShape.refl _
  positional position := by
    cases request.positional.lookup position <;> constructor; exact Json.SameShape.refl _
  resultMapping := rfl
  prefetches := rfl

lemma Env.SameShape.refl (env : Env) : env.SameShape env where
  catalog := rfl
  settings := rfl
  request := Request.SameShape.refl env.request

/-! ### Steps on parameters -/

namespace Compile

lemma alike_bindEntries : ∀ {members others : List (String × Json)},
    members.map Prod.fst = others.map Prod.fst → Alike Eq (bindEntries members) (bindEntries others)
  | [], [], _ => Alike.answer rfl
  | (key, value) :: rest, (key', value') :: rest', h => by
    obtain ⟨hkey, hrest⟩ := List.cons_eq_cons.1 h
    obtain rfl : key = key' := hkey
    exact Alike.seq (alike_bind value value') fun name =>
      Alike.seq (alike_bindEntries hrest) fun entries => Alike.answer rfl

/-- **What is written for a parameter depends on the shape of its value alone.** -/
lemma alike_parameter (h : value.SameShape other) (hint : Option String)
    (held : List Composite) : Alike Eq (parameter value hint held) (parameter other hint held) := by
  refine Alike.seq (alike_bind _ _) fun name => ?_
  generalize hvalue : unwrap value = unwrapped
  generalize hother : unwrap other = unwrapped'
  have hshape : unwrapped.SameShape unwrapped' := hvalue ▸ hother ▸ h.unwrap
  cases hshape with
  | null =>
    exact Alike.consult fun env env' henv => by
      rw [henv.settings]
      exact Alike.seq (Blind.emit _).alike fun _ => Alike.answer rfl
  | scalar hscalar hscalar' =>
    cases unwrapped <;> cases hscalar
    all_goals cases unwrapped' <;> cases hscalar'
    all_goals exact Alike.seq (Blind.emit _).alike fun _ => Alike.answer rfl
  | arr _ => exact Alike.seq (Blind.emit _).alike fun _ => Alike.answer rfl
  | @obj members others ordered horder hkeys hvalues =>
    have hperm := (Json.SameShape.obj horder hkeys hvalues).keys_perm
    cases members <;> cases others
    · exact Alike.fail rfl
    · simp at hperm
    · simp at hperm
    · exact Alike.seq (alike_bindEntries (Json.keys_sortMembers_eq hperm)) fun _ => Alike.answer rfl

lemma Request.SameShape.given {request other : Request} (h : request.SameShape other) (expr : Expr) :
    Option.Rel Json.SameShape (givenValue? request expr) (givenValue? other expr) := by
  cases expr with
  | namedParameter name => exact h.named name
  | positionalParameter position => exact h.positional position
  | _ => exact .none

lemma alike_suppliedValue (expr : Expr) (warning : Warning) :
    Alike Json.SameShape (suppliedValue expr warning) (suppliedValue expr warning) := by
  refine Alike.consult fun env env' henv => ?_
  have hgiven := Request.SameShape.given henv.request expr
  generalize givenValue? env.request expr = given at hgiven ⊢
  generalize givenValue? env'.request expr = given' at hgiven ⊢
  cases hgiven with
  | some h => exact Alike.answer h
  | none => exact Alike.seq (alike_warn warning) fun _ => Alike.answer .null

lemma alike_isNullParameter (expr : Expr) : Alike Eq (isNullParameter expr) (isNullParameter expr) := by
  refine Alike.consult fun env env' henv => ?_
  have hgiven := Request.SameShape.given henv.request expr
  generalize givenValue? env.request expr = given at hgiven ⊢
  generalize givenValue? env'.request expr = given' at hgiven ⊢
  cases hgiven with
  | none => exact Alike.answer rfl
  | @some value value' h =>
    cases h with
    | null => exact Alike.answer rfl
    | scalar hscalar hscalar' =>
      cases value <;> cases hscalar
      all_goals cases value' <;> cases hscalar'
      all_goals exact Alike.answer rfl
    | arr _ => exact Alike.answer rfl
    | obj _ _ _ => exact Alike.answer rfl

end Compile

end EntityQuery
