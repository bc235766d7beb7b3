import EntityQuery.Proofs.Buffer.Placement
import EntityQuery.Proofs.Outcome

/-!
The parameters that directives name. A parameter is bound before a directive names it, and stays bound; parameters are numbered
as they are bound.
-/

namespace EntityQuery

open Sql

namespace Sql

def Operand.parameters : Operand → List String
  | .column _ => []
  | .parameter name => [name]

mutual

/-- The parameters that the directives in a token name. A description that does not show its expression would name itself, which
no parameter does. -/
def Token.parameters : Token → List String
  | .bind name _ | .discriminator _ name _ => [name]
  | .pair _ left right => left.parameters ++ right.parameters
  | .nullCheck _ value => value.parameters
  | .item expression => expression.parameters
  | .result column expression => if column.expression = expression.text then expression.parameters else [column.directive]
  | _ => []

/-- The parameters that the directives in an item of a select list name. -/
def Expression.parameters : Expression → List String
  | .column _ => []
  | .captured tokens | .aggregate _ _ tokens => tokensParameters tokens

def tokensParameters : List Token → List String
  | [] => []
  | token :: rest => token.parameters ++ tokensParameters rest

end

end Sql

def State.names (state : State) : List String :=
  state.parameters.map Prod.fst

def State.Numbered (env : Env) (state : State) : Prop :=
  state.names = (List.range state.parameters.length).map fun number => env.settings.parameterPrefix ++ toString number

/-- **The parameters are numbered, and every directive names one of them.** -/
structure State.Booked (env : Env) (state : State) : Prop where
  numbered : state.Numbered env
  named : ∀ slot token, .token token ∈ state.buffer.fragments slot → token.parameters ⊆ state.names

/-- What has been bound stays bound. -/
structure State.Enrolls (env : Env) (state later : State) : Prop where
  names : state.names ⊆ later.names
  numbered : state.Numbered env → later.Numbered env

variable {env : Env} {state mid later : State}

lemma State.Enrolls.of_eq (h : later.parameters = state.parameters) : state.Enrolls env later := by
  have hnames : later.names = state.names := congrArg (List.map Prod.fst) h
  exact ⟨hnames ▸ List.Subset.refl _, fun hnumbered => by rw [State.Numbered, hnames, h]; exact hnumbered⟩

lemma State.Enrolls.trans (h : state.Enrolls env mid) (h' : mid.Enrolls env later) : state.Enrolls env later :=
  ⟨List.Subset.trans h.names h'.names, h'.numbered ∘ h.numbered⟩

lemma State.enrolls_bind {value : Json} (h : later.parameters =
    state.parameters ++ [(env.settings.parameterPrefix ++ toString state.parameters.length, value)]) : state.Enrolls env later := by
  refine ⟨by simp [State.names, h], fun hnumbered => ?_⟩
  simp only [State.Numbered, State.names] at hnumbered ⊢
  rw [h, List.map_append, hnumbered]
  simp [List.range_succ]

lemma State.Booked.grow (h : state.Booked env) (henrolls : state.Enrolls env later)
    (hslots : ∀ slot token, .token token ∈ later.buffer.fragments slot →
      .token token ∈ state.buffer.fragments slot ∨ token.parameters ⊆ later.names) : later.Booked env :=
  ⟨henrolls.numbered h.numbered, fun slot token htoken =>
    (hslots slot token htoken).elim (fun hold => List.Subset.trans (h.named slot token hold) henrolls.names) id⟩

lemma State.Booked.congr (h : state.Booked env) (hslots : ∀ slot, later.buffer.fragments slot = state.buffer.fragments slot)
    (hparameters : later.parameters = state.parameters) : later.Booked env :=
  h.grow (.of_eq hparameters) fun slot _ htoken => .inl (hslots slot ▸ htoken)

lemma State.Booked.add (h : state.Booked env) (henrolls : state.Enrolls env later) {slot : Slot} {added : List Fragment}
    (hslots : ∀ other, later.buffer.fragments other = state.buffer.fragments other ++ if other = slot then added else [])
    (hadded : ∀ token, .token token ∈ added → token.parameters ⊆ later.names) : later.Booked env := by
  refine h.grow henrolls fun other token htoken => ?_
  rw [hslots, List.mem_append] at htoken
  refine htoken.imp_right fun hnew => hadded token ?_
  split at hnew
  · exact hnew
  · cases hnew

lemma State.Booked.shown (h : state.Booked env) (slot : Slot) : tokensParameters (state.buffer.tokens slot) ⊆ state.names := by
  have hexpand : ∀ depth slot, ∀ token ∈ state.buffer.expand depth (state.buffer.fragments slot),
      token.parameters ⊆ state.names := by
    intro depth slot token htoken
    induction depth generalizing slot with
    | zero =>
      obtain ⟨found | marker, hfragment, htoken⟩ := List.mem_flatMap.1 htoken
      · cases List.mem_singleton.1 htoken
        exact h.named slot token hfragment
      · cases htoken
    | succ depth ih =>
      obtain ⟨found | marker, hfragment, htoken⟩ := List.mem_flatMap.1 htoken
      · cases List.mem_singleton.1 htoken
        exact h.named slot token hfragment
      · exact ih _ htoken
  have hall : ∀ token ∈ state.buffer.tokens slot, token.parameters ⊆ state.names := hexpand _ slot
  generalize state.buffer.tokens slot = tokens at hall
  induction tokens with
  | nil => exact List.nil_subset _
  | cons token rest ih =>
    rw [List.forall_mem_cons] at hall
    exact List.append_subset.2 ⟨hall.1, ih hall.2⟩

end EntityQuery
