import EntityQuery.Proofs.Composite.Operand
import EntityQuery.Proofs.Lists.Marks
import EntityQuery.Proofs.Scoping.Scan

/-!
Lists of IN. What stands in a list shows something, as no list takes a composite value. Entries are separated by single commas;
a parameter with several values makes an entry of each and binds each.

Main statement: `inList_entries`.
-/

namespace EntityQuery

open Sql

/-- Fragments that show something, whatever their places show. -/
def Sql.Visible (fragments : List Fragment) : Prop :=
  ∀ (buffer : Buffer) depth, tokensText (buffer.expand depth fragments) ≠ ""

lemma Sql.Visible.of_mem {token : Token} {fragments : List Fragment} (h : .token token ∈ fragments) (hshows : token.shows = true) :
    Visible fragments := by
  intro buffer depth hempty
  have hmem : token ∈ buffer.expand depth fragments := Buffer.mem_expand_of_mem h
  refine Expression.text_captured_ne hmem hshows ?_
  rw [Expression.text, hempty]
  rfl

namespace Compile

variable {ι : Type} {env : Env} {state mid later : State} {hint : Option String} {held after : List Composite} {item : Expr}
  {writer : Writer} {entries more : List (List Fragment)} {bound others : List (String × Json)}

/-! ### Entries -/

/-- The parameter that is bound to an element of an array. -/
def binding (env : Env) (element : Json × Nat) : String × Json :=
  (env.settings.parameterPrefix ++ toString element.2, unwrap element.1)

/-- The type that an element is written with. -/
def bindType (env : Env) (hint : Option String) : Json → Option String
  | .null => some (hint.getD env.settings.defaultParameterType)
  | _ => none

def bindEntry (env : Env) (hint : Option String) (element : Json × Nat) : List Fragment :=
  [.token (.bind (binding env element).1 (bindType env hint (binding env element).2))]

/-- **What an item of a list contributes**, if some parameters are bound already: an array, an entry and a parameter for each of
its elements in their order, and all else one entry. -/
structure Contributes (env : Env) (hint : Option String) (item : Expr) (count : Nat) (entries : List (List Fragment))
    (bound : List (String × Json)) : Prop where
  array : ∀ values, givenValue? env.request item = some (.arr values) →
    entries = (values.zipIdx count).map (bindEntry env hint) ∧ bound = (values.zipIdx count).map (binding env)
  single : (∀ values, givenValue? env.request item ≠ some (.arr values)) → entries.length = 1
  shown : ∀ entry ∈ entries, Visible entry

/-- What parts contribute one after the other. -/
inductive Each (part : ι → Nat → List (List Fragment) → List (String × Json) → Prop) :
    Nat → List ι → List (List Fragment) → List (String × Json) → Prop
  | nil (count : Nat) : Each part count [] [] []
  | cons {count : Nat} {first : ι} {rest : List ι} {entries more : List (List Fragment)} {bound others : List (String × Json)}
    (hfirst : part first count entries bound) (hrest : Each part (count + bound.length) rest more others) :
    Each part count (first :: rest) (entries ++ more) (bound ++ others)

/-- A state after entries were written with commas between them, and parameters bound. -/
structure WritesEntries (state : State) (entries : List (List Fragment)) (bound : List (String × Json)) (later : State) : Prop where
  parameters : later.parameters = state.parameters ++ bound
  written : state.buffer.Adds later.buffer ([.token (.word ",")].intercalate entries)

lemma intercalate_append {α : Type} {separator : List α} {lists others : List (List α)} (h : lists ≠ []) (hothers : others ≠ []) :
    separator.intercalate (lists ++ others) = separator.intercalate lists ++ separator ++ separator.intercalate others := by
  induction lists with
  | nil => exact absurd rfl h
  | cons list rest ih =>
    rw [List.cons_append, List.intercalate_cons_of_ne_nil (by simp [hothers])]
    by_cases hrest : rest = []
    · simp [hrest]
    · rw [ih hrest, List.intercalate_cons_of_ne_nil hrest, List.append_assoc, List.append_assoc, List.append_assoc]
      simp

lemma WritesEntries.append (h : WritesEntries state entries bound mid) (hne : entries ≠ []) (hmore : more ≠ [])
    (h' : WritesEntries { mid with buffer := mid.buffer.append (.word ",") } more others later) :
    WritesEntries state (entries ++ more) (bound ++ others) later := by
  refine ⟨by rw [h'.parameters, h.parameters, List.append_assoc], ?_⟩
  rw [intercalate_append hne hmore]
  exact (h.written.trans (Buffer.adds_append _ _)).trans h'.written

/-- A writer that adds to the composite values, and makes an entry or more if there are none in the end. -/
structure Enlists (env : Env) (hint : Option String) (writer : Writer)
    (part : Nat → List (List Fragment) → List (String × Json) → Prop) : Prop where
  grows : ∀ {held state after later}, writer hint held env state = .ok after later → ∃ handed, after = held ++ handed
  enters : ∀ {state later}, writer hint [] env state = .ok [] later → ∃ entries bound, entries ≠ [] ∧
    WritesEntries state entries bound later ∧ part state.parameters.length entries bound

lemma enlists_separated {part : ι → Nat → List (List Fragment) → List (String × Json) → Prop} {writers : ι → Writer}
    {parts : List ι} (h : ∀ item ∈ parts, Enlists env hint (writers item) (part item)) (hne : parts ≠ []) :
    Enlists env hint (separated "," (parts.map writers)) fun count => Each part count parts := by
  induction parts with
  | nil => exact absurd rfl hne
  | cons first rest ih =>
    obtain ⟨hfirst, hrest⟩ := List.forall_mem_cons.1 h
    cases rest with
    | nil =>
      refine ⟨hfirst.grows, fun hok => ?_⟩
      obtain ⟨entries, bound, hentries, henters, hpart⟩ := hfirst.enters hok
      exact ⟨entries, bound, hentries, henters, by simpa using Each.cons hpart (.nil _)⟩
    | cons second rest =>
      have ih := ih hrest (List.cons_ne_nil _ _)
      refine ⟨fun hok => ?_, fun hok => ?_⟩
      · obtain ⟨mid, _, hfirstOk, hok⟩ := bind_eq_ok.1 hok
        obtain ⟨_, _, -, hok⟩ := bind_eq_ok.1 hok
        obtain ⟨handed, rfl⟩ := hfirst.grows hfirstOk
        obtain ⟨more, rfl⟩ := ih.grows hok
        exact ⟨handed ++ more, List.append_assoc ..⟩
      · obtain ⟨between, mid, hfirstOk, hok⟩ := bind_eq_ok.1 hok
        obtain ⟨_, _, hword, hok⟩ := bind_eq_ok.1 hok
        cases hword
        obtain ⟨more, hmore⟩ := ih.grows hok
        obtain rfl : between = [] := (List.append_eq_nil_iff.1 hmore.symm).1
        obtain ⟨entries, bound, hentries, henters, hpart⟩ := hfirst.enters hfirstOk
        obtain ⟨entries', bound', hentries', henters', hparts⟩ := ih.enters hok
        refine ⟨entries ++ entries', bound ++ bound', by simp [hentries], henters.append hentries hentries' henters', .cons hpart ?_⟩
        rwa [henters.parameters, List.length_append] at hparts

/-! ### Items -/

lemma enlists_parameter (value : Json) : Enlists env hint (parameter value) fun count entries bound =>
    entries = [bindEntry env hint (value, count)] ∧ bound = [binding env (value, count)] := by
  refine ⟨fun hok => ?_, fun {state later} hok => ?_⟩
  · obtain ⟨handed, hafter, -⟩ := handsOne_parameter value _ _ _ _ _ _ hok
    exact ⟨handed, hafter⟩
  · refine ⟨_, _, List.cons_ne_nil _ _, ?_, rfl, rfl⟩
    obtain ⟨_, _, hbind, hok⟩ := bind_eq_ok.1 hok
    cases hbind
    unfold bindEntry binding
    dsimp only at hok ⊢
    generalize unwrap value = given at hok ⊢
    cases given with
    | obj entries =>
      cases entries with
      | nil => cases hok
      | cons _ _ =>
        obtain ⟨composite, _, -, hok⟩ := bind_eq_ok.1 hok
        cases hok
    | _ =>
      cases hok
      exact ⟨rfl, Buffer.adds_append _ _⟩

lemma Each.elements {values : List Json} {count : Nat} (h : Each (fun value count entries bound =>
      entries = [bindEntry env hint (value, count)] ∧ bound = [binding env (value, count)]) count values entries bound) :
    entries = (values.zipIdx count).map (bindEntry env hint) ∧ bound = (values.zipIdx count).map (binding env) := by
  induction h with
  | nil => exact ⟨rfl, rfl⟩
  | cons hfirst _ ih =>
    obtain ⟨rfl, rfl⟩ := hfirst
    obtain ⟨rfl, rfl⟩ := ih
    exact ⟨rfl, rfl⟩

lemma Accounts.grows {α : Type} {handed : α → List Composite} {settled : α → Prop} {tracer : Tracer α}
    (h : Accounts handed settled tracer writer) (hok : writer hint held env state = .ok after later) :
    ∃ more, after = held ++ more := by
  rw [← h.erased] at hok
  obtain ⟨told, htold, rfl⟩ := map_eq_ok.1 hok
  exact ⟨_, (h.account hint held _ _ _ _ htold).1⟩

lemma enters_expression (hok : expression item hint [] env state = .ok [] later) :
    ∃ entry bound, WritesEntries state [entry] bound later ∧ Visible entry := by
  have hcomposed := composed_expression item hint []
  obtain ⟨entry, token, hwritten, hmem, hshows⟩ := (marks_expression item hint _ _ _ _ hok).resolve_left fun h => h rfl
  obtain ⟨bound, hbound⟩ := (hcomposed.retains hok).parameters
  refine ⟨entry, bound, ⟨hbound.symm, (hcomposed.extends hok).active, ?_⟩, .of_mem hmem hshows⟩
  rwa [List.intercalate_singleton]

lemma enlists_listItem (item : Expr) : Enlists env hint (listItem item (expression item)) (Contributes env hint item) := by
  refine ⟨(follows_listItem item (follows_traced item)).grows, fun {state later} hok => ?_⟩
  replace hok := of_read hok
  have hone : (∀ values, givenValue? env.request item ≠ some (.arr values)) → expression item hint [] env state = .ok [] later →
      ∃ entries bound, entries ≠ [] ∧ WritesEntries state entries bound later ∧
        Contributes env hint item state.parameters.length entries bound := by
    intro hsingle hok
    obtain ⟨entry, bound, henters, hshown⟩ := enters_expression hok
    exact ⟨[entry], bound, List.cons_ne_nil _ _, henters,
      ⟨fun values hgiven => absurd hgiven (hsingle values), fun _ => rfl, List.forall_mem_singleton.2 hshown⟩⟩
  cases hgiven : givenValue? env.request item with
  | none =>
    rw [hgiven] at hok hone
    exact hone (by simp) hok
  | some given =>
    rw [hgiven] at hok hone
    cases given with
    | arr values =>
      cases values with
      | nil => cases hok
      | cons value rest =>
        obtain ⟨entries, bound, hne, henters, heach⟩ :=
          (enlists_separated (fun value _ => enlists_parameter value) (List.cons_ne_nil value rest)).enters hok
        obtain ⟨rfl, rfl⟩ := heach.elements
        refine ⟨_, _, hne, henters, ⟨fun values hvalues => ?_, fun hsingle => absurd hgiven (hsingle _), ?_⟩⟩
        · obtain rfl : value :: rest = values := by simpa [hgiven] using hvalues
          exact ⟨rfl, rfl⟩
        · refine List.forall_mem_map.2 fun _ _ => .of_mem List.mem_cons_self (shows_bind _ _)
    | _ => exact hone (by simp) hok

lemma candidates_eq_ok {items : List Expr} (hlist : ∀ query, items ≠ [.subselect query])
    (hok : candidates (expressions items) hint held env state = .ok after later) :
    items ≠ [] ∧ bracketed " (" ")" (separated "," (items.map fun item => listItem item (expression item))) hint held env state =
      .ok after later := by
  have hitems : listItems (expressions items) hint held env state = .ok after later ∧ items ≠ [] := by
    rcases items with _ | ⟨first, _ | ⟨second, rest⟩⟩
    · cases hok
    · cases first with
      | subselect query => exact absurd rfl (hlist query)
      | _ => exact ⟨hok, List.cons_ne_nil _ _⟩
    · cases first <;> exact ⟨hok, List.cons_ne_nil _ _⟩
  refine ⟨hitems.2, ?_⟩
  have hok := hitems.1
  unfold listItems at hok
  cases hbad : (expressions items).find? fun entry => isNoListItem entry.1 with
  | some bad =>
    rw [hbad] at hok
    cases hok
  | none =>
    rw [hbad] at hok
    dsimp only at hok
    rwa [expressions_eq_map, List.map_map] at hok

/-- A list of an array, one of whose elements is a wrapped null, and a literal. -/
def answers : List Expr :=
  [.namedParameter "answers", .booleanLiteral false]

def answering : Env :=
  { request := { named := [("answers", .arr [.int 1, .obj [("K", .null)]])] } }

end Compile

end EntityQuery
