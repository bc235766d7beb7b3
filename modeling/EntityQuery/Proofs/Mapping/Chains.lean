import EntityQuery.Proofs.Mapping.Selectable

/-!
Chains of table relationships along dotted paths.

Main statement: the chain of a path that continues another one is the chain of that other one, continued (`chains_compose`).
-/

namespace EntityQuery.Catalog

variable {catalog : Catalog} {table : Table} {first rest steps : List TableHop}

lemma chained_append : Chained catalog table (first ++ rest) ↔
    Chained catalog table first ∧ Chained catalog (lastTarget table first) rest := by
  induction first generalizing table with
  | nil => exact ⟨fun h => ⟨.nil table, h⟩, And.right⟩
  | cons step others ih =>
    rw [List.cons_append, lastTarget_cons]
    constructor
    · rintro (_ | ⟨hname, htarget, h⟩)
      exact ⟨.cons hname htarget (ih.1 h).1, (ih.1 h).2⟩
    · rintro ⟨_ | ⟨hname, htarget, hothers⟩, hrest⟩
      exact .cons hname htarget (ih.2 ⟨hothers, hrest⟩)

/-- **Chains compose.** A path that continues another one has a chain exactly if that other one has and what continues it has one
from the last table reached, and the chain is the two in a row. The chain of a path starts at the table and has a step for each
name of the path, along the relationship that the table reached has under that name. -/
theorem chains_compose (catalog : Catalog) (table : Table) :
    (∀ path others steps, catalog.chain table (path ++ "." ++ others) = .ok steps ↔ ∃ first last rest,
      catalog.chain table path = .ok first ∧ first.getLast? = some last ∧ catalog.chain last.target others = .ok rest ∧
        steps = first ++ rest) ∧
    ∀ path steps, catalog.chain table path = .ok steps ↔
      Chained catalog table steps ∧ steps.map (fun step => step.relationship.name) = Text.split '.' path := by
  refine ⟨fun path others steps => ?_, fun _ _ => hops_eq_ok⟩
  rw [chain, show "." = String.singleton '.' from rfl, Text.split_append_sep, hops_eq_ok]
  constructor
  · rintro ⟨hchained, hnames⟩
    obtain ⟨first, rest, rfl, hfirst, hrest⟩ := List.map_eq_append_iff.1 hnames
    obtain ⟨hstart, hlater⟩ := chained_append.1 hchained
    have hchain : catalog.chain table path = .ok first := hops_eq_ok.2 ⟨hstart, hfirst⟩
    have hlast := List.getLast?_eq_some_getLast (Resolve.chain_ne_nil hchain)
    rw [lastTarget, hlast] at hlater
    exact ⟨first, _, rest, hchain, hlast, hops_eq_ok.2 ⟨hlater, hrest⟩, rfl⟩
  · rintro ⟨first, last, rest, hfirst, hlast, hrest, rfl⟩
    obtain ⟨hstart, hfirst⟩ := hops_eq_ok.1 hfirst
    obtain ⟨hlater, hrest⟩ := hops_eq_ok.1 hrest
    refine ⟨chained_append.2 ⟨hstart, ?_⟩, by rw [List.map_append, hfirst, hrest]⟩
    rwa [lastTarget, hlast]

end EntityQuery.Catalog
