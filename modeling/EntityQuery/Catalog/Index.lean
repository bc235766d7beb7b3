/-!
Indexes of named things: at most one thing of each name, in ascending order of the names.
-/

namespace EntityQuery

class Named (α : Type) where
  name : α → String

/-- Things of pairwise different names, ordered by name. -/
structure Index (α : Type) [Named α] where
  items : List α
  sorted : items.Pairwise fun a b => Named.name a < Named.name b

namespace Index

variable {α : Type} [Named α]

def empty : Index α :=
  ⟨[], .nil⟩

instance : Inhabited (Index α) :=
  ⟨empty⟩

/-- Puts a thing into an ordered list, in the place of one of the same name. -/
def put (item : α) : List α → List α
  | [] => [item]
  | other :: rest =>
    if Named.name item < Named.name other then item :: other :: rest
    else if Named.name other < Named.name item then other :: put item rest
    else item :: rest

theorem mem_put {item other : α} {items : List α} (h : other ∈ put item items) : other = item ∨ other ∈ items := by
  induction items with
  | nil => simpa [put] using h
  | cons first rest ih =>
    unfold put at h
    split at h
    · simpa using h
    · split at h
      · rcases List.mem_cons.1 h with h | h
        · simp [h]
        · rcases ih h with h | h <;> simp [h]
      · rcases List.mem_cons.1 h with h | h <;> simp [h]

theorem sorted_put (item : α) {items : List α} (h : items.Pairwise fun a b => Named.name a < Named.name b) :
    (put item items).Pairwise fun a b => Named.name a < Named.name b := by
  induction items with
  | nil => simp [put]
  | cons first rest ih =>
    obtain ⟨hfirst, hrest⟩ := List.pairwise_cons.1 h
    unfold put
    split
    · rename_i hlt
      refine List.pairwise_cons.2 ⟨fun other hother => ?_, h⟩
      rcases List.mem_cons.1 hother with rfl | hother
      · exact hlt
      · exact String.lt_trans hlt (hfirst other hother)
    · rename_i hle
      split
      · rename_i hlt
        refine List.pairwise_cons.2 ⟨fun other hother => ?_, ih hrest⟩
        rcases mem_put hother with rfl | hother
        · exact hlt
        · exact hfirst other hother
      · rename_i hge
        have heq : Named.name item = Named.name first :=
          String.le_antisymm (String.not_lt.1 hge) (String.not_lt.1 hle)
        exact List.pairwise_cons.2 ⟨fun other hother => heq ▸ hfirst other hother, hrest⟩

/-- Adds a thing, in the place of one of the same name. -/
def insert (index : Index α) (item : α) : Index α :=
  ⟨put item index.items, sorted_put item index.sorted⟩

/-- The index of some things, the later of two of one name. -/
def ofList (items : List α) : Index α :=
  items.foldl insert empty

def find? (index : Index α) (name : String) : Option α :=
  index.items.find? fun item => Named.name item == name

def contains (index : Index α) (name : String) : Bool :=
  (index.find? name).isSome

end Index

end EntityQuery
