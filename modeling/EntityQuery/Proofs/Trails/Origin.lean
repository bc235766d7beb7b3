import EntityQuery.Proofs.Trails.Walk

/-!
Where occurrences come from. A variable that a join introduces stands for the end of a path, and so each occurrence goes back
to one variable that no join introduces, by one list of steps. The joins that are known lead where the steps lead.
-/

namespace EntityQuery

open Sql

variable {scope changed : Scope} {source target occurrence : Occurrence} {hop : Hop} {origin : String} {hops : List Hop}
  {name : String}

/-- **The trail of an occurrence**: the variable that it goes back to, which no join introduces, and all steps from there. -/
inductive Scope.Trail (scope : Scope) : Occurrence → String → List Hop → Prop
  | origin {root : String} {entry : Variable} (h : scope.declared? root = some entry) (hnone : entry.definedBy = none) :
    Trail scope (.root root) root []
  | join {root origin : String} {entry : Variable} {source : Occurrence} {hop : Hop} {hops : List Hop}
    (h : scope.declared? root = some entry) (hjoin : entry.definedBy = some (source, hop))
    (htrail : Trail scope source origin hops) : Trail scope (.root root) origin (hops ++ [hop])
  | step {source : Occurrence} {origin : String} {hop : Hop} {hops : List Hop} (htrail : Trail scope source origin hops) :
    Trail scope (source.child hop) origin (hops ++ [hop])

namespace Scope.Trail

lemma mono (h : scope.Trail occurrence origin hops)
    (hroots : ∀ root entry, scope.declared? root = some entry → changed.declared? root = some entry) :
    changed.Trail occurrence origin hops := by
  induction h with
  | origin h hnone => exact .origin (hroots _ _ h) hnone
  | join h hjoin _ ih => exact .join (hroots _ _ h) hjoin ih
  | step _ ih => exact .step ih

lemma unique {other : String} {others : List Hop} (h : scope.Trail occurrence origin hops)
    (h' : scope.Trail occurrence other others) : origin = other ∧ hops = others := by
  induction h generalizing other others with
  | origin h hnone =>
    cases h' with
    | origin => exact ⟨rfl, rfl⟩
    | join h' hjoin =>
      cases h.symm.trans h'
      cases hnone.symm.trans hjoin
  | join h hjoin _ ih =>
    cases h' with
    | origin h' hnone =>
      cases h.symm.trans h'
      cases hnone.symm.trans hjoin
    | join h' hjoin' htrail =>
      cases h.symm.trans h'
      cases hjoin.symm.trans hjoin'
      obtain ⟨rfl, rfl⟩ := ih htrail
      exact ⟨rfl, rfl⟩
  | step _ ih =>
    cases h' with
    | step htrail =>
      obtain ⟨rfl, rfl⟩ := ih htrail
      exact ⟨rfl, rfl⟩

lemma declared (h : scope.Trail occurrence origin hops) : ∃ entry, scope.declared? origin = some entry := by
  induction h with
  | origin h _ => exact ⟨_, h⟩
  | join _ _ _ ih => exact ih
  | step _ ih => exact ih

end Scope.Trail

/-- What is reached along relationships of entities. -/
def Scope.Leads (scope : Scope) (source : Occurrence) (names : List String) (target : Occurrence) : Prop :=
  ∀ origin hops, scope.Trail source origin hops → scope.Trail target origin (hops ++ names.map .object)

lemma Scope.Leads.refl (scope : Scope) (source : Occurrence) : scope.Leads source [] source := by
  intro origin hops h
  rwa [List.map_nil, List.append_nil]

lemma Scope.Leads.trans {names more : List String} (h : scope.Leads source names target)
    (h' : scope.Leads target more occurrence) : scope.Leads source (names ++ more) occurrence := by
  intro origin hops htrail
  rw [List.map_append, ← List.append_assoc]
  exact h' origin _ (h origin hops htrail)

lemma Scope.leads_child (scope : Scope) (source : Occurrence) (name : String) :
    scope.Leads source [name] (source.child (.object name)) :=
  fun _ _ htrail => .step htrail

lemma Compile.JoinedTo.leads (h : Compile.JoinedTo scope source (.object name) target) : scope.Leads source [name] target := by
  intro origin hops htrail
  rcases h.known with rfl | ⟨root, entry, rfl, hentry, hdefined⟩
  · exact .step htrail
  · exact .join hentry hdefined htrail

/-! ### Dotted forms -/

def undotted (name : String) : Bool :=
  !name.toList.contains '.'

lemma undotted_iff : undotted name = true ↔ '.' ∉ name.toList := by
  simp [undotted]

/-- Whether an occurrence is reached along relationships of entities, none of which has a name with a point. -/
def Occurrence.isFlat : Occurrence → Bool
  | .root _ => true
  | .child source (.object name) => source.isFlat && undotted name
  | .child _ (.table _) => false

/-- **Occurrences of entities are told apart by their dotted forms.** -/
lemma Occurrence.eq_of_idPath {other : Occurrence} (h : occurrence.isFlat = true) (h' : other.isFlat = true)
    (hroot : undotted occurrence.rootName = true) (hroot' : undotted other.rootName = true)
    (hpath : occurrence.idPath = other.idPath) : occurrence = other := by
  have hhop : ∀ {source hop}, isFlat (.child source hop) = true →
      source.isFlat = true ∧ undotted hop.name = true ∧ hop = .object hop.name := by
    intro source hop hflat
    cases hop with
    | object name =>
      obtain ⟨hsource, hname⟩ := Bool.and_eq_true_iff.1 hflat
      exact ⟨hsource, hname, rfl⟩
    | table => cases hflat
  refine eq_of_labels (P := fun place => place.isFlat = true ∧ undotted place.rootName = true) (fun h => undotted_iff.1 h.2)
    (fun h => ⟨⟨(hhop h.1).1, h.2⟩, undotted_iff.1 (hhop h.1).2.1⟩) (fun h h' hlabel => ?_) ⟨h, hroot⟩ ⟨h', hroot'⟩ hpath
  rw [(hhop h.1).2.2, (hhop h'.1).2.2] at hlabel ⊢
  exact congrArg Hop.object hlabel

end EntityQuery
