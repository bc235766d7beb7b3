import EntityQuery.Proofs.Blindness.TwoRuns
import EntityQuery.Proofs.Renaming.Buffer
import EntityQuery.Proofs.Renaming.Text

/-!
Occurrences and scopes under a renaming. A renamed scope has the renamed variables, and whatever is looked up in it by
renamed names is what is looked up in the scope itself.
-/

namespace EntityQuery

open Text

variable {r : Renaming}

/-! ### Occurrences -/

namespace Occurrence

def renamed (r : Renaming) : Occurrence → Occurrence
  | .root name => .root (r.text name)
  | .child source hop => .child (source.renamed r) hop

def isHeaded (place : Occurrence) : Bool :=
  Text.isHeaded place.rootName

variable {place : Occurrence}

@[simp] lemma rootName_renamed (r : Renaming) (place : Occurrence) : (place.renamed r).rootName = r.text place.rootName := by
  induction place with
  | root name => rfl
  | child source hop ih => exact ih

@[simp] lemma isRoot_renamed (r : Renaming) (place : Occurrence) : (place.renamed r).isRoot = place.isRoot := by
  cases place <;> rfl

lemma renamed_injective (r : Renaming) : Function.Injective (renamed r) := by
  intro place other h
  induction place generalizing other with
  | root name =>
    cases other with
    | root other => exact congrArg root (r.text_injective (by simpa [renamed] using h))
    | child => simp [renamed] at h
  | child source hop ih =>
    cases other with
    | root => simp [renamed] at h
    | child source' hop' =>
      simp only [renamed, child.injEq] at h
      rw [ih h.1, h.2]

/-- **The path of a renamed occurrence is the renamed path.** -/
@[simp] lemma idPath_renamed (r : Renaming) (place : Occurrence) : (place.renamed r).idPath = r.text place.idPath := by
  induction place with
  | root name => rfl
  | child source hop ih =>
    cases hop with
    | object name =>
      rw [renamed, idPath, idPath, ih, String.append_assoc, String.append_assoc, Renaming.text_append (by simp [endsName])]
    | table name =>
      rw [renamed, idPath, idPath, ih, String.append_assoc, String.append_assoc, Renaming.text_append (by simp [endsName])]

lemma idPath_eq_append (place : Occurrence) :
    ∃ more, place.idPath = place.rootName ++ more ∧ (more = "" ∨ ∃ rest, more.toList = '.' :: rest) := by
  induction place with
  | root name => exact ⟨"", by simp [idPath, rootName], .inl rfl⟩
  | child source hop ih =>
    obtain ⟨more, hmore, hstart⟩ := ih
    have hnext : ∀ step : String, ∃ rest, (more ++ "." ++ step).toList = '.' :: rest := by
      intro step
      rcases hstart with rfl | ⟨rest, hrest⟩
      · exact ⟨step.toList, by simp⟩
      · exact ⟨rest ++ '.' :: step.toList, by simp [hrest]⟩
    cases hop with
    | object name =>
      refine ⟨more ++ "." ++ name, ?_, .inr (hnext name)⟩
      rw [idPath, rootName, hmore]
      simp only [String.append_assoc]
    | table name =>
      refine ⟨more ++ "." ++ ("db:" ++ name), ?_, .inr (hnext _)⟩
      rw [idPath, rootName, hmore]
      simp only [String.append_assoc]
      rfl

lemma isPathed_idPath (h : place.isHeaded = true) : isPathed place.idPath = true := by
  obtain ⟨more, hmore, hstart⟩ := place.idPath_eq_append
  rw [hmore]
  exact isPathed_append h hstart

lemma ofVariable_text {root : String} (h : Text.isHeaded root = true) :
    ofVariable (r.text root) = (ofVariable root).renamed r := by
  rw [ofVariable, ofVariable, renamed, Renaming.lower_text h]

end Occurrence

/-! ### Scopes -/

def Variable.renamed (r : Renaming) (entry : Variable) : Variable :=
  { entry with definedBy := entry.definedBy.map fun step => (step.1.renamed r, step.2) }

/-- A name and what it is renamed to, by which a variable is declared and looked up. -/
def Renaming.Takes (r : Renaming) (id id' : String) : Prop :=
  lower id' = r.text (lower id) ∧ isHeaded (lower id) = true

/-- An occurrence and the renamed one, by which tables are named and joins are found. -/
def Renaming.Places (r : Renaming) (place place' : Occurrence) : Prop :=
  place' = place.renamed r ∧ place.isHeaded = true

lemma Renaming.takes_text {id : String} (h : isHeaded id = true) : r.Takes id (r.text id) :=
  ⟨lower_text h, isHeaded_lower h⟩

namespace Scope

/-- **A scope with its variables renamed.** -/
def renamed (r : Renaming) (scope : Scope) : Scope where
  frames := scope.frames.map fun frame => frame.map fun entry => (r.text entry.1, r.text entry.2)
  roots := scope.roots.map fun entry => (r.text entry.1, entry.2.renamed r)

/-- The roots that names lead to begin with names in lower case. -/
def Headed (scope : Scope) : Prop :=
  ∀ frame ∈ scope.frames, ∀ entry ∈ frame, isHeaded entry.2 = true

variable {scope : Scope} {id id' : String}

lemma mem_of_lookup_eq_some {κ α : Type} [BEq κ] [LawfulBEq κ] {entries : List (κ × α)} {key : κ} {value : α}
    (h : entries.lookup key = some value) : (key, value) ∈ entries := by
  obtain ⟨before, after, rfl, -⟩ := List.lookup_eq_some_iff.1 h
  exact List.mem_append_right before List.mem_cons_self

lemma declared?_renamed (r : Renaming) (scope : Scope) (root : String) :
    (scope.renamed r).declared? (r.text root) = (scope.declared? root).map (Variable.renamed r) :=
  lookup_map_of_injective r.text_injective _ _ _

lemma lookup?_renamed (h : scope.Headed) (hid : r.Takes id id') :
    (scope.renamed r).lookup? id' = (scope.lookup? id).map (Occurrence.renamed r) := by
  have hframes : ((scope.renamed r).frames.findSome? fun frame => frame.lookup (lower id')) =
      (scope.frames.findSome? fun frame => frame.lookup (lower id)).map r.text := by
    have hlookup : ∀ frame : List (String × String),
        (frame.map fun entry => (r.text entry.1, r.text entry.2)).lookup (lower id') =
          (frame.lookup (lower id)).map r.text := fun frame => by
      rw [hid.1]
      exact lookup_map_of_injective r.text_injective _ _ _
    simp only [renamed, List.findSome?_map, Function.comp_def, hlookup, List.map_findSome?]
  unfold lookup?
  rw [hframes]
  cases hroot : scope.frames.findSome? fun frame => frame.lookup (lower id) with
  | none => rfl
  | some root =>
    obtain ⟨frame, hframe, hfound⟩ := List.exists_of_findSome?_eq_some hroot
    have hheaded := h frame hframe _ (mem_of_lookup_eq_some hfound)
    exact congrArg some (Occurrence.ofVariable_text hheaded)

lemma isHeaded_of_lookup? (h : scope.Headed) (hplace : scope.lookup? id = some place) : place.isHeaded = true := by
  obtain ⟨root, hroot, rfl⟩ := Option.map_eq_some_iff.1 hplace
  obtain ⟨frame, hframe, hfound⟩ := List.exists_of_findSome?_eq_some hroot
  exact isHeaded_lower (h frame hframe _ (mem_of_lookup_eq_some hfound))

lemma freshRoot_renamed (r : Renaming) (scope : Scope) (name : String) :
    (scope.renamed r).freshRoot (r.text name) = r.text (scope.freshRoot name) := by
  have hlookup : ((scope.renamed r).roots.lookup (r.text name)).isSome = (scope.roots.lookup name).isSome := by
    have hdeclared := declared?_renamed r scope name
    unfold declared? at hdeclared
    rw [hdeclared, Option.isSome_map]
  have hlength : (scope.renamed r).roots.length = scope.roots.length := by simp [renamed]
  unfold freshRoot
  rw [hlookup, hlength]
  split
  · rw [String.append_assoc, String.append_assoc, Renaming.text_append (by simp [endsName])]
  · rfl

lemma putVariable_renamed (r : Renaming) (root : String) (entry : Variable) (roots : List (String × Variable)) :
    putVariable (r.text root) (entry.renamed r) (roots.map fun entry => (r.text entry.1, entry.2.renamed r)) =
      (putVariable root entry roots).map fun entry => (r.text entry.1, entry.2.renamed r) := by
  induction roots with
  | nil => rfl
  | cons held rest ih =>
    obtain ⟨other, held⟩ := held
    by_cases h : other = root
    · simp [putVariable, h]
    · have hne : r.text other ≠ r.text root := fun heq => h (r.text_injective heq)
      simp [putVariable, h, hne, ih]

lemma isHeaded_freshRoot (scope : Scope) {name : String} (h : isHeaded name = true) : isHeaded (scope.freshRoot name) = true := by
  rcases scope.freshRoot_eq name with ⟨hroot, -⟩ | hroot
  · rwa [hroot]
  · have hsign : ("#" ++ toString scope.roots.length).toList = '#' :: (toString scope.roots.length).toList := by simp
    rw [hroot, String.append_assoc]
    exact isHeaded_append h hsign (.inr rfl)

/-- **A declaration under a renamed name.** -/
lemma declare?_renamed (hid : r.Takes id id') (entry : Variable) : (scope.renamed r).declare? id' (entry.renamed r) =
      (scope.declare? id entry).map fun found => (found.1.renamed r, found.2.renamed r) := by
  have hroot := isHeaded_freshRoot scope hid.2
  unfold declare?
  dsimp only
  rw [hid.1, freshRoot_renamed]
  cases hframes : scope.frames with
  | nil => simp [renamed, hframes]
  | cons frame rest =>
    have hlookup : (frame.map fun entry => (r.text entry.1, r.text entry.2)).lookup (r.text (lower id)) =
        (frame.lookup (lower id)).map r.text := lookup_map_of_injective r.text_injective _ _ _
    simp only [renamed, hframes, List.map_cons, hlookup, Option.isSome_map]
    split
    · rfl
    · rw [putVariable_renamed, Occurrence.ofVariable_text hroot]
      simp

lemma Headed.declare? (h : scope.Headed) (hid : isHeaded (lower id) = true) {entry : Variable} {changed : Scope}
    (hok : scope.declare? id entry = some (changed, place)) : changed.Headed ∧ place.isHeaded = true := by
  have hroot := isHeaded_freshRoot scope hid
  obtain ⟨frame, rest, hframes, -, rfl, rfl⟩ := declare?_eq_some hok
  rw [Headed, hframes, List.forall_mem_cons] at h
  exact ⟨List.forall_mem_cons.2 ⟨List.forall_mem_append.2 ⟨h.1, List.forall_mem_singleton.2 hroot⟩, h.2⟩, hroot⟩

lemma popFrame_renamed (r : Renaming) (scope : Scope) : (scope.renamed r).popFrame = scope.popFrame.renamed r := by
  obtain ⟨frames, roots⟩ := scope
  rcases frames with _ | ⟨first, _ | ⟨next, rest⟩⟩ <;> rfl

lemma Headed.pushFrame (h : scope.Headed) : scope.pushFrame.Headed :=
  List.forall_mem_cons.2 ⟨by simp, h⟩

lemma Headed.popFrame (h : scope.Headed) : scope.popFrame.Headed := by
  unfold Scope.popFrame
  cases hframes : scope.frames with
  | nil => simpa [hframes] using h
  | cons first rest =>
    cases rest with
    | nil => simpa [hframes] using h
    | cons next others =>
      rw [Headed, hframes, List.forall_mem_cons] at h
      exact h.2

end Scope

/-! ### What names stand for -/

namespace Compile.SameAnswer

variable {α β γ δ : Type} {R : α → β → Prop} {S : γ → δ → Prop}

lemma bind {answer : Except Error α} {other : Except Error β} {next : α → Except Error γ} {next' : β → Except Error δ}
    (h : SameAnswer R answer other) (hnext : ∀ value value', R value value' → SameAnswer S (next value) (next' value')) :
    SameAnswer S (answer >>= next) (other >>= next') := by
  cases h with
  | ok h => exact hnext _ _ h
  | error h => exact .error h

lemma same (answer : Except Error α) : SameAnswer Eq answer answer := by
  cases answer with
  | ok value => exact .ok rfl
  | error error => exact .error rfl

lemma toOption_eq {answer other : Except Error α} (h : SameAnswer Eq answer other) : answer.toOption = other.toOption := by
  cases h with
  | ok h => rw [h]
  | error _ => rfl

end Compile.SameAnswer

namespace Resolve

open Compile (SameAnswer)

variable {catalog : Catalog} {scope : Scope} {id id' : String} {place : Occurrence}

lemma sameAnswer_rootEntity (root : String) :
    SameAnswer Eq (rootEntity catalog scope root) (rootEntity catalog (scope.renamed r) (r.text root)) := by
  unfold rootEntity
  rw [Scope.declared?_renamed]
  cases scope.declared? root with
  | none => exact .error rfl
  | some entry => exact .same _

lemma sameAnswer_variableOf (h : scope.Headed) (hid : r.Takes id id') :
    SameAnswer r.Places (variableOf scope id) (variableOf (scope.renamed r) id') := by
  unfold variableOf
  rw [Scope.lookup?_renamed h hid]
  cases hplace : scope.lookup? id with
  | none => exact .error rfl
  | some place => exact .ok ⟨rfl, Scope.isHeaded_of_lookup? h hplace⟩

lemma sameAnswer_variableEntity (h : scope.Headed) (hid : r.Takes id id') :
    SameAnswer Eq (variableEntity catalog scope id) (variableEntity catalog (scope.renamed r) id') := by
  refine (sameAnswer_variableOf h hid).bind ?_
  rintro place _ ⟨rfl, -⟩
  rw [Occurrence.rootName_renamed]
  exact sameAnswer_rootEntity _

lemma sameAnswer_objectEntity (entity : Option Entity) (source source' : Occurrence) (name : String) :
    SameAnswer Eq (objectEntity entity source name) (objectEntity entity source' name) := by
  cases entity with
  | none => exact .error rfl
  | some entity => exact .ok rfl

lemma sameAnswer_occurrence (r : Renaming) (catalog : Catalog) (scope : Scope) (place : Occurrence) :
    SameAnswer Eq (occurrence catalog scope place) (occurrence catalog (scope.renamed r) (place.renamed r)) := by
  induction place with
  | root name =>
    refine (sameAnswer_rootEntity name).bind ?_
    rintro entity _ rfl
    exact .same _
  | child source hop ih =>
    cases hop with
    | object name =>
      refine ih.bind ?_
      rintro ⟨entity, table⟩ _ rfl
      refine (sameAnswer_objectEntity entity source _ name).bind ?_
      rintro entity _ rfl
      exact .same _
    | table name =>
      refine ih.bind ?_
      rintro ⟨entity, table⟩ _ rfl
      exact .same _

lemma sameAnswer_hopsAlong (source : Occurrence) (hop : Hop) : SameAnswer Eq (hopsAlong catalog scope source hop)
      (hopsAlong catalog (scope.renamed r) (source.renamed r) hop) := by
  cases hop with
  | object name =>
    refine (sameAnswer_occurrence r catalog scope source).bind ?_
    rintro ⟨entity, table⟩ _ rfl
    refine (sameAnswer_objectEntity entity source _ name).bind ?_
    rintro entity _ rfl
    exact .same _
  | table name =>
    refine (sameAnswer_occurrence r catalog scope source).bind ?_
    rintro ⟨entity, table⟩ _ rfl
    exact .same _

lemma sameAnswer_incomingHops (place : Occurrence) : SameAnswer Eq (incomingHops catalog scope place)
      (incomingHops catalog (scope.renamed r) (place.renamed r)) := by
  cases place with
  | child source hop => exact sameAnswer_hopsAlong source hop
  | root name =>
    rw [Occurrence.renamed]
    unfold incomingHops
    dsimp only
    rw [Scope.declared?_renamed]
    cases scope.declared? name with
    | none => exact .error rfl
    | some entry =>
      obtain ⟨entity, _ | ⟨source, hop⟩⟩ := entry
      · exact .error rfl
      · exact sameAnswer_hopsAlong source hop

/-! ### Paths -/

lemma sameAnswer_property (entity : Entity) (name : String) (path path' : Path) :
    SameAnswer Eq (property catalog entity name path) (property catalog entity name path') := by
  unfold property
  cases catalog.attribute? entity name with
  | some attr => exact .ok rfl
  | none =>
    cases catalog.relationship? entity name with
    | some relationship => exact .same _
    | none => exact .error rfl

lemma sameAnswer_terminal (h : scope.Headed) (hid : r.Takes id id') (components : List String) :
    SameAnswer Eq (terminal catalog scope ⟨id, components⟩) (terminal catalog (scope.renamed r) ⟨id', components⟩) := by
  refine (sameAnswer_variableEntity h hid).bind ?_
  rintro entity _ rfl
  dsimp only
  cases components.getLast? with
  | none => exact .error rfl
  | some last =>
    refine (SameAnswer.same _).bind ?_
    rintro owner _ rfl
    exact sameAnswer_property owner last _ _

lemma sameAnswer_pathType (h : scope.Headed) (hid : r.Takes id id') (components : List String) :
    SameAnswer Eq (pathType catalog scope ⟨id, components⟩) (pathType catalog (scope.renamed r) ⟨id', components⟩) := by
  refine (sameAnswer_terminal h hid components).bind ?_
  rintro terminal _ rfl
  exact .same _

lemma sameAnswer_dbPathType (h : scope.Headed) (hid : r.Takes id id') (components : List String) :
    SameAnswer Eq (dbPathType catalog scope ⟨id, components⟩) (dbPathType catalog (scope.renamed r) ⟨id', components⟩) := by
  refine (sameAnswer_variableEntity h hid).bind ?_
  rintro entity _ rfl
  exact .same _

end Resolve

end EntityQuery
