import EntityQuery.Proofs.Joins.Registry
import EntityQuery.Proofs.Steps.Balance

/-!
Steps followed one after the other from the roots of a statement. The register of joins and the joins that are written agree
after each of them.

Main statement: however steps are followed, a step that is repeated leads to the same occurrence and writes nothing, no
alias is introduced twice, and every join starts from the table of its root or from one that is joined to it before
(`traverse_shared_ordered`).
-/

namespace EntityQuery

/-! ### Variables with simple names -/

/-- A scope of variables with simple names, declared in any frames. -/
inductive Scope.Simple : Scope → Prop
  | start : Simple {}
  | declare {scope changed : Scope} {id : String} {entry : Variable} {place : Occurrence} (h : Simple scope)
    (hid : isSimple id = true) (hok : scope.declare? id entry = some (changed, place)) : Simple changed
  | enter {scope : Scope} (h : Simple scope) : Simple scope.pushFrame
  | leave {scope : Scope} (h : Simple scope) : Simple scope.popFrame

lemma Scope.Simple.simpleRoots {scope : Scope} (h : scope.Simple) : Resolve.SimpleRoots scope := by
  induction h with
  | start =>
    intro root entry hentry
    cases hentry
  | declare _ hid hok ih => exact ih.declare? hid hok
  | enter _ ih => exact ih
  | @leave scope _ ih =>
    intro root entry hentry
    rw [Scope.declared?, Scope.roots_popFrame] at hentry
    exact ih root entry hentry

namespace Compile

open Sql

variable {env : Env} {state later : State} {written : List Occurrence}

/-! ### Runs -/

/-- A step that is to be followed. -/
structure Traversal where
  root : String
  source : Occurrence
  hop : Hop
  kind : JoinKind
deriving DecidableEq, Repr

/-- Whether a step starts at its root or at what an earlier step with that root has led to. -/
def Traversal.begins (step : Traversal) (history : List (Traversal × Occurrence)) : Bool :=
  step.source = .root step.root || history.any fun earlier => earlier.1.root = step.root && earlier.2 = step.source

/-- Follows steps one after the other, and notes what each of them has led to. -/
def traverse (env : Env) : List Traversal → List (Traversal × Occurrence) → State →
    Option (List (Traversal × Occurrence) × State)
  | [], history, state => some (history, state)
  | step :: rest, history, state =>
    if step.begins history then
      match follow (.root step.root) step.source step.hop step.kind env state with
      | .ok result later => traverse env rest (history ++ [(step, result)]) later
      | .error _ _ => none
    else none

/-- What steps have led to can be joined to, and is what the register has for them. -/
def Recorded (written : List Occurrence) (state : State) (history : List (Traversal × Occurrence)) : Prop :=
  ∀ entry ∈ history, entry.2 ∈ written ∧ entry.2.rootName = entry.1.root ∧
    state.joins.lookup (entry.1.source, entry.1.hop) = some entry.2

lemma Recorded.placed {history : List (Traversal × Occurrence)} (h : Recorded written state history)
    {step : Traversal} (hbegins : step.begins history = true) :
    step.source.rootName = step.root ∧ Placed written step.source := by
  simp only [Traversal.begins, Bool.or_eq_true, decide_eq_true_eq, List.any_eq_true, Bool.and_eq_true] at hbegins
  rcases hbegins with hroot | ⟨entry, hentry, hsame, hsource⟩
  · rw [hroot]
    exact ⟨rfl, .inl rfl⟩
  · obtain ⟨hmem, hroot, -⟩ := h entry hentry
    rw [← hsource, ← hsame]
    exact ⟨hroot, .inr hmem⟩

/-- **The register and the joins agree after every run.** -/
lemma Wired.traverse (hsimple : env.catalog.isSimple = true) (hstraight : env.catalog.straight [] = true)
    {steps : List Traversal} {history history' : List (Traversal × Occurrence)} (h : Wired env [] written state)
    (hrecorded : Recorded written state history) (hrun : Compile.traverse env steps history state = some (history', later)) :
    ∃ written', Wired env [] written' later ∧ Recorded written' later history' := by
  induction steps generalizing history state written with
  | nil =>
    cases hrun
    exact ⟨written, h, hrecorded⟩
  | cons step rest ih =>
    unfold Compile.traverse at hrun
    by_cases hbegins : step.begins history = true
    · rw [if_pos hbegins] at hrun
      obtain ⟨hroot, hplaced⟩ := hrecorded.placed hbegins
      cases hok : Compile.follow (.root step.root) step.source step.hop step.kind env state with
      | error err failed =>
        rw [hok] at hrun
        cases hrun
      | ok result mid =>
        rw [hok] at hrun
        obtain ⟨added, hwired, hmem, hresult, hgrows, hlookup⟩ := h.follow hsimple hstraight hroot hplaced hok
        refine ih hwired (List.forall_mem_append.2 ⟨fun entry hentry => ?_, ?_⟩) hrun
        · obtain ⟨hold, hrootName, hknown⟩ := hrecorded entry hentry
          exact ⟨List.mem_append_left _ hold, hrootName, hgrows.shared _ _ hknown⟩
        · exact List.forall_mem_singleton.2 ⟨hmem, hresult, hlookup⟩
    · rw [if_neg hbegins] at hrun
      cases hrun

lemma wired_start {scope : Scope} (haliases : env.settings.useTableAliases = true) (hscope : scope.Simple) :
    Wired env [] [] { env.start with scope } := by
  have hempty : ∀ slot, env.start.buffer.fragments slot = [] := by
    intro slot
    show (([(Slot.root, [])] : List (Slot × List Fragment)).lookup slot).getD [] = []
    rw [List.lookup_cons]
    split <;> rfl
  refine ⟨haliases, hscope.simpleRoots, fun source hop target hlookup => ?_, by simp, List.nodup_nil, by simp,
    fun root => ?_, fun slot _ => ?_, fun root => .inl (hempty _)⟩
  · cases hlookup
  · rw [hempty]
    exact .nil
  · rw [hempty]
    rfl

/-! ### What holds of every run -/

lemma Wired.nodup_joinLabels (hsimple : env.catalog.isSimple = true) (h : Wired env [] written state) (slot : Slot) :
    (joinLabels (state.buffer.fragments slot)).Nodup := by
  by_cases htail : ∃ root, slot = .marker (.joinTail root)
  · obtain ⟨root, rfl⟩ := htail
    refine nodup_of_forall₂ (h.labels root) (h.distinct.filter _) fun place hplace other hother label hlabel hlabel' => ?_
    exact hlabel.injective hsimple hlabel' (h.regular place (List.mem_of_mem_filter hplace))
      (h.regular other (List.mem_of_mem_filter hother))
  · rw [h.elsewhere slot (not_exists.1 htail)]
    exact List.nodup_nil

lemma Wired.slot_unique (hsimple : env.catalog.isSimple = true) (h : Wired env [] written state) {slot slot' : Slot}
    {label : String} (hslot : label ∈ joinLabels (state.buffer.fragments slot))
    (hslot' : label ∈ joinLabels (state.buffer.fragments slot')) : slot = slot' := by
  have hjoined : ∀ {slot : Slot}, label ∈ joinLabels (state.buffer.fragments slot) →
      ∃ place, place ∈ written ∧ slot = .marker (.joinTail place.rootName) ∧ Named env state place label := by
    intro slot hmem
    by_cases htail : ∃ root, slot = .marker (.joinTail root)
    · obtain ⟨root, rfl⟩ := htail
      obtain ⟨place, hplace, hnamed⟩ := exists_of_forall₂ (h.labels root).flip label hmem
      obtain ⟨hwritten, hroot⟩ := List.mem_filter.1 hplace
      rw [← of_decide_eq_true hroot]
      exact ⟨place, hwritten, rfl, hnamed⟩
    · rw [h.elsewhere slot (not_exists.1 htail)] at hmem
      cases hmem
  obtain ⟨place, hplace, rfl, hnamed⟩ := hjoined hslot
  obtain ⟨place', hplace', rfl, hnamed'⟩ := hjoined hslot'
  rw [hnamed.injective hsimple hnamed' (h.regular place hplace) (h.regular place' hplace')]

/-- **Joins are shared, and they are in order.** In a catalog with simple names whose relationships end in the tables of
their targets, let steps be followed from the variables of a statement in any order. Then every step, followed again, leads
to where it led before and writes nothing; no alias is introduced by two joins; and where the joins of a root are written,
each starts from the table of the root or from one that is joined before it. -/
theorem traverse_shared_ordered {scope : Scope} {steps : List Traversal} {history : List (Traversal × Occurrence)}
    (hsimple : env.catalog.isSimple = true) (hstraight : env.catalog.straight [] = true)
    (haliases : env.settings.useTableAliases = true) (hscope : scope.Simple)
    (hrun : traverse env steps [] { env.start with scope } = some (history, state)) :
    (∀ entry ∈ history, ∀ root kind,
      follow root entry.1.source entry.1.hop kind env state = .ok entry.2 state) ∧
    (∀ slot, (joinLabels (state.buffer.fragments slot)).Nodup) ∧
    (∀ slot slot' label, label ∈ joinLabels (state.buffer.fragments slot) →
      label ∈ joinLabels (state.buffer.fragments slot') → slot = slot') ∧
    ∀ root, state.buffer.fragments (.marker (.joinTail root)) = [] ∨ ∃ label, Owns env state root label ∧
      joinsOrdered [label] none (state.buffer.fragments (.marker (.joinTail root))) = true := by
  have hstart := wired_start haliases hscope
  obtain ⟨written, hwired, hrecorded⟩ := hstart.traverse hsimple hstraight (by simp [Recorded]) hrun
  refine ⟨fun entry hentry root kind => ?_, hwired.nodup_joinLabels hsimple, fun slot slot' label hslot hslot' => ?_,
    hwired.ordered⟩
  · exact follow_of_known (hrecorded entry hentry).2.2
  · exact hwired.slot_unique hsimple hslot hslot'

/-- Artists with their paintings, and the galleries that these are in. -/
def exhibitions : Catalog :=
  .ofParts
    [{ name := "ARTIST"
       columns := [{ name := "ID", type := .integer, primaryKey := true }]
       relationships := [{ name := "paintings", target := "PAINTING", joins := [⟨"ID", "ARTIST_ID"⟩], toMany := true }] },
     { name := "GALLERY"
       columns := [{ name := "ID", type := .integer, primaryKey := true }] },
     { name := "PAINTING"
       columns := [{ name := "ID", type := .integer, primaryKey := true }, { name := "ARTIST_ID", type := .integer },
         { name := "GALLERY_ID", type := .integer }]
       relationships := [{ name := "artist", target := "ARTIST", joins := [⟨"ARTIST_ID", "ID"⟩] },
         { name := "gallery", target := "GALLERY", joins := [⟨"GALLERY_ID", "ID"⟩] }] }]
    [{ name := "Artist", table := "ARTIST"
       relationships := [{ name := "galleries", targetEntity := "Gallery", dbPath := "paintings.gallery" }] },
     { name := "Gallery", table := "GALLERY" }]

/-- The galleries of two artists, and a step along tables that one of the two shares with them. -/
def galleryWalks : List Traversal :=
  [⟨"a", .root "a", .object "galleries", .inner⟩, ⟨"b", .root "b", .table "paintings", .leftOuter⟩,
    ⟨"b", (Occurrence.root "b").child (.table "paintings"), .table "artist", .leftOuter⟩,
    ⟨"b", .root "b", .object "galleries", .inner⟩, ⟨"a", .root "a", .object "galleries", .leftOuter⟩]

def twoArtists : Scope :=
  { frames := [[("a", "a"), ("b", "b")]], roots := [("a", { entity := "Artist" }), ("b", { entity := "Artist" })] }

/-- The galleries of the second artist start from the paintings that another step has joined. -/
theorem traverse_shared_ordered_galleries :
    ∃ history state, traverse { catalog := exhibitions } galleryWalks [] { usingAliases := true, scope := twoArtists } =
        some (history, state) ∧
      tokensText (state.buffer.tokens (.marker (.joinTail "a"))) =
        " INNER JOIN PAINTING t1 ON (t0.ID = t1.ARTIST_ID) INNER JOIN GALLERY t2 ON (t1.GALLERY_ID = t2.ID)" ∧
      tokensText (state.buffer.tokens (.marker (.joinTail "b"))) =
        " LEFT OUTER JOIN PAINTING t4 ON (t3.ID = t4.ARTIST_ID) LEFT OUTER JOIN ARTIST t5 ON (t4.ARTIST_ID = t5.ID)" ++
        " INNER JOIN GALLERY t6 ON (t4.GALLERY_ID = t6.ID)" ∧
      (∀ entry ∈ history, ∀ root kind, follow root entry.1.source entry.1.hop kind { catalog := exhibitions } state =
        .ok entry.2 state) ∧
      (∀ slot, (joinLabels (state.buffer.fragments slot)).Nodup) ∧
      (∀ slot slot' label, label ∈ joinLabels (state.buffer.fragments slot) →
        label ∈ joinLabels (state.buffer.fragments slot') → slot = slot') ∧
      ∀ root, state.buffer.fragments (.marker (.joinTail root)) = [] ∨ ∃ label,
        Owns { catalog := exhibitions } state root label ∧
          joinsOrdered [label] none (state.buffer.fragments (.marker (.joinTail root))) = true := by
  have hfirst : Scope.declare? {} "a" { entity := "Artist" } =
      some ({ frames := [[("a", "a")]], roots := [("a", { entity := "Artist" })] }, .root "a") := by
    decide +kernel
  have hsecond : Scope.declare? { frames := [[("a", "a")]], roots := [("a", { entity := "Artist" })] } "b"
      { entity := "Artist" } = some (twoArtists, .root "b") := by
    decide +kernel
  have hscope : twoArtists.Simple := (Scope.Simple.start.declare rfl hfirst).declare rfl hsecond
  have htexts : (traverse { catalog := exhibitions } galleryWalks [] { usingAliases := true, scope := twoArtists }).map
      (fun run => ["a", "b"].map fun root => tokensText (run.2.buffer.tokens (.marker (.joinTail root)))) = some
      [" INNER JOIN PAINTING t1 ON (t0.ID = t1.ARTIST_ID) INNER JOIN GALLERY t2 ON (t1.GALLERY_ID = t2.ID)",
        " LEFT OUTER JOIN PAINTING t4 ON (t3.ID = t4.ARTIST_ID) LEFT OUTER JOIN ARTIST t5 ON (t4.ARTIST_ID = t5.ID)" ++
        " INNER JOIN GALLERY t6 ON (t4.GALLERY_ID = t6.ID)"] := by
    decide +kernel
  obtain ⟨⟨history, state⟩, hrun, htext⟩ := Option.map_eq_some_iff.1 htexts
  simp only [List.map_cons, List.map_nil, List.cons.injEq, and_true] at htext
  exact ⟨history, state, hrun, htext.1, htext.2,
    traverse_shared_ordered (by decide +kernel) (by decide +kernel) rfl hscope hrun⟩

end Compile

end EntityQuery
