import EntityQuery.Proofs.Trails.Origin
import Mathlib.Logic.Function.Basic

/-!
Ground that grows. A declaration adds a variable with a root of its own; all that was known of the ground is still so. The
declarations of a FROM clause add their names to the innermost frame, in their order.
-/

namespace EntityQuery

open Sql

/-! ### Scopes -/

namespace Scope

variable {scope changed : Scope} {id root : String} {entry : Variable} {occurrence : Occurrence}

lemma Fits.mono (h : scope.Fits occurrence)
    (hroots : ∀ root entry, scope.declared? root = some entry → changed.declared? root = some entry) :
    changed.Fits occurrence := by
  obtain ⟨entry, hentry⟩ := h.declared
  exact ⟨h.sound, entry, hroots _ entry hentry⟩

lemma declare?_root (h : scope.declare? id entry = some (changed, occurrence)) :
    occurrence = .root (scope.freshRoot (Text.lower id)) := by
  obtain ⟨_, _, -, -, -, hroot⟩ := declare?_eq_some h
  exact hroot

lemma Declared.declared?_cases (h : Declared scope changed id root entry) {other : String} {held : Variable}
    (hother : changed.declared? other = some held) : scope.declared? other = some held ∨ other = root ∧ held = entry := by
  rw [declared?, h.roots] at hother
  exact lookup_concat_cases hother

/-- **A declaration keeps a scope sound** if what it joins to is there. -/
lemma Sound.declare (h : scope.Sound) (hdeclared : Declared scope changed id root entry)
    (hdefined : ∀ source hop, entry.definedBy = some (source, hop) → scope.Fits (source.child hop)) : changed.Sound where
  numbered := hdeclared.numbered
  names := by
    obtain ⟨frame, rest, hframes, -, hchanged⟩ := hdeclared.frames
    have hold : ∀ frame ∈ scope.frames, ∀ name root, frame.lookup name = some root →
        Text.lower root = root ∧ ∃ entry, changed.declared? root = some entry := by
      intro frame hframe name root hlookup
      obtain ⟨hlow, entry, hentry⟩ := h.names frame hframe name root hlookup
      exact ⟨hlow, entry, hdeclared.declared?_of_declared? hentry⟩
    rw [hframes] at hold
    rw [hchanged]
    intro inner hinner name found hlookup
    rcases List.mem_cons.1 hinner with rfl | hinner
    · obtain hname | ⟨-, rfl⟩ := lookup_concat_cases hlookup
      · exact hold frame List.mem_cons_self name _ hname
      · exact ⟨hdeclared.low, entry, hdeclared.lookup_root⟩
    · exact hold inner (List.mem_cons_of_mem _ hinner) name found hlookup
  defined other held source hop hother hheld := by
    have hroots : ∀ root entry, scope.declared? root = some entry → changed.declared? root = some entry :=
      fun _ _ h => hdeclared.declared?_of_declared? h
    rcases hdeclared.declared?_cases hother with hother | ⟨rfl, rfl⟩
    · exact (h.defined other held source hop hother hheld).mono hroots
    · exact (hdefined source hop hheld).mono hroots

lemma Sound.pushFrame (h : scope.Sound) : scope.pushFrame.Sound where
  numbered := h.numbered
  names frame hframe := by
    rcases List.mem_cons.1 hframe with rfl | hframe
    · exact fun name root hfound => by cases hfound
    · exact h.names frame hframe
  defined root entry source hop hentry hdefined :=
    (h.defined root entry source hop hentry hdefined).mono fun _ _ hroot => hroot

lemma Sound.popFrame (h : scope.Sound) : scope.popFrame.Sound := by
  unfold Scope.popFrame
  split
  · rename_i hframes
    refine ⟨h.numbered, fun frame hframe => h.names frame ?_, fun root entry source hop hentry hdefined => ?_⟩
    · rw [hframes]
      exact List.mem_cons_of_mem _ hframe
    · exact (h.defined root entry source hop hentry hdefined).mono fun _ _ hroot => hroot
  · exact h

end Scope

/-! ### Grounds -/

namespace Ground

/-- **A ground with more variables.** -/
structure Extends (ground larger : Ground) : Prop where
  roots : ∀ root entry, ground.scope.declared? root = some entry → larger.scope.declared? root = some entry
  active : larger.active = ground.active

variable {ground larger largest : Ground} {root : String}

lemma Extends.refl (ground : Ground) : ground.Extends ground :=
  ⟨fun _ _ h => h, rfl⟩

lemma Extends.knows (h : ground.Extends larger) (hroot : ground.Knows root) : larger.Knows root := by
  obtain ⟨entry, hentry⟩ := hroot
  exact ⟨entry, h.roots root entry hentry⟩

lemma Extends.trans (h : ground.Extends larger) (h' : larger.Extends largest) : ground.Extends largest :=
  ⟨fun root entry hentry => h'.roots root entry (h.roots root entry hentry), h'.active.trans h.active⟩

/-- **Some names more in the innermost frame**, with roots of their own. -/
structure Enrols (ground larger : Ground) (entries : List (String × String)) : Prop extends ground.Extends larger where
  placed : larger.placed = ground.placed
  sound : larger.scope.Sound
  frames : ∀ frame outer, ground.scope.frames = frame :: outer → larger.scope.frames = (frame ++ entries) :: outer
  sees : ∀ entry ∈ entries, larger.scope.Sees entry.1 entry.2
  fresh : ∀ entry ∈ entries, ground.scope.declared? entry.2 = none
  known : ∀ entry ∈ entries, larger.Knows entry.2
  covers : ∀ root, larger.Knows root → ground.Knows root ∨ root ∈ entries.map Prod.snd
  spelled : ∀ entry ∈ entries, ∀ c ∈ entry.2.toList, c ∈ entry.1.toList ∨ c = '#' ∨ c.isDigit = true
  nodup : (entries.map Prod.snd).Nodup

variable {entries more : List (String × String)}

lemma Enrols.refl (h : ground.scope.Sound) : ground.Enrols ground [] where
  toExtends := .refl ground
  placed := rfl
  sound := h
  frames frame outer hframes := by rw [hframes, List.append_nil]
  sees := by simp
  fresh := by simp
  known := by simp
  covers _ h := .inl h
  spelled := by simp
  nodup := List.nodup_nil

lemma Enrols.headD (h : ground.Enrols larger entries) (hframes : ground.scope.frames ≠ []) :
    ground.scope.frames.headD [] <+: larger.scope.frames.headD [] := by
  obtain ⟨frame, outer, hframes⟩ := List.exists_cons_of_ne_nil hframes
  rw [h.frames frame outer hframes, hframes]
  exact List.prefix_append _ _

lemma Enrols.frames_ne_nil (h : ground.Enrols larger entries) (hne : ground.scope.frames ≠ []) : larger.scope.frames ≠ [] := by
  obtain ⟨frame, outer, hframes⟩ := List.exists_cons_of_ne_nil hne
  rw [h.frames frame outer hframes]
  exact List.cons_ne_nil _ _

lemma Enrols.nodup_names (h : ground.Enrols larger entries) : (entries.map Prod.fst).Nodup := by
  refine List.Nodup.map_on (fun entry hentry other hother heq => Prod.ext heq ?_) (List.Nodup.of_map _ h.nodup)
  exact (heq ▸ h.sees entry hentry : larger.scope.Sees other.1 entry.2).unique (h.sees other hother)

lemma Enrols.trans (h : ground.Enrols larger entries) (h' : larger.Enrols largest more) (hne : ground.scope.frames ≠ []) :
    ground.Enrols largest (entries ++ more) := by
  have hfresh : ∀ entry ∈ more, ground.scope.declared? entry.2 = none := by
    intro entry hentry
    cases hold : ground.scope.declared? entry.2 with
    | none => rfl
    | some held => exact absurd (h.roots _ held hold) (by rw [h'.fresh entry hentry]; exact nofun)
  refine ⟨h.toExtends.trans h'.toExtends, h'.placed.trans h.placed, h'.sound, fun inner rest hinner => ?_, fun entry hentry => ?_,
    List.forall_mem_append.2 ⟨h.fresh, hfresh⟩,
    List.forall_mem_append.2 ⟨fun entry hentry => h'.knows (h.known entry hentry), h'.known⟩, fun root hroot => ?_,
    List.forall_mem_append.2 ⟨h.spelled, h'.spelled⟩, ?_⟩
  · rw [h'.frames _ rest (h.frames inner rest hinner), List.append_assoc]
  · rcases List.mem_append.1 hentry with hentry | hentry
    · exact (h.sees entry hentry).of_begins (h'.headD (h.frames_ne_nil hne))
    · exact h'.sees entry hentry
  · rw [List.map_append, List.mem_append]
    rcases h'.covers root hroot with hroot | hroot
    · exact (h.covers root hroot).imp_right .inl
    · exact .inr (.inr hroot)
  · rw [List.map_append, List.nodup_append]
    refine ⟨h.nodup, h'.nodup, fun root hroot other hother heq => ?_⟩
    obtain ⟨entry, hentry, rfl⟩ := List.mem_map.1 hroot
    obtain ⟨second, hsecond, rfl⟩ := List.mem_map.1 hother
    obtain ⟨held, hheld⟩ := h.known entry hentry
    rw [heq, h'.fresh second hsecond] at hheld
    cases hheld

end Ground

namespace Compile

variable {env : Env} {ground larger : Ground} {state later : State} {source target occurrence : Occurrence}
variable {hop : Hop} {root id name : String} {entry : Variable} {scope : Scope}
  {clause : JoinClause} {entries : List (String × String)} {origins : Origins}

/-- **A state stands on larger ground** once its scope is that of it. -/
lemma Stands.extend (h : Stands ground state) (hextends : ground.Extends larger) (hplaced : larger.placed = ground.placed)
    (hscope : later.scope = larger.scope) (hbuffer : later.buffer = state.buffer) (hjoins : later.joins = state.joins) :
    Stands larger later where
  scope := hscope
  active := by rw [hbuffer, h.active, hextends.active]
  placed := by rw [hbuffer, h.placed, hplaced]
  joins near step far hmem := by
    rw [hjoins] at hmem
    obtain ⟨hnear, hfar, hobject, hknown⟩ := h.joins near step far hmem
    refine ⟨hnear.mono hextends.roots, hfar.mono hextends.roots, hobject, hknown.imp_right ?_⟩
    rintro ⟨root, entry, rfl, hentry, hdefined⟩
    exact ⟨root, entry, rfl, hextends.roots root entry hentry, hdefined⟩

/-! ### Declarations -/

lemma enrols_declared (hscope : ground.scope.Sound) (h : Scope.Declared ground.scope scope id root entry)
    (hroot : root = ground.scope.freshRoot (Text.lower id))
    (hdefined : ∀ source hop, entry.definedBy = some (source, hop) → ground.scope.Fits (source.child hop)) :
    ground.Enrols { ground with scope } [(Text.lower id, root)] where
  roots _ _ hentry := h.declared?_of_declared? hentry
  active := rfl
  placed := rfl
  sound := hscope.declare h hdefined
  frames frame outer hframes := by
    obtain ⟨inner, rest, hinner, -, hchanged⟩ := h.frames
    rw [hframes] at hinner
    cases hinner
    exact hchanged
  sees := List.forall_mem_singleton.2 h.sees
  fresh := List.forall_mem_singleton.2 h.fresh
  known := List.forall_mem_singleton.2 ⟨entry, h.lookup_root⟩
  covers other hother := by
    obtain ⟨held, hheld⟩ := hother
    rcases h.declared?_cases hheld with hold | ⟨rfl, -⟩
    · exact .inl ⟨held, hold⟩
    · exact .inr (by simp)
  spelled := List.forall_mem_singleton.2 (hroot ▸ fun _ => Scope.mem_freshRoot)
  nodup := by simp

/-- **A declaration** adds its name, or the name is taken. -/
lemma fine_declareVariable (h : Stands ground state) (hscope : ground.scope.Sound) (hplain : plainName id = true)
    (hdefined : ∀ source hop, entry.definedBy = some (source, hop) → ground.scope.Fits (source.child hop)) :
    Fine (fun occurrence later => ∃ root larger, occurrence = .root root ∧ ground.Enrols larger [(Text.lower id, root)] ∧
      larger.scope.declared? root = some entry ∧ Stands larger later) (declareVariable id entry env state) := by
  rw [declareVariable, bind_apply, get_apply]
  dsimp only
  rcases hdeclare : state.scope.declare? id entry with _ | ⟨scope, place⟩
  · rfl
  · rw [h.scope] at hdeclare
    obtain ⟨root, rfl, hdeclared⟩ := hscope.numbered.declare? hplain hdeclare
    have henrols : ground.Enrols { ground with scope } _ :=
      enrols_declared hscope hdeclared (Occurrence.root.inj (Scope.declare?_root hdeclare)) hdefined
    exact ⟨root, _, rfl, henrols, hdeclared.lookup_root, h.extend henrols.toExtends henrols.placed rfl rfl rfl⟩

lemma fine_declareAlias (h : Stands ground state) (hscope : ground.scope.Sound) (entity : String)
    (hfits : ground.scope.Fits (source.child hop)) :
    Fine (fun id later => '.' ∉ id.toList ∧ ∃ root larger, ground.Enrols larger [(Text.lower id, root)] ∧ Stands larger later)
      (declareAlias entity source hop env state) := by
  have hopen : Stands ground { state with idAliasCount := state.idAliasCount + 1 } := h.unmoved ⟨rfl, rfl, rfl, rfl⟩
  change Fine _ ((declareVariable _ _ >>= fun _ => pure _) env _)
  refine (fine_declareVariable hopen hscope (plainName_alias _ _) fun _ _ heq => by cases heq; exact hfits).bind ?_
  rintro _ later ⟨root, larger, -, henrols, -, hlater⟩
  exact ⟨fun hdot => (plain_of_mem_alias hdot).1 rfl, root, larger, henrols, hlater⟩

lemma comes_knownSource (hsource : ground.scope.Fits source) (hobject : source.isEntity = true) (names : List String) :
    Comes env ground (knownSource source names) fun target =>
      ground.scope.Fits target ∧ target.isEntity = true ∧ ground.scope.Leads source names target := by
  induction names generalizing source with
  | nil => exact comes_pure ⟨hsource, hobject, .refl _ source⟩
  | cons name rest ih =>
    intro state hstate
    change Fine _ (knownSource ((state.joins.lookup (source, .object name)).getD (source.child (.object name))) rest env state)
    have hjoined : JoinedTo ground.scope source (.object name)
        ((state.joins.lookup (source, .object name)).getD (source.child (.object name))) := by
      cases hknown : state.joins.lookup (source, .object name) with
      | none => exact joined_object hsource hobject name
      | some existing =>
        obtain ⟨before, after, hjoins, -⟩ := List.lookup_eq_some_iff.1 hknown
        exact hstate.joins source (.object name) existing (by simp [hjoins])
    refine (ih hjoined.far (hjoined.object rfl) state hstate).mono fun target later h => ?_
    exact ⟨h.1, h.2.1, h.2.2.1, hjoined.leads.trans h.2.2.2⟩

/-! ### Declared joins -/

/-- A root of a variable that a join introduces. -/
def Derived (ground : Ground) (root : String) : Prop :=
  ∃ entry source hop, ground.scope.declared? root = some entry ∧ entry.definedBy = some (source, hop)

lemma Derived.extend (h : Derived ground root) (hextends : ground.Extends larger) : Derived larger root := by
  obtain ⟨entry, source, hop, hentry, hdefined⟩ := h
  exact ⟨entry, source, hop, hextends.roots root entry hentry, hdefined⟩

/-- What a declared join makes known, once the entity that it leads to is found. -/
def declareTarget (topLevel : Bool) (clause : JoinClause) (last target : String) : Compile Unit := do
  let source ← knownSource (← variableId clause.path.id) clause.path.components.dropLast
  let joined ← match clause.id with
    | some id => declareVariable id { entity := target, definedBy := some (source, .object last) }
    | none => pure (source.child (.object last))
  let _ ← registerJoin source (.object last) joined
  if clause.fetch && topLevel then
    addPrefetch { variableId := clause.path.id, path := clause.path.relative }

/-- The variable that a declared join has introduced, and where it comes from. -/
structure Introduced (ground larger : Ground) (path : Path) (root : String) : Prop where
  derived : Derived larger root
  trail : ∀ start origin hops, ground.scope.lookup? path.id = some start → ground.scope.Trail start origin hops →
    larger.scope.Trail (.root root) origin (hops ++ path.components.map .object)

/-- What a declared join has made known. -/
def Joins (ground : Ground) (clause : JoinClause) (later : State) : Prop :=
  ∃ larger entries, ground.Enrols larger entries ∧ entries.map Prod.fst = clause.id.toList.map Text.lower ∧
    (∀ entry ∈ entries, Introduced ground larger clause.path entry.2) ∧ Stands larger later

lemma fine_declareTarget (h : Stands ground state) (hscope : ground.scope.Sound) (topLevel : Bool)
    {last : String} (hlast : clause.path.components.getLast? = some last) (target : String)
    (hplain : ∀ id ∈ clause.id, plainName id = true) :
    Fine (fun _ later => Joins ground clause later) (declareTarget topLevel clause last target env state) := by
  have hprefetch : ∀ ground, Firm env ground (if clause.fetch && topLevel then
      addPrefetch { variableId := clause.path.id, path := clause.path.relative } else pure () : Compile Unit) :=
    fun _ => inferInstance
  refine (comes_variableId hscope clause.path.id state h).bind ?_
  rintro _ mid ⟨hmid, hlookup, root, rfl, hknows⟩
  refine (comes_knownSource (fits_root hknows) rfl _ mid hmid).bind ?_
  rintro source mid ⟨hmid, hsource, hobject, hleads⟩
  have hown := joined_object hsource hobject last
  cases hid : clause.id with
  | none =>
    refine (comes_registerJoin hown mid hmid).bind fun known mid hmid => ?_
    refine ((hprefetch ground).comes mid hmid.1).mono fun _ later hlater => ?_
    exact ⟨ground, [], .refl hscope, by rw [hid]; rfl, by simp, hlater.1⟩
  | some id =>
    refine (fine_declareVariable hmid hscope (hplain id hid) fun _ _ heq => by cases heq; exact hown.far).bind ?_
    rintro _ mid ⟨fresh, larger, rfl, henrols, hentry, hmid⟩
    have hjoined : JoinedTo larger.scope source (.object last) (.root fresh) :=
      ⟨hsource.mono henrols.roots, ⟨rfl, _, hentry⟩, fun _ => rfl, .inr ⟨fresh, _, rfl, hentry, rfl⟩⟩
    refine (comes_registerJoin hjoined mid hmid).bind fun known mid hmid => ?_
    refine ((hprefetch larger).comes mid hmid.1).mono fun _ later hlater => ?_
    refine ⟨larger, _, henrols, by rw [hid]; rfl, List.forall_mem_singleton.2 ?_, hlater.1⟩
    refine ⟨⟨_, source, .object last, hentry, rfl⟩, fun start origin hops hfound htrail => ?_⟩
    cases hlookup.symm.trans hfound
    have hwhole := hjoined.leads origin _ ((hleads origin hops htrail).mono henrols.roots)
    rwa [List.append_assoc, ← List.map_append, List.dropLast_append_getLast? _ hlast] at hwhole

/-- **A declared join** is made known, with the variable that it introduces. -/
lemma fine_declareJoin (h : Stands ground state) (hscope : ground.scope.Sound) (topLevel : Bool)
    (hplain : ∀ id ∈ clause.id, plainName id = true) :
    Fine (fun _ later => Joins ground clause later) (declareJoin topLevel clause env state) := by
  unfold declareJoin
  cases hlast : clause.path.components.getLast? with
  | none => exact rfl
  | some last =>
    refine ((firm_terminal hscope clause.path).comes state h).bind fun terminal mid hmid => ?_
    rcases terminal with _ | ⟨_, relationship⟩ | ⟨_, relationship⟩
    · exact rfl
    · exact fine_declareTarget hmid.1 hscope topLevel hlast relationship.targetEntity hplain
    · exact fine_declareTarget hmid.1 hscope topLevel hlast relationship.targetEntity hplain

/-! ### FROM clauses -/

def itemIds (item : FromItem) : List String :=
  item.id :: item.joins.filterMap JoinClause.id

/-- The trails of variables, by their names: the name of a variable that no join introduces, and the relationships from it. -/
abbrev Origins := List (String × String × List String)

/-- Variables whose trails are as told. -/
def Traced (ground : Ground) (origins : Origins) : Prop :=
  ∀ name origin names, origins.lookup name = some (origin, names) → ∃ root start, ground.scope.Sees name root ∧
    ground.scope.Sees origin start ∧ ground.scope.Trail (.root root) start (names.map .object)

/-- The trails after a declared join, if that starts from a variable whose trail is told. -/
def joinOrigin (origins : Origins) (clause : JoinClause) : Origins :=
  match clause.id, origins.lookup (Text.lower clause.path.id) with
  | some id, some (origin, names) => (Text.lower id, origin, names ++ clause.path.components) :: origins
  | _, _ => origins

/-- The trails after an item of a FROM clause. -/
def itemOrigins (origins : Origins) (item : FromItem) : Origins :=
  item.joins.foldl joinOrigin ((Text.lower item.id, Text.lower item.id, []) :: origins)

lemma Traced.mono (h : Traced ground origins) (hextends : ground.Extends larger)
    (hheads : ground.scope.frames.headD [] <+: larger.scope.frames.headD []) : Traced larger origins := by
  intro name origin names hlookup
  obtain ⟨root, start, hroot, hstart, htrail⟩ := h name origin names hlookup
  exact ⟨root, start, hroot.of_begins hheads, hstart.of_begins hheads, htrail.mono hextends.roots⟩

lemma Traced.enrol (h : Traced ground origins)
    (henrols : ground.Enrols larger entries) (hne : ground.scope.frames ≠ []) : Traced larger origins :=
  h.mono henrols.toExtends (henrols.headD hne)

lemma Traced.cons (h : Traced ground origins) {origin start : String} {names : List String}
    (hroot : ground.scope.Sees name root) (hstart : ground.scope.Sees origin start)
    (htrail : ground.scope.Trail (.root root) start (names.map .object)) : Traced ground ((name, origin, names) :: origins) := by
  intro other found steps hlookup
  rw [List.lookup_cons] at hlookup
  split at hlookup
  · rename_i heq
    cases hlookup
    cases beq_iff_eq.1 heq
    exact ⟨root, start, hroot, hstart, htrail⟩
  · exact h other found steps hlookup

lemma Traced.join (h : Traced ground origins) (hne : ground.scope.frames ≠ []) (henrols : ground.Enrols larger entries)
    (hnames : entries.map Prod.fst = clause.id.toList.map Text.lower)
    (hentries : ∀ entry ∈ entries, Introduced ground larger clause.path entry.2) : Traced larger (joinOrigin origins clause) := by
  have hlarger := h.enrol henrols hne
  unfold joinOrigin
  split
  · rename_i id origin names hid hlookup
    rw [hid] at hnames
    obtain ⟨entry, rfl, hentry⟩ := List.map_eq_singleton_iff.1 hnames
    have hmem := List.mem_singleton_self entry
    obtain ⟨root, start, hroot, hstart, htrail⟩ := h _ origin names hlookup
    refine hlarger.cons (hentry ▸ henrols.sees entry hmem) (hstart.of_begins (henrols.headD hne)) ?_
    rw [List.map_append]
    exact (hentries entry hmem).trail (.root root) start _ hroot.lookup? htrail
  · exact hlarger

/-- A name that leads to a variable that a join introduces. -/
def Joinable (ground : Ground) (id : String) : Prop :=
  ∃ root, ground.scope.Sees (Text.lower id) root ∧ Derived ground root

lemma Joinable.mono (h : Joinable ground id) (hextends : ground.Extends larger)
    (hheads : ground.scope.frames.headD [] <+: larger.scope.frames.headD []) : Joinable larger id := by
  obtain ⟨root, hsees, hderived⟩ := h
  exact ⟨root, hsees.of_begins hheads, hderived.extend hextends⟩

/-- **A step that makes variables known** with the given names, some of which joins introduce, and their trails. -/
def Declares (env : Env) (ids joined : List String) (trails : Origins → Origins) (step : Compile Unit) : Prop :=
  ∀ ground state origins, Stands ground state → ground.scope.Sound → ground.scope.frames ≠ [] → Traced ground origins →
    Fine (fun _ later => ∃ larger entries, ground.Enrols larger entries ∧ entries.map Prod.fst = ids.map Text.lower ∧
      (∀ id ∈ joined, Joinable larger id) ∧ Traced larger (trails origins) ∧ Stands larger later) (step env state)

lemma declares_pure : Declares env [] [] (fun origins => origins) (pure ()) :=
  fun ground _ _ h hscope _ htraced => ⟨ground, [], .refl hscope, rfl, by simp, htraced, h⟩

lemma Declares.seq {ids more joined joined' : List String} {trails trails' : Origins → Origins} {step next : Compile Unit}
    (h : Declares env ids joined trails step) (h' : Declares env more joined' trails' next) :
    Declares env (ids ++ more) (joined ++ joined') (fun origins => trails' (trails origins)) (do step; next) := by
  intro ground state origins hstate hscope hne htraced
  refine (h ground state origins hstate hscope hne htraced).bind ?_
  rintro _ mid ⟨larger, entries, henrols, hnames, hjoinable, htraced, hmid⟩
  have hlarger := henrols.frames_ne_nil hne
  refine (h' larger mid _ hmid henrols.sound hlarger htraced).mono ?_
  rintro _ later ⟨largest, others, hothers, hothersNames, hothersJoinable, htraced, hlater⟩
  refine ⟨largest, entries ++ others, henrols.trans hothers hne, ?_, List.forall_mem_append.2 ⟨fun id hid => ?_,
    hothersJoinable⟩, htraced, hlater⟩
  · rw [List.map_append, hnames, hothersNames, List.map_append]
  · exact (hjoinable id hid).mono hothers.toExtends (hothers.headD hlarger)

lemma declares_declareJoin (topLevel : Bool) (hplain : ∀ id ∈ clause.id, plainName id = true) :
    Declares env clause.id.toList clause.id.toList (fun origins => joinOrigin origins clause) (declareJoin topLevel clause) := by
  intro ground state origins h hscope hne htraced
  refine (fine_declareJoin h hscope topLevel hplain).mono ?_
  rintro _ later ⟨larger, entries, henrols, hnames, hentries, hlater⟩
  refine ⟨larger, entries, henrols, hnames, fun id hid => ?_, htraced.join hne henrols hnames hentries, hlater⟩
  obtain ⟨entry, hentry, hname⟩ := List.mem_map.1 (hnames ▸ List.mem_map_of_mem hid)
  exact ⟨entry.2, hname ▸ henrols.sees entry hentry, (hentries entry hentry).derived⟩

lemma declares_declareJoins (topLevel : Bool) {joins : List JoinClause}
    (hplain : ∀ clause ∈ joins, ∀ id ∈ clause.id, plainName id = true) :
    Declares env (joins.filterMap JoinClause.id) (joins.filterMap JoinClause.id) (fun origins => joins.foldl joinOrigin origins)
      (joins.forM (declareJoin topLevel)) := by
  induction joins with
  | nil => exact declares_pure
  | cons clause rest ih =>
    obtain ⟨hclause, hrest⟩ := List.forall_mem_cons.1 hplain
    have hids : (clause :: rest).filterMap JoinClause.id = clause.id.toList ++ rest.filterMap JoinClause.id := by
      rw [List.filterMap_cons]
      cases clause.id <;> rfl
    rw [hids]
    exact (declares_declareJoin topLevel hclause).seq (ih hrest)

/-- Whether the variables of an item are told from numbered ones. -/
def itemPlain (item : FromItem) : Bool :=
  (itemIds item).all plainName

lemma declares_declareItem (topLevel : Bool) {item : FromItem} (hplain : itemPlain item = true) :
    Declares env (itemIds item) (item.joins.filterMap JoinClause.id) (fun origins => itemOrigins origins item)
      (declareItem topLevel item) := by
  have hall := List.all_eq_true.1 hplain
  have hjoins : ∀ clause ∈ item.joins, ∀ id ∈ clause.id, plainName id = true := fun clause hclause id hid =>
    hall id (List.mem_cons_of_mem _ (List.mem_filterMap.2 ⟨clause, hclause, hid⟩))
  have hown : Declares env [item.id] [] (fun origins => (Text.lower item.id, Text.lower item.id, []) :: origins) (do
      let _ ← fromCatalog ((← read).catalog.entity item.entity)
      let _ ← declareVariable item.id { entity := item.entity }) := by
    intro ground state origins h hscope hne htraced
    refine ((inferInstance : Firm env ground (read : Compile Env)).comes state h).bind fun found mid hmid => ?_
    refine (comes_fromCatalog _ mid hmid.1).bind fun entity mid hmid => ?_
    refine (fine_declareVariable hmid.1 hscope (hall _ List.mem_cons_self) fun _ _ heq => by cases heq).bind ?_
    rintro _ mid ⟨root, larger, -, henrols, hentry, hmid⟩
    have hsees := henrols.sees _ (List.mem_singleton_self _)
    exact ⟨larger, _, henrols, rfl, by simp, (htraced.enrol henrols hne).cons hsees hsees (.origin hentry rfl), hmid⟩
  have hitem := hown.seq (declares_declareJoins topLevel hjoins)
  simp only [bind_assoc, pure_bind] at hitem
  exact hitem

/-- **The declarations of a FROM clause** make its variables known. -/
lemma declares_declareSources (topLevel : Bool) {sources : List FromItem} (hplain : ∀ item ∈ sources, itemPlain item = true) :
    Declares env (sources.flatMap itemIds) (sources.flatMap fun item => item.joins.filterMap JoinClause.id)
      (fun origins => sources.foldl itemOrigins origins) (sources.forM (declareItem topLevel)) := by
  induction sources with
  | nil => exact declares_pure
  | cons item rest ih =>
    obtain ⟨hitem, hrest⟩ := List.forall_mem_cons.1 hplain
    rw [List.flatMap_cons, List.flatMap_cons]
    exact (declares_declareItem topLevel hitem).seq (ih hrest)

end Compile

end EntityQuery
