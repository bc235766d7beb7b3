import EntityQuery.Proofs.Mapping.Selectable

/-!
Discriminators. The rows of an entity and of its descendants are told by values of columns; the restriction to them compares
one column, that of the entity itself, with all the values.

Main statements: what restricts an entity restricts its descendants further (`qualifierValues?_mono`), and every row of a
descendant is left by a restriction exactly if the descendant is told by the column that is compared
(`restriction_admits_iff`).
-/

namespace EntityQuery

open Sql

/-! ### Values along a hierarchy -/

namespace Catalog

variable {α β : Type} {catalog : Catalog} {entity member : Entity} {name : String} {values : List Json} {f : α → Option β}

/-- The entities whose rows belong to one. -/
def members (catalog : Catalog) (entity : Entity) : List Entity :=
  entity :: catalog.descendants entity

lemma mapM_eq_some {items : List α} {found : List β} :
    items.mapM f = some found ↔ items.map f = found.map some := by
  induction items generalizing found with
  | nil => cases found <;> simp
  | cons item rest ih =>
    rw [List.mapM_cons]
    cases found <;> cases hitem : f item <;> cases hrest : rest.mapM f <;> simp_all

lemma exists_map_eq {items : List α} (h : ∀ item ∈ items, (f item).isSome) :
    ∃ found : List β, items.map f = found.map some := by
  induction items with
  | nil => exact ⟨[], rfl⟩
  | cons item rest ih =>
    obtain ⟨hitem, hrest⟩ := List.forall_mem_cons.1 h
    obtain ⟨value, hvalue⟩ := Option.isSome_iff_exists.1 hitem
    obtain ⟨found, hfound⟩ := ih hrest
    exact ⟨value :: found, by rw [List.map_cons, List.map_cons, hvalue, hfound]⟩

lemma qualifierValues?_eq_some : catalog.qualifierValues? entity = some (name, values) ↔
    entity.qualifier.map Qualifier.column = some name ∧
      (catalog.members entity).map (fun member => member.qualifier.map Qualifier.value) = values.map some := by
  unfold qualifierValues?
  rw [← mapM_eq_some, members, List.mapM_cons]
  cases entity.qualifier with
  | none => simp
  | some own => cases (catalog.descendants entity).mapM fun descendant => descendant.qualifier.map Qualifier.value <;> simp

lemma mem_members_of_qualifierValues? (h : catalog.qualifierValues? entity = some (name, values)) (value : Json) :
    value ∈ values ↔ ∃ member ∈ catalog.members entity, ∃ qualifier ∈ member.qualifier, qualifier.value = value := by
  rw [← List.mem_map_of_injective (Option.some_injective Json), ← (qualifierValues?_eq_some.1 h).2]
  simp [Option.map_eq_some_iff]

lemma members_subset (hentity : entity ∈ catalog.entities.items) (hmember : member ∈ catalog.descendants entity) :
    catalog.members member ⊆ catalog.members entity := by
  obtain ⟨hitem, -, hlineage⟩ := (mem_descendants hentity).1 hmember
  refine List.cons_subset.2 ⟨List.mem_cons_of_mem _ hmember, fun lower hlower => ?_⟩
  obtain ⟨hlowerItem, -, hlowerLineage⟩ := (mem_descendants hitem).1 hlower
  by_cases heq : lower = entity
  · exact heq ▸ List.mem_cons_self
  · have hreached := ((mem_lineage hlowerItem).1 hlowerLineage).trans ((mem_lineage hitem).1 hlineage)
    exact List.mem_cons_of_mem _ ((mem_descendants hentity).2 ⟨hlowerItem, heq, (mem_lineage hlowerItem).2 hreached⟩)

/-- **Restrictions are monotone along inheritance.** If an entity is restricted, each of its descendants is, to values that are
values of the entity; so an entity is not restricted if one of its descendants is not. -/
theorem qualifierValues?_mono (hentity : entity ∈ catalog.entities.items) (hmember : member ∈ catalog.descendants entity) :
    (∀ name values, catalog.qualifierValues? entity = some (name, values) →
      ∃ name' values', catalog.qualifierValues? member = some (name', values') ∧ values' ⊆ values) ∧
    (catalog.qualifierValues? member = none → catalog.qualifierValues? entity = none) := by
  have hsubset := members_subset hentity hmember
  have hmono : ∀ name values, catalog.qualifierValues? entity = some (name, values) →
      ∃ name' values', catalog.qualifierValues? member = some (name', values') ∧ values' ⊆ values := by
    intro name values h
    have hqualified : ∀ lower ∈ catalog.members member, (lower.qualifier.map Qualifier.value).isSome := by
      intro lower hlower
      have hvalue := List.mem_map_of_mem (f := fun lower => lower.qualifier.map Qualifier.value) (hsubset hlower)
      rw [(qualifierValues?_eq_some.1 h).2] at hvalue
      obtain ⟨value, -, hvalue⟩ := List.mem_map.1 hvalue
      rw [← hvalue]
      rfl
    obtain ⟨values', hvalues'⟩ := exists_map_eq hqualified
    obtain ⟨own, hown⟩ := Option.isSome_iff_exists.1 (by simpa using hqualified member List.mem_cons_self)
    have hfound : catalog.qualifierValues? member = some (own.column, values') :=
      qualifierValues?_eq_some.2 ⟨by rw [hown]; rfl, hvalues'⟩
    refine ⟨own.column, values', hfound, fun value hvalue => ?_⟩
    obtain ⟨lower, hlower, hqualifier⟩ := (mem_members_of_qualifierValues? hfound value).1 hvalue
    exact (mem_members_of_qualifierValues? h value).2 ⟨lower, hsubset hlower, hqualifier⟩
  refine ⟨hmono, fun hnone => ?_⟩
  cases hvalues : catalog.qualifierValues? entity with
  | none => rfl
  | some found =>
    obtain ⟨_, _, hsome, -⟩ := hmono found.1 found.2 hvalues
    cases hnone.symm.trans hsome

end Catalog

/-- Vehicles are told by their kind, and trucks and tankers, which are trucks, by their type. -/
def vehicle : Entity :=
  { name := "Vehicle", table := "VEHICLE", qualifier := some ⟨"KIND", .str "V"⟩ }

def truck : Entity :=
  { name := "Truck", table := "VEHICLE", superEntity := some "Vehicle", qualifier := some ⟨"TYPE", .str "T"⟩ }

def tanker : Entity :=
  { name := "Tanker", table := "VEHICLE", superEntity := some "Truck", qualifier := some ⟨"TYPE", .str "L"⟩ }

def fleet : Catalog :=
  .ofParts
    [{ name := "VEHICLE"
       columns := [{ name := "ID", type := .integer, primaryKey := true }, { name := "KIND", type := .varchar },
         { name := "TYPE", type := .varchar }] }]
    [vehicle, truck, tanker]

lemma fleet_items : fleet.entities.items = [tanker, truck, vehicle] := by
  rfl

lemma fleet_descendants : fleet.descendants vehicle = [tanker, truck] ∧ fleet.descendants truck = [tanker] := by
  exact ⟨rfl, rfl⟩

/-- The values of trucks, with those of tankers, are among the values of vehicles. -/
theorem qualifierValues?_mono_truck :
    vehicle ∈ fleet.entities.items ∧ truck ∈ fleet.descendants vehicle ∧
    fleet.qualifierValues? vehicle = some ("KIND", [.str "V", .str "L", .str "T"]) ∧
    ∃ name values, fleet.qualifierValues? truck = some (name, values) ∧ values ⊆ [.str "V", .str "L", .str "T"] := by
  have hentity : vehicle ∈ fleet.entities.items := by simp [fleet_items]
  have hmember : truck ∈ fleet.descendants vehicle := by simp [fleet_descendants]
  exact ⟨hentity, hmember, rfl, (Catalog.qualifierValues?_mono hentity hmember).1 _ _ rfl⟩

/-! ### Rows -/

/-- Whether a row, given by the values of its columns, is one that a qualifier marks. -/
def Qualifier.Holds (row : String → Json) (qualifier : Qualifier) : Prop :=
  qualifier.value ≠ .null ∧ row qualifier.column = qualifier.value

/-- Whether a row is left by the restriction of a column to some values. Nothing is equal to null. -/
def Admitted (row : String → Json) (name : String) (values : List Json) : Prop :=
  ∃ value ∈ values, value ≠ .null ∧ row name = value

lemma admitted_iff {catalog : Catalog} {entity : Entity} {name : String} {values : List Json}
    (hvalues : catalog.qualifierValues? entity = some (name, values)) :
    (∀ row, (∃ member ∈ catalog.members entity, ∃ qualifier ∈ member.qualifier, qualifier.Holds row) → Admitted row name values) ↔
      ∀ member ∈ catalog.members entity, ∀ qualifier ∈ member.qualifier, qualifier.value ≠ .null → qualifier.column = name := by
  constructor
  · intro h member hmember qualifier hqualifier hvalue
    -- a row that has the value of the qualifier in its column, and nothing else
    obtain ⟨value, -, hnull, hrow⟩ := h (fun column => if column = qualifier.column then qualifier.value else .null)
      ⟨member, hmember, qualifier, hqualifier, hvalue, if_pos rfl⟩
    by_contra hne
    exact hnull (hrow.symm.trans (if_neg (Ne.symm hne)))
  · rintro h row ⟨member, hmember, qualifier, hqualifier, hvalue, hrow⟩
    refine ⟨qualifier.value, ?_, hvalue, h member hmember qualifier hqualifier hvalue ▸ hrow⟩
    exact (Catalog.mem_members_of_qualifierValues? hvalues _).2 ⟨member, hmember, qualifier, hqualifier, rfl⟩

namespace Compile

variable {env : Env} {entity : Entity} {table : Table} {name qualifier type : String} {values : List Json} {ref : ColumnRef}
  {state later : State} {first : Bool}

/-! ### What is written -/

/-- The comparisons of a column with some parameters, with a disjunction before each but the first. -/
def comparisons (ref : ColumnRef) (type : String) (first : Bool) : List String → List Token
  | [] => []
  | parameter :: rest =>
    (if first then [] else [.word " OR"]) ++ .discriminator ref parameter type :: comparisons ref type false rest

/-- What restricts a column, after what opens it. -/
def restriction (opening : List Token) (ref : ColumnRef) (type : String) (parameters : List String) : List Token :=
  opening ++ .word " (" :: comparisons ref type true parameters ++ [.word ")"]

/-- A state after values were bound and something about their parameters was written to a slot. -/
def Compared (state : State) (slot : Slot) (values : List Json) (written : List String → List Token) (later : State) : Prop :=
  ∃ parameters : List String, parameters.length = values.length ∧
    later.parameters = state.parameters ++ parameters.zip values ∧
    later.buffer.fragments slot = state.buffer.fragments slot ++ (written parameters).map .token

/-- **A state after a column was restricted to some values**: it is compared with each of them, and with nothing else. -/
def Restricted (env : Env) (state : State) (qualifier : String) (column : Column) (values : List Json) (later : State) : Prop :=
  ∃ (marker : Marker) (opening : List Token), qualifierMarker env state = .ok marker state ∧
    opening ∈ [[], [Token.word " AND"]] ∧
    Compared state (.marker marker) values
      (restriction opening ⟨qualifier, env.settings.dialect.quote column.name⟩ column.type.sqlName) later

lemma works_discriminators : Works (fun _ later => later.buffer.active = state.buffer.active ∧
      Compared state state.buffer.activeSlot values (comparisons ref type first) later)
    (discriminators ref type first values env state) := by
  induction values generalizing first state with
  | nil => exact ⟨⟨⟩, state, rfl, rfl, [], rfl, by simp [comparisons]⟩
  | cons value rest ih =>
    obtain ⟨parameter, mid, hmid, hparameters, hadds⟩ : ∃ parameter mid,
        discriminators ref type first (value :: rest) env state = discriminators ref type false rest env mid ∧
        mid.parameters = state.parameters ++ [(parameter, value)] ∧
        state.buffer.Adds mid.buffer
          (((if first then [] else [Token.word " OR"]) ++ [Token.discriminator ref parameter type]).map .token) := by
      refine ⟨env.settings.parameterPrefix ++ toString state.parameters.length, ?_⟩
      cases first with
      | true => exact ⟨_, rfl, rfl, Buffer.adds_append _ _⟩
      | false => exact ⟨_, rfl, rfl, (Buffer.adds_append _ _).trans (Buffer.adds_append _ _)⟩
    rw [hmid]
    refine Works.mono ih ?_
    rintro _ later ⟨hactive, parameters, hlength, hbound, hwritten⟩
    refine ⟨hactive.trans hadds.active, parameter :: parameters, congrArg Nat.succ hlength, ?_, ?_⟩
    · rw [hbound, hparameters, List.append_assoc]
      rfl
    · rw [hadds.activeSlot, hadds.fragments] at hwritten
      rw [hwritten, List.append_assoc, ← List.map_append, List.append_assoc]
      rfl

lemma works_wordOnce {marker other : Marker} (hne : other ≠ marker) (text : String) :
    Works (fun _ later => later.parameters = state.parameters ∧
        later.buffer.fragments (.marker other) = state.buffer.fragments (.marker other)) (wordOnce marker text env state) := by
  refine Works.within fun pushed hpush => ?_
  obtain ⟨hactive, hpushed⟩ := Buffer.push_eq_ok hpush
  have hslot : Slot.marker other ≠ pushed.activeSlot := by
    rw [Buffer.activeSlot, hactive]
    simpa using hne
  by_cases hempty : pushed.isEmpty marker = true
  · refine ⟨⟨⟩, { state with buffer := pushed.append (.word text) }, ?_, hactive, fun popped hpop => ⟨rfl, ?_⟩⟩
    · change (if pushed.isEmpty marker = true then word text else pure ()) env _ = _
      rw [if_pos hempty]
      rfl
    · dsimp only
      rw [(Buffer.pop_eq_ok hpop).2, Buffer.append, Buffer.fragments_appendFragment, if_neg hslot, List.append_nil, hpushed]
  · refine ⟨⟨⟩, { state with buffer := pushed }, ?_, hactive, fun popped hpop => ⟨rfl, ?_⟩⟩
    · change (if pushed.isEmpty marker = true then word text else pure ()) env _ = _
      rw [if_neg hempty]
      rfl
    · dsimp only
      rw [(Buffer.pop_eq_ok hpop).2, hpushed]

/-- The restriction in parentheses, after what opens it. -/
lemma works_enclosed (start state : State) (opening : List Token) (hparameters : state.parameters = start.parameters)
    (hadds : start.buffer.Adds state.buffer (opening.map .token)) :
    Works (fun _ later => later.buffer.active = start.buffer.active ∧
        Compared start start.buffer.activeSlot values
          (restriction opening ⟨qualifier, env.settings.dialect.quote name⟩ type) later)
      ((do word " ("
           discriminators (← columnRef qualifier name) type true values
           word ")" : Compile Unit) env state) := by
  have hopened := hadds.trans (Buffer.adds_append state.buffer (.word " ("))
  change Works _ ((discriminators ⟨qualifier, env.settings.dialect.quote name⟩ type true values >>= fun _ => word ")") env
    { state with buffer := state.buffer.append (.word " (") })
  refine Works.bind works_discriminators ?_
  rintro _ mid ⟨hactive, parameters, hlength, hbound, hwritten⟩
  refine ⟨⟨⟩, { mid with buffer := mid.buffer.append (.word ")") }, rfl, hactive.trans hopened.active, parameters, hlength, ?_, ?_⟩
  · rw [← hparameters]
    exact hbound
  · have hwhole := (hopened.trans ⟨hactive, hwritten⟩).trans (Buffer.adds_append mid.buffer (.word ")"))
    rw [hwhole.fragments, restriction]
    simp

lemma works_restriction (marker : Marker) : Works (fun _ later => ∃ opening ∈ [[], [Token.word " AND"]],
      Compared state (.marker marker) values (restriction opening ⟨qualifier, env.settings.dialect.quote name⟩ type) later)
    (within marker (do
      if !(← isEmpty marker) then word " AND"
      word " ("
      discriminators (← columnRef qualifier name) type true values
      word ")" : Compile Unit) env state) := by
  refine Works.within fun pushed hpush => ?_
  obtain ⟨hactive, hpushed⟩ := Buffer.push_eq_ok hpush
  have hslot : pushed.activeSlot = .marker marker := by rw [Buffer.activeSlot, hactive]
  refine Works.mono (P := fun _ mid => ∃ opening ∈ [[], [Token.word " AND"]], mid.buffer.active = pushed.active ∧
    Compared { state with buffer := pushed } pushed.activeSlot values
      (restriction opening ⟨qualifier, env.settings.dialect.quote name⟩ type) mid) ?_ ?_
  · change Works _ ((if (!pushed.isEmpty marker) = true then _ else _ : Compile Unit) env { state with buffer := pushed })
    split
    · exact (works_enclosed { state with buffer := pushed } { state with buffer := pushed.append (.word " AND") } [.word " AND"]
        rfl (Buffer.adds_append pushed (.word " AND"))).mono fun _ _ h => ⟨_, by simp, h⟩
    · exact (works_enclosed { state with buffer := pushed } _ [] rfl (.refl pushed)).mono fun _ _ h => ⟨_, by simp, h⟩
  · rintro _ mid ⟨opening, hopening, hmid, parameters, hlength, hbound, hwritten⟩
    refine ⟨hmid.trans hactive, fun popped hpop => ⟨opening, hopening, parameters, hlength, hbound, ?_⟩⟩
    rw [← hpushed, ← hslot, ← hwritten]
    exact (Buffer.pop_eq_ok hpop).2 _

lemma works_restrict {column : Column} (hvalues : env.catalog.qualifierValues? entity = some (name, values))
    (hcolumn : table.column? name = some column) :
    Works (fun _ later => Restricted env state qualifier column values later) (restrict entity table qualifier env state) := by
  have hname : column.name = name := by simpa using List.find?_some hcolumn
  have hread : Works (fun value mid => env = value ∧ state = mid) ((read : Compile Env) env state) := ⟨env, state, rfl, rfl, rfl⟩
  refine hread.bind ?_
  rintro _ _ ⟨rfl, rfl⟩
  rw [hvalues]
  dsimp only
  rw [hcolumn]
  have hmarker : Works (fun marker mid => qualifierMarker env state = .ok marker state ∧ state = mid ∧
      ∃ number, marker = .qualifier number) (qualifierMarker env state) := ⟨_, state, rfl, rfl, rfl, _, rfl⟩
  refine hmarker.bind ?_
  rintro _ _ ⟨hmarker, rfl, number, rfl⟩
  refine Works.bind (works_restriction _) ?_
  rintro _ mid ⟨opening, hopening, parameters, hlength, hbound, hwritten⟩
  have hcondition : Works (fun marker last => mid = last ∧ Marker.qualifier number ≠ marker) (conditionMarker env mid) :=
    ⟨_, mid, rfl, rfl, by simp⟩
  refine hcondition.bind ?_
  rintro marker _ ⟨rfl, hne⟩
  refine (works_wordOnce hne " WHERE").mono ?_
  rintro _ later ⟨hparameters, hfragments⟩
  refine ⟨.qualifier number, opening, hmarker, hopening, parameters, hlength, hparameters.trans hbound, ?_⟩
  rw [hname]
  exact hfragments.trans hwritten

/-- **A restriction leaves the rows of every descendant exactly if it compares the column that tells them.** After a strict
check of the catalog an entity with discriminators is restricted wherever its table is read: the column of its own qualifier is
compared with its value and those of its descendants. A row that one of their qualifiers marks is always left exactly if all
qualifiers that mark rows are about the same column, which the check does not ask for. -/
theorem restriction_admits_iff (env : Env) {problems : List Problem} (hvalid : env.catalog.validate .strict = .ok problems)
    (hentity : entity ∈ env.catalog.entities.items) (hvalues : env.catalog.qualifierValues? entity = some (name, values)) :
    (∃ table column, env.catalog.tableOf entity = .ok table ∧ table.column? name = some column ∧ ∀ qualifier state,
      Works (fun _ later => Restricted env state qualifier column values later) (restrict entity table qualifier env state)) ∧
    ((∀ row, (∃ member ∈ env.catalog.members entity, ∃ qualifier ∈ member.qualifier, qualifier.Holds row) →
        Admitted row name values) ↔
      ∀ member ∈ env.catalog.members entity, ∀ qualifier ∈ member.qualifier, qualifier.value ≠ .null → qualifier.column = name) := by
  refine ⟨?_, admitted_iff hvalues⟩
  obtain ⟨table, htable, hqualifier⟩ := (Catalog.grounds_of_validate hvalid hentity).table
  obtain ⟨own, hown, hname⟩ := Option.map_eq_some_iff.1 (Catalog.qualifierValues?_eq_some.1 hvalues).1
  obtain ⟨column, hcolumn⟩ := Option.isSome_iff_exists.1 (hqualifier own hown)
  rw [hname] at hcolumn
  exact ⟨table, column, htable, hcolumn, fun _ _ => works_restrict hvalues hcolumn⟩

end Compile

lemma fleet_validate : fleet.validate .strict = .ok [] := by
  rfl

/-- Trucks and tankers are told by one column, so the restriction to trucks leaves both. -/
theorem restriction_admits_iff_truck :
    fleet.validate .strict = .ok [] ∧ truck ∈ fleet.entities.items ∧
    fleet.qualifierValues? truck = some ("TYPE", [.str "T", .str "L"]) ∧
    ∀ row, row "TYPE" = .str "L" → Admitted row "TYPE" [.str "T", .str "L"] := by
  have htruck : truck ∈ fleet.entities.items := by simp [fleet_items]
  have hiff := (Compile.restriction_admits_iff { catalog := fleet } fleet_validate htruck rfl).2
  have hmembers : fleet.members truck = [truck, tanker] := by rw [Catalog.members, fleet_descendants.2]
  rw [hmembers] at hiff
  refine ⟨fleet_validate, htruck, rfl, fun row hrow => hiff.2 ?_ row ⟨tanker, by simp, _, rfl, by simp, hrow⟩⟩
  simp [truck, tanker]

/-- Vehicles are told by their kind: the restriction to vehicles drops a truck that has none. -/
theorem restriction_drops_truck :
    fleet.validate .strict = .ok [] ∧ vehicle ∈ fleet.entities.items ∧ truck ∈ fleet.descendants vehicle ∧
    ∃ values, fleet.qualifierValues? vehicle = some ("KIND", values) ∧
    ∃ row, (∃ qualifier ∈ truck.qualifier, qualifier.Holds row) ∧ ¬ Admitted row "KIND" values := by
  refine ⟨fleet_validate, by simp [fleet_items], by simp [fleet_descendants], _, rfl,
    fun column => if column = "TYPE" then .str "T" else .null, ⟨_, rfl, by simp, by simp⟩, ?_⟩
  rintro ⟨value, -, hnull, hrow⟩
  exact hnull hrow.symm

end EntityQuery
