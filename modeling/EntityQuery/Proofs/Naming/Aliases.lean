import EntityQuery.Proofs.Steps.Operations

/-!
What aliases tell apart. An alias is the number of a key, and the key is a text in which variables, steps and tables stand one
after the other. Where names have neither a point nor a colon all of these can be read off it, in whatever order steps along
relationships of entities and of tables follow each other.

Main statement: whatever is done between them, two uses of a context give the same alias exactly if they are for the same
occurrence and tables of the same name (`tableAlias_eq_iff`).
-/

namespace EntityQuery

/-! ### Occurrences with simple names -/

/-- **An occurrence with simple names**: a variable, or what steps along relationships lead to from it. -/
inductive Occurrence.Simple : Occurrence → Prop
  | ofVariable {id : String} (hid : isSimple id = true) : Simple (.ofVariable id)
  | child {source : Occurrence} {hop : Hop} (h : Simple source) (hhop : isSimple hop.name = true) : Simple (source.child hop)

lemma Hop.label_inj {hop step : Hop} (hhop : isSimple hop.name = true) (hstep : isSimple step.name = true)
    (h : hop.label = step.label) : hop = step := by
  have hcolon : ∀ {name other : String}, isSimple name = true → name ≠ "db:" ++ other := by
    rintro _ other hname rfl
    exact (isSimple_iff.1 hname).2 (by simp)
  cases hop <;> cases step
  · exact congrArg Hop.object h
  · exact absurd h (hcolon hhop)
  · exact absurd h.symm (hcolon hstep)
  · simpa [label] using h

namespace Occurrence

variable {place other source : Occurrence} {hop : Hop}

lemma Simple.rootName (h : place.Simple) : isSimple place.rootName = true ∧ Text.lower place.rootName = place.rootName := by
  induction h with
  | ofVariable hid => exact ⟨Resolve.isSimple_lower hid, Text.lower_lower _⟩
  | child _ _ ih => exact ih

/-- **The dotted form of an occurrence with simple names is its own.** -/
theorem Simple.eq_of_idPath (h : place.Simple) (h' : other.Simple) (hpath : place.idPath = other.idPath) : place = other := by
  have hhop : ∀ {source hop}, Simple (.child source hop) → source.Simple ∧ isSimple hop.name = true := by
    rintro _ _ (_ | ⟨hsource, hhop⟩)
    exact ⟨hsource, hhop⟩
  refine eq_of_labels (fun h => (isSimple_iff.1 h.rootName.1).1) (fun h => ⟨(hhop h).1, (isSimple_iff.1 (hhop h).2).1⟩) ?_ h h' hpath
  exact fun h h' => Hop.label_inj (hhop h).2 (hhop h').2

end Occurrence

/-! ### Aliases -/

namespace Compile

variable {env : Env} {first : State} {place other : Occurrence} {table table' : Table}

lemma idxOf?_of_prefix {keys more : List String} {key : String} {number : Nat} (h : keys.idxOf? key = some number)
    (hbegins : keys <+: more) : more.idxOf? key = some number := by
  obtain ⟨rest, rfl⟩ := hbegins
  rw [List.idxOf?] at h ⊢
  rw [List.findIdx?_append, h]
  rfl

lemma key_eq_of_idxOf? {keys : List String} {key other : String} {number : Nat} (h : keys.idxOf? key = some number)
    (h' : keys.idxOf? other = some number) : key = other := by
  obtain ⟨_, hkey, -⟩ := List.findIdx?_eq_some_iff_getElem.1 h
  obtain ⟨_, hother, -⟩ := List.findIdx?_eq_some_iff_getElem.1 h'
  rw [← beq_iff_eq.1 hkey, beq_iff_eq.1 hother]

lemma exists_tableAlias (idPath : String) (table : Table) (env : Env) (state : State) :
    ∃ label later, tableAlias idPath table env state = .ok label later := by
  rw [tableAlias_apply]
  split
  · split
    · exact ⟨_, _, rfl⟩
    · exact ⟨_, _, rfl⟩
  · exact ⟨_, _, rfl⟩

/-- **Aliases identify occurrences of tables.** With aliases, a use of a context gives an alias, and after any operations a
second one gives the same alias if and only if it is for the same occurrence and a table of the same qualified name. So an
alias that was given stays. -/
theorem tableAlias_eq_iff (haliasing : first.usingAliases = true) (hplace : place.Simple) (hother : other.Simple)
    (htable : isSimple table.name = true ∧ table.schema.all isSimple = true)
    (htable' : isSimple table'.name = true ∧ table'.schema.all isSimple = true) :
    ∃ label mid, tableAlias place.idPath table env first = .ok label mid ∧
      ∀ second, Reachable env mid second → second.usingAliases = true →
        ∃ label' last, tableAlias other.idPath table' env second = .ok label' last ∧
          (label' = label ↔ other = place ∧ table'.qualifiedName = table.qualifiedName) := by
  obtain ⟨label, mid, hfirst⟩ := exists_tableAlias place.idPath table env first
  refine ⟨label, mid, hfirst, fun second hsecond haliasing' => ?_⟩
  obtain ⟨label', last, hlast⟩ := exists_tableAlias other.idPath table' env second
  refine ⟨label', last, hlast, ?_⟩
  obtain ⟨_, number, -, hnumber, rfl⟩ := tableAlias_eq_ok haliasing hfirst
  obtain ⟨extra, number', rfl, hnumber', rfl⟩ := tableAlias_eq_ok haliasing' hlast
  -- the number of the first key is still the same at the end
  have hkept : (second.aliases ++ extra).idxOf? (aliasKey place.idPath table) = some number :=
    idxOf?_of_prefix hnumber (hsecond.durable.aliases.trans (List.prefix_append _ _))
  rw [aliasName_injective.eq_iff]
  constructor
  · rintro rfl
    obtain ⟨hsimple, hlow⟩ := hplace.rootName
    obtain ⟨hsimple', hlow'⟩ := hother.rootName
    obtain ⟨hpath, hname⟩ := eq_of_aliasKey hsimple' hlow' hsimple hlow (table'.colon_not_mem_qualifiedName htable'.1 htable'.2)
      (table.colon_not_mem_qualifiedName htable.1 htable.2) (key_eq_of_idxOf? hnumber' hkept)
    exact ⟨hother.eq_of_idPath hplace hpath, hname⟩
  · rintro ⟨rfl, hname⟩
    have hkey : aliasKey other.idPath table' = aliasKey other.idPath table := by simp only [aliasKey, hname]
    rw [hkey, hkept] at hnumber'
    cases hnumber'
    rfl

/-- A relationship of entities called `db` and a relationship of tables are told apart, and so is a table with a schema from a
step before one without. -/
theorem tableAlias_eq_iff_db :
    ∃ place other : Occurrence, place.idPath = "a.db" ∧ other.idPath = "a.db:S" ∧
      ∃ label mid, tableAlias place.idPath { name := "T", schema := some "S" } {} {} = .ok label mid ∧
        ∃ second, second = [.useAliases false, .tableAlias "a" { name := "T" }, .useAliases true, .beginSelect].foldl
            (Operation.run {}) mid ∧
          ∃ label' last, tableAlias other.idPath { name := "T" } {} second = .ok label' last ∧ label' ≠ label := by
  refine ⟨(Occurrence.ofVariable "A").child (.object "db"), (Occurrence.ofVariable "a").child (.table "S"), by decide +kernel,
    by decide +kernel, ?_⟩
  have hplace : ((Occurrence.ofVariable "A").child (.object "db")).Simple :=
    .child (.ofVariable (by decide +kernel)) (by decide +kernel)
  have hother : ((Occurrence.ofVariable "a").child (.table "S")).Simple :=
    .child (.ofVariable (by decide +kernel)) (by decide +kernel)
  obtain ⟨label, mid, hfirst, hsecond⟩ := @tableAlias_eq_iff {} {} _ _ { name := "T", schema := some "S" } { name := "T" } rfl
    hplace hother ⟨by decide +kernel, by decide +kernel⟩ ⟨by decide +kernel, by decide +kernel⟩
  have hreachable : Reachable {} mid _ := (((reachable_run (.useAliases false)).operation (.tableAlias "a" { name := "T" })).operation
    (.useAliases true)).operation .beginSelect
  obtain ⟨label', last, hlast, hiff⟩ := hsecond _ hreachable rfl
  exact ⟨label, mid, hfirst, _, rfl, label', last, hlast, fun heq => absurd (hiff.1 heq).1 (by decide +kernel)⟩

end Compile

end EntityQuery
