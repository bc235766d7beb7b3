import EntityQuery.Proofs.Joins.Traversal
import EntityQuery.Proofs.Lists.Touch
import EntityQuery.Proofs.Renaming.Prefetch
import EntityQuery.Proofs.Scoping.Straight
import Mathlib.Data.Sym.Sym2

/-!
Links of subqueries and of joins. A subquery over a collection joins the tables of a relationship from the last back to the
first and ties the first to the table around it; a join goes along the same tables from the first on. Main statement: both
equate the same columns of the same tables along the relationship, and nothing else.
-/

namespace EntityQuery

variable {hops : List TableHop}

open Sql

/-- The two columns that a token equates. -/
def Sql.Token.equality? : Token → Option (Sym2 ColumnRef)
  | .link left right | .correlation left right => some s(left, right)
  | _ => none

/-- The table that a token introduces, and its alias. -/
def Sql.Token.source? : Token → Option (String × String)
  | .table name (some label) | .join _ name label | .subqueryJoin name label => some (name, label)
  | _ => none

/-- In a chain, steps start from the tables that the steps before them lead to. -/
lemma Catalog.Chained.tables {catalog : Catalog} {start : Table} (h : Chained catalog start hops) :
    hops.map TableHop.source ++ [lastTarget start hops] = start :: hops.map TableHop.target := by
  induction h with
  | nil => rfl
  | @cons hop rest _ _ _ ih =>
    rw [List.map_cons, List.cons_append, lastTarget_cons, ih]
    rfl

namespace Compile

variable {env : Env} {state mid later : State} {hop : TableHop} {near far : String}
  {equalities equalities' : List (Sym2 ColumnRef)} {sources sources' : List (String × String)} {outer target : Occurrence}
  {kind : JoinKind} {first : Bool} {labels : List String}

/-! ### Chains -/

/-- The columns equated along one step between tables with given aliases. -/
def hopEqualities (env : Env) (near far : String) (hop : TableHop) : List (Sym2 ColumnRef) :=
  let quote := env.settings.dialect.quote
  hop.relationship.joins.map fun pair => s(⟨near, quote pair.source⟩, ⟨far, quote pair.target⟩)

/-- **The columns equated along a chain of steps**: those of each step, between the tables before and after it. The
aliases of the tables are given from the first to the last. -/
def chainEqualities (env : Env) : List String → List TableHop → List (Sym2 ColumnRef)
  | near :: far :: labels, hop :: rest => hopEqualities env near far hop ++ chainEqualities env (far :: labels) rest
  | _, _ => []

/-- Tables with their aliases. -/
def labelled (env : Env) (tables : List Table) (labels : List String) : List (String × String) :=
  (tables.map env.settings.dialect.qualify).zip labels

lemma chainEqualities_append (h : labels.length = hops.length) :
    chainEqualities env (labels ++ [near, far]) (hops ++ [hop]) =
      chainEqualities env (labels ++ [near]) hops ++ hopEqualities env near far hop := by
  induction hops generalizing labels with
  | nil =>
    obtain rfl := List.length_eq_zero_iff.1 h
    simp [chainEqualities]
  | cons first rest ih =>
    obtain ⟨label, labels, rfl⟩ := List.exists_cons_of_length_eq_add_one h
    have hrest := ih (Nat.succ.inj h)
    cases labels <;> simpa [chainEqualities] using hrest

/-! ### What is written -/

/-- What has been written at the end of the slot being written: tokens that equate columns and introduce tables, in any
order. -/
def Ties (state later : State) (equalities : List (Sym2 ColumnRef)) (sources : List (String × String)) : Prop :=
  ∃ tokens : List Token, later.buffer = tokens.foldl Buffer.append state.buffer ∧
    (tokens.filterMap Token.equality?).Perm equalities ∧ (tokens.filterMap Token.source?).Perm sources

namespace Ties

lemma of_eq (h : later.buffer = state.buffer) : Ties state later [] [] :=
  ⟨[], h, .nil, .nil⟩

lemma trans (h : Ties state mid equalities sources) (h' : Ties mid later equalities' sources') :
    Ties state later (equalities ++ equalities') (sources ++ sources') := by
  obtain ⟨tokens, hbuffer, hequalities, hsources⟩ := h
  obtain ⟨more, hbuffer', hequalities', hsources'⟩ := h'
  refine ⟨tokens ++ more, by rw [hbuffer', hbuffer, List.foldl_append], ?_, ?_⟩ <;> rw [List.filterMap_append]
  · exact hequalities.append hequalities'
  · exact hsources.append hsources'

lemma perm (h : Ties state later equalities sources) (hequalities : equalities.Perm equalities')
    (hsources : sources.Perm sources') : Ties state later equalities' sources' :=
  let ⟨tokens, hbuffer, hfirst, hsecond⟩ := h
  ⟨tokens, hbuffer, hfirst.trans hequalities, hsecond.trans hsources⟩

lemma emit {token : Token} {answer : Unit} (h : emit token env state = .ok answer later) :
    Ties state later token.equality?.toList token.source?.toList := by
  cases h
  refine ⟨[token], rfl, ?_, ?_⟩
  · cases htoken : token.equality? <;> simp [htoken]
  · cases htoken : token.source? <;> simp [htoken]

end Ties

lemma ties_tableAlias {idPath label : String} {table : Table} (h : tableAlias idPath table env state = .ok label later) :
    Ties state later [] [] ∧ later.joins = state.joins := by
  obtain ⟨_, rfl⟩ := tableAlias_changes h
  exact ⟨.of_eq rfl, rfl⟩

/-- Pairs of columns with a word between them, each in one token. -/
lemma ties_pairs {write : Bool → List KeyPair → Compile Unit} {separator : String} {token : KeyPair → Token}
    {equality : KeyPair → Sym2 ColumnRef} (hnil : ∀ first, write first [] = pure ⟨⟩)
    (hcons : ∀ first pair rest state, write first (pair :: rest) env state =
      ((if first then pure ⟨⟩ else word separator) >>= fun _ => emit (token pair) >>= fun _ => write false rest) env state)
    (htoken : ∀ pair, (token pair).equality? = some (equality pair) ∧ (token pair).source? = none) :
    ∀ {pairs : List KeyPair} {first : Bool} {state : State}, write first pairs env state = .ok ⟨⟩ later →
      Ties state later (pairs.map equality) []
  | [], first, state, h => by
    rw [hnil] at h
    cases h
    exact .of_eq rfl
  | pair :: rest, first, state, h => by
    rw [hcons] at h
    obtain ⟨_, mid, hword, hpair⟩ := bind_eq_ok.1 h
    obtain ⟨_, emitted, hemit, hrest⟩ := bind_eq_ok.1 hpair
    have hseparator : Ties state mid [] [] := by
      cases first with
      | true => cases hword; exact .of_eq rfl
      | false => exact .emit hword
    have hties := (hseparator.trans (.emit hemit)).trans (ties_pairs hnil hcons htoken hrest)
    rwa [(htoken pair).1, (htoken pair).2] at hties

lemma ties_links (h : links near far first hop.relationship.joins env state = .ok ⟨⟩ later) :
    Ties state later (hopEqualities env near far hop) [] :=
  ties_pairs (fun first => by cases first <;> rfl) (fun first _ _ _ => by cases first <;> rfl) (fun _ => ⟨rfl, rfl⟩) h

lemma ties_subqueryLinks (h : subqueryLinks far near first hop.relationship.joins env state = .ok ⟨⟩ later) :
    Ties state later (hopEqualities env near far hop) [] :=
  ties_pairs (fun first => by cases first <;> rfl) (fun first _ _ _ => by cases first <;> rfl)
    (fun _ => ⟨by rw [Sym2.eq_swap]; rfl, rfl⟩) h

lemma ties_correlations (h : correlations far near first hop.relationship.joins env state = .ok ⟨⟩ later) :
    Ties state later (hopEqualities env near far hop) [] :=
  ties_pairs (fun first => by cases first <;> rfl) (fun first _ _ _ => by cases first <;> rfl)
    (fun _ => ⟨by rw [Sym2.eq_swap]; rfl, rfl⟩) h

/-! ### Joins -/

/-- Whether no table between the first and the last of some steps has been joined. -/
def Unjoined (joins : List ((Occurrence × Hop) × Occurrence)) : Occurrence → List TableHop → Prop
  | source, hop :: next :: rest => joins.lookup (source, .table hop.relationship.name) = none ∧
    Unjoined joins (source.child (.table hop.relationship.name)) (next :: rest)
  | _, _ => True

lemma Unjoined.add {joins : List ((Occurrence × Hop) × Occurrence)} {source : Occurrence} {step : Hop} :
    ∀ {place : Occurrence} {hops : List TableHop}, Unjoined joins place hops → sizeOf source < sizeOf place →
      Unjoined (joins ++ [((source, step), target)]) place hops
  | _, [], _, _ | _, [_], _, _ => trivial
  | place, hop :: next :: rest, h, hlt => by
    have hne : ((place, Hop.table hop.relationship.name) == (source, step)) = false := by
      refine beq_false_of_ne fun heq => ?_
      rw [(Prod.mk.inj heq).1] at hlt
      exact Nat.lt_irrefl _ hlt
    refine ⟨?_, Unjoined.add h.2 (by simp only [Occurrence.child.sizeOf_spec]; omega)⟩
    rw [List.lookup_append, h.1, List.lookup_cons, hne]
    rfl

lemma ties_joinTable (h : joinTable kind hop near far env state = .ok ⟨⟩ later) :
    Ties state later (hopEqualities env near far hop) (labelled env [hop.target] [far]) ∧ later.joins = state.joins := by
  obtain ⟨block, hadds, -⟩ := adds_joinTable h
  have hnext := of_ok h rfl
  obtain ⟨_, headed, hhead, hrest⟩ := bind_eq_ok.1 hnext
  obtain ⟨_, linked, hlinks, hword⟩ := bind_eq_ok.1 hrest
  have hties := ((Ties.emit hhead).trans (ties_links hlinks)).trans (.emit hword)
  exact ⟨by simpa [Token.equality?, Token.source?, labelled] using hties, by rw [hadds.same]⟩

lemma ties_joinHops : ∀ {hops : List TableHop} {source : Occurrence}
    {near : String} {state : State}, Unjoined state.joins source hops →
    joinHops kind target source near hops env state = .ok ⟨⟩ later →
    ∃ labels, labels.length = hops.length ∧ Ties state later (chainEqualities env (near :: labels) hops)
      (labelled env (hops.map TableHop.target) labels)
  | [], _, _, _, _, h => by
    cases h
    exact ⟨[], rfl, .of_eq rfl⟩
  | [hop], _, near, _, _, h => by
    obtain ⟨far, _, halias, h⟩ := bind_eq_ok.1 h
    exact ⟨[far], rfl, by simpa [chainEqualities] using (ties_tableAlias halias).1.trans (ties_joinTable h).1⟩
  | hop :: next :: rest, source, near, state, hunjoined, h => by
    obtain ⟨known, registered, hregister, hfound⟩ := bind_eq_ok.1 h
    rw [registerJoin_apply, hunjoined.1] at hregister
    obtain ⟨rfl, hregistered⟩ := EStateM.Result.ok.inj hregister
    obtain ⟨far, aliased, halias, hjoining⟩ := bind_eq_ok.1 hfound
    obtain ⟨_, joined, hjoin, hrest⟩ := bind_eq_ok.1 hjoining
    obtain ⟨haliased, hsame⟩ := ties_tableAlias halias
    obtain ⟨htable, hjoins⟩ := ties_joinTable hjoin
    have hbetween : Unjoined joined.joins (source.child (.table hop.relationship.name)) (next :: rest) := by
      rw [hjoins, hsame, ← hregistered]
      exact hunjoined.2.add (by simp only [Occurrence.child.sizeOf_spec]; omega)
    obtain ⟨labels, hlength, hlinks⟩ := ties_joinHops hbetween hrest
    have hbuffer : registered.buffer = state.buffer := by rw [← hregistered]
    exact ⟨far :: labels, by simpa using hlength, (((Ties.of_eq hbuffer).trans haliased).trans htable).trans hlinks⟩

/-! ### Subqueries -/

lemma ties_joinBack {id : String} : ∀ {steps : List (TableHop × Nat)} {far nearest : String} {state : State},
    joinBack id far steps env state = .ok nearest later →
    ∃ labels, labels.length = steps.length ∧ (labels ++ [far]).head? = some nearest ∧
      Ties state later (chainEqualities env (labels ++ [far]) (steps.reverse.map Prod.fst))
        (labelled env ((steps.reverse.map Prod.fst).map TableHop.source) labels)
  | [], _, _, _, h => by
    cases h
    exact ⟨[], rfl, rfl, .of_eq rfl⟩
  | (hop, number) :: rest, far, nearest, state, h => by
    obtain ⟨label, aliased, halias, hqualified⟩ := bind_eq_ok.1 h
    have hheaded := of_ok hqualified rfl
    obtain ⟨_, headed, hhead, hlinked⟩ := bind_eq_ok.1 hheaded
    obtain ⟨_, linked, hlinks, hclosed⟩ := bind_eq_ok.1 hlinked
    obtain ⟨_, closed, hword, hrest⟩ := bind_eq_ok.1 hclosed
    obtain ⟨labels, hlength, hnearest, hties⟩ := ties_joinBack hrest
    have hall := ((((ties_tableAlias halias).1.trans (.emit hhead)).trans (ties_subqueryLinks hlinks)).trans
      (.emit hword)).trans hties
    simp only [Token.equality?, Token.source?, Option.toList_none, Option.toList_some, List.nil_append, List.append_nil] at hall
    refine ⟨labels ++ [label], by simp [hlength], by cases labels <;> exact hnearest, hall.perm ?_ ?_⟩
    · have hchain : chainEqualities env (labels ++ [label, far]) (rest.reverse.map Prod.fst ++ [hop]) = _ :=
        chainEqualities_append (by simp [hlength])
      rw [List.reverse_cons, List.map_append, List.append_assoc labels]
      exact List.perm_append_comm.trans (.of_eq hchain.symm)
    · rw [List.reverse_cons, List.map_append, List.map_append, labelled, labelled, List.map_append,
        List.zip_append (by simp [hlength])]
      exact List.perm_append_comm

/-! ### Both -/

/-- **A slot has gained the links along a chain**, whose tables have given aliases: the first is the alias of an occurrence,
and the tables that the steps lead to are introduced with the others. -/
structure Linked (env : Env) (outer : Occurrence) (hops : List TableHop) (slot : Slot) (state later : State) (near : String)
    (labels : List String) : Prop where
  length : labels.length = hops.length
  start : ∀ first ∈ hops.head?, tableAlias outer.idPath first.source env later = .ok near later
  gained : ∃ tokens : List Token, later.buffer.fragments slot = state.buffer.fragments slot ++ tokens.map .token ∧
    (tokens.filterMap Token.equality?).Perm (chainEqualities env (near :: labels) hops) ∧
    (tokens.filterMap Token.source?).Perm (labelled env (hops.map TableHop.target) labels)

lemma fragments_foldl_append (tokens : List Token) (buffer : Buffer) :
    (tokens.foldl Buffer.append buffer).fragments buffer.activeSlot =
      buffer.fragments buffer.activeSlot ++ tokens.map .token := by
  induction tokens generalizing buffer with
  | nil => simp
  | cons token rest ih =>
    have hslot : (buffer.append token).activeSlot = buffer.activeSlot := rfl
    rw [List.foldl_cons, ← hslot, ih, hslot, Buffer.fragments_append_activeSlot, List.append_assoc]
    rfl

/-- What is written after an alias has been asked for. -/
lemma Ties.linked {α : Type} {first : TableHop} {rest : List TableHop}
    {next : Compile α} {value : α} [Composed next] (h : Ties state later (chainEqualities env (near :: labels) (first :: rest))
      (labelled env ((first :: rest).map TableHop.target) labels)) (hlength : labels.length = rest.length + 1)
    (hnear : tableAlias outer.idPath first.source env state = .ok near mid) (hnext : next env mid = .ok value later)
    (haliases : later.usingAliases = mid.usingAliases) :
    Linked env outer (first :: rest) state.buffer.activeSlot state later near labels := by
  obtain ⟨tokens, hbuffer, hequalities, hsources⟩ := h
  refine ⟨hlength, ?_, tokens, by rw [hbuffer, fragments_foldl_append], hequalities, hsources⟩
  rintro _ ⟨⟩
  exact tableAlias_mono (tableAlias_again hnear) (Composed.retains inferInstance hnext) haliases

/-- A path along one relationship of a variable, which is mapped to steps along tables that end at the table of its
target. -/
def Mapped (catalog : Catalog) (scope : Scope) (path : Path) (outer : Occurrence) (hops : List TableHop) : Prop :=
  ∃ name entity start relationship target, path.components = [name] ∧ Resolve.variableOf scope path.id = .ok outer ∧
    Resolve.variableEntity catalog scope path.id = .ok entity ∧ catalog.tableOf entity = .ok start ∧
    Resolve.relationship catalog entity name = .ok relationship ∧ catalog.relationshipHops entity relationship = .ok hops ∧
    catalog.target relationship = .ok target ∧ catalog.tableOf target = .ok (Catalog.lastTarget start hops)

lemma linked_collection {path : Path} {id : String}
    (hmapped : Mapped env.catalog state.scope path outer hops) (h : collection path env state = .ok id later) :
    ∃ near labels, Linked env outer hops state.buffer.activeSlot state later near labels := by
  obtain ⟨name, entity, start, relationship, target, hname, houter, hentity, hstart, hrelationship, hhops, htarget, htable⟩ :=
    hmapped
  have haliases := ((inline_collection path).touches h).usingAliases
  unfold collection at h
  rw [hname] at h
  replace h := of_read h
  -- what is resolved is what is given
  obtain ⟨_, hentity', hrelated⟩ := of_resolve h
  cases hentity.symm.trans hentity'
  obtain ⟨_, hrelationship', htargeted⟩ := of_resolve hrelated
  cases hrelationship.symm.trans hrelationship'
  obtain ⟨_, htarget', hchained⟩ := of_fromCatalog htargeted
  cases htarget.symm.trans htarget'
  obtain ⟨_, hhops', hwritten⟩ := of_fromCatalog hchained
  cases hhops.symm.trans hhops'
  cases hops with
  | nil => cases hwritten
  | cons first rest =>
  -- the first alias, the variable of the members and theirs
  obtain ⟨_, houter', haliasing⟩ := of_resolve hwritten
  cases houter.symm.trans houter'
  obtain ⟨near, aliased, hnear, hdeclaring⟩ := bind_eq_ok.1 haliasing
  obtain ⟨id', declared, hdeclare, htabled⟩ := bind_eq_ok.1 hdeclaring
  have hdeclared : declared.buffer = aliased.buffer := by
    obtain ⟨_, _, -, -, rfl⟩ := declareAlias_eq_ok hdeclare
    rfl
  obtain ⟨_, htable', hrooted⟩ := of_fromCatalog htabled
  cases htable.symm.trans htable'
  obtain ⟨root, -, hnamed⟩ := of_resolve hrooted
  obtain ⟨far, reached, hfar, hqualified⟩ := bind_eq_ok.1 hnamed
  -- the tables from the last back to the first
  have hheaded := of_ok hqualified rfl
  obtain ⟨_, headed, hhead, hback⟩ := bind_eq_ok.1 hheaded
  obtain ⟨nearest, joined, hjoined, hcorrelated⟩ := bind_eq_ok.1 hback
  obtain ⟨_, worded, hword, htied⟩ := bind_eq_ok.1 hcorrelated
  obtain ⟨_, _, hcorrelations, hanswer⟩ := bind_eq_ok.1 htied
  cases hanswer
  obtain ⟨labels, hlength, hnearest, hties⟩ := ties_joinBack hjoined
  obtain ⟨after, hafter⟩ : ∃ after, labels ++ [far] = nearest :: after := List.head?_eq_some_iff.1 hnearest
  have hall := ((((((ties_tableAlias hnear).1.trans (.of_eq hdeclared)).trans (ties_tableAlias hfar).1).trans
    (.emit hhead)).trans hties).trans (.emit hword)).trans (ties_correlations hcorrelations)
  simp only [Token.equality?, Token.source?, Option.toList_none, Option.toList_some, List.nil_append, List.append_nil,
    List.reverse_reverse, List.zipIdx_map_fst] at hall
  have htables : rest.map TableHop.source ++ [Catalog.lastTarget start (first :: rest)] = (first :: rest).map TableHop.target :=
    (List.cons.inj (Catalog.chained_of_relationshipHops hstart hhops).tables).2
  obtain ⟨_, hchanged⟩ := tableAlias_changes hnear
  refine ⟨near, labels ++ [far], Ties.linked (hall.perm ?_ ?_) (by simpa using hlength) hnear hdeclaring
    (by rw [haliases, hchanged])⟩
  · rw [hafter, chainEqualities]
    exact List.perm_append_comm
  · rw [← htables, labelled, labelled, List.map_append, List.zip_append (by simpa using hlength.symm)]
    exact List.perm_append_comm

lemma linked_join {marker : Option Marker} {place : Occurrence}
    (hhops : Resolve.incomingHops env.catalog state.scope place = .ok hops) (hunjoined : Unjoined state.joins outer hops)
    (h : join marker kind outer place env state = .ok ⟨⟩ later) :
    ∃ near labels, Linked env outer hops (marker.elim state.buffer.activeSlot .marker) state later near labels := by
  have hwrite : ∀ {first : TableHop} {rest : List TableHop} {state later : State}, (do
      joinHops kind place outer (← tableAlias outer.idPath first.source) (first :: rest) : Compile Unit) env state =
        .ok ⟨⟩ later → Unjoined state.joins outer (first :: rest) →
      ∃ near labels, Linked env outer (first :: rest) state.buffer.activeSlot state later near labels := by
    intro first rest state later hok hunjoined
    obtain ⟨near, aliased, hnear, hjoin⟩ := bind_eq_ok.1 hok
    obtain ⟨hties, hjoins⟩ := ties_tableAlias hnear
    obtain ⟨labels, hlength, hlinks⟩ := ties_joinHops (hjoins ▸ hunjoined) hjoin
    exact ⟨near, labels, (hties.trans hlinks).linked hlength hnear hjoin
      ((inline_joinHops .. : Inline .sources _).touches hjoin).usingAliases⟩
  replace h := of_get h
  cases haliased : state.usingAliases <;> rw [haliased] at h
  · cases h
  · obtain ⟨_, hfound, hjoin⟩ := of_resolve h
    cases hhops.symm.trans hfound
    cases hops with
    | nil => cases hjoin
    | cons first rest =>
    cases marker with
    | none => exact hwrite hjoin hunjoined
    | some marker =>
      obtain ⟨pushed, mid, popped, hpush, hinner, hpop, rfl⟩ := within_eq_ok hjoin
      obtain ⟨hpushed, hsame⟩ := Buffer.push_eq_ok hpush
      obtain ⟨-, hsame'⟩ := Buffer.pop_eq_ok hpop
      have hslot : pushed.activeSlot = .marker marker := by simp only [Buffer.activeSlot, hpushed]
      obtain ⟨near, labels, hlinked⟩ := hwrite hinner hunjoined
      obtain ⟨tokens, htokens, hperm⟩ := hlinked.gained
      refine ⟨near, labels, hlinked.length, fun first hfirst => ?_, tokens, ?_, hperm⟩
      · have hretains : Retains mid { mid with buffer := popped } :=
          ⟨List.prefix_rfl, fun _ _ h => h, List.prefix_rfl, id, Nat.le_refl _⟩
        exact tableAlias_mono (hlinked.start first hfirst) hretains rfl
      · dsimp only at htokens
        rw [hslot, hsame] at htokens
        exact (hsame' _).trans htokens

/-- The galleries of an artist. -/
def artistGalleries : Occurrence :=
  (Occurrence.root "a").child (.object "galleries")

/-- The steps to the galleries of an artist. -/
def galleryHops : List TableHop :=
  (Resolve.incomingHops exhibitions twoArtists artistGalleries).toOption.getD []

end Compile

end EntityQuery
