import EntityQuery.Proofs.Wording.Outline

/-!
Parameters of compiled statements. A statement is written with directives that name parameters bound by then, also where they
are taken aside, held back or restrict a table. Parameters are numbered from zero, so that a name leads to one value.

Main statement: `directives_name_parameters`.
-/

namespace EntityQuery

open Sql Compile

/-- **Parameters that are numbered**, found by their names, and named by all directives in some tokens. -/
structure Query.Numbers (env : Env) (tokens : List Token) (query : Query) : Prop where
  sql : query.sql = tokensText tokens
  parameter : ∀ (number : Nat) name value, query.parameters[number]? = some (name, value) →
    name = env.settings.parameterPrefix ++ toString number ∧ query.parameter? name = some value
  nodup : (query.parameters.map Prod.fst).Nodup
  directives : tokensParameters tokens ⊆ query.parameters.map Prod.fst

variable {env : Env} {state : State}

lemma State.Numbered.nodup (h : state.Numbered env) : state.names.Nodup := by
  have hinjective : Function.Injective fun number : Nat => env.settings.parameterPrefix ++ toString number := by
    intro number other heq
    exact Text.toString_injective (congrArg String.toList ((String.append_right_inj _).1 heq))
  rw [show state.names = _ from h]
  exact List.nodup_range.map hinjective

lemma State.Booked.numbers (h : state.Booked env) : state.query.Numbers env (state.buffer.tokens .root) := by
  refine ⟨rfl, fun number name value hfound => ?_, h.numbered.nodup, h.shown .root⟩
  replace hfound : state.parameters[number]? = some (name, value) := hfound
  obtain ⟨hbound, hentry⟩ := List.getElem?_eq_some_iff.1 hfound
  constructor
  · have hname : state.names[number]? = some name := by simp [names, hfound]
    rw [show state.names = _ from h.numbered, List.getElem?_map, List.getElem?_range hbound] at hname
    exact (Option.some.inj hname).symm
  · have hsplit : state.parameters = state.parameters.take number ++ (name, value) :: state.parameters.drop (number + 1) := by
      rw [← hentry]
      exact (List.take_append_drop number _).symm.trans (congrArg _ (List.drop_eq_getElem_cons hbound))
    have hnodup := h.numbered.nodup
    rw [names, hsplit, List.map_append, List.map_cons, List.nodup_append] at hnodup
    refine List.lookup_eq_some_iff.2 ⟨_, _, hsplit, fun entry hentry => ?_⟩
    simpa using (hnodup.2.2 entry.1 (List.mem_map_of_mem hentry) name List.mem_cons_self).symm

namespace Compile

/-- **A statement is written in order.** -/
lemma voicing_statement (query : Statement) : Voicing env Manner.loud (Says env false) (statement query) fun _ => True := by
  have : (saying env Manner.loud).Clausal := clausal_saying nofun
  have hany : ∀ annotating, ∀ fragment, InList env { annotating, quiet := false } fragment → Says env false fragment := by
    intro annotating fragment h
    cases fragment with
    | token => exact nofun
    | hole => exact h.elim
  cases query with
  | select query =>
    refine (Voicing.asSelect (Coupling.selectBody (c := saying env Manner.loud) (fun found hfound {_ _} hlist => ?_)
      (fun hsources => ?_) (selects_saying env.settings.annotateResultColumns (fun expr _ _ => voicing_any _ expr) fun expr _ =>
        voicing_any false expr))).mono fun _ _ => trivial
    · cases hfound env rfl
      exact Voicing.annotatingResults (Voicing.widen hlist (hany _))
    · exact Voicing.widen hsources fun _ => says_of_sources
  | delete query =>
    have hsetting : Adjoining env (fun token => Says env false (.token token))
        (modify fun state => { state with usingAliases := false } : Compile PUnit) fun _ => True := by
      intro state value later hok
      cases hok
      exact ⟨.of_eq rfl rfl rfl rfl rfl (.of_eq rfl), trivial⟩
    have htable : ∀ root, (wording env Manner.loud (Sources env)).law Any (rootTable root) (rootTable root) :=
      fun root => Coupling.rootTable trivial
    have hcondition : Option.Rel (saying env Manner.loud).Writers (expression? query.condition) (expression? query.condition) := by
      rw [expression?_eq_map]
      cases query.condition with
      | none => exact .none
      | some expr => exact .some (voicing_any false expr).2
    refine voicing_read ((Coupling.fromCatalog (c := saying env Manner.loud)).bind fun _ _ => Voicing.asSelect ?_)
    exact hsetting.voicing.bind fun _ _ => (adjoining_declareVariable _ _).voicing.bind fun root _ =>
      (voicing_plain (by decide)).bind fun _ _ => (Voicing.widen (htable root) fun _ => says_of_sources).bind fun _ _ =>
        (Coupling.whereClause hcondition).mono fun _ _ => trivial

end Compile

/-- **Every directive names a parameter that is bound.** The parameters of a compiled statement are numbered, so that their names
differ and lead to their values, and the text is made of tokens that name no others. -/
theorem directives_name_parameters {statement : Statement} {query : Query} (h : statement.compile env = .ok query) :
    ∃ state, Compile.statement statement env env.start = .ok ⟨⟩ state ∧ query = state.query ∧
      query.Numbers env (state.buffer.tokens .root) := by
  obtain ⟨state, hstate, rfl⟩ := compile_eq_ok h
  obtain ⟨hvoices, -⟩ := voicing_statement statement _ _ _ (orderly_start env) ⟨rfl, List.nil_subset _⟩ hstate
  exact ⟨state, hstate, rfl, hvoices.orderly.booked.numbers⟩

def namedStudios : Env :=
  { catalog := studios, settings := { parameterPrefix := "p" } }

/-- An item of the select list that is taken aside names one parameter, and the condition another one. -/
theorem directives_name_parameters_cities :
    ∃ query, Statement.compile namedStudios (.select (paintedCities paintedForLouvre)) = .ok query ∧ query.sql =
        "SELECT #result('\x7bfn CONCAT( t1.CITY, #bind($p0 'VARCHAR'))\x7d' 'java.lang.String' 'sc0' 'sc0' 12)" ++
        " FROM ARTIST t0 LEFT OUTER JOIN PAINTING t2 ON (t0.ID = t2.ARTIST_ID)" ++
        " INNER JOIN GALLERY t3 ON (t2.GALLERY_ID = t3.ID) LEFT OUTER JOIN STUDIO t1 ON (t0.STUDIO_ID = t1.ID)" ++
        " WHERE t3.NAME = #bind($p1 'VARCHAR')" ∧
      ∃ state, Compile.statement (.select (paintedCities paintedForLouvre)) namedStudios namedStudios.start = .ok ⟨⟩ state ∧
        query = state.query ∧ query.Numbers namedStudios (state.buffer.tokens .root) :=
  exists_compiled (by decide +kernel) fun _ hok => directives_name_parameters hok

end EntityQuery
