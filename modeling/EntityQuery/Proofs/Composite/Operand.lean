import EntityQuery.Proofs.Composite.Accounting
import EntityQuery.Proofs.Steps.Parts
import EntityQuery.Query

/-!
Composite values as operands. Every expression is followed by its traced form, so that what can be said of traces can
be said of conditions: a condition that is written has used up its composite values, and they all were whole operands
just if no compound part handed one on.
-/

namespace EntityQuery.Compile

open Sql

lemma followsParts_writers {parts : List (Expr × Tracer Trace)} {writers : List (Expr × Writer)}
    (h : List.Forall₂ FollowsPart parts writers) : List.Forall₂ Follows (parts.map Prod.snd) (writers.map Prod.snd) := by
  rw [List.forall₂_map_left_iff, List.forall₂_map_right_iff]
  refine h.imp ?_
  rintro _ _ ⟨hpart⟩
  exact hpart

lemma follows_memberOf (negated : Bool) (operands : List Expr)
    (h : List.Forall₂ FollowsPart (tracedAll operands) (expressions operands)) :
    Follows (traced (.memberOf negated operands)) (expression (.memberOf negated operands)) := by
  unfold traced expression
  generalize tracedAll operands = parts at h ⊢
  generalize expressions operands = writers at h ⊢
  rcases h with _ | ⟨@⟨member, _, _, hmember⟩, _ | ⟨@⟨second, _, _, _⟩, _ | ⟨_, hrest⟩⟩⟩
  · exact ⟨fun _ _ => rfl, fun _ _ => Ends.fail _⟩
  · exact ⟨fun _ _ => rfl, fun _ _ => Ends.fail _⟩
  · cases second with
    | path path =>
      exact ⟨fun _ held => (hmember.collectionMember negated path member).erased none held,
        fun _ held => (hmember.collectionMember negated path member).account none held⟩
    | _ => exact ⟨fun _ _ => rfl, fun _ _ => Ends.fail _⟩
  · have hcount : ∀ {count other : Nat}, count = other →
        Prod.fst <$> (invalid (.memberOfCount count) : Compile (List Composite × Trace)) =
          invalid (.memberOfCount other) := by
      rintro _ _ rfl
      rfl
    cases second <;> exact ⟨fun _ _ => hcount (by simp [hrest.length_eq]), fun _ _ => Ends.fail _⟩

mutual

/-- **Every expression is followed by its traced form.** -/
theorem follows_traced : ∀ expr : Expr, Follows (traced expr) (expression expr)
  | .and operands => follows_connective .and (followsParts_traced operands)
  | .or operands => follows_connective .or (followsParts_traced operands)
  | .not operand => (follows_traced operand).negation operand
  | .comparison op left right => by
    constructor
    · intro _ held
      exact erase_seq fun _ => erase_branch (((follows_traced left).nullCheck _).erased none held)
        (erase_seq fun hint => ((follows_traced left).compare (follows_traced right) op).erased hint held)
    · intro _ held
      exact Ends.seq fun _ => Ends.branch (fun _ => ((follows_traced left).nullCheck _).account none held)
        fun _ => Ends.seq fun hint => ((follows_traced left).compare (follows_traced right) op).account hint held
  | .between negated value lower upper =>
    { erased := fun _ held => erase_seq fun hint =>
        ((follows_traced value).range (follows_traced lower) (follows_traced upper) negated).erased hint held
      account := fun _ held => Ends.seq fun hint =>
        ((follows_traced value).range (follows_traced lower) (follows_traced upper) negated).account hint held }
  | .inList negated value items =>
    { erased := fun _ held => erase_seq fun hint =>
        ((follows_traced value).membership (followsParts_traced items) negated).erased hint held
      account := fun _ held => Ends.seq fun hint =>
        ((follows_traced value).membership (followsParts_traced items) negated).account hint held }
  | .like negated ignoreCase value pattern escape => by
    have hlike := (follows_traced value).likeness (follows_traced pattern) negated ignoreCase escape
    constructor
    · intro _ held
      exact erase_seq fun _ => erase_branch (((follows_traced value).nullCheck _).erased none held)
        (erase_seq fun hint => hlike.erased hint held)
    · intro _ held
      exact Ends.seq fun _ => Ends.branch (fun _ => ((follows_traced value).nullCheck _).account none held)
        fun _ => Ends.seq fun hint => hlike.account hint held
  | .isNull negated value => (follows_traced value).nullCheck negated
  | .memberOf negated operands => follows_memberOf negated operands (followsParts_traced operands)
  | .arithmetic op left right => by
    have hparts : Follows _ _ := FollowsAll.compound ((followsAll_separated (arithmeticSign op)
      (.cons (follows_traced left) (.cons (follows_traced right) .nil))).bracketed " (" ")")
    exact ⟨fun _ held => erase_seq fun hint => hparts.erased hint held,
      fun _ held => Ends.seq fun hint => hparts.account hint held⟩
  | .function function => follows_tracedCall function
  | .isEmpty negated path => follows_observed (handsOne_emptiness negated path)
  | .size operands => by
    refine follows_observed fun _ held => ?_
    unfold expression
    dsimp only
    split
    · exact Ends.seq fun _ => ends_same held
    · exact Ends.fail _
    · exact Ends.fail _
  | .existence negated query => follows_observed fun _ held => by
    unfold expression
    exact Ends.optional (Ends.seq fun _ => ends_subselect _ held)
  | .all query => follows_observed fun _ held => Ends.seq fun _ => ends_subselect _ held
  | .any query => follows_observed fun _ held => Ends.seq fun _ => ends_subselect _ held
  | .subselect query => follows_observed fun _ held => ends_subselect _ held
  | .path path => follows_observed (handsOne_pathValue path)
  | .dbPath path => follows_observed (handsOne_tablePathValue path)
  | .idVariable id => follows_observed (handsOne_variableKey id)
  | .namedParameter _ | .positionalParameter _ =>
    follows_observed fun hint held => Ends.seq fun value => handsOne_parameter value hint held
  | .stringLiteral _ | .integerLiteral _ _ | .decimalLiteral _ _ | .booleanLiteral _ =>
    follows_observed fun _ held => expression_of_isLiteral rfl (ends_literal · · held) fun _ => Ends.fail _
  | .aggregate aggregate => follows_observed fun _ held => Ends.seq fun _ => ends_same held

theorem followsParts_traced : ∀ exprs : List Expr, List.Forall₂ FollowsPart (tracedAll exprs) (expressions exprs)
  | [] => .nil
  | expr :: rest => .cons (.intro (follows_traced expr)) (followsParts_traced rest)

theorem follows_tracedCall : ∀ function : Function,
    Follows (tracedCall function) fun _ held => functionCall function held
  | .abs arg | .sqrt arg | .lower arg | .upper arg | .length arg =>
    follows_call _ (.cons (follows_traced arg) .nil)
  | .mod dividend divisor => follows_call _ (.cons (follows_traced dividend) (.cons (follows_traced divisor) .nil))
  | .concat args | .substring args | .locate args =>
    follows_callWithin _ _ _ (followsParts_writers (followsParts_traced args))
  | .trim spec character arg => (follows_traced arg).trimCall spec character
  | .currentDate | .currentTime | .currentTimestamp =>
    follows_observed fun _ held => Ends.seq fun _ => ends_same held

end

lemma standalone_eq_ok {writer : Writer} {env : Env} {state state' : State}
    (h : standalone writer env state = .ok ⟨⟩ state') : writer none [] env state = .ok [] state' := by
  obtain ⟨held, mid, hheld, hrest⟩ := bind_eq_ok.1 h
  cases held with
  | nil =>
    cases hrest
    exact hheld
  | cons _ _ => cases hrest

/-- **Composite values are whole operands just where no compound part hands one on.** A condition that is written has
used up its composite values: two in each comparison for equality or none, one in each null check or none, and none in
other tests. That each of them was an operand by itself, in a comparison with another or in a null check, is the case
if and only if no arithmetic expression, function call or connective handed one on. -/
theorem composites_whole_iff_plain {env : Env} {state state' : State} {expr : Expr}
    (h : standalone (expression expr) env state = .ok ⟨⟩ state') :
    (∀ hint held, Prod.fst <$> traced expr hint held = expression expr hint held) ∧
      ∃ trace, traced expr none [] env state = .ok ([], trace) state' ∧ trace.Settled ∧
        (trace.Whole ↔ trace.Plain) := by
  have hfollows := follows_traced expr
  refine ⟨hfollows.erased, ?_⟩
  have hwritten := standalone_eq_ok h
  rw [← hfollows.erased none [], map_eq_ok] at hwritten
  obtain ⟨⟨after, trace⟩, htraced, rfl⟩ := hwritten
  obtain ⟨hhanded, hsettled⟩ := hfollows.account none [] env state _ state' htraced
  exact ⟨trace, htraced, hsettled, Trace.whole_iff_plain hsettled (by simpa using hhanded.symm)⟩

/-- A mapping with a key of two columns. -/
def benches : Catalog :=
  .ofParts
    [{ name := "BENCH"
       columns := [{ name := "PARK", type := .integer, primaryKey := true },
         { name := "PLACE", type := .integer, primaryKey := true }] }]
    [{ name := "Bench", table := "BENCH" }]

/-- A variable for benches is declared. -/
def benchState : State :=
  { scope := { frames := [[("b", "b")]], roots := [("b", { entity := "Bench" })] } }

/-- A composite value inside a function call, compared with a composite value. -/
def wrappedBench : Expr :=
  .comparison .equals (.function (.abs (.idVariable "b"))) (.idVariable "b")

def benchKey : Composite :=
  [("PARK", .column ⟨"t0", "PARK"⟩), ("PLACE", .column ⟨"t0", "PLACE"⟩)]

/-- The composite value inside the function call is accepted, although it is no whole operand. -/
theorem composites_whole_iff_plain_wrapped :
    ∃ state' trace, standalone (expression wrappedBench) { catalog := benches } benchState = .ok ⟨⟩ state' ∧
      traced wrappedBench none [] { catalog := benches } benchState = .ok ([], trace) state' ∧ trace.Settled ∧
      (trace.Whole ↔ trace.Plain) ∧ ¬ trace.Whole := by
  have h : standalone (expression wrappedBench) { catalog := benches } benchState = .ok ⟨⟩ _ := rfl
  obtain ⟨-, trace, htraced, hsettled, hiff⟩ := composites_whole_iff_plain h
  have hshape : traced wrappedBench none [] { catalog := benches } benchState =
      .ok ([], .comparison .equals (.compound [.value [benchKey]]) (.value [benchKey])) _ := rfl
  obtain rfl : trace = .comparison .equals (.compound [.value [benchKey]]) (.value [benchKey]) := by
    cases htraced.symm.trans hshape
    rfl
  refine ⟨_, _, h, htraced, hsettled, hiff, fun hwhole => ?_⟩
  have hnone := hiff.1 hwhole [.value [benchKey]] (.part List.mem_cons_self (.refl _))
  cases hnone

def benchesByKey : Select :=
  { distinct := false, items := [.idVariable "b"], sources := [{ entity := "Bench", id := "b" }]
    condition := some (.comparison .equals (.idVariable "b") (.namedParameter "key")), groupBy := [], having := none
    orderBy := [] }

def isNull : Json → Bool
  | .null => true
  | _ => false

/-- A null among the entries of a composite value is bound without a type. -/
theorem null_entry_bound_without_type :
    (Statement.compile { catalog := benches, settings := { annotateResultColumns := false }
                         request := { named := [("key", .obj [("PARK", .null), ("PLACE", .int 7)])] } }
      (.select benchesByKey)).toOption.map (fun query => (query.sql, (query.parameter? "id1").map isNull)) = some (
        "SELECT t0.PARK, t0.PLACE FROM BENCH t0 WHERE ( t0.PARK = #bind($id1) AND t0.PLACE = #bind($id2))", some true) := by
  decide +kernel

end EntityQuery.Compile
