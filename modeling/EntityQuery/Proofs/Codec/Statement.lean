import EntityQuery.Proofs.Codec.Mapping
import EntityQuery.Statement.Codec
import Mathlib.Tactic.Cases

/-!
Statements and their JSON forms. Readers go as deep into a value as their bound allows, so what is read back within one bound
decides what is read back within the next.

Main statement: a statement is read back from its JSON form (`statement_read_back`).
-/

namespace EntityQuery

open Document Json

variable {fuel : Nat}

/-- **What is read back within a bound on the depth.** -/
structure ReadsBack (fuel : Nat) : Prop where
  expr (expr : Expr) (h : expr.toJson.depth < fuel) : readExpr fuel expr.toJson = .ok expr
  function (function : Function) (h : function.toJson.depth < fuel) : readFunction fuel function.toJson = .ok function
  aggregate (aggregate : Aggregate) (h : aggregate.toJson.depth < fuel) : readAggregate fuel aggregate.toJson = .ok aggregate
  items (items : List SelectItem) (h : listDepth (selectItemsToJson items) < fuel) :
    list (readSelectItem fuel) (.arr (selectItemsToJson items)) = .ok items
  order (items : List OrderItem) (h : listDepth (orderItemsToJson items) < fuel) :
    list (readOrderItem fuel) (.arr (orderItemsToJson items)) = .ok items
  select (query : Select) (h : query.toJson.depth < fuel) : readSelect fuel query.toJson = .ok query

/-! ### Scalars, paths and FROM items -/

lemma escape_read_back (escape : Option Char) : optional character (Json.ofOption (escape.map String.singleton)) = .ok escape := by
  cases escape with
  | none => rfl
  | some letter => exact ok_bind rfl (ok_bind (by simp [character, ofOption]) rfl)

lemma natural_read_back (number : UInt64) : natural (.int number.toNat) = .ok number := by
  have hfits : fitsUnsigned 64 number.toNat = true := by
    simp only [fitsUnsigned, Bool.and_eq_true, decide_eq_true_eq]
    exact ⟨Int.natCast_nonneg _, Int.ofNat_lt.2 number.toNat_lt⟩
  simp [natural, hfits]

lemma depth_le_listDepth {items : List Json} {item : Json} (h : item ∈ items) : item.depth ≤ listDepth items := by
  induction items with
  | nil => cases h
  | cons first rest ih =>
    rw [listDepth]
    rcases List.mem_cons.1 h with rfl | h
    · exact Nat.le_max_left _ _
    · exact Nat.le_trans (ih h) (Nat.le_max_right _ _)

lemma Path.ofJson_toJson (path : Path) : Path.ofJson path.toJson = .ok path := by
  have hcomponents : list text (Json.arr (path.components.map .str)) = .ok path.components := list_read_back _ fun _ _ => rfl
  simp only [Path.toJson, Json.object, sortMembers, putMember, List.foldl, String.reduceLT, reduceIte]
  exact ok_bind rfl (ok_bind rfl (ok_bind hcomponents rfl))

lemma JoinClause.ofJson_toJson (join : JoinClause) : JoinClause.ofJson join.toJson = .ok join := by
  have hkind : alternative JoinKind.ofName? (Json.str join.kind.name) = .ok join.kind := by cases join.kind <;> rfl
  simp only [JoinClause.toJson, Json.object, sortMembers, putMember, List.foldl, String.reduceLT, reduceIte]
  exact ok_bind rfl (ok_bind hkind (ok_bind rfl (ok_bind join.path.ofJson_toJson (ok_bind (optional_text_read_back join.id) rfl))))

lemma FromItem.ofJson_toJson (item : FromItem) : FromItem.ofJson item.toJson = .ok item := by
  have hjoins := list_read_back item.joins fun join _ => join.ofJson_toJson
  simp only [FromItem.toJson, Json.object, sortMembers, putMember, List.foldl, String.reduceLT, reduceIte]
  exact ok_bind rfl (ok_bind rfl (ok_bind rfl (ok_bind hjoins rfl)))

/-! ### Expressions -/

lemma Expr.toJson_eq_obj (expr : Expr) : ∃ kind content, expr.toJson = .obj [(kind, content)] := by
  cases expr <;> exact ⟨_, _, rfl⟩

namespace ReadsBack

variable (ih : ReadsBack fuel)
include ih

lemma exprs (exprs : List Expr) (h : listDepth (exprsToJson exprs) < fuel) :
    list (readExpr fuel) (.arr (exprsToJson exprs)) = .ok exprs := by
  have hforms : exprsToJson exprs = exprs.map Expr.toJson := by
    clear h
    induction exprs with
    | nil => rfl
    | cons expr rest ih => rw [exprsToJson, ih, List.map_cons]
  have hdepth : ∀ expr ∈ exprs, expr.toJson.depth ≤ listDepth (exprs.map Expr.toJson) := fun expr hexpr =>
    depth_le_listDepth (List.mem_map_of_mem hexpr)
  rw [hforms] at h ⊢
  exact list_read_back exprs fun expr hexpr => ih.expr expr (Nat.lt_of_le_of_lt (hdepth expr hexpr) h)

lemma nextExpr (expr : Expr) (h : expr.toJson.depth < fuel + 1) : readExpr (fuel + 1) expr.toJson = .ok expr := by
  cases expr <;> simp only [Expr.toJson, variantJson, Json.object, sortMembers, putMember, List.foldl, String.reduceLT, reduceIte,
    depth, memberDepth] at h ⊢
  case and operands | or operands | size operands => exact ok_bind rfl (ok_bind (ih.exprs operands (by omega)) rfl)
  case not operand => exact ok_bind rfl (ok_bind (ih.expr operand (by omega)) rfl)
  case comparison op left right =>
    have hop : alternative ComparisonOp.ofName? (Json.str op.name) = .ok op := by cases op <;> rfl
    exact ok_bind rfl (ok_bind rfl (ok_bind hop (ok_bind (ih.expr left (by omega)) (ok_bind (ih.expr right (by omega)) rfl))))
  case between negated value lower upper =>
    exact ok_bind rfl (ok_bind rfl (ok_bind rfl (ok_bind (ih.expr value (by omega)) (ok_bind (ih.expr lower (by omega))
      (ok_bind (ih.expr upper (by omega)) rfl)))))
  case inList negated value items =>
    exact ok_bind rfl (ok_bind rfl (ok_bind rfl (ok_bind (ih.expr value (by omega)) (ok_bind (ih.exprs items (by omega)) rfl))))
  case like negated ignoreCase value pattern escape =>
    exact ok_bind rfl (ok_bind rfl (ok_bind rfl (ok_bind rfl (ok_bind (ih.expr value (by omega))
      (ok_bind (ih.expr pattern (by omega)) (ok_bind (escape_read_back escape) rfl))))))
  case isNull negated value => exact ok_bind rfl (ok_bind rfl (ok_bind rfl (ok_bind (ih.expr value (by omega)) rfl)))
  case isEmpty negated path => exact ok_bind rfl (ok_bind rfl (ok_bind rfl (ok_bind path.ofJson_toJson rfl)))
  case memberOf negated operands => exact ok_bind rfl (ok_bind rfl (ok_bind rfl (ok_bind (ih.exprs operands (by omega)) rfl)))
  case existence negated query => exact ok_bind rfl (ok_bind rfl (ok_bind rfl (ok_bind (ih.select query (by omega)) rfl)))
  case all query | any query | subselect query => exact ok_bind rfl (ok_bind (ih.select query (by omega)) rfl)
  case arithmetic op left right =>
    have hop : alternative ArithmeticOp.ofName? (Json.str op.name) = .ok op := by cases op <;> rfl
    exact ok_bind rfl (ok_bind rfl (ok_bind hop (ok_bind (ih.expr left (by omega)) (ok_bind (ih.expr right (by omega)) rfl))))
  case path path | dbPath path => exact ok_bind rfl (ok_bind path.ofJson_toJson rfl)
  case positionalParameter position => exact ok_bind rfl (ok_bind (natural_read_back position) rfl)
  case function function => exact ok_bind rfl (ok_bind (ih.function function (by omega)) rfl)
  case aggregate aggregate => exact ok_bind rfl (ok_bind (ih.aggregate aggregate (by omega)) rfl)
  all_goals rfl

lemma optionalExpr (condition : Option Expr) (h : (optionalToJson condition).depth < fuel) :
    optional (readExpr fuel) (optionalToJson condition) = .ok condition := by
  cases condition with
  | none => rfl
  | some expr =>
    have hread := ih.expr expr h
    obtain ⟨kind, content, hform⟩ := Expr.toJson_eq_obj expr
    rw [hform] at hread
    rw [optionalToJson, hform]
    exact ok_bind rfl (ok_bind hread rfl)

lemma nextFunction (function : Function) (h : function.toJson.depth < fuel + 1) :
    readFunction (fuel + 1) function.toJson = .ok function := by
  cases function <;> simp only [Function.toJson, variantJson, Json.object, sortMembers, putMember, List.foldl, String.reduceLT,
    reduceIte, depth, memberDepth, listDepth] at h ⊢
  case abs arg | sqrt arg | lower arg | upper arg | length arg =>
    have hread := ih.expr arg (by omega)
    obtain ⟨kind, content, hform⟩ := Expr.toJson_eq_obj arg
    rw [hform] at hread ⊢
    exact ok_bind rfl (ok_bind hread rfl)
  case mod dividend divisor =>
    exact ok_bind rfl (ok_bind (ok_bind (ih.expr dividend (by omega)) (ok_bind (ih.expr divisor (by omega)) rfl)) rfl)
  case concat args | substring args | locate args => exact ok_bind rfl (ok_bind (ih.exprs args (by omega)) rfl)
  case trim spec character arg =>
    have hspec : optional (alternative TrimSpec.ofName?) (Json.ofOption (spec.map TrimSpec.name)) = .ok spec := by
      rcases spec with _ | _ | _ | _ <;> rfl
    exact ok_bind rfl (ok_bind rfl (ok_bind hspec (ok_bind (optional_text_read_back character)
      (ok_bind (ih.expr arg (by omega)) rfl))))
  all_goals rfl

lemma nextAggregate (aggregate : Aggregate) (h : aggregate.toJson.depth < fuel + 1) :
    readAggregate (fuel + 1) aggregate.toJson = .ok aggregate := by
  obtain ⟨function, distinct, arg⟩ := aggregate
  have hfunction : alternative AggregateFunction.ofName? (Json.str function.name) = .ok function := by cases function <;> rfl
  simp only [Aggregate.toJson, Json.object, sortMembers, putMember, List.foldl, String.reduceLT, reduceIte, depth, memberDepth] at h ⊢
  exact ok_bind rfl (ok_bind hfunction (ok_bind rfl (ok_bind (ih.expr arg (by omega)) rfl)))

lemma nextItems (items : List SelectItem) (h : listDepth (selectItemsToJson items) < fuel + 1) :
    list (readSelectItem (fuel + 1)) (.arr (selectItemsToJson items)) = .ok items := by
  change (selectItemsToJson items).mapM (readSelectItem (fuel + 1)) = .ok items
  induction items with
  | nil => rfl
  | cons item rest ihrest =>
    cases item <;> simp only [selectItemsToJson, variantJson, listDepth, depth, memberDepth] at h ⊢ <;> rw [List.mapM_cons]
    case idVariable id => exact ok_bind rfl (ok_bind (ihrest (by omega)) rfl)
    case path path => exact ok_bind (ok_bind rfl (ok_bind path.ofJson_toJson rfl)) (ok_bind (ihrest (by omega)) rfl)
    case aggregate aggregate =>
      exact ok_bind (ok_bind rfl (ok_bind (ih.aggregate aggregate (by omega)) rfl)) (ok_bind (ihrest (by omega)) rfl)
    case scalar expr => exact ok_bind (ok_bind rfl (ok_bind (ih.expr expr (by omega)) rfl)) (ok_bind (ihrest (by omega)) rfl)

lemma nextOrder (items : List OrderItem) (h : listDepth (orderItemsToJson items) < fuel + 1) :
    list (readOrderItem (fuel + 1)) (.arr (orderItemsToJson items)) = .ok items := by
  change (orderItemsToJson items).mapM (readOrderItem (fuel + 1)) = .ok items
  induction items with
  | nil => rfl
  | cons item rest ihrest =>
    obtain ⟨expr, descending⟩ := item
    simp only [orderItemsToJson, Json.object, sortMembers, putMember, List.foldl, String.reduceLT, reduceIte, listDepth, depth,
      memberDepth] at h ⊢
    rw [List.mapM_cons]
    exact ok_bind (ok_bind rfl (ok_bind (ih.expr expr (by omega)) rfl)) (ok_bind (ihrest (by omega)) rfl)

lemma nextSelect (query : Select) (h : query.toJson.depth < fuel + 1) : readSelect (fuel + 1) query.toJson = .ok query := by
  obtain ⟨distinct, items, sources, condition, groupBy, having, orderBy⟩ := query
  have hsources := list_read_back sources fun item _ => item.ofJson_toJson
  simp only [Select.toJson, Json.object, sortMembers, putMember, List.foldl, String.reduceLT, reduceIte, depth, memberDepth] at h ⊢
  exact ok_bind rfl (ok_bind rfl (ok_bind (ih.items items (by omega)) (ok_bind hsources (ok_bind (ih.optionalExpr condition (by omega))
    (ok_bind (ih.exprs groupBy (by omega)) (ok_bind (ih.optionalExpr having (by omega)) (ok_bind (ih.order orderBy (by omega)) rfl)))))))

end ReadsBack

/-- **All is read back that is not too deep.** -/
lemma readsBack (fuel : Nat) : ReadsBack fuel := by
  induction fuel with
  | zero => exact ⟨nofun, nofun, nofun, nofun, nofun, nofun⟩
  | succ fuel ih => exact ⟨ih.nextExpr, ih.nextFunction, ih.nextAggregate, ih.nextItems, ih.nextOrder, ih.nextSelect⟩

/-! ### Statements -/

lemma Statement.ofJson_toJson (statement : Statement) : Statement.ofJson statement.toJson = .ok statement := by
  cases statement with
  | select query =>
    have hread := (readsBack ((variantJson "select" query.toJson).depth + 1)).select query (by
      simp only [variantJson, depth, memberDepth]
      omega)
    exact ok_bind rfl (ok_bind hread rfl)
  | delete query =>
    have hcondition := (readsBack ((variantJson "delete" query.toJson).depth + 1)).optionalExpr query.condition (by
      simp only [variantJson, Delete.toJson, Json.object, sortMembers, putMember, List.foldl, String.reduceLT, reduceIte, depth,
        memberDepth]
      omega)
    simp only [Statement.toJson, Delete.toJson, Json.object, sortMembers, putMember, List.foldl, String.reduceLT,
      reduceIte] at hcondition ⊢
    exact ok_bind rfl (ok_bind (ok_bind rfl (ok_bind rfl (ok_bind rfl (ok_bind hcondition rfl)))) rfl)

/-- **Statements are read back from their JSON forms**, and so is any statement that a JSON value describes, with fields left out
that have defaults or with fields that are passed over. -/
theorem statement_read_back :
    (∀ statement : Statement, Statement.ofJson statement.toJson = .ok statement) ∧
      ∀ (json : Json) (statement : Statement), Statement.ofJson json = .ok statement →
        Statement.ofJson statement.toJson = .ok statement :=
  ⟨Statement.ofJson_toJson, fun _ statement _ => statement.ofJson_toJson⟩

/-- A SELECT of the names of artists of some length, with little more than the required fields and a comment. -/
def shortSelect : Json :=
  variantJson "select" (.object [
    ("select", .arr [variantJson "path" (.object [("id", .str "a"), ("components", .arr [.str "name"])])]),
    ("from", .arr [.object [("entity", .str "Artist"), ("id", .str "a")]]),
    ("where_clause", variantJson "is_null" (.object [("expr", variantJson "function" (variantJson "length"
      (variantJson "path" (.object [("id", .str "a"), ("components", .arr [.str "name"])]))))])),
    ("comment", .str "passed over")])

theorem statement_read_back_short : ∃ statement : Statement, Statement.ofJson shortSelect = .ok statement ∧
    Statement.ofJson statement.toJson = .ok statement :=
  ⟨_, rfl, statement_read_back.2 shortSelect _ rfl⟩

end EntityQuery
