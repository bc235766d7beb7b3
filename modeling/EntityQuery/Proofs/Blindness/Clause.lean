import EntityQuery.Proofs.Blindness.Step
import EntityQuery.Proofs.Steps.Listing

/-!
Parts of clauses that are blind to data: paths and variables as values, subqueries over collections, items of
select lists, and FROM clauses.
-/

namespace EntityQuery.Compile

/-! ### Values in conditions -/

instance blind_requireNone (held : List Composite) : Blind (requireNone held) := by
  unfold requireNone
  infer_instance

instance blind_compositeOperand (composite : Composite) (key : String) :
    Blind (compositeOperand composite key) := by
  unfold compositeOperand
  split <;> infer_instance

instance blind_eachKey (separator : String) (write : String → Compile Unit) [∀ key, Blind (write key)]
    (keys : List String) : Blind (eachKey separator write keys) := by
  fun_induction eachKey separator write keys <;> infer_instance

instance blind_compareComposites (op : ComparisonOp) (left right : Composite) :
    Blind (compareComposites op left right) := by
  unfold compareComposites
  infer_instance

instance blind_literal (value : Json) (type : String) (held : List Composite) :
    Blind (literal value type held) := by
  unfold literal
  infer_instance

/-! ### Subqueries over collections -/

instance blind_collectionSize (path : Path) : Blind (collectionSize path) := by
  unfold collectionSize
  infer_instance

/-! ### Aggregates -/

instance blind_writeItem (expression : Sql.Expression) (javaType : String) (jdbcType : JdbcType) :
    Blind (writeItem expression javaType jdbcType) :=
  .get (fun _ => inferInstance) fun _ => rfl

instance blind_writeAggregate (aggregate : Aggregate) : Blind (writeAggregate aggregate) := by
  unfold writeAggregate
  infer_instance

/-! ### Items of select lists -/

instance blind_scalarItem (expression : Sql.Expression) (javaType : String) (jdbcType : JdbcType) :
    Blind (scalarItem expression javaType jdbcType) := by
  unfold scalarItem
  infer_instance

instance blind_entityColumn (labels : Option Labels) (qualifier : String) (found : Column)
    (javaType dataRowKey : String) : Blind (entityColumn labels qualifier found javaType dataRowKey) := by
  unfold entityColumn
  cases labels <;> infer_instance

/-- **What lists columns of entities is blind to data.** -/
lemma Listing.blind {α : Type} {step : Compile α} (h : Listing step) : Blind step := by
  induction h with
  | inline h => exact h.blind
  | seq _ _ ih ihnext => exact ih.seq ihnext
  | read _ hblind ih => exact .read ih hblind
  | get _ hblind ih => exact .get ih hblind
  | nextEntity => exact .nextEntity
  | entityColumn => infer_instance

instance blind_entityItem (root occurrence : Occurrence) (entity : Entity) : Blind (entityItem root occurrence entity) :=
  (listing_entityItem root occurrence entity).blind

instance blind_variableItem (id : String) : Blind (variableItem id) := by
  unfold variableItem
  infer_instance

instance blind_pathItem (path : Path) : Blind (pathItem path) := by
  refine .seq inferInstance fun found => ?_
  split
  · infer_instance
  · exact .read (fun _ => inferInstance) fun _ => rfl

instance blind_tablePathItem (path : Path) : Blind (tablePathItem path) := by
  refine .seq inferInstance fun found => ?_
  split <;> infer_instance

instance blind_aggregateItem (aggregate : Aggregate) : Blind (aggregateItem aggregate) := by
  unfold aggregateItem
  infer_instance

/-! ### FROM clauses -/

instance blind_writeJoin (clause : JoinClause) : Blind (writeJoin clause) := by
  unfold writeJoin
  split
  · infer_instance
  · cases clause.id <;> infer_instance

instance blind_writeSource (item : FromItem) : Blind (writeSource item) := by
  unfold writeSource
  infer_instance

instance blind_writeSources (items : List FromItem) : Blind (writeSources items) := by
  fun_induction writeSources items <;> infer_instance

instance blind_distinctClause (distinct : Bool) : Blind (distinctClause distinct) := by
  unfold distinctClause
  infer_instance

end EntityQuery.Compile
