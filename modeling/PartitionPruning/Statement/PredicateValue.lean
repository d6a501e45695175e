import PartitionPruning.Expr.OfOperand
import PartitionPruning.Schema.Derivation
import PartitionPruning.Statement.Binding

/-
  The values that predicates compare columns with.

  Key definitions include:
    * `Statement.operandValue`
    * `Statement.derived`
    * `Statement.predicateValue`
-/

namespace PartitionPruning

------------------------------------------------------------
-- Values Of Operands
------------------------------------------------------------

namespace Statement

/- The value of an operand by itself. -/
def operandValue
    (s : Statement)
    (ev : Evaluator)
    (o : Operand) : Except Failure Value :=
  match o with
  | .int v => .ok (.int v)
  | .text bytes => .ok (.text bytes s.config.collation)
  | .placeholder index => s.bind index.toNat
  | .column name => .error (.columnOperand name)
  | .call name args => do
      let e ←
        (Operand.call name args).toExpr s.config.maxDepth.toNat
      s.evaluate ev e

/-
  The value for the key that the predicate's column feeds,
  or the value itself if it feeds none or is generated.
-/
def derived
    (s : Statement)
    (p : Predicate)
    (v : Value) : Except Failure Value :=
  match s.schema.keys[p.key.toNat]? with
  | none =>
      .error (.noKey p.key.toNat s.schema.keys.length)
  | some key =>
      if key.isGenerated then .ok v
      else
        match key.target? with
        | none => .ok v
        | some target =>
            match s.schema.keys[target.toNat]? with
            | none =>
                .error (.noGeneratedKey target.toNat key.name)
            | some generated =>
                if generated.isGenerated ∧
                    generated.level = p.level then
                  key.derive s.schema.dialect v
                else
                  .error
                    (.noGeneratedKey target.toNat key.name)

/-
  The value that a predicate compares its column with.  The
  session's collation replaces whatever collation a string
  had before.
-/
def predicateValue
    (s : Statement)
    (ev : Evaluator)
    (p : Predicate) : Except Failure Value := do
  let v ← s.operandValue ev p.operand
  let v ←
    if p.fromRowId = false ∧ s.schema.hasGeneratedKey = true then
      s.derived p v
    else .ok v
  .ok (v.withCollation s.session.collation)

end Statement

end PartitionPruning
