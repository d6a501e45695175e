import PartitionPruning.Expr.Basic
import PartitionPruning.Expr.Scan
import PartitionPruning.Text.Numeral

/-
  Reading expressions off lexemes.

  A reading keeps the lexemes it leaves, after an error as
  well, so that reading can go on where it stopped.  An
  identifier before an opening parenthesis is always the
  name of a function.

  Key definitions include:
    * `Reading`
    * `Reading.expression`
    * `Reading.arguments`
    * `Reading.whole`
    * `Expr.parse`
-/

namespace PartitionPruning

/-
  What reading `before` gives, and the lexemes it leaves,
  of which there are no more than before.
-/
structure Reading
    (α : Type)
    (before : List Lexeme) where
  result : Except ExprError α
  rest : List Lexeme
  rest_le : rest.length ≤ before.length

namespace Reading

/- The first lexeme, where nothing left is the end. -/
def current : List Lexeme → Lexeme
  | [] => .eof
  | l :: _ => l

/- The integer of a number that may have a minus before it. -/
def integer
    (digits : String)
    (negative : Bool) : Except ExprError Expr :=
  let signed := if negative then "-" ++ digits else digits
  match Numeral.int64? signed.toList with
  | some v => .ok (.int v)
  | none => .error (.malformed (.badInteger signed))

------------------------------------------------------------
-- Expressions And Arguments
------------------------------------------------------------

mutual

/-
  One expression inside `depth` calls, where `limit` calls
  may be nested.
-/
def expression
    (limit depth : Nat)
    (ls : List Lexeme) : Reading Expr ls :=
  match ls with
  | .number digits :: rest =>
      ⟨integer digits false, rest, by simp⟩
  | .minus :: .number digits :: rest =>
      ⟨integer digits true, rest, Nat.le_add_right _ 2⟩
  | .minus :: rest =>
      ⟨.error (.malformed (.noNumberAfterMinus (current rest))),
        rest, by simp⟩
  | .text bytes :: rest => ⟨.ok (.text bytes), rest, by simp⟩
  | .identifier name :: .leftParen :: rest =>
      if limit < depth + 1 then
        ⟨.error (.nestingTooDeep (depth + 1) limit),
          .leftParen :: rest, by simp⟩
      else
        match Func.ofName? name with
        | none =>
            ⟨.error (.unknownFunction name),
              .leftParen :: rest, by simp⟩
        | some f =>
            let args := arguments limit (depth + 1) rest
            ⟨args.result.map (.call f), args.rest,
              Nat.le_trans args.rest_le (Nat.le_add_right _ 2)⟩
  | .identifier name :: rest =>
      ⟨.ok (.column name), rest, by simp⟩
  | ls =>
      ⟨.error (.malformed (.noExpression (current ls))), ls,
        Nat.le_refl _⟩
termination_by (ls.length, 0)

/-
  The arguments of a call up to and with its closing
  parenthesis, the opening one being read.
-/
def arguments
    (limit depth : Nat)
    (ls : List Lexeme) : Reading (List Expr) ls :=
  match ls with
  | .rightParen :: rest => ⟨.ok [], rest, by simp⟩
  | ls => moreArguments limit depth ls
termination_by (ls.length, 2)

/-
  One argument or more up to and with the closing
  parenthesis of the call.
-/
def moreArguments
    (limit depth : Nat)
    (ls : List Lexeme) : Reading (List Expr) ls :=
  let first := expression limit depth ls
  match first.result with
  | .error e => ⟨.error e, first.rest, first.rest_le⟩
  | .ok e =>
      match h : first.rest with
      | .comma :: rest =>
          have hLt : rest.length < ls.length := by
            have hLe := first.rest_le
            rw [h, List.length_cons] at hLe
            omega
          let others := moreArguments limit depth rest
          ⟨others.result.map (e :: ·), others.rest,
            Nat.le_of_lt (Nat.lt_of_le_of_lt others.rest_le hLt)⟩
      | .rightParen :: rest =>
          ⟨.ok [e], rest, by
            have hLe := first.rest_le
            rw [h, List.length_cons] at hLe
            omega⟩
      | rest =>
          ⟨.error (.malformed
              (.expected .rightParen (current rest))),
            rest, by rw [← h]; exact first.rest_le⟩
termination_by (ls.length, 1)

end

------------------------------------------------------------
-- Whole Texts
------------------------------------------------------------

/- One expression with nothing after it. -/
def whole
    (limit : Nat)
    (ls : List Lexeme) : Reading Expr ls :=
  let reading := expression limit 0 ls
  match reading.result with
  | .error _ => reading
  | .ok _ =>
      if current reading.rest = .eof then reading
      else
        ⟨.error (.malformed
            (.trailing (current reading.rest))),
          reading.rest, reading.rest_le⟩

end Reading

namespace Expr

/- The lexemes of a text, the end included. -/
def lexemes
    (cs : List Char) : Except ExprError (List Lexeme) :=
  (Lexeme.ofText cs).mapError .malformed

/-
  The expression that a text spells, of at most `limit`
  nested calls.
-/
def parse
    (limit : Nat)
    (cs : List Char) : Except ExprError Expr := do
  let ls ← lexemes cs
  (Reading.whole limit ls).result

end Expr

end PartitionPruning
