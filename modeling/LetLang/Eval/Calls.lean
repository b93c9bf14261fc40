import LetLang.Eval

/-! # Calls of an evaluation

How many calls an evaluator has open at once that calls itself for an operand and for what is
bound to a name, each time from a procedure of its own. The operators of a chain are followed by a
loop, and so are the scopes of local bindings, so neither needs a call. Only calls that are made
count: what stands behind an error is not evaluated.
-/
namespace LetLang.Expr

/-- The calls from the evaluation of an expression to that of an operand, or of what it binds. -/
def innerCalls : Nat := 2

/-- The most calls that the evaluation of an expression has open at once, besides its own. -/
def calls : Expr → Env → Nat
  | .int _, _ | .bool _, _ | .list _, _ | .ref _, _ => 0
  | .binary op lhs rhs, env =>
    max
      (match lhs with
        | .binary .. => lhs.calls env
        | _ => lhs.calls env + innerCalls)
      (match (lhs.eval env).andThen fun out env => (out.operand op, env) with
        | (.ok _, left) => rhs.calls left + innerCalls
        | (.error _, _) => 0)
  | .letGlobal _ params body, env => if params.isEmpty then body.calls env + innerCalls else 0
  | .letLocal name params body scope, env =>
    max (if params.isEmpty then body.calls env + innerCalls else 0)
      (match evalBody name params body env with
        | (.ok value, left) => scope.calls (left.bind name value)
        | (.error _, _) => 0)

end LetLang.Expr
