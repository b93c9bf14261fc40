import LetLang.Eval.Spine

/-! # The rules of evaluation

Evaluation as a relation with one rule for each way an expression can come to its end. An operator
looks at its right operand only when the left one is a value, and at types only when both are; the
environment passes from left to right, whether or not evaluation succeeds. The main statement is
that the loops along spines and scopes give exactly the outcomes that the rules derive.
-/
namespace LetLang

mutual

/-- The result of an expression in an environment, and the environment that it leaves. -/
inductive Evaluates : Expr → Env → Except EvalError Output → Env → Prop
  | int {n env} : Evaluates (.int n) env (.ok (.ofValue (.int n))) env
  | bool {b env} : Evaluates (.bool b) env (.ok (.ofValue (.bool b))) env
  | list {items env} : Evaluates (.list items) env (.ok (.ofValue (.list items))) env
  | bound {name value env} : env.lookup? name = some value →
      Evaluates (.ref name) env (.ok (.ofValue value)) env
  | unbound {name env} : env.lookup? name = none →
      Evaluates (.ref name) env (.error (.unbound name)) env
  | leftFails {op lhs rhs e env left} : Evaluates lhs env (.error e) left →
      Evaluates (.binary op lhs rhs) env (.error e) left
  | leftBinding {op lhs rhs name value env left} : Evaluates lhs env (.ok ⟨some name, value⟩) left →
      Evaluates (.binary op lhs rhs) env (.error (.bindingAsOperand name op)) left
  | rightFails {op lhs rhs a e env mid left} : Evaluates lhs env (.ok (.ofValue a)) mid →
      Evaluates rhs mid (.error e) left → Evaluates (.binary op lhs rhs) env (.error e) left
  | rightBinding {op lhs rhs a name value env mid left} :
      Evaluates lhs env (.ok (.ofValue a)) mid → Evaluates rhs mid (.ok ⟨some name, value⟩) left →
      Evaluates (.binary op lhs rhs) env (.error (.bindingAsOperand name op)) left
  | applied {op lhs rhs a b value env mid left} : Evaluates lhs env (.ok (.ofValue a)) mid →
      Evaluates rhs mid (.ok (.ofValue b)) left → op.apply a b = .ok value →
      Evaluates (.binary op lhs rhs) env (.ok (.ofValue value)) left
  | refused {op lhs rhs a b e env mid left} : Evaluates lhs env (.ok (.ofValue a)) mid →
      Evaluates rhs mid (.ok (.ofValue b)) left → op.apply a b = .error e →
      Evaluates (.binary op lhs rhs) env (.error e) left
  | letGlobal {name params body value env left} : Supplies name params body env (.ok value) left →
      Evaluates (.letGlobal name params body) env (.ok ⟨some name, value⟩) (left.bind name value)
  | letGlobalFails {name params body e env left} : Supplies name params body env (.error e) left →
      Evaluates (.letGlobal name params body) env (.error e) left
  | letLocal {name params body scope value result env left inner} :
      Supplies name params body env (.ok value) left →
      Evaluates scope (left.bind name value) result inner →
      Evaluates (.letLocal name params body scope) env result left
  | letLocalFails {name params body scope e env left} :
      Supplies name params body env (.error e) left →
      Evaluates (.letLocal name params body scope) env (.error e) left

/-- The value that a binding gives to its name; the body of a function is not evaluated. -/
inductive Supplies : Text → List Text → Expr → Env → Except EvalError Value → Env → Prop
  | function {name param params body env} :
      Supplies name (param :: params) body env (.ok .function) env
  | value {name body value env left} : Evaluates body env (.ok (.ofValue value)) left →
      Supplies name [] body env (.ok value) left
  | binding {name bound body value env left} : Evaluates body env (.ok ⟨some bound, value⟩) left →
      Supplies name [] body env (.error (.bindingAsBody bound name)) left
  | fails {name body e env left} : Evaluates body env (.error e) left →
      Supplies name [] body env (.error e) left

end

mutual

theorem Evaluates.eval_eq {e : Expr} {env left : Env} {result : Except EvalError Output} :
    Evaluates e env result left → e.eval env = (result, left)
  | .int | .bool | .list => rfl
  | .bound h | .unbound h => by
      rw [Expr.eval, Env.get, h]
      rfl
  | .leftFails hl => by
      rw [Expr.eval, hl.eval_eq, Outcome.andThen_error]
  | .leftBinding hl => by
      rw [Expr.eval, hl.eval_eq]
      rfl
  | .rightFails hl hr => by
      simp only [Expr.eval, hl.eval_eq, Outcome.andThen_ok, Output.operand_ofValue, hr.eval_eq,
        Outcome.andThen_error]
  | .rightBinding hl hr => by
      simp only [Expr.eval, hl.eval_eq, Outcome.andThen_ok, Output.operand_ofValue, hr.eval_eq,
        Output.operand_named, Outcome.andThen_error]
  | .applied hl hr ha | .refused hl hr ha => by
      simp only [Expr.eval, hl.eval_eq, Outcome.andThen_ok, Output.operand_ofValue, hr.eval_eq, ha]
      rfl
  | .letGlobal hb => by
      rw [Expr.eval_letGlobal, hb.evalBody_eq, Outcome.andThen_ok]
  | .letGlobalFails hb => by
      rw [Expr.eval_letGlobal, hb.evalBody_eq, Outcome.andThen_error]
  | .letLocal hb hs => by
      rw [Expr.eval_letLocal, hb.evalBody_eq, Outcome.andThen_ok, hs.eval_eq]
  | .letLocalFails hb => by
      rw [Expr.eval_letLocal, hb.evalBody_eq, Outcome.andThen_error]

theorem Supplies.evalBody_eq {name : Text} {params : List Text} {body : Expr} {env left : Env}
    {result : Except EvalError Value} :
    Supplies name params body env result left →
      Expr.evalBody name params body env = (result, left)
  | .function => rfl
  | .value hb | .binding hb | .fails hb => by
      rw [Expr.evalBody, List.isEmpty_nil, if_pos rfl, hb.eval_eq]
      rfl

end

theorem supplies_of_evalBody {name : Text} {params : List Text} {body : Expr} {env left : Env}
    {result : Except EvalError Value} (h : Expr.evalBody name params body env = (result, left))
    (ih : ∀ {result left}, body.eval env = (result, left) → Evaluates body env result left) :
    Supplies name params body env result left := by
  cases params with
  | cons param params =>
    cases h
    exact .function
  | nil =>
    rw [Expr.evalBody, List.isEmpty_nil, if_pos rfl] at h
    rcases hb : body.eval env with ⟨e | ⟨_ | bound, value⟩, left⟩ <;> rw [hb] at h <;> cases h
    · exact .fails (ih hb)
    · exact .value (ih hb)
    · exact .binding (ih hb)

theorem evaluates_of_eval {e : Expr} {env left : Env} {result : Except EvalError Output}
    (h : e.eval env = (result, left)) : Evaluates e env result left := by
  induction e generalizing env result left with
  | int n =>
    cases h
    exact .int
  | bool b =>
    cases h
    exact .bool
  | list items =>
    cases h
    exact .list
  | ref name =>
    rw [Expr.eval, Env.get] at h
    cases hv : env.lookup? name <;> rw [hv] at h <;> cases h
    · exact .unbound hv
    · exact .bound hv
  | binary op lhs rhs ihl ihr =>
    rw [Expr.eval] at h
    rcases hl : lhs.eval env with ⟨e | ⟨_ | bound, a⟩, mid⟩ <;> rw [hl] at h
    · cases h
      exact .leftFails (ihl hl)
    · rw [Outcome.andThen_ok, Output.operand, Outcome.andThen_ok] at h
      rcases hr : rhs.eval mid with ⟨e | ⟨_ | bound, b⟩, last⟩ <;> rw [hr] at h
      · cases h
        exact .rightFails (ihl hl) (ihr hr)
      · rw [Outcome.andThen_ok, Output.operand, Outcome.andThen_ok] at h
        cases ha : op.apply a b <;> rw [ha] at h <;> cases h
        · exact .refused (ihl hl) (ihr hr) ha
        · exact .applied (ihl hl) (ihr hr) ha
      · cases h
        exact .rightBinding (ihl hl) (ihr hr)
    · cases h
      exact .leftBinding (ihl hl)
  | letGlobal name params body ih =>
    rw [Expr.eval_letGlobal] at h
    rcases hb : Expr.evalBody name params body env with ⟨e | value, mid⟩ <;> rw [hb] at h <;> cases h
    · exact .letGlobalFails (supplies_of_evalBody hb ih)
    · exact .letGlobal (supplies_of_evalBody hb ih)
  | letLocal name params body scope ihb ihs =>
    rw [Expr.eval_letLocal] at h
    rcases hb : Expr.evalBody name params body env with ⟨e | value, mid⟩ <;> rw [hb] at h <;> cases h
    · exact .letLocalFails (supplies_of_evalBody hb ihb)
    · exact .letLocal (supplies_of_evalBody hb ihb) (ihs rfl)

/-- Running an expression along its spines and scopes gives the outcome that the rules derive, and
they derive no other: the same output or the same error, and the same environment. -/
theorem run_eq_iff_evaluates (e : Expr) (env : Env) (result : Except EvalError Output)
    (left : Env) : e.run env = (result, left) ↔ Evaluates e env result left := by
  rw [Expr.run_eq]
  exact ⟨evaluates_of_eval, Evaluates.eval_eq⟩

end LetLang
