import LetLang.Proofs.BigStep

/-! # What evaluation does to the environment

Bindings that stay may be written wherever an expression stands between parentheses, yet no
expression leaves more than one of them behind: the output of a binding is of use only as the
whole of an expression, and everywhere else it is an error that follows at once. The main
statement says which binding can be left, after success and after each kind of error.
-/
namespace LetLang

/-- The name whose binding an error finds where a value is needed. -/
def EvalError.misplaced? : EvalError → Option Text
  | .bindingAsOperand name _ | .bindingAsBody name _ => some name
  | .operandTypes .. | .unbound _ | .divisionByZero => none

/-- The environment that an expression leaves when it gives an output. -/
def Expr.kept (e : Expr) (env : Env) (out : Output) : Env :=
  match e with
  | .letGlobal name _ _ => env.bind name out.value
  | _ => env

/-- An environment is another one, but for a single binding of the given name that it may have. -/
def Env.BoundOnce (env left : Env) : Option Text → Prop
  | some name => left = env ∨ ∃ value, left = env.bind name value
  | none => left = env

theorem Env.BoundOnce.refl (env : Env) (name? : Option Text) : BoundOnce env env name? := by
  cases name? with
  | none => rfl
  | some name => exact .inl rfl

theorem Env.BoundOnce.exists_bind {env left : Env} {name? : Option Text}
    (h : BoundOnce env left name?) : left = env ∨ ∃ name value, left = env.bind name value := by
  cases name? with
  | none => exact .inl h
  | some name =>
    rcases h with same | bound
    · exact .inl same
    · exact .inr ⟨name, bound⟩

/-- What the result of an expression says about the environment that is left. Besides what is
kept, it is the binding that the output is named after or that the error refuses. -/
def Expr.Frames (e : Expr) (env left : Env) : Except EvalError Output → Prop
  | .ok out => left = e.kept env out ∧ Env.BoundOnce env left out.name
  | .error err => Env.BoundOnce env left err.misplaced?

mutual

theorem Evaluates.frames {e : Expr} {env left : Env} {result : Except EvalError Output} :
    Evaluates e env result left → e.Frames env left result
  | .int | .bool | .list | .bound _ => ⟨rfl, rfl⟩
  | .unbound _ => rfl
  | .leftFails hl => hl.frames
  | .leftBinding hl => hl.frames.2
  | .rightFails hl hr => by
      obtain rfl := hl.frames.2
      exact hr.frames
  | .rightBinding hl hr => by
      obtain rfl := hl.frames.2
      exact hr.frames.2
  | .applied hl hr _ => by
      have same := hr.frames.2.trans hl.frames.2
      exact ⟨same, same⟩
  | .refused hl hr ha => by
      have same := hr.frames.2.trans hl.frames.2
      subst same
      exact Env.BoundOnce.refl _ _
  | .letGlobal hb => by
      obtain rfl := hb.frames
      exact ⟨rfl, .inr ⟨_, rfl⟩⟩
  | .letGlobalFails hb | .letLocalFails hb => hb.frames
  | .letLocal hb _ => by
      -- whatever the scope binds is bound in its own copy, so only the supplied value matters
      obtain rfl := hb.frames
      unfold Expr.Frames
      split
      · exact ⟨rfl, Env.BoundOnce.refl _ _⟩
      · exact Env.BoundOnce.refl _ _

theorem Supplies.frames {name : Text} {params : List Text} {body : Expr} {env left : Env}
    {result : Except EvalError Value} : Supplies name params body env result left →
      match result with
      | .ok _ => left = env
      | .error err => Env.BoundOnce env left err.misplaced?
  | .function => rfl
  | .value hb => hb.frames.2
  | .binding hb => hb.frames.2
  | .fails hb => hb.frames

end

/-- Running an expression leaves the environment as it was or with a single binding more. After
success that is the binding at the root of the expression, to the value that was given, and none
if the root is anything else. After an error it can only be the binding that the error refuses. -/
theorem run_leaves_at_most_one_binding (e : Expr) (env : Env) :
    ((e.run env).2 = env ∨ ∃ name value, (e.run env).2 = env.bind name value) ∧
      match e.run env with
      | (.ok out, left) => left = e.kept env out
      | (.error err, left) => Env.BoundOnce env left err.misplaced? := by
  rw [Expr.run_eq]
  rcases h : e.eval env with ⟨err | out, left⟩
  · have frames := (evaluates_of_eval h).frames
    exact ⟨frames.exists_bind, frames⟩
  · have frames := (evaluates_of_eval h).frames
    exact ⟨frames.2.exists_bind, frames.1⟩

/-- A binding that is refused as an operand has been made all the same. -/
example : (Expr.binary .add (.letGlobal ['x'] [] (.int 1)) (.int 2)).run .empty =
    (.error (.bindingAsOperand ['x'] .add), Env.empty.bind ['x'] (.int 1)) := by
  rw [Expr.run_eq]
  rfl

end LetLang
