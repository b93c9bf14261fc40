import LetLang.Env
import LetLang.Expr
import LetLang.Word

/-! # Evaluation

What an expression means: an output or an error, and the environment left behind. An operator
evaluates its left operand, refuses it if it is a binding, and only then evaluates the right
one; types are checked last. A local binding evaluates its scope in an environment of its own.
-/
namespace LetLang

/-- Why an expression has no value. -/
inductive EvalError where
  | bindingAsOperand (name : Text) (op : BinOp)
  | bindingAsBody (bound name : Text)
  | operandTypes (op : BinOp) (lhs rhs : ValueType)
  | unbound (name : Text)
  | divisionByZero
  deriving DecidableEq, Repr

/-- The value of a name, which must be bound. -/
def Env.get (env : Env) (name : Text) : Except EvalError Value :=
  match env.lookup? name with
  | some value => .ok value
  | none => .error (.unbound name)

/-- What an expression yields: a value, and the name it was bound to if it was a binding. -/
structure Output where
  name : Option Text
  value : Value
  deriving DecidableEq, Repr

namespace Output

def ofValue (value : Value) : Output := ⟨none, value⟩

def text (out : Output) : Text :=
  (match out.name with
    | some name => "val " ++ name
    | none => "-") ++ " : " ++ out.value.type.text ++ " = " ++ out.value.text

def operand (op : BinOp) (out : Output) : Except EvalError Value :=
  match out.name with
  | some name => .error (.bindingAsOperand name op)
  | none => .ok out.value

def body (name : Text) (out : Output) : Except EvalError Value :=
  match out.name with
  | some bound => .error (.bindingAsBody bound name)
  | none => .ok out.value

@[simp] theorem operand_ofValue (op : BinOp) (value : Value) :
    (ofValue value).operand op = .ok value := rfl

@[simp] theorem operand_named (op : BinOp) (name : Text) (value : Value) :
    operand op ⟨some name, value⟩ = .error (.bindingAsOperand name op) := rfl

end Output

def BinOp.onInts (op : BinOp) (a b : Int) : Except EvalError Value :=
  match op with
  | .add => .ok (.int (Word.wrap (a + b)))
  | .sub => .ok (.int (Word.wrap (a - b)))
  | .mul => .ok (.int (Word.wrap (a * b)))
  | .div => if b = 0 then .error .divisionByZero else .ok (.int (Word.quotient a b))
  | .eq => .ok (.bool (a == b))
  | .ne => .ok (.bool (a != b))

/-- The value of an operator: arithmetic on integers, equality on integers and on truth
values. -/
def BinOp.apply (op : BinOp) (lhs rhs : Value) : Except EvalError Value :=
  match op, lhs, rhs with
  | op, .int a, .int b => op.onInts a b
  | .eq, .bool a, .bool b => .ok (.bool (a == b))
  | .ne, .bool a, .bool b => .ok (.bool (a != b))
  | op, lhs, rhs => .error (.operandTypes op lhs.type rhs.type)

/-- The outcome of a piece of evaluation, and the environment it leaves. -/
abbrev Outcome (α : Type) := Except EvalError α × Env

/-- Goes on with what a piece of evaluation yields, unless it failed. -/
@[inline] def Outcome.andThen {α β : Type} (r : Outcome α) (next : α → Env → Outcome β) :
    Outcome β :=
  match r with
  | (.error e, env) => (.error e, env)
  | (.ok a, env) => next a env

@[simp] theorem Outcome.andThen_ok {α β : Type} (a : α) (env : Env)
    (next : α → Env → Outcome β) : Outcome.andThen (.ok a, env) next = next a env := rfl

@[simp] theorem Outcome.andThen_error {α β : Type} (e : EvalError) (env : Env)
    (next : α → Env → Outcome β) : Outcome.andThen (.error e, env) next = (.error e, env) := rfl

namespace Expr

def eval : Expr → Env → Outcome Output
  | .int n, env => (.ok (.ofValue (.int n)), env)
  | .bool b, env => (.ok (.ofValue (.bool b)), env)
  | .list items, env => (.ok (.ofValue (.list items)), env)
  | .ref name, env => ((env.get name).map .ofValue, env)
  | .binary op lhs rhs, env =>
    (lhs.eval env).andThen fun left env =>
    Outcome.andThen (left.operand op, env) fun a env =>
    (rhs.eval env).andThen fun right env =>
    Outcome.andThen (right.operand op, env) fun b env =>
    ((op.apply a b).map .ofValue, env)
  | .letGlobal name params body, env =>
    (if params.isEmpty then
      (body.eval env).andThen fun out env => (out.body name, env)
    else (.ok .function, env)).andThen fun value env =>
    (.ok ⟨some name, value⟩, env.bind name value)
  | .letLocal name params body scope, env =>
    (if params.isEmpty then
      (body.eval env).andThen fun out env => (out.body name, env)
    else (.ok .function, env)).andThen fun value env =>
    ((scope.eval (env.bind name value)).1, env)

/-- The value that a binding gives to its name. -/
def evalBody (name : Text) (params : List Text) (body : Expr) (env : Env) : Outcome Value :=
  if params.isEmpty then (body.eval env).andThen fun out env => (out.body name, env)
  else (.ok .function, env)

theorem eval_letGlobal (name : Text) (params : List Text) (body : Expr) (env : Env) :
    (letGlobal name params body).eval env =
      (evalBody name params body env).andThen fun value env =>
      (.ok ⟨some name, value⟩, env.bind name value) := rfl

theorem eval_letLocal (name : Text) (params : List Text) (body scope : Expr) (env : Env) :
    (letLocal name params body scope).eval env =
      (evalBody name params body env).andThen fun value env =>
      ((scope.eval (env.bind name value)).1, env) := rfl

end Expr

end LetLang
