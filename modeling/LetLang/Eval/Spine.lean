import LetLang.Eval

/-! # Evaluation along the spine

Chains of operators lean to the left and may be thousands of operators long, and local bindings
follow one another in their scopes. Here both are loops. A chain is taken apart into its innermost
operand and the operators above it; the operand is evaluated first, then each operator is applied
in turn. The scopes of local bindings are followed in one environment that each of them extends.
The main statement is that this is evaluation as defined by recursion on the expression.
-/
namespace LetLang

/-- Operators with their right operands, innermost first, that wait for their left operand. -/
abbrev Spine := List (BinOp × Expr)

/-- The innermost operand of a chain of operators, and the operators of the chain in front of
those that wait already. -/
def Expr.chain : Expr → Spine → Expr × Spine
  | .binary op lhs rhs, ops => lhs.chain ((op, rhs) :: ops)
  | e, ops => (e, ops)

/-- A count of nodes in which a waiting operator weighs as much as its node. -/
def Expr.weight : Expr → Nat
  | .binary _ lhs rhs => lhs.weight + rhs.weight + 1
  | .letGlobal _ _ body => body.weight + 1
  | .letLocal _ _ body scope => body.weight + scope.weight + 1
  | _ => 1

def Spine.weight : Spine → Nat
  | [] => 0
  | (_, rhs) :: ops => rhs.weight + 1 + Spine.weight ops

theorem Expr.weight_pos (e : Expr) : 0 < e.weight := by
  cases e <;> simp [Expr.weight]

theorem Expr.weight_chain (e : Expr) (ops : Spine) :
    (e.chain ops).1.weight + Spine.weight (e.chain ops).2 = e.weight + Spine.weight ops := by
  induction e generalizing ops with
  | binary op lhs rhs ihl _ =>
    have inner := ihl ((op, rhs) :: ops)
    simp only [Expr.chain, Expr.weight, Spine.weight] at inner ⊢
    omega
  | _ => rfl

theorem Expr.weight_chain_lt (op : BinOp) (lhs rhs : Expr) :
    ((binary op lhs rhs).chain []).1.weight < (binary op lhs rhs).weight ∧
      Spine.weight ((binary op lhs rhs).chain []).2 < (binary op lhs rhs).weight := by
  have total := weight_chain (binary op lhs rhs) []
  have operand := weight_pos ((binary op lhs rhs).chain []).1
  have waiting (e : Expr) (head : BinOp × Expr) (ops : Spine) :
      0 < Spine.weight (e.chain (head :: ops)).2 := by
    induction e generalizing head ops with
    | binary op lhs rhs ihl _ => exact ihl _ _
    | _ => exact Nat.lt_add_right _ (Nat.succ_pos _)
  have rest := waiting lhs (op, rhs) []
  simp only [chain, Spine.weight] at total operand rest ⊢
  omega

mutual

/-- The outcome of an expression. Chains of operators and of local bindings are followed by
loops. -/
def Expr.run (e : Expr) (env : Env) : Outcome Output :=
  match e with
  | .int n => (.ok (.ofValue (.int n)), env)
  | .bool b => (.ok (.ofValue (.bool b)), env)
  | .list items => (.ok (.ofValue (.list items)), env)
  | .ref name => ((env.get name).map .ofValue, env)
  | .binary op lhs rhs =>
    match _ : (Expr.binary op lhs rhs).chain [] with
    | (first, ops) =>
      match first.run env with
      | (.error e, env) => (.error e, env)
      | (.ok out, env) => resume ops out env
  | .letGlobal name params body =>
    match runBody name params body env with
    | (.error e, env) => (.error e, env)
    | (.ok value, env) => (.ok ⟨some name, value⟩, env.bind name value)
  | .letLocal name params body scope =>
    match runBody name params body env with
    | (.error e, env) => (.error e, env)
    | (.ok value, env) => (runScope scope (env.bind name value), env)
termination_by 2 * e.weight
decreasing_by
  · rename_i h
    have operand := (Expr.weight_chain_lt op lhs rhs).1
    simp only [h] at operand
    omega
  · rename_i h
    have waiting := (Expr.weight_chain_lt op lhs rhs).2
    simp only [h] at waiting
    omega
  all_goals simp only [Expr.weight]
  all_goals omega

def runBody (name : Text) (params : List Text) (body : Expr) (env : Env) : Outcome Value :=
  if params.isEmpty then
    match body.run env with
    | (.error e, env) => (.error e, env)
    | (.ok out, env) => (out.body name, env)
  else (.ok .function, env)
termination_by 2 * body.weight + 1

/-- The result of a scope in an environment of its own, which each further local binding
extends. -/
def runScope (e : Expr) (env : Env) : Except EvalError Output :=
  match e with
  | .letLocal name params body scope =>
    match runBody name params body env with
    | (.error e, _) => .error e
    | (.ok value, env) => runScope scope (env.bind name value)
  | e => (e.run env).1
termination_by 2 * e.weight + 1
decreasing_by
  · simp only [Expr.weight]
    omega
  · simp only [Expr.weight]
    omega
  · omega

/-- Applies the waiting operators to an output, one after the other. -/
def resume (ops : Spine) (out : Output) (env : Env) : Outcome Output :=
  match ops with
  | [] => (.ok out, env)
  | (op, rhs) :: ops =>
    match out.operand op with
    | .error e => (.error e, env)
    | .ok a =>
      match rhs.run env with
      | (.error e, env) => (.error e, env)
      | (.ok right, env) =>
        match right.operand op with
        | .error e => (.error e, env)
        | .ok b =>
          match op.apply a b with
          | .error e => (.error e, env)
          | .ok value => resume ops (.ofValue value) env
termination_by 2 * Spine.weight ops
decreasing_by
  all_goals simp only [Spine.weight]
  all_goals omega

end
theorem resume_nil (out : Output) (env : Env) : resume [] out env = (.ok out, env) := by
  rw [resume]

theorem resume_cons (op : BinOp) (rhs : Expr) (ops : Spine) (out : Output) (env : Env) :
    resume ((op, rhs) :: ops) out env =
      Outcome.andThen (out.operand op, env) fun a env =>
      (rhs.run env).andThen fun right env =>
      Outcome.andThen (right.operand op, env) fun b env =>
      Outcome.andThen ((op.apply a b).map .ofValue, env) (resume ops) := by
  rw [resume]
  cases out.operand op with
  | error e => rfl
  | ok a =>
    simp only [Outcome.andThen_ok]
    obtain ⟨r, env'⟩ := rhs.run env
    cases r with
    | error e => rfl
    | ok right =>
      simp only [Outcome.andThen_ok]
      cases right.operand op with
      | error e => rfl
      | ok b =>
        simp only [Outcome.andThen_ok]
        cases op.apply a b <;> rfl

theorem andThen_resume_nil (r : Outcome Output) : r.andThen (resume []) = r := by
  obtain ⟨r, env⟩ := r
  cases r with
  | error e => rfl
  | ok out => exact resume_nil out env

/-- A chain of operators is run from its innermost operand outwards. -/
theorem run_binary (op : BinOp) (lhs rhs : Expr) (env : Env) :
    (Expr.binary op lhs rhs).run env =
      (((Expr.binary op lhs rhs).chain []).1.run env).andThen
        (resume ((Expr.binary op lhs rhs).chain []).2) := by
  rw [Expr.run]
  split
  rename_i first ops h
  rw [h]
  obtain ⟨r, left⟩ := first.run env
  cases r <;> rfl

namespace Expr

/-- Every way of running an expression is its evaluation: on its own, as the first operand of
waiting operators, and as the scope of a local binding. -/
structure Agrees (e : Expr) : Prop where
  run (env : Env) : e.run env = e.eval env
  chain (ops : Spine) (env : Env) :
    ((e.chain ops).1.run env).andThen (resume (e.chain ops).2) = (e.eval env).andThen (resume ops)
  scope (env : Env) : runScope e env = (e.eval env).1

theorem Agrees.body {body : Expr} (h : body.Agrees) (name : Text) (params : List Text)
    (env : Env) : runBody name params body env = evalBody name params body env := by
  rw [runBody, h.run, evalBody]
  obtain ⟨r, env'⟩ := body.eval env
  cases r <;> rfl

/-- Where no chain begins, running an expression on its own settles the rest. -/
theorem Agrees.ofRun {e : Expr} (run : ∀ env, e.run env = e.eval env)
    (chain : ∀ ops, e.chain ops = (e, ops)) (scope : ∀ env, runScope e env = (e.run env).1) :
    e.Agrees where
  run := run
  chain ops env := by rw [chain, run]
  scope env := by rw [scope, run]

theorem Agrees.binary {op : BinOp} {lhs rhs : Expr} (hl : lhs.Agrees) (hr : rhs.Agrees) :
    (Expr.binary op lhs rhs).Agrees := by
  have chain (ops : Spine) (env : Env) :
      ((lhs.chain ((op, rhs) :: ops)).1.run env).andThen
          (resume (lhs.chain ((op, rhs) :: ops)).2) =
        ((Expr.binary op lhs rhs).eval env).andThen (resume ops) := by
    rw [hl.chain, Expr.eval]
    obtain ⟨r, env'⟩ := lhs.eval env
    cases r with
    | error e => rfl
    | ok left =>
      simp only [Outcome.andThen_ok, resume_cons, hr.run]
      cases left.operand op with
      | error e => rfl
      | ok a =>
        simp only [Outcome.andThen_ok]
        obtain ⟨r, env''⟩ := rhs.eval env'
        cases r with
        | error e => rfl
        | ok right =>
          simp only [Outcome.andThen_ok]
          cases right.operand op <;> rfl
  have run (env : Env) : (Expr.binary op lhs rhs).run env = (Expr.binary op lhs rhs).eval env := by
    rw [run_binary]
    exact (chain [] env).trans (andThen_resume_nil _)
  refine ⟨run, chain, fun env => ?_⟩
  rw [runScope, run]
  intros
  contradiction

theorem Agrees.letGlobal {name : Text} {params : List Text} {body : Expr} (h : body.Agrees) :
    (Expr.letGlobal name params body).Agrees := by
  refine .ofRun (fun env => ?_) (fun _ => rfl) (fun env => ?_)
  · rw [Expr.run, h.body]
    rw [eval_letGlobal]
    obtain ⟨r, env'⟩ := evalBody name params body env
    cases r <;> rfl
  · rw [runScope]
    intros
    contradiction

theorem Agrees.letLocal {name : Text} {params : List Text} {body scope : Expr}
    (hb : body.Agrees) (hs : scope.Agrees) :
    (Expr.letLocal name params body scope).Agrees := by
  have run (env : Env) : (Expr.letLocal name params body scope).run env =
      (Expr.letLocal name params body scope).eval env := by
    rw [Expr.run, hb.body, eval_letLocal]
    obtain ⟨r, env'⟩ := evalBody name params body env
    cases r with
    | error e => rfl
    | ok value => simp only [Outcome.andThen_ok, hs.scope]
  refine ⟨run, fun ops env => congrArg (·.andThen (resume ops)) (run env), fun env => ?_⟩
  rw [runScope, hb.body, eval_letLocal]
  obtain ⟨r, env'⟩ := evalBody name params body env
  cases r with
  | error e => rfl
  | ok value => exact hs.scope _

theorem agrees (e : Expr) : e.Agrees := by
  induction e with
  | binary op lhs rhs ihl ihr => exact ihl.binary ihr
  | letGlobal name params body ih => exact ih.letGlobal
  | letLocal name params body scope ihb ihs => exact ihb.letLocal ihs
  | _ =>
    refine .ofRun (fun env => ?_) (fun _ => rfl) (fun env => ?_)
    · rw [Expr.run]
      rfl
    · rw [runScope]
      intros
      contradiction

theorem run_eq (e : Expr) (env : Env) : e.run env = e.eval env := e.agrees.run env

end Expr

end LetLang
