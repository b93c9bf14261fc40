import LetLang.Proofs.Frame

/-! # Substitution

What an expression yields depends on the environment only through the names that it uses, and a
literal may stand for a name that has its value. Neither the result nor the binding that is left
behind can tell the difference. The main statement is that a local binding is a substitution: its
scope yields what it yields with a literal of the bound value in place of the name.
-/
namespace LetLang

/-- The expression that is written for a value. A function cannot be written. -/
def Value.literal? : Value → Option Expr
  | .int n => some (.int n)
  | .bool b => some (.bool b)
  | .list items => some (.list items)
  | .function => none

/-- The expressions that stand for names; most names stay. -/
abbrev Replacement := Text → Option Expr

namespace Replacement

def single (name : Text) (literal : Expr) : Replacement :=
  fun other => if other = name then some literal else none

/-- What is left of a replacement in the scope of a binding of a name. -/
def hide (r : Replacement) (name : Text) : Replacement :=
  fun other => if other = name then none else r other

end Replacement

namespace Expr

/-- The expression with all free occurrences of names replaced. An occurrence is free unless it
stands in the scope of a local binding of the same name. -/
def replace (r : Replacement) : Expr → Expr
  | .int n => .int n
  | .bool b => .bool b
  | .list items => .list items
  | .ref name => (r name).getD (.ref name)
  | .binary op lhs rhs => .binary op (lhs.replace r) (rhs.replace r)
  | .letGlobal name params body => .letGlobal name params (body.replace r)
  | .letLocal name params body scope =>
    .letLocal name params (body.replace r) (scope.replace (r.hide name))

/-- Whether a name is looked up in the environment that an expression is given. The body of a
function is not evaluated, and a local binding has its scope look elsewhere for the name. -/
def Uses (name : Text) : Expr → Prop
  | .int _ | .bool _ | .list _ => False
  | .ref other => other = name
  | .binary _ lhs rhs => lhs.Uses name ∨ rhs.Uses name
  | .letGlobal _ params body => params = [] ∧ body.Uses name
  | .letLocal other params body scope =>
    params = [] ∧ body.Uses name ∨ other ≠ name ∧ scope.Uses name

end Expr

/-- The environment behind a binding, if one is made. -/
def Env.put (env : Env) : Option (Text × Value) → Env
  | some (name, value) => env.bind name value
  | none => env

/-- A name may be replaced on the way from one environment to another: the literal that stands for
it has its value, and where none does, both environments agree. -/
def Replacement.Allows (r : Replacement) (env env' : Env) (name : Text) : Prop :=
  match r name with
  | some literal => ∃ value, env.lookup? name = some value ∧ value.literal? = some literal
  | none => env.lookup? name = env'.lookup? name

theorem Replacement.allows_hidden (r : Replacement) (env env' : Env) (name : Text)
    (value : Value) : (r.hide name).Allows (env.bind name value) (env'.bind name value) name := by
  simp only [Allows, hide, if_true, Env.lookup?_bind]

theorem Replacement.Allows.bind {r : Replacement} {env env' : Env} {other : Text}
    (h : r.Allows env env' other) {name : Text} (differs : name ≠ other) (value : Value) :
    (r.hide name).Allows (env.bind name value) (env'.bind name value) other := by
  simp only [Allows, hide, Env.lookup?_bind, if_neg (Ne.symm differs)]
  exact h

theorem Replacement.allows_single {env : Env} {name : Text} {value : Value} {literal : Expr}
    (written : value.literal? = some literal) (other : Text) :
    (single name literal).Allows (env.bind name value) env other := by
  by_cases same : other = name
  · simp only [Allows, single, if_pos same, Env.lookup?_bind]
    exact ⟨value, rfl, written⟩
  · simp only [Allows, single, if_neg same, Env.lookup?_bind]

theorem evaluates_literal {value : Value} {literal : Expr}
    (written : value.literal? = some literal) (env : Env) :
    Evaluates literal env (.ok (.ofValue value)) env := by
  cases value with
  | int n =>
    cases written
    exact .int
  | bool b =>
    cases written
    exact .bool
  | list items =>
    cases written
    exact .list
  | function => cases written

theorem Evaluates.still {e : Expr} {env left : Env} {value : Value}
    (h : Evaluates e env (.ok (.ofValue value)) left) :
    left = env ∧ Evaluates e env (.ok (.ofValue value)) env := by
  obtain rfl := h.frames.2
  exact ⟨rfl, h⟩

theorem Supplies.still {name : Text} {params : List Text} {body : Expr} {env left : Env}
    {value : Value} (h : Supplies name params body env (.ok value) left) :
    left = env ∧ Supplies name params body env (.ok value) env := by
  obtain rfl := h.frames
  exact ⟨rfl, h⟩

theorem Evaluates.replace_ref {r : Replacement} {name : Text} {env env' left : Env}
    {result : Except EvalError Output} (h : Evaluates (.ref name) env result left)
    (allowed : r.Allows env env' name) :
    left = env ∧ Evaluates ((Expr.ref name).replace r) env' result env' := by
  unfold Replacement.Allows at allowed
  rw [Expr.replace]
  cases stands : r name with
  | none =>
    rw [stands] at allowed
    cases h with
    | bound found => exact ⟨rfl, .bound (allowed.symm.trans found)⟩
    | unbound missing => exact ⟨rfl, .unbound (allowed.symm.trans missing)⟩
  | some literal =>
    rw [stands] at allowed
    obtain ⟨value, found, written⟩ := allowed
    cases h with
    | bound same =>
      cases found.symm.trans same
      exact ⟨rfl, evaluates_literal written env'⟩
    | unbound missing => cases found.symm.trans missing

theorem Supplies.replace {r : Replacement} {name : Text} {params : List Text} {body : Expr}
    {env env' left : Env} {result : Except EvalError Value}
    (h : Supplies name params body env result left)
    (ih : params = [] → ∀ {result left}, Evaluates body env result left →
      ∃ made, left = env.put made ∧ Evaluates (body.replace r) env' result (env'.put made)) :
    ∃ made, left = env.put made ∧
      Supplies name params (body.replace r) env' result (env'.put made) := by
  cases h with
  | function => exact ⟨none, rfl, .function⟩
  | value hb =>
    obtain ⟨made, left, hb⟩ := ih rfl hb
    exact ⟨made, left, .value hb⟩
  | binding hb =>
    obtain ⟨made, left, hb⟩ := ih rfl hb
    exact ⟨made, left, .binding hb⟩
  | fails hb =>
    obtain ⟨made, left, hb⟩ := ih rfl hb
    exact ⟨made, left, .fails hb⟩

/-- Replacing names changes neither the result nor the binding that is made. -/
theorem Evaluates.replace {r : Replacement} {e : Expr} {env env' left : Env}
    {result : Except EvalError Output} (h : Evaluates e env result left)
    (allows : ∀ name, e.Uses name → r.Allows env env' name) :
    ∃ made, left = env.put made ∧ Evaluates (e.replace r) env' result (env'.put made) := by
  -- the replacement varies with the scope, and the environments with the operand
  induction e generalizing r env env' result left with
  | int n =>
    cases h
    exact ⟨none, rfl, .int⟩
  | bool b =>
    cases h
    exact ⟨none, rfl, .bool⟩
  | list items =>
    cases h
    exact ⟨none, rfl, .list⟩
  | ref name =>
    obtain ⟨rfl, replaced⟩ := h.replace_ref (allows name rfl)
    exact ⟨none, rfl, replaced⟩
  | binary op lhs rhs ihl ihr =>
    have onLeft {result left} (hl : Evaluates lhs env result left) :=
      ihl hl fun name uses => allows name (.inl uses)
    have onBoth {a mid result left} (hl : Evaluates lhs env (.ok (.ofValue a)) mid)
        (hr : Evaluates rhs mid result left) :
        Evaluates (lhs.replace r) env' (.ok (.ofValue a)) env' ∧
          ∃ made, left = env.put made ∧ Evaluates (rhs.replace r) env' result (env'.put made) := by
      obtain rfl := hl.still.1
      obtain ⟨_, _, hl⟩ := onLeft hl
      exact ⟨hl.still.2, ihr hr fun name uses => allows name (.inr uses)⟩
    cases h with
    | leftFails hl =>
      obtain ⟨made, left, hl⟩ := onLeft hl
      exact ⟨made, left, .leftFails hl⟩
    | leftBinding hl =>
      obtain ⟨made, left, hl⟩ := onLeft hl
      exact ⟨made, left, .leftBinding hl⟩
    | rightFails hl hr =>
      obtain ⟨hl, made, left, hr⟩ := onBoth hl hr
      exact ⟨made, left, .rightFails hl hr⟩
    | rightBinding hl hr =>
      obtain ⟨hl, made, left, hr⟩ := onBoth hl hr
      exact ⟨made, left, .rightBinding hl hr⟩
    | applied hl hr ha =>
      obtain ⟨hl, made, left, hr⟩ := onBoth hl hr
      exact ⟨made, left, .applied hl hr ha⟩
    | refused hl hr ha =>
      obtain ⟨hl, made, left, hr⟩ := onBoth hl hr
      exact ⟨made, left, .refused hl hr ha⟩
  | letGlobal name params body ih =>
    have onBody (none : params = []) {result left} (hb : Evaluates body env result left) :=
      ih hb fun name uses => allows name ⟨none, uses⟩
    cases h with
    | @letGlobal _ _ _ value _ _ hb =>
      obtain rfl := hb.still.1
      obtain ⟨_, _, hb⟩ := hb.replace onBody
      exact ⟨some (name, value), rfl, .letGlobal hb.still.2⟩
    | letGlobalFails hb =>
      obtain ⟨made, left, hb⟩ := hb.replace onBody
      exact ⟨made, left, .letGlobalFails hb⟩
  | letLocal name params body scope ihb ihs =>
    have onBody (none : params = []) {result left} (hb : Evaluates body env result left) :=
      ihb hb fun name uses => allows name (.inl ⟨none, uses⟩)
    cases h with
    | @letLocal _ _ _ _ value _ _ _ _ hb hs =>
      -- both scopes have the name bound to one value, whatever stood for it outside
      obtain rfl := hb.still.1
      obtain ⟨_, _, hb⟩ := hb.replace onBody
      have inScope : ∀ other, scope.Uses other →
          (r.hide name).Allows (left.bind name value) (env'.bind name value) other := by
        intro other uses
        by_cases same : name = other
        · subst same
          exact r.allows_hidden _ _ name value
        · exact (allows other (.inr ⟨same, uses⟩)).bind same value
      obtain ⟨_, _, hs⟩ := ihs hs inScope
      exact ⟨none, rfl, .letLocal hb.still.2 hs⟩
    | letLocalFails hb =>
      obtain ⟨made, left, hb⟩ := hb.replace onBody
      exact ⟨made, left, .letLocalFails hb⟩

/-- A local binding is a substitution: where the right-hand side has a value that can be written,
the scope yields the same output or the same error, in the same environment, with the literal in
place of each free occurrence of the name. -/
theorem letLocal_eq_replace {name : Text} {body scope literal : Expr} {env left : Env}
    {value : Value} (supplied : body.run env = (.ok (.ofValue value), left))
    (written : value.literal? = some literal) :
    ((Expr.letLocal name [] body scope).run env).1 =
      ((scope.replace (.single name literal)).run env).1 := by
  have body_value := (run_eq_iff_evaluates body env _ left).mp supplied
  rcases ran : scope.run (env.bind name value) with ⟨result, inner⟩
  have within := (run_eq_iff_evaluates scope _ result inner).mp ran
  have bound : Evaluates (.letLocal name [] body scope) env result env :=
    .letLocal (.value body_value.still.2) within
  obtain ⟨made, _, replaced⟩ :=
    within.replace fun other _ => Replacement.allows_single written other
  rw [(run_eq_iff_evaluates _ env _ _).mpr bound, (run_eq_iff_evaluates _ env _ _).mpr replaced]

/-- The right-hand side of an inner binding of x still sees the outer x, and its scope does not. -/
theorem inner_binding_hides_name :
    let env := Env.empty.bind ['a'] (.int 2)
    let body : Expr := .binary .add (.ref ['a']) (.int 1)
    let inner (e : Expr) : Expr :=
      .letLocal ['x'] [] (.binary .mul e (.ref ['a'])) (.binary .sub (.ref ['x']) (.ref ['a']))
    body.run env = (.ok (.ofValue (.int 3)), env) ∧
      (Value.int 3).literal? = some (.int 3) ∧
      (inner (.ref ['x'])).replace (.single ['x'] (.int 3)) = inner (.int 3) ∧
      ((Expr.letLocal ['x'] [] body (inner (.ref ['x']))).run env).1 = .ok (.ofValue (.int 4)) ∧
      ((inner (.int 3)).run env).1 = .ok (.ofValue (.int 4)) := by
  intro env body inner
  have supplied : body.run env = (.ok (.ofValue (.int 3)), env) := by
    rw [Expr.run_eq]
    rfl
  have replaced : (inner (.ref ['x'])).replace (.single ['x'] (.int 3)) = inner (.int 3) := by
    decide
  have same : ((Expr.letLocal ['x'] [] body (inner (.ref ['x']))).run env).1 =
      (((inner (.ref ['x'])).replace (.single ['x'] (.int 3))).run env).1 :=
    letLocal_eq_replace supplied rfl
  rw [replaced] at same
  have value : ((inner (.int 3)).run env).1 = .ok (.ofValue (.int 4)) := by
    rw [Expr.run_eq]
    rfl
  exact ⟨supplied, rfl, replaced, same.trans value, value⟩

end LetLang
