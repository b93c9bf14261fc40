import LetLang.Proofs.Frame

/-! # Types without values

Evaluation looks into values only to compute with them. Which names are found, what an operator
takes and where a binding is misplaced is told by names and types alone, so all of it can be
followed through an expression with the types in place of the values. Only a division by zero
depends on more. The main statement is that expressions that differ in their literals alone, in
environments that differ in values of the same types alone, give outputs of the same name and type
or the same error, unless one of them divides by zero.
-/
namespace LetLang

/-- What an output tells when its value is hidden. -/
structure Signature where
  name : Option Text
  type : ValueType
  deriving DecidableEq, Repr

def Output.signature (out : Output) : Signature := ⟨out.name, out.value.type⟩

namespace Signature

def operand (op : BinOp) (s : Signature) : Except EvalError ValueType :=
  match s.name with
  | some name => .error (.bindingAsOperand name op)
  | none => .ok s.type

def body (name : Text) (s : Signature) : Except EvalError ValueType :=
  match s.name with
  | some bound => .error (.bindingAsBody bound name)
  | none => .ok s.type

end Signature

abbrev TypeEnv := Text → Option ValueType

def TypeEnv.bind (types : TypeEnv) (name : Text) (type : ValueType) : TypeEnv :=
  fun other => if other = name then some type else types other

def Env.types (env : Env) : TypeEnv := fun name => (env.lookup? name).map Value.type

theorem Env.types_bind (env : Env) (name : Text) (value : Value) :
    (env.bind name value).types = env.types.bind name value.type := by
  funext other
  simp only [Env.types, TypeEnv.bind, Env.lookup?_bind]
  split <;> rfl

/-- The type of an operator's value. -/
def BinOp.resultType (op : BinOp) : ValueType → ValueType → Except EvalError ValueType
  | .int, .int => .ok (if op.isArith then .int else .bool)
  | .bool, .bool => if op.isArith then .error (.operandTypes op .bool .bool) else .ok .bool
  | lhs, rhs => .error (.operandTypes op lhs rhs)

namespace Expr

/-- The signature of an expression's output, or its error, as told by types. -/
def signature : Expr → TypeEnv → Except EvalError Signature
  | .int _, _ => .ok ⟨none, .int⟩
  | .bool _, _ => .ok ⟨none, .bool⟩
  | .list _, _ => .ok ⟨none, .intList⟩
  | .ref name, types =>
    match types name with
    | some type => .ok ⟨none, type⟩
    | none => .error (.unbound name)
  | .binary op lhs rhs, types =>
    (lhs.signature types).bind fun left =>
    (left.operand op).bind fun a =>
    (rhs.signature types).bind fun right =>
    (right.operand op).bind fun b =>
    (op.resultType a b).bind fun type => .ok ⟨none, type⟩
  | .letGlobal name params body, types =>
    (if params.isEmpty then (body.signature types).bind (·.body name) else .ok .function).bind
      fun type => .ok ⟨some name, type⟩
  | .letLocal name params body scope, types =>
    (if params.isEmpty then (body.signature types).bind (·.body name) else .ok .function).bind
      fun type => scope.signature (types.bind name type)

def suppliedType (name : Text) (params : List Text) (body : Expr) (types : TypeEnv) :
    Except EvalError ValueType :=
  if params.isEmpty then (body.signature types).bind (·.body name) else .ok .function

theorem signature_letGlobal (name : Text) (params : List Text) (body : Expr) (types : TypeEnv) :
    (letGlobal name params body).signature types =
      (suppliedType name params body types).bind fun type => .ok ⟨some name, type⟩ := rfl

theorem signature_letLocal (name : Text) (params : List Text) (body scope : Expr)
    (types : TypeEnv) :
    (letLocal name params body scope).signature types =
      (suppliedType name params body types).bind
        fun type => scope.signature (types.bind name type) := rfl

/-- The expression with the literals of each type made equal. -/
def skeleton : Expr → Expr
  | .int _ => .int 0
  | .bool _ => .bool false
  | .list _ => .list []
  | .ref name => .ref name
  | .binary op lhs rhs => .binary op lhs.skeleton rhs.skeleton
  | .letGlobal name params body => .letGlobal name params body.skeleton
  | .letLocal name params body scope => .letLocal name params body.skeleton scope.skeleton

theorem signature_skeleton (e : Expr) (types : TypeEnv) :
    e.skeleton.signature types = e.signature types := by
  induction e generalizing types with
  | int _ | bool _ | list _ | ref _ => rfl
  | binary op lhs rhs ihl ihr => simp only [skeleton, signature, ihl, ihr]
  | letGlobal name params body ih => simp only [skeleton, signature, ih]
  | letLocal name params body scope ihb ihs => simp only [skeleton, signature, ihb, ihs]

end Expr

/-- A result shows what types tell of it, unless it is a division by zero. -/
def Told {α β : Type} (shown : α → β) (result : Except EvalError α) (told : Except EvalError β) :
    Prop :=
  result = .error .divisionByZero ∨ result.map shown = told

namespace Told

variable {α β γ δ : Type} {shown : α → β} {told : Except EvalError β}

theorem ok {a : α} (h : Told shown (.ok a) told) : .ok (shown a) = told :=
  h.resolve_left nofun

/-- What goes on from a result fails with it. -/
theorem fails {shown' : γ → δ} {e : EvalError} {next : β → Except EvalError δ}
    (h : Told shown (.error e) told) : Told shown' (.error e) (told.bind next) := by
  rcases h with zero | same
  · cases zero
    exact .inl rfl
  · rw [← same]
    exact .inr rfl

end Told

theorem BinOp.told (op : BinOp) (a b : Value) :
    Told Value.type (op.apply a b) (op.resultType a.type b.type) := by
  cases a with
  | int a =>
    cases b with
    | int b =>
      cases op with
      | div =>
        simp only [apply, onInts]
        split
        · exact .inl rfl
        · exact .inr rfl
      | add | sub | mul | eq | ne => exact .inr rfl
    | bool _ | list _ | function => cases op <;> exact .inr rfl
  | bool a => cases b <;> cases op <;> exact .inr rfl
  | list _ | function => cases b <;> cases op <;> exact .inr rfl

theorem Told.binary {op : BinOp} {lhs rhs : Expr} {types : TypeEnv} {a b : Value}
    (left : Told Output.signature (.ok (.ofValue a)) (lhs.signature types))
    (right : Told Output.signature (.ok (.ofValue b)) (rhs.signature types))
    {result : Except EvalError Value} (applied : op.apply a b = result) :
    Told Output.signature (result.map .ofValue) ((Expr.binary op lhs rhs).signature types) := by
  have typed := op.told a b
  rw [applied] at typed
  have whole : (Expr.binary op lhs rhs).signature types =
      (op.resultType a.type b.type).bind fun type => .ok ⟨none, type⟩ := by
    rw [Expr.signature, ← left.ok, ← right.ok]
    rfl
  rw [whole]
  cases result with
  | error e => exact typed.fails
  | ok value =>
    rw [← typed.ok]
    exact .inr rfl

mutual

theorem Evaluates.told {e : Expr} {env left : Env} {result : Except EvalError Output} :
    Evaluates e env result left → Told Output.signature result (e.signature env.types)
  | .int | .bool | .list => .inr rfl
  | .bound found | .unbound found => by
      rw [Expr.signature, Env.types, found]
      exact .inr rfl
  | .leftFails hl => hl.told.fails
  | .leftBinding hl => by
      rw [Expr.signature, ← hl.told.ok]
      exact .inr rfl
  -- the recursion is structural only if it comes before the environments are known to be one
  | .rightFails hl hr => by
      have left := hl.told
      have right := hr.told
      obtain rfl := hl.frames.2
      rw [Expr.signature, ← left.ok]
      exact right.fails
  | .rightBinding hl hr => by
      have left := hl.told
      have right := hr.told
      obtain rfl := hl.frames.2
      rw [Expr.signature, ← left.ok, ← right.ok]
      exact .inr rfl
  | .applied hl hr ha | .refused hl hr ha => by
      have left := hl.told
      have right := hr.told
      obtain rfl := hl.frames.2
      exact left.binary right ha
  | .letGlobal hb => by
      rw [Expr.signature_letGlobal, ← hb.told.ok]
      exact .inr rfl
  | .letGlobalFails hb => hb.told.fails
  | .letLocal hb hs => by
      have supplied := hb.told
      have inner := hs.told
      obtain rfl := hb.frames
      rw [Expr.signature_letLocal, ← supplied.ok]
      rwa [Env.types_bind] at inner
  | .letLocalFails hb => hb.told.fails

theorem Supplies.told {name : Text} {params : List Text} {body : Expr} {env left : Env}
    {result : Except EvalError Value} : Supplies name params body env result left →
      Told Value.type result (Expr.suppliedType name params body env.types)
  | .function => .inr rfl
  | .value hb | .binding hb => by
      rw [Expr.suppliedType, ← hb.told.ok]
      exact .inr rfl
  | .fails hb => hb.told.fails

end

theorem told_run (e : Expr) (env : Env) :
    Told Output.signature (e.run env).1 (e.signature env.types) :=
  ((run_eq_iff_evaluates e env _ _).mp rfl).told

theorem Output.alike_of_signature {r r' : Except EvalError Output}
    (same : r.map signature = r'.map signature) :
    (∃ out out', r = .ok out ∧ r' = .ok out' ∧
        out.name = out'.name ∧ out.value.type = out'.value.type) ∨
      ∃ err, r = .error err ∧ r' = .error err := by
  cases r with
  | error err =>
    cases r' with
    | error err' =>
      cases same
      exact .inr ⟨err, rfl, rfl⟩
    | ok out' => cases same
  | ok out =>
    cases r' with
    | error err' => cases same
    | ok out' =>
      have signatures : out.signature = out'.signature := Except.ok.inj same
      exact .inl ⟨out, out', rfl, rfl, congrArg Signature.name signatures,
        congrArg Signature.type signatures⟩

/-- Errors of types and names do not depend on values. Two expressions that differ in the values of
literals alone, in environments that bind the same names to values of the same types, give outputs
with the same name and values of the same type, or else the same error, unless one of them divides
by zero. -/
theorem errors_independent_of_values {e e' : Expr} {env env' : Env}
    (literals : e.skeleton = e'.skeleton)
    (types : ∀ name, (env.lookup? name).map Value.type = (env'.lookup? name).map Value.type)
    (nonzero : (e.run env).1 ≠ .error .divisionByZero)
    (nonzero' : (e'.run env').1 ≠ .error .divisionByZero) :
    (∃ out out', (e.run env).1 = .ok out ∧ (e'.run env').1 = .ok out' ∧
        out.name = out'.name ∧ out.value.type = out'.value.type) ∨
      ∃ err, (e.run env).1 = .error err ∧ (e'.run env').1 = .error err := by
  have same_types : env.types = env'.types := funext types
  have alike : (e.run env).1.map Output.signature = (e'.run env').1.map Output.signature :=
    calc (e.run env).1.map Output.signature
      _ = e.signature env.types := (told_run e env).resolve_left nonzero
      _ = e.skeleton.signature env.types := (e.signature_skeleton _).symm
      _ = e'.skeleton.signature env'.types := by rw [literals, same_types]
      _ = e'.signature env'.types := e'.signature_skeleton _
      _ = (e'.run env').1.map Output.signature := ((told_run e' env').resolve_left nonzero').symm
  exact Output.alike_of_signature alike

/-- A quotient of some size is compared with a list of some length. -/
theorem quotient_is_no_list :
    let e (n : Int) (items : List Int) : Expr :=
      .letLocal ['x'] [] (.binary .div (.int n) (.ref ['y']))
        (.binary .eq (.ref ['x']) (.list items))
    let env (n : Int) : Env := Env.empty.bind ['y'] (.int n)
    (e 6 [1, 2]).skeleton = (e 0 []).skeleton ∧
      (∀ name, ((env 3).lookup? name).map Value.type = ((env (-1)).lookup? name).map Value.type) ∧
      ((e 6 [1, 2]).run (env 3)).1 = .error (.operandTypes .eq .int .intList) ∧
      ((e 0 []).run (env (-1))).1 ≠ .error .divisionByZero ∧
      ((e 0 []).run (env (-1))).1 = .error (.operandTypes .eq .int .intList) := by
  intro e env
  have literals : (e 6 [1, 2]).skeleton = (e 0 []).skeleton := rfl
  have types : ∀ name,
      ((env 3).lookup? name).map Value.type = ((env (-1)).lookup? name).map Value.type := by
    intro name
    simp only [env, Env.lookup?_bind]
    split <;> rfl
  have first : ((e 6 [1, 2]).run (env 3)).1 = .error (.operandTypes .eq .int .intList) := by
    rw [Expr.run_eq]
    rfl
  have nonzero : ((e 6 [1, 2]).run (env 3)).1 ≠ .error .divisionByZero := by
    rw [first]
    nofun
  have nonzero' : ((e 0 []).run (env (-1))).1 ≠ .error .divisionByZero := by
    rw [Expr.run_eq]
    intro zero
    cases zero
  refine ⟨literals, types, first, nonzero', ?_⟩
  rcases errors_independent_of_values literals types nonzero nonzero' with
    ⟨out, _, passed, _⟩ | ⟨err, failed, failed'⟩
  · rw [first] at passed
    cases passed
  · rw [failed', ← failed, first]

end LetLang
