import LetLang.Eval.Spine

/-! # Arithmetic of words

An expression of integers and operators of arithmetic can be computed in any kind of numbers. Run as
a program, it is computed in words of 64 bits: the value is the word read with its sign, and the one
error is a division by zero. Without division it does not matter where a computation leaves the
range of words on its way, because the exact value is wrapped around at the end all the same.
-/
namespace LetLang

/-- Numbers to compute with. An operator may have no value, as division by zero has none. -/
structure Arithmetic (α : Type) where
  number : Int → α
  apply : BinOp → α → α → Option α

namespace Arithmetic

/-- Words of 64 bits in two's complement. Division reads them with their signs and rounds toward
zero, and the one quotient that is too large for a word is cut to its low bits. -/
def words : Arithmetic (BitVec 64) where
  number := BitVec.ofInt 64
  apply
    | .add, a, b => some (a + b)
    | .sub, a, b => some (a - b)
    | .mul, a, b => some (a * b)
    | .div, a, b => if b = 0 then none else some (a.sdiv b)
    | .eq, _, _ | .ne, _, _ => none

def integers : Arithmetic Int where
  number n := n
  apply
    | .add, a, b => some (a + b)
    | .sub, a, b => some (a - b)
    | .mul, a, b => some (a * b)
    | .div, _, _ | .eq, _, _ | .ne, _, _ => none

end Arithmetic

namespace Expr

/-- The number that an expression stands for, with the integers that names are bound to. -/
def compute {α : Type} (numbers : Arithmetic α) (env : Env) : Expr → Option α
  | .int n => some (numbers.number n)
  | .ref name =>
    match env.lookup? name with
    | some (.int n) => some (numbers.number n)
    | _ => none
  | .binary op lhs rhs =>
    (lhs.compute numbers env).bind fun a =>
    (rhs.compute numbers env).bind fun b => numbers.apply op a b
  | .bool _ | .list _ | .letGlobal .. | .letLocal .. => none

/-- Whether an expression is made of some operators, of integers that fit a word and of names of
such integers. -/
def IsArithmetic (ops : List BinOp) (env : Env) : Expr → Prop
  | .int n => Word.Fits n
  | .ref name => ∃ n, env.lookup? name = some (.int n) ∧ Word.Fits n
  | .binary op lhs rhs => op ∈ ops ∧ lhs.IsArithmetic ops env ∧ rhs.IsArithmetic ops env
  | .bool _ | .list _ | .letGlobal .. | .letLocal .. => False

theorem IsArithmetic.mono {ops more : List BinOp} (sub : ops ⊆ more) {env : Env} {e : Expr}
    (h : e.IsArithmetic ops env) : e.IsArithmetic more env := by
  induction e with
  | int _ | ref _ => exact h
  | binary op lhs rhs ihl ihr => exact ⟨sub h.1, ihl h.2.1, ihr h.2.2⟩
  | bool _ | list _ | letGlobal | letLocal => exact h.elim

end Expr

/-- What computing in words says of a value: the word with its sign, or a division by zero. -/
def Word.value : Option (BitVec 64) → Except EvalError Value
  | some w => .ok (.int w.toInt)
  | none => .error .divisionByZero

theorem Word.value_ofInt {n : Int} (h : Fits n) : value (some (.ofInt 64 n)) = .ok (.int n) := by
  rw [value, BitVec.toInt_ofInt]
  exact congrArg (Except.ok ∘ Value.int) (wrap_of_fits h)

theorem BinOp.apply_toInt {op : BinOp} (listed : op ∈ [add, sub, mul, div]) (a b : BitVec 64) :
    op.apply (.int a.toInt) (.int b.toInt) = Word.value (Arithmetic.words.apply op a b) := by
  have read {n : Int} {w : BitVec 64} (same : w.toInt = n) :
      Except.ok (.int n) = Word.value (some w) := congrArg (Except.ok ∘ Value.int) same.symm
  cases op with
  | add => exact read (BitVec.toInt_add a b)
  | sub => exact read BitVec.toInt_sub
  | mul => exact read (BitVec.toInt_mul a b)
  | div =>
    have zero_iff : b.toInt = 0 ↔ b = 0 := BitVec.toInt_inj (y := 0)
    simp only [apply, onInts, Arithmetic.words, zero_iff]
    split
    · rfl
    · rw [Word.quotient_eq]
      exact read (BitVec.toInt_sdiv a b)
  | eq | ne => simp at listed

theorem Expr.eval_eq_words {e : Expr} {env : Env}
    (h : e.IsArithmetic [.add, .sub, .mul, .div] env) :
    e.eval env = ((Word.value (e.compute .words env)).map .ofValue, env) := by
  induction e with
  | int n =>
    have read : Word.value (compute .words env (.int n)) = .ok (.int n) := Word.value_ofInt h
    rw [read]
    rfl
  | ref name =>
    obtain ⟨n, found, fits⟩ := h
    have read : Word.value (compute .words env (.ref name)) = .ok (.int n) := by
      rw [compute, found]
      exact Word.value_ofInt fits
    rw [read, eval, Env.get, found]
  | binary op lhs rhs ihl ihr =>
    obtain ⟨listed, left, right⟩ := h
    rw [eval, compute, ihl left]
    cases lhs.compute .words env with
    | none => rfl
    | some a =>
      simp only [Word.value, Except.map, Outcome.andThen_ok, Output.operand_ofValue, ihr right,
        Option.bind_some]
      cases rhs.compute .words env with
      | none => rfl
      | some b =>
        simp only [Word.value, Outcome.andThen_ok, Output.operand_ofValue, Option.bind_some,
          BinOp.apply_toInt listed]
  | bool _ | list _ | letGlobal | letLocal => exact h.elim

/-- Without division, words compute what is left of the exact value in a word. -/
theorem Expr.compute_words {e : Expr} {env : Env} (h : e.IsArithmetic [.add, .sub, .mul] env) :
    ∃ n, e.compute .integers env = some n ∧ e.compute .words env = some (BitVec.ofInt 64 n) := by
  induction e with
  | int n => exact ⟨n, rfl, rfl⟩
  | ref name =>
    obtain ⟨n, found, _⟩ := h
    refine ⟨n, ?_, ?_⟩ <;> simp only [compute, found] <;> rfl
  | binary op lhs rhs ihl ihr =>
    obtain ⟨listed, left, right⟩ := h
    obtain ⟨a, exact_a, word_a⟩ := ihl left
    obtain ⟨b, exact_b, word_b⟩ := ihr right
    simp only [compute, exact_a, exact_b, word_a, word_b, Option.bind_some]
    cases op with
    | add => exact ⟨a + b, rfl, congrArg some (BitVec.ofInt_add a b).symm⟩
    | sub =>
      refine ⟨a - b, rfl, congrArg some ?_⟩
      rw [Int.sub_eq_add_neg, BitVec.ofInt_add, BitVec.ofInt_neg, ← BitVec.sub_eq_add_neg]
    | mul => exact ⟨a * b, rfl, congrArg some (BitVec.ofInt_mul a b).symm⟩
    | div | eq | ne => simp at listed
  | bool _ | list _ | letGlobal | letLocal => exact h.elim

/-- Arithmetic is that of words of 64 bits. An expression of literals, names of integers and the
four operators runs into a division by zero if computing it in words meets one, and else it has the
value of the word that is computed, read with its sign. Without division that is the exact value of
the whole expression, wrapped around once. -/
theorem arithmetic_is_of_words (e : Expr) (env : Env) :
    (e.IsArithmetic [.add, .sub, .mul, .div] env →
      e.run env = ((Word.value (e.compute .words env)).map .ofValue, env)) ∧
    (e.IsArithmetic [.add, .sub, .mul] env →
      ∃ n, e.compute .integers env = some n ∧
        e.run env = (.ok (.ofValue (.int (Word.wrap n))), env)) := by
  constructor
  · intro h
    rw [Expr.run_eq, Expr.eval_eq_words h]
  · intro h
    have all : e.IsArithmetic [.add, .sub, .mul, .div] env := h.mono (by simp)
    obtain ⟨n, exact_value, word⟩ := Expr.compute_words h
    refine ⟨n, exact_value, ?_⟩
    rw [Expr.run_eq, Expr.eval_eq_words all, word, Word.value, BitVec.toInt_ofInt]
    rfl

/-- The least integer x divided by -1 is x again, and x * 3 - x is zero. -/
theorem least_integer_overflows :
    let least : Int := -0x8000000000000000
    let env : Env := Env.empty.bind ['x'] (.int least)
    let negated : Expr := .binary .div (.ref ['x']) (.binary .sub (.int 0) (.int 1))
    let doubled : Expr := .binary .sub (.binary .mul (.ref ['x']) (.int 3)) (.ref ['x'])
    negated.IsArithmetic [.add, .sub, .mul, .div] env ∧
      negated.compute .words env = some (BitVec.intMin 64) ∧
      negated.run env = (.ok (.ofValue (.int least)), env) ∧
      doubled.IsArithmetic [.add, .sub, .mul] env ∧
      doubled.compute .integers env = some (-0x10000000000000000) ∧
      doubled.run env = (.ok (.ofValue (.int 0)), env) := by
  intro least env negated doubled
  have bound : ∃ n, env.lookup? ['x'] = some (.int n) ∧ Word.Fits n := ⟨least, rfl, by decide⟩
  have first : negated.IsArithmetic [.add, .sub, .mul, .div] env :=
    ⟨by decide, bound, by decide, (by decide : Word.Fits 0), (by decide : Word.Fits 1)⟩
  have second : doubled.IsArithmetic [.add, .sub, .mul] env :=
    ⟨by decide, ⟨by decide, bound, (by decide : Word.Fits 3)⟩, bound⟩
  have word : negated.compute .words env = some (BitVec.intMin 64) := by decide
  have exact_value : doubled.compute .integers env = some (-0x10000000000000000) := by decide
  have run := (arithmetic_is_of_words negated env).1 first
  rw [word] at run
  obtain ⟨n, value, run'⟩ := (arithmetic_is_of_words doubled env).2 second
  cases exact_value.symm.trans value
  exact ⟨first, word, run, second, exact_value, run'⟩

end LetLang
