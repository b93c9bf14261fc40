import LetLang.Proofs.Range

/-! # Names in results

An expression mentions names where it looks them up and where it binds them. Its result has no
others, be it the name of a binding that is made or those of an error, and they stand among its
tokens.
-/
namespace LetLang

/-- The names that an expression looks up or binds, in any of its parts. -/
def Expr.mentioned : Expr → List Text
  | .int _ | .bool _ | .list _ => []
  | .ref name => [name]
  | .binary _ lhs rhs => lhs.mentioned ++ rhs.mentioned
  | .letGlobal name _ body => name :: body.mentioned
  | .letLocal name _ body scope => name :: (body.mentioned ++ scope.mentioned)

namespace EvalError

def mentioned : EvalError → List Text
  | .bindingAsOperand name _ => [name]
  | .bindingAsBody bound name => [bound, name]
  | .unbound name => [name]
  | .operandTypes .. | .divisionByZero => []

theorem mentioned_of_apply {op : BinOp} {a b : Value} {e : EvalError}
    (h : op.apply a b = .error e) : e.mentioned = [] := by
  unfold BinOp.apply at h
  split at h
  · cases op with
    | div =>
      simp only [BinOp.onInts] at h
      split at h <;> cases h
      rfl
    | add | sub | mul | eq | ne => cases h
  · cases h
  · cases h
  · cases h
    rfl

/-- Besides names, an expression without a value is reported by operators and types. -/
theorem forall_subjects {P : Text → Prop} {error : EvalError}
    (names : ∀ name ∈ error.mentioned, P name) (symbols : ∀ op : BinOp, P op.symbol)
    (types : ∀ type : ValueType, P type.text) (none : P []) : ∀ s ∈ error.wording.2.2, P s := by
  cases error with
  | bindingAsOperand name op =>
    have named := names name List.mem_cons_self
    exact List.forall_mem_cons.mpr ⟨named, List.forall_mem_singleton.mpr (symbols op)⟩
  | bindingAsBody bound name => exact names
  | operandTypes op lhs rhs =>
    refine List.forall_mem_cons.mpr ⟨symbols op, List.forall_mem_cons.mpr ⟨types lhs, ?_⟩⟩
    exact List.forall_mem_singleton.mpr (types rhs)
  | unbound name => exact names
  | divisionByZero => exact List.forall_mem_singleton.mpr none

end EvalError

def Outcome.mentioned : Except EvalError Output → List Text
  | .ok out => out.name.toList
  | .error e => e.mentioned

mutual

theorem Evaluates.mentioned {e : Expr} {env left : Env} {result : Except EvalError Output} :
    Evaluates e env result left → Outcome.mentioned result ⊆ e.mentioned
  | .int | .bool | .list | .bound _ | .applied .. => List.nil_subset _
  | .unbound _ => List.Subset.refl _
  | .leftFails hl | .leftBinding hl =>
      List.Subset.trans hl.mentioned (List.subset_append_left _ _)
  | .rightFails _ hr | .rightBinding _ hr =>
      List.Subset.trans hr.mentioned (List.subset_append_right _ _)
  | .refused _ _ ha => by
      rw [Outcome.mentioned, EvalError.mentioned_of_apply ha]
      exact List.nil_subset _
  | .letGlobal _ => List.cons_subset_cons _ (List.nil_subset _)
  | .letGlobalFails hb => hb.mentioned
  | .letLocal _ hs =>
      List.Subset.trans hs.mentioned (List.subset_cons_of_subset _ (List.subset_append_right _ _))
  | .letLocalFails hb =>
      List.Subset.trans hb.mentioned (List.cons_subset_cons _ (List.subset_append_left _ _))

theorem Supplies.mentioned {name : Text} {params : List Text} {body : Expr} {env left : Env}
    {e : EvalError} :
    Supplies name params body env (.error e) left → e.mentioned ⊆ name :: body.mentioned
  | .binding hb => by
      have bound := hb.mentioned List.mem_cons_self
      have supplied := List.cons_subset_cons name (List.nil_subset body.mentioned)
      exact List.cons_subset.mpr ⟨List.mem_cons_of_mem name bound, supplied⟩
  | .fails hb => List.Subset.trans hb.mentioned (List.subset_cons_self _ _)

end

theorem Derives.ident_of_mentioned {depth : Nat} {symbol : Symbol} {tokens : List Token} {e : Expr}
    (h : Derives depth symbol tokens e) : ∀ name ∈ e.mentioned, .ident name ∈ tokens := by
  induction h with
  | number | true | false | emptyList | list => exact fun name member => absurd member List.not_mem_nil
  | ref =>
    intro name member
    rw [List.mem_singleton.mp member]
    exact List.mem_singleton_self _
  | paren _ ih => exact fun name member => by simp [ih name member]
  | tighter _ ih | sum _ ih => exact ih
  | binary _ _ ihl ihr =>
    intro name member
    rcases List.mem_append.mp member with left | right
    · simp [ihl name left]
    · simp [ihr name right]
  | letGlobal _ ih =>
    intro name member
    rcases List.mem_cons.mp member with rfl | inner
    · simp [Grammar.head]
    · simp [ih name inner]
  | letLocal _ _ ihb ihs =>
    intro name member
    rcases List.mem_cons.mp member with rfl | inner
    · simp [Grammar.head]
    rcases List.mem_append.mp inner with body | scope
    · simp [ihb name body]
    · simp [ihs name scope]

theorem Statement.readable_of_mentioned {room : Nat} {text : Text} {tokens : List Token} {e : Expr}
    {env left : Env} {result : Except EvalError Output} (read : Token.tokenize text = .ok tokens)
    (parsed : Parser.parse room tokens = .ok e) (h : Evaluates e env result left) :
    ∀ name ∈ Outcome.mentioned result, (Token.ident name).Readable := by
  intro name member
  have written := (Parser.parse_eq_ok_iff.mp parsed).ident_of_mentioned name (h.mentioned member)
  exact readable_of_tokenize read _ written

end LetLang
