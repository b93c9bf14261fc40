import LetLang.Expr.Parser

/-! # The grammar

Which lists of tokens are which expressions, as rules that know nothing of how tokens are read.
Chains of operators lean to the left, each level of operators taking the next tighter one for its
operands, and a binding stands only at the head of an expression. A derivation also bounds the
depth of parentheses and scopes inside one another, counted in the calls that reading them keeps
open.
-/
namespace LetLang

open Parser (parenCalls scopeCalls)

/-- What a list of tokens is derived from. A chain is one of the operators of a level or of tighter
ones: a sum at level 0, a product at 1, an equality at 2 and a primary at 3. -/
inductive Symbol where
  | expr
  | chain (level : Nat)
  deriving DecidableEq, Repr

namespace Symbol

abbrev sum : Symbol := chain 0

abbrev primary : Symbol := chain 3

end Symbol

namespace Grammar

/-- What stands in front of the body of a binding. -/
def head (name : Text) (params : List Text) : List Token :=
  .keyword ['l', 'e', 't'] :: .ident name :: (params.map .ident ++ [.punct ['=']])

def elements (texts : List Text) : List Token :=
  texts.flatMap fun text => [.punct [';'], .number text]

end Grammar

open Grammar

/-- The tokens of an expression in which parentheses and scopes are nested to a depth at most. -/
inductive Derives : Nat → Symbol → List Token → Expr → Prop
  | number {depth text} : Derives depth .primary [.number text] (.int (Numeral.value text))
  | true {depth} : Derives depth .primary [.keyword ['t', 'r', 'u', 'e']] (.bool true)
  | false {depth} : Derives depth .primary [.keyword ['f', 'a', 'l', 's', 'e']] (.bool false)
  | ref {depth name} : Derives depth .primary [.ident name] (.ref name)
  | emptyList {depth} : Derives depth .primary [.punct ['['], .punct [']']] (.list [])
  | list {depth text texts} :
      Derives depth .primary
        (.punct ['['] :: .number text :: (elements texts ++ [.punct [']']]))
        (.list ((text :: texts).map Numeral.value))
  | paren {depth tokens e} : Derives depth .expr tokens e →
      Derives (depth + parenCalls) .primary (.punct ['('] :: (tokens ++ [.punct [')']])) e
  | tighter {depth level tokens e} : Derives depth (.chain (level + 1)) tokens e →
      Derives depth (.chain level) tokens e
  | binary {depth op left right lhs rhs} : Derives depth (.chain op.level) left lhs →
      Derives depth (.chain (op.level + 1)) right rhs →
      Derives depth (.chain op.level) (left ++ .punct op.symbol :: right) (.binary op lhs rhs)
  | sum {depth tokens e} : Derives depth .sum tokens e → Derives depth .expr tokens e
  | letGlobal {depth name params tokens body} : Derives depth .sum tokens body →
      Derives depth .expr (head name params ++ tokens) (.letGlobal name params body)
  | letLocal {depth name params tokens body inner scope} :
      Derives (depth + scopeCalls) .sum tokens body → Derives depth .expr inner scope →
      Derives (depth + scopeCalls) .expr
        (head name params ++ (tokens ++ .keyword ['i', 'n'] :: inner))
        (.letLocal name params body scope)

/-- A chain of tighter operators is also one of looser ones. -/
theorem Derives.loosen {depth tight : Nat} {tokens : List Token} {e : Expr}
    (h : Derives depth (.chain tight) tokens e) {loose : Nat} (le : loose ≤ tight) :
    Derives depth (.chain loose) tokens e := by
  induction tight with
  | zero =>
    obtain rfl := Nat.le_zero.mp le
    exact h
  | succ tight ih =>
    rcases Nat.le_succ_iff.mp le with below | rfl
    · exact ih h.tighter below
    · exact h

end LetLang
