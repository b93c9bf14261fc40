import LetLang.Text

/-! # Expressions

The syntax tree of the language. Operators of sums bind loosest and the equalities bind
tightest, so `a == b + c` is the sum of an equality and `c`.
-/
namespace LetLang

inductive BinOp where
  | add | sub | mul | div | eq | ne
  deriving DecidableEq, Repr

namespace BinOp

def symbol : BinOp → Text
  | .add => ['+']
  | .sub => ['-']
  | .mul => ['*']
  | .div => ['/']
  | .eq => ['=', '=']
  | .ne => ['!', '=']

def isArith : BinOp → Bool
  | .add | .sub | .mul | .div => true
  | .eq | .ne => false

/-- How tightly an operator binds: sums 0, products 1, equalities 2. -/
def level : BinOp → Nat
  | .add | .sub => 0
  | .mul | .div => 1
  | .eq | .ne => 2

def all : List BinOp := [.add, .sub, .mul, .div, .eq, .ne]

def ofSymbol? (text : Text) : Option BinOp := all.find? fun op => op.symbol == text

@[simp] theorem ofSymbol?_symbol (op : BinOp) : ofSymbol? op.symbol = some op := by
  cases op <;> rfl

theorem symbol_of_ofSymbol? {text : Text} {op : BinOp} (h : ofSymbol? text = some op) :
    op.symbol = text := by
  simpa using List.find?_some h

theorem level_le (op : BinOp) : op.level ≤ 2 := by cases op <;> decide

end BinOp

/-- An expression. A binding stays or is for a scope only, and has parameters only if it defines a
function. -/
inductive Expr where
  | int (value : Int)
  | bool (value : Bool)
  | list (items : List Int)
  | binary (op : BinOp) (lhs rhs : Expr)
  | ref (name : Text)
  | letGlobal (name : Text) (params : List Text) (body : Expr)
  | letLocal (name : Text) (params : List Text) (body scope : Expr)
  deriving DecidableEq, Repr

end LetLang
