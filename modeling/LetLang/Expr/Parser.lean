import LetLang.Expr
import LetLang.Token

/-! # Parsing

A statement is one expression of this grammar, all operators grouping to the left:

    expr     ::= let ident ident* = sum | let ident ident* = sum in expr | sum
    sum      ::= product ((+ | -) product)*
    product  ::= equality ((* | /) equality)*
    equality ::= primary ((== | !=) primary)*
    primary  ::= number | true | false | ident | list | ( expr )
    list     ::= [ ] | [ number (; number)* ]

The parser reads one token at a time. What it has read so far is a state: what may come next,
the operands that wait for their right neighbour, and the constructs that are still open. A
state refuses a token that no expression has at that place, and the report is made from the
state and the tokens that are left.

A reader with a procedure for each rule of the grammar keeps calls open for the constructs that
are open. Only so many calls can be open at once, so a state for which there is no room is given
up.
-/
namespace LetLang

/-- Why tokens are no expression; what was found instead is given as text. -/
inductive ParseError where
  | expectedName (found : Text)
  | expectedEquals (name found : Text)
  | expectedElement (found : Text)
  | unterminatedList
  | expectedSeparator (found : Text)
  | unclosedParen (found : Text)
  | expectedExpression (found : Text)
  | trailingTokens (found : Text)
  | nestedTooDeeply
  deriving DecidableEq, Repr

namespace Parser

/-- Left operands with their operators, innermost first, that wait for the right operand. -/
abbrev Waiting := List (Expr × BinOp)

/-- Gives an operand to the waiting operators that bind at least as tightly as a level. -/
def reduce (level : Nat) : Waiting → Expr → Waiting × Expr
  | [], e => ([], e)
  | (lhs, op) :: ops, e =>
    if level ≤ op.level then reduce level ops (.binary op lhs e) else ((lhs, op) :: ops, e)

def close : Waiting → Expr → Expr
  | [], e => e
  | (lhs, op) :: ops, e => close ops (.binary op lhs e)

/-- A construct whose end has not been read: a parenthesis, opened where an operand was due, the
right-hand side of a binding, or the scope of a local one. -/
inductive Frame where
  | paren (ops : Waiting)
  | binding (name : Text) (params : List Text)
  | scope (name : Text) (params : List Text) (body : Expr)
  deriving DecidableEq, Repr

/-- The calls from the reading of an operand to that of an operand in a parenthesis that begins
there: one for each rule of the grammar in between. -/
def parenCalls : Nat := 6

/-- The calls from a binding to an expression in its scope. -/
def scopeCalls : Nat := 2

/-- The calls that the reading of open constructs has open. The right-hand side of a binding is
read by the call that reads its sum anyway. -/
def openCalls : List Frame → Nat
  | [] => 0
  | .paren _ :: frames => openCalls frames + parenCalls
  | .binding .. :: frames => openCalls frames
  | .scope .. :: frames => openCalls frames + scopeCalls

/-- What may come next. The parameters of a binding and the elements of a list are kept reversed. -/
inductive Mode where
  | expression
  | operand (ops : Waiting)
  | operator (ops : Waiting) (operand : Expr)
  | name
  | params (name : Text) (params : List Text)
  | element (ops : Waiting) (items : List Int)
  | separator (ops : Waiting) (items : List Int)
  deriving DecidableEq, Repr

structure State where
  mode : Mode
  frames : List Frame
  deriving DecidableEq, Repr

def State.start : State := ⟨.expression, []⟩

def State.calls (s : State) : Nat := openCalls s.frames

/-- Ends the bindings and scopes that end with an expression: all inside the innermost open
parenthesis. -/
def unwind : List Frame → Expr → List Frame × Expr
  | .binding name params :: frames, e => unwind frames (.letGlobal name params e)
  | .scope name params body :: frames, e => unwind frames (.letLocal name params body e)
  | frames, e => (frames, e)

def beginOperand (ops : Waiting) (frames : List Frame) : Token → Option State
  | .number text => some ⟨.operator ops (.int (Numeral.value text)), frames⟩
  | .ident name => some ⟨.operator ops (.ref name), frames⟩
  | .keyword text =>
    if text = ['t', 'r', 'u', 'e'] then some ⟨.operator ops (.bool true), frames⟩
    else if text = ['f', 'a', 'l', 's', 'e'] then some ⟨.operator ops (.bool false), frames⟩
    else none
  | .punct text =>
    if text = ['['] then some ⟨.element ops [], frames⟩
    else if text = ['('] then some ⟨.expression, .paren ops :: frames⟩
    else none

def afterOperand (ops : Waiting) (e : Expr) (frames : List Frame) : Token → Option State
  | .punct text =>
    match BinOp.ofSymbol? text with
    | some op =>
      let (outer, lhs) := reduce op.level ops e
      some ⟨.operand ((lhs, op) :: outer), frames⟩
    | none =>
      if text = [')'] then
        match unwind frames (close ops e) with
        | (.paren outer :: rest, inner) => some ⟨.operator outer inner, rest⟩
        | _ => none
      else none
  | .keyword text =>
    match frames with
    | .binding name params :: rest =>
      if text = ['i', 'n'] then some ⟨.expression, .scope name params (close ops e) :: rest⟩
      else none
    | _ => none
  | _ => none

/-- The state after one more token, unless no expression has that token there. -/
def State.advance (s : State) (t : Token) : Option State :=
  match s.mode with
  | .expression =>
    if t = .keyword ['l', 'e', 't'] then some ⟨.name, s.frames⟩ else beginOperand [] s.frames t
  | .operand ops => beginOperand ops s.frames t
  | .operator ops e => afterOperand ops e s.frames t
  | .name =>
    match t with
    | .ident name => some ⟨.params name [], s.frames⟩
    | _ => none
  | .params name params =>
    match t with
    | .ident param => some ⟨.params name (param :: params), s.frames⟩
    | .punct text =>
      if text = ['='] then some ⟨.operand [], .binding name params.reverse :: s.frames⟩ else none
    | _ => none
  | .element ops items =>
    match t with
    | .number text => some ⟨.separator ops (Numeral.value text :: items), s.frames⟩
    | .punct text =>
      if text = [']'] ∧ items = [] then some ⟨.operator ops (.list []), s.frames⟩ else none
    | _ => none
  | .separator ops items =>
    match t with
    | .punct text =>
      if text = [']'] then some ⟨.operator ops (.list items.reverse), s.frames⟩
      else if text = [';'] then some ⟨.element ops items, s.frames⟩
      else none
    | _ => none

def State.finish (s : State) : Option Expr :=
  match s.mode with
  | .operator ops e =>
    match unwind s.frames (close ops e) with
    | ([], whole) => some whole
    | _ => none
  | _ => none

def endOfInput : Text := "<end of input>"

def remaining (here : List Token) : Text :=
  let text := Text.join [' '] (here.map Token.text)
  if text.isEmpty then endOfInput else text

def nextText : List Token → Text
  | [] => endOfInput
  | t :: _ => t.text

/-- The report of a state that cannot go on with the tokens left. -/
def State.reject (s : State) (here : List Token) : ParseError :=
  match s.mode with
  | .expression | .operand _ => .expectedExpression (remaining here)
  | .operator ops e =>
    match unwind s.frames (close ops e) with
    | ([], _) => .trailingTokens (remaining here)
    | _ => .unclosedParen (remaining here)
  | .name => .expectedName (nextText here)
  | .params name _ => .expectedEquals name (remaining here)
  | .element .. => .expectedElement (nextText here)
  | .separator .. =>
    if here.isEmpty then .unterminatedList else .expectedSeparator (remaining here)

/-- Reads the remaining tokens from a state, with room for so many calls. -/
def run (room : Nat) (s : State) : List Token → Except ParseError Expr
  | [] =>
    match s.finish with
    | some e => .ok e
    | none => .error (s.reject [])
  | t :: rest =>
    match s.advance t with
    | none => .error (s.reject (t :: rest))
    | some next => if next.calls ≤ room then run room next rest else .error .nestedTooDeeply

def parse (room : Nat) (tokens : List Token) : Except ParseError Expr := run room .start tokens

theorem openCalls_le_of_suffix {inner outer : List Frame} (h : inner <:+ outer) :
    openCalls inner ≤ openCalls outer := by
  induction outer with
  | nil => exact Nat.le_of_eq (congrArg openCalls (List.suffix_nil.mp h))
  | cons frame outer ih =>
    rcases List.suffix_cons_iff.mp h with rfl | behind
    · exact Nat.le_refl _
    · have below := ih behind
      cases frame <;> simp only [openCalls] <;> omega

theorem reduce_zero (ops : Waiting) (e : Expr) : reduce 0 ops e = ([], close ops e) := by
  induction ops generalizing e with
  | nil => rfl
  | cons op ops ih => simpa [reduce, close] using ih _

end Parser

end LetLang
