import LetLang.Diagnostic
import LetLang.Eval.Calls
import LetLang.Eval.Spine
import LetLang.Expr.Parser
import LetLang.Statement.Cut
import LetLang.Token.Lexer

/-! # Statements

A statement is run by cutting off its terminator, reading tokens, parsing them and evaluating
the expression. Each stage has its errors, and each error has its complaint. Parsing and evaluation
have room for so many calls: those that may be open besides the calls that every statement makes.
-/
namespace LetLang

/-- Why a statement has no output. -/
inductive StatementError where
  | unterminated (statement : Text)
  | lex (error : LexError)
  | parse (error : ParseError)
  | eval (error : EvalError)
  | nestedTooDeeply
  deriving DecidableEq, Repr

open Template (slot slotAt)

def LexError.complaint : LexError → Except Crash Complaint
  | .noToken source offset =>
    .ok ⟨.lex, "failed to tokenize '" ++ slotAt 1 ++ "'",
      [.text source, .text (source.drop offset)], offset, some (offset + 1), true, false⟩
  | .tooLarge source digits offset =>
    .ok ⟨.lex, "failed to parse '" ++ slotAt 1 ++ "' into a 64-bit integer",
      [.text source, .text digits], offset, some (offset + digits.length), true, false⟩
  | .tooManyDigits count => .error (.numeral (.tooManyDigits count))

def ParseError.wording : ParseError → Text × List Text
  | .expectedName found => ("expected an identifier after 'let', found '" ++ slot ++ "'", [found])
  | .expectedEquals name found =>
    ("expected '=' after 'let " ++ name ++ "', found '" ++ slot ++ "'", [found])
  | .expectedElement found =>
    ("expected an integer list element, found '" ++ slot ++ "'", [found])
  | .unterminatedList =>
    ("unterminated list: expected ']', found '" ++ slot ++ "'", [Parser.endOfInput])
  | .expectedSeparator found =>
    ("expected ';' between list elements, found '" ++ slot ++ "'", [found])
  | .unclosedParen found =>
    ("unterminated parenthesis: expected ')', found '" ++ slot ++ "'", [found])
  | .expectedExpression found => ("expected an expression, found '" ++ slot ++ "'", [found])
  | .trailingTokens found => ("unexpected trailing tokens '" ++ slot ++ "'", [found])
  | .nestedTooDeeply => ("expression nested too deeply", [[]])

def EvalError.wording : EvalError → ErrorKind × Text × List Text
  | .bindingAsOperand name op =>
    (.typeMismatch, "binding of '" ++ slot ++ "' cannot be an operand of '" ++ slot ++ "'",
      [name, op.symbol])
  | .bindingAsBody bound name =>
    (.typeMismatch, "binding of '" ++ slot ++ "' cannot be bound to '" ++ slot ++ "'",
      [bound, name])
  | .operandTypes op lhs rhs =>
    (.typeMismatch, "operator '" ++ slot ++ "' expects " ++
      (if op.isArith then "operands of type int" else "two operands of type int or bool") ++
      ", got " ++ slot ++ " and " ++ slot, [op.symbol, lhs.text, rhs.text])
  | .unbound name => (.unboundName, "unbound value '" ++ slot ++ "'", [name])
  | .divisionByZero => (.divisionByZero, "division by zero", [[]])

namespace StatementError

/-- The complaint of a statement without output, unless running it crashes. -/
def complaint : StatementError → Except Crash Complaint
  | .unterminated statement =>
    .ok ⟨.boundary, "'" ++ slot ++ "' must end with ';;'", [.text statement], 0, none, false, false⟩
  | .lex e => e.complaint
  | .parse e => .ok (.about .parse e.wording.1 e.wording.2)
  | .eval e => .ok (.about e.wording.1 e.wording.2.1 e.wording.2.2)
  | .nestedTooDeeply => .ok (.about .evaluation "expression nested too deeply" [[]])

def failure (e : StatementError) : Failure :=
  match e.complaint with
  | .ok c => .complaint c
  | .error crash => .crash crash

end StatementError

namespace Statement

/-- The text of a statement before its terminator, without the blanks around it. -/
def body (statement : Text) : Except StatementError Text :=
  match cut? statement with
  | some (text, _) => .ok (Text.strip text)
  | none => .error (.unterminated (Text.strip statement))

/-- The expression of a statement's text, which has no terminator any more. -/
def parse (room : Nat) (text : Text) : Except StatementError Expr :=
  match Token.tokenize text with
  | .error e => .error (.lex e)
  | .ok tokens => (Parser.parse room tokens).mapError .parse

/-- The calls by which an operand is read, outside of all constructs, more than those by which an
expression is evaluated. -/
def readingCalls : Nat := 7

/-- The output of a parsed statement, and the environment it leaves. An evaluation for which there
is no room has bound nothing: what binds a name inside an expression is refused at once. -/
def runParsed (room : Nat) (e : Expr) (env : Env) : Except StatementError Output × Env :=
  if e.calls env ≤ room + readingCalls then
    let (result, left) := e.run env
    (result.mapError .eval, left)
  else (.error .nestedTooDeeply, env)

/-- The output of a statement, and the environment it leaves. -/
def run (room : Nat) (statement : Text) (env : Env) : Except StatementError Output × Env :=
  match body statement with
  | .error e => (.error e, env)
  | .ok text =>
    match parse room text with
    | .error e => (.error e, env)
    | .ok e => runParsed room e env

theorem run_of_runParsed {room : Nat} {e : Expr} {env left : Env} {out : Output}
    (h : runParsed room e env = (.ok out, left)) : e.run env = (.ok out, left) := by
  unfold runParsed at h
  split at h
  · rcases ran : e.run env with ⟨_ | out, _⟩
    · rw [ran] at h
      cases h
    · rw [ran] at h
      cases h
      rfl
  · cases h

def evaluate (room : Nat) (statement : Text) (env : Env) : Except Failure Text × Env :=
  let (result, left) := run room statement env
  ((result.map Output.text).mapError StatementError.failure, left)

end Statement

end LetLang
