import LetLang.Proofs.Template
import LetLang.Statement

/-! # Messages

What the errors of statements say, told without templates: fixed words, and between them the texts
that an error is about. Filling the template of an error in says the same, whatever these texts are.
-/
namespace LetLang

open Template

def ParseError.message : ParseError → Text
  | .expectedName found => "expected an identifier after 'let', found '" ++ found ++ "'"
  | .expectedEquals name found =>
    "expected '=' after 'let " ++ name ++ "', found '" ++ found ++ "'"
  | .expectedElement found => "expected an integer list element, found '" ++ found ++ "'"
  | .unterminatedList => "unterminated list: expected ']', found '" ++ Parser.endOfInput ++ "'"
  | .expectedSeparator found => "expected ';' between list elements, found '" ++ found ++ "'"
  | .unclosedParen found => "unterminated parenthesis: expected ')', found '" ++ found ++ "'"
  | .expectedExpression found => "expected an expression, found '" ++ found ++ "'"
  | .trailingTokens found => "unexpected trailing tokens '" ++ found ++ "'"
  | .nestedTooDeeply => "expression nested too deeply"

def EvalError.message : EvalError → Text
  | .bindingAsOperand name op =>
    "binding of '" ++ name ++ ("' cannot be an operand of '" ++ op.symbol ++ "'")
  | .bindingAsBody bound name =>
    "binding of '" ++ bound ++ ("' cannot be bound to '" ++ name ++ "'")
  | .operandTypes op lhs rhs =>
    "operator '" ++ op.symbol ++ ("' expects " ++
      ((if op.isArith then "operands of type int"
        else "two operands of type int or bool" : String) ++ ", got ") ++ lhs.text ++
      (" and " ++ rhs.text))
  | .unbound name => "unbound value '" ++ name ++ "'"
  | .divisionByZero => "division by zero"

/-- Of a run of digits that is too long nothing is said, as reading it crashes. -/
def LexError.message : LexError → Text
  | .noToken source offset => "failed to tokenize '" ++ source.drop offset ++ "'"
  | .tooLarge _ digits _ => "failed to parse '" ++ digits ++ "' into a 64-bit integer"
  | .tooManyDigits _ => []

def StatementError.message : StatementError → Text
  | .unterminated statement => "'" ++ statement ++ "' must end with ';;'"
  | .lex e => e.message
  | .parse e => e.message
  | .eval e => e.message
  | .nestedTooDeeply => "expression nested too deeply"

def StatementError.kind : StatementError → ErrorKind
  | .unterminated _ => .boundary
  | .lex _ => .lex
  | .parse _ => .parse
  | .eval e => e.wording.1
  | .nestedTooDeeply => .evaluation

theorem EvalError.kind_of_wording (e : EvalError) :
    e.wording.1 = .typeMismatch ∨ e.wording.1 = .unboundName ∨ e.wording.1 = .divisionByZero := by
  cases e with
  | bindingAsOperand | bindingAsBody | operandTypes => exact .inl rfl
  | unbound => exact .inr (.inl rfl)
  | divisionByZero => exact .inr (.inr rfl)

theorem Complaint.kind_of_diagnostic {style : Style} {c : Complaint} {d : Diagnostic}
    (made : c.diagnostic style = .ok d) : d.kind = c.kind := by
  unfold diagnostic at made
  split at made
  · cases made
  · cases made
  · split at made <;> cases made
    rfl

theorem StatementError.kind_of_diagnostic {style : Style} {e : StatementError} {d : Diagnostic}
    (made : e.failure.diagnostic style = .ok d) : d.kind = e.kind := by
  have kept {c : Complaint} (complains : e.failure = .complaint c) (kind : c.kind = e.kind) :
      d.kind = e.kind := by
    rw [complains] at made
    exact (Complaint.kind_of_diagnostic made).trans kind
  cases e with
  | unterminated | parse | eval | nestedTooDeeply => exact kept rfl rfl
  | lex fault =>
    cases fault with
    | noToken | tooLarge => exact kept rfl rfl
    | tooManyDigits => cases made

theorem StatementError.eq_lex_of_kind {e : StatementError} (h : e.kind = .lex) :
    ∃ fault, e = .lex fault := by
  cases e with
  | lex fault => exact ⟨fault, rfl⟩
  | unterminated | parse | nestedTooDeeply => cases h
  | eval e =>
    rcases e.kind_of_wording with kind | kind | kind <;> cases kind.symm.trans h

/-- The name of a binding has no slot of its own but stands in the template. -/
theorem ParseError.wording_eq_compose (error : ParseError)
    (plain : ∀ name found, error = .expectedEquals name found → Plain name) :
    ∃ front rest subject, error.wording = (compose front rest, [subject]) ∧
      (∀ w ∈ front :: rest, Plain w) ∧ rest.length ≤ 1 ∧
      weave front rest [subject] = error.message := by
  -- all of them but the last one end in what was found, between quotes
  have quoted {front found : Text} (here : Plain front)
      (shape : error.wording = (front ++ slot ++ ['\x27'], [found]))
      (told : front ++ found ++ ['\x27'] = error.message) :
      ∃ front rest subject, error.wording = (compose front rest, [subject]) ∧
        (∀ w ∈ front :: rest, Plain w) ∧ rest.length ≤ 1 ∧
        weave front rest [subject] = error.message := by
    refine ⟨front, [['\x27']], found, shape, ?_, Nat.le_refl 1, told⟩
    intro w hw
    rcases List.mem_cons.mp hw with rfl | hw
    · exact here
    · rw [List.mem_singleton.mp hw]
      decide
  cases error with
  | expectedName found => exact quoted (plain_literal rfl) rfl rfl
  | expectedEquals name found =>
    have named : Plain ("expected '=' after 'let " ++ name) :=
      (plain_literal rfl).append (plain name found rfl)
    exact quoted (named.append (plain_literal rfl)) rfl rfl
  | expectedElement found => exact quoted (plain_literal rfl) rfl rfl
  | unterminatedList => exact quoted (plain_literal rfl) rfl rfl
  | expectedSeparator found => exact quoted (plain_literal rfl) rfl rfl
  | unclosedParen found => exact quoted (plain_literal rfl) rfl rfl
  | expectedExpression found => exact quoted (plain_literal rfl) rfl rfl
  | trailingTokens found => exact quoted (plain_literal rfl) rfl rfl
  | nestedTooDeeply =>
    exact ⟨"expression nested too deeply", [], [], rfl,
      List.forall_mem_singleton.mpr (plain_literal rfl), Nat.zero_le 1, rfl⟩

theorem EvalError.wording_eq_compose (error : EvalError) :
    ∃ front rest subject subjects,
      error.wording.2 = (compose front rest, subject :: subjects) ∧
      (∀ w ∈ front :: rest, Plain w) ∧ rest.length ≤ (subject :: subjects).length ∧
      weave front rest (subject :: subjects) = error.message := by
  have single {w : Text} (h : Plain w) : ∀ v ∈ [w], Plain v := List.forall_mem_singleton.mpr h
  have cons {w : Text} {rest : List Text} (h : Plain w) (later : ∀ v ∈ rest, Plain v) :
      ∀ v ∈ w :: rest, Plain v := List.forall_mem_cons.mpr ⟨h, later⟩
  cases error with
  | bindingAsOperand name op =>
    refine ⟨"binding of '", ["' cannot be an operand of '", "'"], name, [op.symbol], ?_,
      cons (plain_literal rfl) (cons (plain_literal rfl) (single (plain_literal rfl))),
      Nat.le_refl 2, rfl⟩
    simp only [wording, compose, List.append_assoc]
  | bindingAsBody bound name =>
    refine ⟨"binding of '", ["' cannot be bound to '", "'"], bound, [name], ?_,
      cons (plain_literal rfl) (cons (plain_literal rfl) (single (plain_literal rfl))),
      Nat.le_refl 2, rfl⟩
    simp only [wording, compose, List.append_assoc]
  | operandTypes op lhs rhs =>
    -- what is expected is a part of the template, and plain for either kind of operator
    have expected : ∃ middle : Text, Plain middle ∧ middle =
        "' expects " ++ ((if op.isArith then "operands of type int"
          else "two operands of type int or bool" : String) ++ ", got ") := by
      refine ⟨_, (plain_literal rfl).append (Plain.append ?_ (plain_literal rfl)), rfl⟩
      split <;> exact plain_literal rfl
    obtain ⟨middle, plain, told⟩ := expected
    refine ⟨"operator '", [middle, " and ", []], op.symbol, [lhs.text, rhs.text], ?_,
      cons (plain_literal rfl) (cons plain (cons (plain_literal rfl) (single (by decide)))),
      Nat.le_refl 3, ?_⟩
    · simp only [wording, compose, told, List.append_assoc, List.append_nil]
    · rw [told]
      change _ ++ (_ ++ (_ ++ rhs.text ++ [])) = _
      rw [List.append_nil]
      rfl
  | unbound name =>
    exact ⟨"unbound value '", ["'"], name, [], rfl,
      cons (plain_literal rfl) (single (plain_literal rfl)), Nat.le_refl 1, rfl⟩
  | divisionByZero =>
    exact ⟨"division by zero", [], [], [], rfl, single (plain_literal rfl), Nat.zero_le 1, rfl⟩

/-- A diagnostic that tells a message, and points at a place in its subject. -/
structure Diagnostic.Tells (d : Diagnostic) (message : Text) : Prop where
  message : d.message = message
  start : 0 ≤ d.start
  order : d.start ≤ d.stop
  within : d.stop ≤ d.subject.length

theorem Complaint.tells_compose (style : Style) (kind : ErrorKind) {front : Text}
    {rest : List Text} (subject : Text) (subjects : List Text)
    (plain : ∀ w ∈ front :: rest, Plain w) (enough : rest.length ≤ (subject :: subjects).length) :
    ∃ report, (Complaint.about kind (compose front rest) (subject :: subjects)).diagnostic style =
        .ok report ∧
      report.kind = kind ∧ report.Tells (weave front rest (subject :: subjects)) := by
  refine ⟨_, diagnostic_compose style kind subject subjects plain enough, rfl, rfl, ?_, ?_, ?_⟩
  · exact Int.le_refl 0
  · exact Int.natCast_nonneg _
  · exact Int.le_refl _

theorem ParseError.exists_report (style : Style) {error : ParseError}
    (plain : ∀ name found, error = .expectedEquals name found → Plain name) :
    ∃ report, (StatementError.parse error).failure.diagnostic style = .ok report ∧
      report.kind = .parse ∧ report.Tells error.message := by
  obtain ⟨front, rest, subject, wording, braceless, enough, told⟩ := error.wording_eq_compose plain
  have made := Complaint.tells_compose style .parse subject [] braceless enough
  have failure : (StatementError.parse error).failure =
      .complaint (.about .parse (compose front rest) [subject]) := by
    change Failure.complaint (.about .parse error.wording.1 error.wording.2) = _
    rw [wording]
  rw [failure, ← told]
  exact made

theorem ParseError.reported (style : Style) {error : ParseError}
    (plain : ∀ name found, error = .expectedEquals name found → Plain name) :
    ∃ report, (StatementError.parse error).failure.diagnostic style = .ok report ∧
      report.kind = .parse := by
  obtain ⟨report, made, kind, _⟩ := ParseError.exists_report style plain
  exact ⟨report, made, kind⟩

theorem EvalError.exists_report (style : Style) (error : EvalError) :
    ∃ report, (StatementError.eval error).failure.diagnostic style = .ok report ∧
      report.kind = error.wording.1 ∧ report.Tells error.message := by
  obtain ⟨front, rest, subject, subjects, wording, braceless, enough, told⟩ :=
    error.wording_eq_compose
  have made := Complaint.tells_compose style error.wording.1 subject subjects braceless enough
  have failure : (StatementError.eval error).failure =
      .complaint (.about error.wording.1 (compose front rest) (subject :: subjects)) := by
    change Failure.complaint (.about error.wording.1 error.wording.2.1 error.wording.2.2) = _
    rw [wording]
  rw [failure, ← told]
  exact made

theorem StatementError.nested_report (style : Style) :
    ∃ report, nestedTooDeeply.failure.diagnostic style = .ok report ∧
      report.kind = .evaluation ∧ report.Tells nestedTooDeeply.message := by
  have plain : ∀ w ∈ [("expression nested too deeply" : Text)], Plain w :=
    List.forall_mem_singleton.mpr (plain_literal rfl)
  exact Complaint.tells_compose style .evaluation [] [] plain (Nat.zero_le 1)

end LetLang
