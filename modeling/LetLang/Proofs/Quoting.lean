import LetLang.Program
import LetLang.Proofs.Failing
import LetLang.Proofs.Naming

/-! # What reports quote

The report of a statement that fails has fixed words, and between them texts that come from the
statement or are words of the program. They are put there as they are, braces and quotes included,
though the name of a binding is written into the template before it is filled in: a statement
whose name had braces is not read as tokens.
-/
namespace LetLang

open Statement

namespace ParseError

/-- The texts that the template itself shows, besides those in its slots. -/
def inTemplate : ParseError → List Text
  | .expectedEquals name _ => [name]
  | _ => []

theorem eq_of_mem_inTemplate {error : ParseError} {name : Text} (h : name ∈ error.inTemplate) :
    ∃ found, error = .expectedEquals name found := by
  cases error with
  | expectedEquals bound found =>
    rw [List.mem_singleton.mp h]
    exact ⟨found, rfl⟩
  | expectedName | expectedElement | unterminatedList | expectedSeparator | unclosedParen
  | expectedExpression | trailingTokens | nestedTooDeeply => exact absurd h List.not_mem_nil

end ParseError

/-- The texts that an error shows between its fixed words. -/
def StatementError.shown : StatementError → List Text
  | .unterminated statement => [statement]
  | .lex (.noToken source offset) => [source.drop offset]
  | .lex (.tooLarge _ digits _) => [digits]
  | .lex (.tooManyDigits _) => []
  | .parse e => e.inTemplate ++ e.wording.2
  | .eval e => e.wording.2.2
  | .nestedTooDeeply => []

/-- Which texts the report of a statement may show. -/
inductive Statement.Quotable (statement : Text) : Text → Prop
  | part {t} : t <:+: statement → Quotable statement t
  | tokens {text tokens here} : body statement = .ok text → Token.tokenize text = .ok tokens →
      here <:+: tokens → Quotable statement (Text.join [' '] (here.map Token.text))
  | endOfInput : Quotable statement Parser.endOfInput
  | operator (op : BinOp) : Quotable statement op.symbol
  | type (type : ValueType) : Quotable statement type.text

namespace StatementError

/-- Every way of failing has a kind of its own, but for an evaluation that has no room. -/
theorem kind_mem (e : StatementError) :
    e.kind ∈ [ErrorKind.boundary, .lex, .parse, .typeMismatch, .unboundName, .divisionByZero] ∨
      e = .nestedTooDeeply := by
  cases e with
  | unterminated | lex | parse => simp only [kind, List.mem_cons, true_or, or_true]
  | eval e =>
    rcases e.kind_of_wording with told | told | told <;>
      simp only [kind, told, List.mem_cons, true_or, or_true]
  | nestedTooDeeply => exact .inr rfl

end StatementError

namespace Statement

theorem Quotable.token {statement text : Text} {tokens : List Token} {t : Token}
    (stripped : body statement = .ok text) (read : Token.tokenize text = .ok tokens)
    (member : t ∈ tokens) : Quotable statement t.text := by
  obtain ⟨front, back, split⟩ := List.append_of_mem member
  have here : [t] <:+: tokens := ⟨front, back, by rw [split, List.append_assoc]; rfl⟩
  have alone := Quotable.tokens stripped read here
  rwa [List.map_singleton, Text.join_singleton] at alone

/-- An error shows nothing but what stands in its statement and what the program says itself. -/
theorem Fails.quotable {room : Nat} {statement : Text} {env left : Env} {e : StatementError}
    (h : Fails room statement env e left) : ∀ part ∈ e.shown, Quotable statement part := by
  cases h with
  | unterminated => exact List.forall_mem_singleton.mpr (.part (Text.infix_strip statement))
  | lex stripped refused =>
    have inside := infix_of_body stripped
    obtain ⟨stop, told, rfl⟩ := exists_stop_of_tokenize refused
    cases stop with
    | noToken rest =>
      exact List.forall_mem_singleton.mpr (.part ((List.drop_suffix _ _).isInfix.trans inside))
    | tooLarge digits rest =>
      obtain ⟨before, after, rfl, rfl, _, _⟩ := told
      have digits_part : digits <:+: before ++ (digits ++ after) :=
        ⟨before, after, List.append_assoc ..⟩
      exact List.forall_mem_singleton.mpr (.part (digits_part.trans inside))
    | tooManyDigits => exact fun part none => absurd none List.not_mem_nil
  | parse stripped read refused =>
    intro part member
    rcases List.mem_append.mp member with named | found
    · -- the name behind "let" is a token that was read, whatever is found behind it
      obtain ⟨found, rfl⟩ := ParseError.eq_of_mem_inTemplate named
      exact Quotable.token stripped read (Parser.name_of_parse refused)
    · have written := fun (here : List Token) (part : here <:+: _) =>
        Quotable.tokens stripped read part
      exact Parser.forall_subjects refused written .endOfInput part found
  | @eval _ _ _ fault _ stripped read parsed failed =>
    -- evaluating makes up no names, so that those of the error are tokens of the statement
    have names : ∀ name ∈ fault.mentioned, Quotable statement name := by
      intro name member
      have written := (Parser.parse_eq_ok_iff.mp parsed).ident_of_mentioned name
        (failed.mentioned member)
      exact Quotable.token stripped read written
    exact EvalError.forall_subjects names .operator .type (.part List.nil_infix)
  | nested => exact fun part none => absurd none List.not_mem_nil

/-- Whatever the text of a statement is, its failure is reported, unless a run of digits is too long
to be read. The report is of a kind of its own for each way of failing, or of no special kind if
there is no room for the calls of the evaluation. It has the fixed words of its error with the texts
between them as they are, and points at a place in its subject. -/
theorem failure_is_told_verbatim (style : Style) {room : Nat} {statement : Text} {env left : Env}
    {failure : Failure} (short : statement.ShortRuns)
    (failed : evaluate room statement env = (.error failure, left)) :
    ∃ e report, Fails room statement env e left ∧ failure = e.failure ∧
      failure.diagnostic style = .ok report ∧ report.kind = e.kind ∧
      (report.kind ∈ [ErrorKind.boundary, .lex, .parse, .typeMismatch, .unboundName,
          .divisionByZero] ∨
        e = .nestedTooDeeply ∧ report.kind = .evaluation ∧
          report.message = "expression nested too deeply") ∧
      report.message = e.message ∧ (∀ part ∈ e.shown, Quotable statement part) ∧
      0 ≤ report.start ∧ report.start ≤ report.stop ∧ report.stop ≤ report.subject.length := by
  obtain ⟨e, rfl, fails⟩ := fails_of_evaluate failed
  obtain ⟨report, made, kind, told⟩ := fails.reported style short
  refine ⟨e, report, fails, rfl, made, kind, ?_, told.message, fails.quotable, told.start, told.order,
    told.within⟩
  rw [kind, told.message]
  rcases e.kind_mem with special | rfl
  · exact .inl special
  · exact .inr ⟨rfl, rfl, rfl⟩

/-- Slots in a statement are no slots of the template that they are put into. -/
theorem slots_are_told_verbatim :
    let statement : Text := "let x = '\x7b0.real\x7d' \x7b9\x7d;;"
    statement.ShortRuns ∧
      ∃ failure, evaluate 0 statement .empty = (.error failure, .empty) ∧
        ∃ report, failure.diagnostic .plain = .ok report ∧ report.kind = .lex ∧
          report.message = "failed to tokenize ''\x7b0.real\x7d' \x7b9\x7d'" := by
  intro statement
  have short : statement.ShortRuns := Text.shortRuns_of_length (by decide)
  have failed : evaluate 0 statement .empty = (.error (StatementError.lex
      (.noToken "let x = '\x7b0.real\x7d' \x7b9\x7d" 8)).failure, .empty) := by decide +kernel
  obtain ⟨e, report, _, same, made, kind, _, message, _⟩ :=
    failure_is_told_verbatim .plain short failed
  have known := StatementError.diagnostic_noToken .plain "let x = '\x7b0.real\x7d' \x7b9\x7d" 8
  obtain rfl := Except.ok.inj (made.symm.trans known)
  exact ⟨short, _, failed, _, made, rfl, rfl⟩

/-- Bindings inside one another, each in a product in a sum. Each takes one call for every rule to
be read, but two more to be evaluated. -/
def nestedBindings (count : Nat) : Text :=
  (List.replicate count "(let x=1+1*1==".toList).flatten ++ '1' ::
    (List.replicate count " in x)".toList).flatten ++ terminator

/-- Bindings that are nested too deeply to be evaluated, but not to be read, have an error of no
special kind. -/
theorem nested_bindings_have_no_kind :
    ¬ ∀ (statement : Text) (env left : Env) (failure : Failure), statement.ShortRuns →
      evaluate (Program.fileRoom Program.callLimit) statement env = (.error failure, left) →
      ∃ report, failure.diagnostic .plain = .ok report ∧
        report.kind ∈ [ErrorKind.boundary, .lex, .parse, .typeMismatch, .unboundName,
          .divisionByZero] := by
  intro special
  have failed : evaluate (Program.fileRoom Program.callLimit) (nestedBindings 130) .empty =
      (.error StatementError.nestedTooDeeply.failure, .empty) := by decide +kernel
  have short : (nestedBindings 130).ShortRuns := Text.shortRuns_of_length (by decide +kernel)
  obtain ⟨report, made, kind⟩ := special _ _ _ _ short failed
  obtain ⟨known, made', kind', _⟩ := StatementError.nested_report .plain
  obtain rfl := Except.ok.inj (made.symm.trans made')
  rw [kind'] at kind
  exact absurd kind (by decide)

end Statement

end LetLang
