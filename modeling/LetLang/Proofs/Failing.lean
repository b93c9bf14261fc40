import LetLang.Proofs.Cutting
import LetLang.Proofs.Grammar.Refusal
import LetLang.Proofs.Range
import LetLang.Proofs.Session.Series
import LetLang.Proofs.Spelling.Stop

/-! # Statements that fail

A statement fails at the first stage that refuses it, and only its evaluation can have changed the
environment. Whatever the text of the statement, its error can be reported, unless a run of digits
in it is too long to be read at all.
-/
namespace LetLang

open Statement (Unterminated)
open Template (Plain)

namespace Statement

/-- How a statement comes to its error, and to the environment that it leaves. -/
inductive Fails (room : Nat) (statement : Text) (env : Env) : StatementError → Env → Prop
  | unterminated : Unterminated statement →
      Fails room statement env (.unterminated (Text.strip statement)) env
  | lex {text fault} : body statement = .ok text → Token.tokenize text = .error fault →
      Fails room statement env (.lex fault) env
  | parse {text tokens fault} : body statement = .ok text → Token.tokenize text = .ok tokens →
      Parser.parse room tokens = .error fault → Fails room statement env (.parse fault) env
  | eval {text tokens e fault left} : body statement = .ok text →
      Token.tokenize text = .ok tokens → Parser.parse room tokens = .ok e →
      Evaluates e env (.error fault) left → Fails room statement env (.eval fault) left
  | nested {text tokens e} : body statement = .ok text → Token.tokenize text = .ok tokens →
      Parser.parse room tokens = .ok e → room + readingCalls < e.calls env →
      Fails room statement env .nestedTooDeeply env

variable {room : Nat}

theorem unterminated_of_cut?_eq_none {t : Text} (h : cut? t = none) : Unterminated t := by
  have start : Unterminated (([] : Text).reverse ++ t.take 1) := unterminated_take_one t
  have found := front_of_cutFrom start
  rw [← cut?, h] at found
  exact found

theorem fails_of_run {statement : Text} {env left : Env} {e : StatementError}
    (h : run room statement env = (.error e, left)) : Fails room statement env e left := by
  cases cut : cut? statement with
  | none =>
    have none := unterminated_of_cut?_eq_none cut
    rw [run, body_unterminated none] at h
    cases h
    exact .unterminated none
  | some parts =>
    have stripped : body statement = .ok (Text.strip parts.1) := by
      rw [body, cut]
    simp only [run, stripped, parse] at h
    cases read : Token.tokenize (Text.strip parts.1) with
    | error fault =>
      simp only [read] at h
      cases h
      exact .lex stripped read
    | ok tokens =>
      cases parsed : Parser.parse room tokens with
      | error fault =>
        simp only [read, parsed] at h
        cases h
        exact .parse stripped read parsed
      | ok e =>
        simp only [read, parsed, Except.mapError, runParsed] at h
        split at h
        · rcases ran : e.run env with ⟨fault | out, left'⟩
          · rw [ran] at h
            cases h
            exact .eval stripped read parsed ((run_eq_iff_evaluates e env _ _).mp ran)
          · rw [ran] at h
            cases h
        · rename_i deep
          cases h
          exact .nested stripped read parsed (Nat.not_le.mp deep)

theorem fails_of_evaluate {statement : Text} {env left : Env} {failure : Failure}
    (h : evaluate room statement env = (.error failure, left)) :
    ∃ e : StatementError, failure = e.failure ∧ Fails room statement env e left := by
  unfold evaluate at h
  rcases ran : run room statement env with ⟨e | out, left'⟩
  · rw [ran] at h
    cases h
    exact ⟨e, rfl, fails_of_run ran⟩
  · rw [ran] at h
    cases h

theorem fails_of_series {env : Env} {statements : List Text} {e : StatementError}
    (h : (series room env statements).error = some e) :
    ∃ statement ∈ statements, ∃ env',
      Fails room statement env' e (series room env statements).left := by
  induction statements generalizing env with
  | nil => cases h
  | cons statement rest ih =>
    rcases first : run room statement env with ⟨e' | out, left⟩
    · rw [series_of_error first] at h ⊢
      cases h
      exact ⟨statement, List.mem_cons_self, env, fails_of_run first⟩
    · rw [series_of_ok first] at h ⊢
      obtain ⟨failing, member, env', fails⟩ := ih h
      exact ⟨failing, List.mem_cons_of_mem statement member, env', fails⟩

theorem infix_of_body {statement text : Text} (h : body statement = .ok text) :
    text <:+: statement := by
  unfold body at h
  split at h
  · rename_i front rest cut
    cases h
    have within : front <:+: statement := by
      rw [append_of_cut? cut, List.append_assoc]
      exact (List.prefix_append front _).isInfix
    exact (Text.infix_strip front).trans within
  · cases h

end Statement

theorem LexError.reported (style : Style) {text : Text} {error : LexError}
    (short : text.ShortRuns) (refused : Token.tokenize text = .error error) :
    ∃ report, (StatementError.lex error).failure.diagnostic style = .ok report ∧
      report.kind = .lex ∧ report.Tells error.message := by
  obtain ⟨stop, told, rfl⟩ := exists_stop_of_tokenize refused
  cases stop with
  | noToken rest =>
    obtain ⟨before, c, after, rfl, rfl, _, _⟩ := told
    refine ⟨_, StatementError.diagnostic_noToken style _ _, rfl, rfl, ?_, ?_, ?_⟩
    · exact Int.natCast_nonneg _
    · exact Int.le_add_one (Int.le_refl _)
    · simp only [List.length_append, List.length_cons]
      omega
  | tooLarge digits rest =>
    obtain ⟨before, after, rfl, rfl, _, _⟩ := told
    refine ⟨_, StatementError.diagnostic_tooLarge style _ digits _, rfl, rfl, ?_, ?_, ?_⟩
    · exact Int.natCast_nonneg _
    · exact Int.le_add_of_nonneg_right (Int.natCast_nonneg _)
    · simp only [List.length_append]
      omega
  | tooManyDigits count => exact absurd told (LexStop.Tells.not_tooManyDigits short)

theorem Statement.Fails.reported (style : Style) {room : Nat} {statement : Text} {env left : Env}
    {e : StatementError} (h : Fails room statement env e left) (short : statement.ShortRuns) :
    ∃ report, e.failure.diagnostic style = .ok report ∧ report.kind = e.kind ∧
      report.Tells e.message := by
  cases h with
  | unterminated none =>
    refine ⟨_, StatementError.diagnostic_unterminated style _, rfl, rfl, ?_, ?_, ?_⟩
    · exact Int.le_refl 0
    · exact Int.natCast_nonneg _
    · exact Int.le_refl _
  | lex stripped refused =>
    exact LexError.reported style (short.of_infix (infix_of_body stripped)) refused
  | @parse _ _ fault _ read refused =>
    have named : ∀ name found, fault = ParseError.expectedEquals name found → Plain name := by
      rintro name found rfl
      exact (readable_of_tokenize read _ (Parser.name_of_parse refused)).plain
    exact ParseError.exists_report style named
  | eval => exact EvalError.exists_report style _
  | nested => exact StatementError.nested_report style

theorem Statement.Fails.ending (style : Style) {room : Nat} {statement : Text} {env left : Env}
    {e : StatementError} (h : Fails room statement env e left) (short : statement.ShortRuns) :
    e.failure.ending style = .ok := by
  obtain ⟨_, made, _⟩ := h.reported style short
  exact Failure.ending_of_diagnostic made

end LetLang
