import LetLang.Statement
import LetLang.Handler

/-! # Reports

What is reported of a failure, be it an error or a crash, and how a handler prints it.
-/
namespace LetLang

/-- The diagnostic that tells of a failure. -/
def Failure.reported (style : Style) (failure : Failure) : Diagnostic :=
  match failure.diagnostic style with
  | .ok d => d
  | .error c => Handler.crashed style c

/-- The ending of work that fails without ending the program. -/
def Failure.ending (style : Style) (failure : Failure) : Ending :=
  match failure.diagnostic style with
  | .ok _ => .ok
  | .error c => .crashed c

theorem Failure.ending_of_diagnostic {style : Style} {failure : Failure} {d : Diagnostic}
    (h : failure.diagnostic style = .ok d) : failure.ending style = .ok := by
  rw [Failure.ending, h]

namespace Handler

/-- A handler prints one report of a failure, and ends the program or forgets the location. -/
theorem settle_failed (style : Style) (h : Handler) (failure : Failure) :
    h.settle style (.failed failure) =
      (h.report style (failure.reported style),
        if h.fatal then (h, .exit 1) else (h.forget, failure.ending style)) := by
  simp only [settle, Failure.reported, Failure.ending]
  cases failure.diagnostic style <;> rfl

/-- The location heads a report on a line of its own. -/
theorem report_located (style : Style) (fatal : Bool) (l : Location) (d : Diagnostic) :
    report style ⟨fatal, some l⟩ d = Text.line l.text ++ initial.report style d := by
  have lines : reportLines style ⟨fatal, some l⟩ d = l.text :: initial.reportLines style d := rfl
  obtain ⟨first, rest, shape⟩ : ∃ first rest, initial.reportLines style d = first :: rest :=
    ⟨_, _, rfl⟩
  simp only [report, lines, shape, Text.join_cons_cons, Text.line, List.append_assoc]

end Handler

namespace StatementError

theorem diagnostic_unterminated (style : Style) (statement : Text) :
    (unterminated statement).failure.diagnostic style =
      .ok ⟨.boundary, "'" ++ statement ++ "' must end with ';;'",
        "'" ++ style.bold statement ++ "' must end with ';;'", statement, 0, statement.length,
        false, false⟩ := rfl

theorem diagnostic_noToken (style : Style) (source : Text) (offset : Nat) :
    (lex (.noToken source offset)).failure.diagnostic style =
      .ok ⟨.lex, "failed to tokenize '" ++ source.drop offset ++ "'",
        "failed to tokenize '" ++ style.bold (source.drop offset) ++ "'", source, offset,
        offset + 1, true, false⟩ := rfl

theorem diagnostic_tooLarge (style : Style) (source digits : Text) (offset : Nat) :
    (lex (.tooLarge source digits offset)).failure.diagnostic style =
      .ok ⟨.lex, "failed to parse '" ++ digits ++ "' into a 64-bit integer",
        "failed to parse '" ++ style.bold digits ++ "' into a 64-bit integer", source, offset,
        offset + digits.length, true, false⟩ := rfl

theorem reported_unterminated (style : Style) (statement : Text) :
    (unterminated statement).failure.reported style =
      ⟨.boundary, "'" ++ statement ++ "' must end with ';;'",
        "'" ++ style.bold statement ++ "' must end with ';;'", statement, 0, statement.length,
        false, false⟩ := by
  rw [Failure.reported, diagnostic_unterminated]

theorem reported_noToken (style : Style) (source : Text) (offset : Nat) :
    (lex (.noToken source offset)).failure.reported style =
      ⟨.lex, "failed to tokenize '" ++ source.drop offset ++ "'",
        "failed to tokenize '" ++ style.bold (source.drop offset) ++ "'", source, offset,
        offset + 1, true, false⟩ := by
  rw [Failure.reported, diagnostic_noToken]

theorem reported_tooLarge (style : Style) (source digits : Text) (offset : Nat) :
    (lex (.tooLarge source digits offset)).failure.reported style =
      ⟨.lex, "failed to parse '" ++ digits ++ "' into a 64-bit integer",
        "failed to parse '" ++ style.bold digits ++ "' into a 64-bit integer", source, offset,
        offset + digits.length, true, false⟩ := by
  rw [Failure.reported, diagnostic_tooLarge]

end StatementError

end LetLang
