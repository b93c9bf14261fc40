import LetLang.Proofs.Report
import LetLang.Proofs.Session.Series
import LetLang.Shell

/-! # Room for calls

What statements come to with some room for calls, compared with more room. Nothing changes but for
a statement that is nested too deeply for less. Work breaks off there, and a shell whose line has
more directives than there is room for breaks off behind one of them; in front of that place all
is the same.
-/
namespace LetLang

inductive StatementError.TooDeep : StatementError → Prop
  | parse : TooDeep (.parse .nestedTooDeeply)
  | eval : TooDeep .nestedTooDeeply

variable {room more : Nat}

theorem Parser.run_of_le (h : room ≤ more) (s : State) (tokens : List Token) :
    run room s tokens = run more s tokens ∨ run room s tokens = .error .nestedTooDeeply := by
  induction tokens generalizing s with
  | nil => exact .inl rfl
  | cons t rest ih =>
    unfold run
    cases s.advance t with
    | none => exact .inl rfl
    | some next =>
      by_cases fits : next.calls ≤ room
      · simp only [if_pos fits, if_pos (Nat.le_trans fits h)]
        exact ih next
      · exact .inr (if_neg fits)

namespace Statement

theorem parse_of_le (h : room ≤ more) (text : Text) :
    parse room text = parse more text ∨ parse room text = .error (.parse .nestedTooDeeply) := by
  unfold parse
  cases Token.tokenize text with
  | error e => exact .inl rfl
  | ok tokens =>
    rcases Parser.run_of_le h .start tokens with same | deep
    · exact .inl (congrArg (Except.mapError StatementError.parse) same)
    · exact .inr (congrArg (Except.mapError StatementError.parse) deep)

/-- A statement comes to the same with more room, unless it is nested too deeply for less. -/
theorem run_of_le (h : room ≤ more) (statement : Text) (env : Env) :
    run room statement env = run more statement env ∨
      ∃ e : StatementError, e.TooDeep ∧ run room statement env = (.error e, env) := by
  unfold run
  cases body statement with
  | error e => exact .inl rfl
  | ok text =>
    rcases parse_of_le h text with same | deep
    · simp only [same]
      cases parse more text with
      | error e => exact .inl rfl
      | ok e =>
        simp only [runParsed]
        by_cases fits : e.calls env ≤ room + readingCalls
        · have fits' := Nat.le_trans fits (Nat.add_le_add_right h readingCalls)
          exact .inl (by rw [if_pos fits, if_pos fits'])
        · exact .inr ⟨_, .eval, if_neg fits⟩
    · exact .inr ⟨_, .parse, by simp only [deep]⟩

end Statement

namespace Session

end Session

/-- An answer that ends where another one may go on: behind the report of a statement that is nested
too deeply, or with the crash of a line with too many directives. -/
inductive Reply.BreaksOff (style : Style) (r other : Reply) : Prop
  | report {front : Text} {handler : Handler} {e : StatementError} : e.TooDeep →
      r.out = front ++ handler.report style (e.failure.reported style) → front <+: other.out →
      BreaksOff style r other
  | crash : r.ending = .crashed .recursion → r.out <+: other.out → BreaksOff style r other

theorem Reply.BreaksOff.after {style : Style} {r other : Reply} (h : r.BreaksOff style other)
    (out : Text) : (r.after out).BreaksOff style (other.after out) := by
  cases h with
  | @report front handler e deep printed shared =>
    have printed' : (r.after out).out = out ++ front ++ handler.report style (e.failure.reported style) := by
      rw [Reply.after, printed, List.append_assoc]
    exact .report deep printed' ((List.prefix_append_right_inj out).mpr shared)
  | crash ending printed => exact .crash ending ((List.prefix_append_right_inj out).mpr printed)

namespace Shell

variable (style : Style)

theorem command_of_done {sh : Shell} {line : Text} (takes : sh.takesDirective line = true)
    (done : (sh.directive style (cutDirective line).1).halts = true ∨ (cutDirective line).2 = []) :
    sh.command style room line = sh.directive style (cutDirective line).1 := by
  rw [command.eq_def, if_pos takes]
  rcases done with halts | none
  · exact if_pos halts
  · simp only [if_pos none, ite_self]

theorem command_of_behind {sh : Shell} {line : Text} (takes : sh.takesDirective line = true)
    (goes : ¬ (sh.directive style (cutDirective line).1).halts = true)
    (behind : ¬ (cutDirective line).2 = []) :
    sh.command style (room + 1) line =
      ((sh.directive style (cutDirective line).1).shell.command style room (cutDirective line).2).after
        (sh.directive style (cutDirective line).1).out := by
  rw [command.eq_def, if_pos takes]
  simp only [if_neg goes, if_neg behind]

theorem command_of_spent {sh : Shell} {line : Text} (takes : sh.takesDirective line = true)
    (goes : ¬ (sh.directive style (cutDirective line).1).halts = true)
    (behind : ¬ (cutDirective line).2 = []) :
    sh.command style 0 line =
      { sh.directive style (cutDirective line).1 with ending := .crashed .recursion } := by
  rw [command.eq_def, if_pos takes]
  simp only [if_neg goes, if_neg behind]

end Shell

end LetLang
