import LetLang.Proofs.Session.Collecting
import LetLang.Proofs.Shell.Journal
import LetLang.Proofs.Spacing.Reading

/-! # Lines of a shell as one text

The shell strips its lines and passes over blank ones, so the text that it cuts is not the text
that is typed. Both are squeezed to the same, though, line after line, and the journal of the
lines is that of the series of the statements in their joined text.
-/
namespace LetLang

open Text (spaced Plain)
open Statement (Unterminated Cuts ended series)

namespace Session

end Session

namespace Shell

/-- A line of statements: it has no directives and does not end the input. -/
structure Ordinary (line : Text) : Prop where
  noHash : '#' ∉ line
  goesOn : Text.strip line ≠ endLine

/-- What feeding lines comes to, told by a series and by text that still waits. -/
structure Runs (style : Style) (room : Nat) (sh : Shell) (lines : List Text) (rest : Text) (s : Series) :
    Prop where
  journal : ∃ later, sh.journals style room lines = ran sh.session.handler.location s ++ later ∧
    (s.error = none → later = [])
  passed : s.error = none → (sh.after style room lines).session.env = s.left ∧
    (sh.after style room lines).session.handler = sh.session.handler ∧
    spaced (sh.after style room lines).session.pending = spaced rest

variable (style : Style) {room : Nat} {showEnv : Bool} {sh : Shell}

theorem takesDirective_strip {line : Text} (h : '#' ∉ line) :
    sh.takesDirective (Text.strip line) = false := by
  obtain ⟨front, back, split, _⟩ := Text.exists_strip line
  have none : '#' ∉ Text.strip line := by
    intro member
    rw [split] at h
    exact h (by simp [member])
  unfold takesDirective
  cases text : Text.strip line with
  | nil => simp
  | cons c t =>
    rw [text] at none
    have differs : c ≠ '#' := by
      rintro rfl
      exact none List.mem_cons_self
    simp [differs]

theorem feed_ordinary {line : Text} (ordinary : Ordinary line) (visible : ¬ Text.strip line = []) :
    sh.feed style room line = sh.statements style room (Text.strip line) ∧
      sh.journal style room line = sh.completed room (Text.strip line) := by
  have plain : ¬ sh.takesDirective (Text.strip line) = true := by
    simp [takesDirective_strip ordinary.noHash]
  refine ⟨?_, ?_⟩
  · simp only [Shell.feed, if_neg visible, if_neg ordinary.goesOn]
    rw [Shell.command.eq_def, if_neg plain]
  · rw [Shell.journal, if_neg visible, if_neg ordinary.goesOn, commanded_of_statements style plain]

/-- Whatever is fed behind a failure, the series is at its end. -/
theorem Runs.stop {style : Style} {line rest : Text} {s : Series} (h : Runs style room sh [line] rest s)
    {e : StatementError} (error : s.error = some e) (lines : List Text) (rest' : Text) :
    Runs style room sh (line :: lines) rest' s := by
  have failed : s.error ≠ none := by simp [error]
  obtain ⟨later, journal, _⟩ := h.journal
  refine ⟨⟨later ++ (sh.after style room [line]).journals style room lines, ?_, ?_⟩, ?_⟩
  case refine_2 | refine_3 => exact fun passed => absurd passed failed
  rw [← List.append_assoc, ← journal]
  exact journals_append style room sh [line] lines

theorem ran_append {s : Series} (passed : s.error = none) (later : Series)
    (location : Option Location) :
    ran location (s.append later) = ran location s ++ ran location later := by
  simp only [ran, Series.append, passed, List.map_append, List.append_assoc, List.nil_append]

theorem Runs.go {style : Style} {line rest rest' : Text} {lines : List Text} {s later : Series}
    (h : Runs style room sh [line] rest s) (passed : s.error = none)
    (more : Runs style room (sh.after style room [line]) lines rest' later) :
    Runs style room sh (line :: lines) rest' (s.append later) := by
  obtain ⟨_, handler, _⟩ := h.passed passed
  obtain ⟨behind, journal, nothing⟩ := h.journal
  obtain ⟨behind', journal', nothing'⟩ := more.journal
  obtain rfl := nothing passed
  refine ⟨⟨behind', ?_, nothing'⟩, fun last => ?_⟩
  · have whole := journals_append style room sh [line] lines
    rw [journal, journal', handler, List.append_nil, ← List.append_assoc, ← ran_append passed] at whole
    exact whole
  · rw [← handler]
    exact more.passed last

end Shell

end LetLang
