import LetLang.Text.Blank

/-! # Cutting text into statements

A statement ends with a double semicolon. Text is cut after each terminator from left to
right, so terminators never overlap; what follows the last one is left over.
-/
namespace LetLang.Statement

def terminator : Text := [';', ';']

/-- Reads on to the first terminator; the text before it is kept reversed. -/
def cutFrom (before : Text) : Text → Option (Text × Text)
  | ';' :: ';' :: rest => some (before.reverse, rest)
  | c :: rest => cutFrom (c :: before) rest
  | [] => none

/-- The text before the first terminator and the text after it. -/
def cut? (t : Text) : Option (Text × Text) := cutFrom [] t

/-- Reads on in a statement, kept reversed like the statements already complete. -/
def splitFrom (complete : List Text) (before : Text) : Text → List Text × Text
  | ';' :: ';' :: rest => splitFrom ((before.reverse ++ terminator) :: complete) [] rest
  | c :: rest => splitFrom complete (c :: before) rest
  | [] => (complete.reverse, before.reverse)

/-- The statements of a text with their terminators, and the text left over. -/
def split (t : Text) : List Text × Text := splitFrom [] [] t

theorem append_of_cutFrom {before t front rest : Text}
    (h : cutFrom before t = some (front, rest)) :
    before.reverse ++ t = front ++ terminator ++ rest := by
  induction before, t using cutFrom.induct with
  | case1 before rest' =>
    simp only [cutFrom, Option.some.injEq, Prod.mk.injEq] at h
    simp [← h.1, ← h.2, terminator]
  | case2 before c rest' hne ih =>
    rw [cutFrom] at h
    · simpa using ih h
    · exact hne
  | case3 before => simp [cutFrom] at h

/-- Cutting loses nothing but puts the terminator aside. -/
theorem append_of_cut? {t front rest : Text} (h : cut? t = some (front, rest)) :
    t = front ++ terminator ++ rest := by
  simpa using append_of_cutFrom h

end LetLang.Statement
