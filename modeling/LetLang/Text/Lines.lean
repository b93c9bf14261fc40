import LetLang.Text

/-! # Lines

How a text falls into lines. A line end closes a line; a text that ends in one has no empty
last line.
-/
namespace LetLang.Text

/-- Reads on in a line, kept reversed like the lines already closed. -/
def linesFrom (ends : Char → Bool) (closed : List Text) (line : Text) : Text → List Text
  | [] => (if line.isEmpty then closed else line.reverse :: closed).reverse
  | c :: rest =>
    if ends c then linesFrom ends (line.reverse :: closed) [] rest
    else linesFrom ends closed (c :: line) rest

def linesBy (ends : Char → Bool) (t : Text) : List Text := linesFrom ends [] [] t

/-- The characters that end a line of a file: line feed, vertical tab, form feed, three of the
information separators, next line, line separator and paragraph separator. -/
def endsFileLine (c : Char) : Bool :=
  let n := c.toNat
  (0x0a ≤ n && n ≤ 0x0c) || (0x1c ≤ n && n ≤ 0x1e) || n == 0x85 || n == 0x2028 || n == 0x2029

/-- The lines of a file's text, whose line ends are already unified. -/
def fileLines (t : Text) : List Text := linesBy endsFileLine t

/-- The lines typed at a terminal, which only a line feed ends. -/
def inputLines (t : Text) : List Text := linesBy (· == '\n') t

/-- Reads on after a text kept reversed, writing each line end as a line feed. -/
def unifyFrom (done : Text) : Text → Text
  | [] => done.reverse
  | '\r' :: '\n' :: rest => unifyFrom ('\n' :: done) rest
  | '\r' :: rest => unifyFrom ('\n' :: done) rest
  | c :: rest => unifyFrom (c :: done) rest

/-- A carriage return, alone or before a line feed, is read as a line feed. -/
def unifyLineEnds (t : Text) : Text := unifyFrom [] t

theorem linesFrom_closed (ends : Char → Bool) (closed : List Text) (line t : Text) :
    linesFrom ends closed line t = closed.reverse ++ linesFrom ends [] line t := by
  induction t generalizing closed line with
  | nil => by_cases h : line.isEmpty <;> simp [linesFrom, h]
  | cons c t ih =>
    by_cases h : ends c
    · simp only [linesFrom, h, if_true]
      rw [ih (line.reverse :: closed), ih [line.reverse]]
      simp
    · simp only [linesFrom, h]
      exact ih closed (c :: line)

end LetLang.Text
