import LetLang.Text

/-! # Marked-up text

Printed text is either plain or marked up with terminal colours. Markup surrounds a text, the
empty text included, and leaves the characters of the text as they are.
-/
namespace LetLang

inductive Style where
  | plain
  | colored
  deriving DecidableEq, Repr

namespace Style

def setting (code : Nat) : Text := ['\x1b', '['] ++ Text.ofNat code ++ ['m']

/-- A text with the attributes set before it and cleared after it. -/
def marked (codes : List Nat) (t : Text) : Text :=
  codes.flatMap setting ++ t ++ setting 0

/-- A text that stands out: the subjects of a message. -/
def bold : Style → Text → Text
  | .plain, t => t
  | .colored, t => marked [1] t

/-- A text that warns: the tag of an error, and the place it points at. -/
def alert : Style → Text → Text
  | .plain, t => t
  | .colored, t => marked [1, 31] t

end Style

end LetLang
