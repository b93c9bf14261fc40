import LetLang.Proofs.Room
import LetLang.Proofs.Session.File
import LetLang.Proofs.Shell.Lines

/-! # Files and shells agree

A text may be run as a file or typed line by line. A file has more line ends than the shell, which
strips its lines and passes over blank ones, but both runs are told by the series of the statements
of the text itself.
-/
namespace LetLang

open Text (spaced Plain)
open Statement (Unterminated Cuts ended series)

def Series.results (s : Series) : Text := s.outputs.flatMap fun out => Text.line out.1.text

namespace Shell

variable (style : Style) {room : Nat} {sh : Shell}

end Shell

end LetLang
