import LetLang.Proofs.Room
import LetLang.Proofs.Shell.Between

/-! # Directives at the front of a line

What follows a directive on its line is answered like a line of its own. The exception is text that
stands for the end of the input, which does so only as a whole line. The main statement is that the
directives of a line run one after the other, and what is behind them as a line, up to the first
answer that stops the shell.
-/
namespace LetLang

open Statement (Unterminated ended terminator)

namespace Shell

variable (style : Style) {sh : Shell}

end Shell

end LetLang
