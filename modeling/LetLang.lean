import LetLang.Main
import LetLang.Proofs.BigStep
import LetLang.Proofs.Frame
import LetLang.Proofs.Grammar
import LetLang.Proofs.Grammar.Reading
import LetLang.Proofs.Spelling
import LetLang.Proofs.Grammar.Reached
import LetLang.Proofs.Template
import LetLang.Proofs.Message
import LetLang.Proofs.Grammar.Parsing
import LetLang.Proofs.Cutting
import LetLang.Proofs.Session.History
import LetLang.Proofs.Session.Collecting
import LetLang.Proofs.Session.Series
import LetLang.Proofs.Report
import LetLang.Proofs.Session.File
import LetLang.Proofs.Range
import LetLang.Proofs.Shell.Agreement
import LetLang.Proofs.Shell.Range
import LetLang.Proofs.Grammar.Refusal
import LetLang.Proofs.Substitution
import LetLang.Proofs.Announcement
import LetLang.Proofs.Shell.OneLine
import LetLang.Proofs.Arithmetic
import LetLang.Proofs.Locality
import LetLang.Proofs.Typing
import LetLang.Proofs.Grammar.Writing
import LetLang.Proofs.Spelling.Stop
import LetLang.Proofs.Failing
import LetLang.Proofs.Quoting
import LetLang.Proofs.ReadBack
import LetLang.Proofs.Shell.Between
import LetLang.Proofs.Printing
import LetLang.Proofs.Naming
import LetLang.Proofs.Markup
import LetLang.Proofs.Markup.Filling
import LetLang.Proofs.Markup.Errors
import LetLang.Proofs.Shell.Markup
import LetLang.Proofs.Shell.Directives
import LetLang.Proofs.Pointing
import LetLang.Proofs.Session.Numbering
import LetLang.Proofs.Session.Delivery
import LetLang.Proofs.Families
