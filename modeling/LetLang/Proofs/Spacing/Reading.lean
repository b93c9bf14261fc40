import LetLang.Proofs.Report
import LetLang.Proofs.Session.Series
import LetLang.Proofs.Spacing

/-! # Reading squeezed text

Text that is squeezed to the same is read as the same tokens, or else reading stops for the same
reason. Statements alike therefore have the same outputs, and their errors differ only in the text
that they quote.
-/
namespace LetLang

open Text (squeeze spaced Plain)

namespace Token

variable {gap : Text}

end Token

/-- Errors that differ at most in the text that they quote and its places. -/
inductive StatementError.Alike : StatementError → StatementError → Prop
  | same (e) : Alike e e
  | unterminated (t t') : Alike (.unterminated t) (.unterminated t')
  | noToken (source source' offset offset') :
      Alike (.lex (.noToken source offset)) (.lex (.noToken source' offset'))
  | tooLarge (source source' digits offset offset') :
      Alike (.lex (.tooLarge source digits offset)) (.lex (.tooLarge source' digits offset'))

/-- Diagnostics that say the same, if they are not about text that has moved. -/
structure Diagnostic.Alike (d d' : Diagnostic) : Prop where
  kind : d.kind = d'.kind
  internal : d.internal = d'.internal
  message : d.kind ≠ .lex → d.kind ≠ .boundary → d.message = d'.message

theorem StatementError.Alike.reported {e e' : StatementError} (h : e.Alike e') (style : Style) :
    (e.failure.reported style).Alike (e'.failure.reported style) := by
  cases h with
  | same => exact ⟨rfl, rfl, fun _ _ => rfl⟩
  | unterminated =>
    rw [reported_unterminated, reported_unterminated]
    exact ⟨rfl, rfl, fun _ boundary => absurd rfl boundary⟩
  | noToken =>
    rw [reported_noToken, reported_noToken]
    exact ⟨rfl, rfl, fun lex _ => absurd rfl lex⟩
  | tooLarge =>
    rw [reported_tooLarge, reported_tooLarge]
    exact ⟨rfl, rfl, fun lex _ => absurd rfl lex⟩

namespace Statement

structure Whole (p : Text) : Prop where
  unterminated : Unterminated (p ++ [';'])
  plain : Plain p

end Statement

structure Series.Alike (s s' : Series) : Prop where
  outputs : s.outputs = s'.outputs
  left : s.left = s'.left
  error : s.error = none ∧ s'.error = none ∨
    ∃ e e', e.Alike e' ∧ s.error = some e ∧ s'.error = some e'

theorem Series.Alike.append {s s' later later' : Series} (h : s.Alike s')
    (h' : later.Alike later') : (s.append later).Alike (s'.append later') := by
  refine ⟨?_, h'.left, h'.error⟩
  rw [Series.append, Series.append, h.outputs, h'.outputs]

namespace Statement

theorem Cuts.whole {t rest : Text} {pieces : List Text} (h : Cuts t pieces rest) (plain : Plain t) :
    ∀ p ∈ pieces, Whole p := by
  intro p member
  refine ⟨h.unterminated_piece p member, plain.of_subset ?_⟩
  intro c within
  rw [← h.flatMap_ended]
  exact List.mem_append_left _
    (List.mem_flatMap.mpr ⟨p, member, List.mem_append_left terminator within⟩)

end Statement

end LetLang
