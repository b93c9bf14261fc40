import LetLang.Proofs.Printing
import LetLang.Proofs.Report

/-! # Erasing markup

Markup is erased by deleting its sequences from left to right. Text in which no sequence begins is
kept, wherever it stands, so that a text which is put together is erased part by part.
-/
namespace LetLang

/-- A text without the character that sequences of markup begin with. -/
def Text.Bare (t : Text) : Prop := '\x1b' ∉ t

namespace Text

instance (t : Text) : Decidable t.Bare := inferInstanceAs (Decidable ('\x1b' ∉ t))

theorem bare_append {t u : Text} : (t ++ u).Bare ↔ t.Bare ∧ u.Bare := by
  simp only [Bare, List.mem_append, not_or]

theorem bare_cons {c : Char} {t : Text} : Bare (c :: t) ↔ c ≠ '\x1b' ∧ t.Bare := by
  rw [Bare, List.mem_cons, not_or, ne_comm]
  rfl

theorem Bare.of_subset {t u : Text} (h : t.Bare) (part : u ⊆ t) : u.Bare :=
  fun member => h (part member)

/-- The characters of a literal are told by the literal; decoding it would take long. -/
theorem bare_literal {literal : List Char} (h : literal.all (· != '\x1b') = true) :
    Bare (String.ofList literal) := by
  rw [String.toList_ofList]
  intro member
  exact absurd (List.all_eq_true.mp h _ member) (by decide)

theorem Inner.bare {t : Text} (h : t.Inner) : t.Bare := by
  intro member
  exact absurd (h _ member) (by decide)

end Text

namespace Style

open Text (Bare)

/-- The characters between the bracket of a sequence and its letter. -/
def isParameter (c : Char) : Bool := c.isDigit || c == ';'

def behind? : Text → Option Text
  | '\x1b' :: '[' :: rest =>
    match rest.dropWhile isParameter with
    | 'm' :: behind => some behind
    | _ => none
  | _ => none

theorem length_of_behind? {t behind : Text} (h : behind? t = some behind) :
    behind.length < t.length := by
  unfold behind? at h
  split at h
  · split at h
    · rename_i rest _ _ found
      cases h
      have shorter := (List.dropWhile_sublist (l := rest) isParameter).length_le
      rw [found] at shorter
      simp only [List.length_cons] at shorter ⊢
      omega
    · cases h
  · cases h

/-- A text without sequences of markup: each is deleted where reading comes to it. -/
def erase (t : Text) : Text :=
  match t with
  | [] => []
  | c :: rest =>
    match _ : behind? (c :: rest) with
    | some behind => erase behind
    | none => c :: erase rest
termination_by t.length
decreasing_by
  · exact length_of_behind? (by assumption)
  · exact Nat.lt_succ_self _

theorem erase_of_some {t behind : Text} (h : behind? t = some behind) : erase t = erase behind := by
  cases t with
  | nil => cases h
  | cons c rest =>
    rw [erase]
    split
    · rename_i found
      rw [Option.some.inj (found.symm.trans h)]
    · rename_i none
      cases none.symm.trans h

theorem erase_cons {c : Char} (h : c ≠ '\x1b') (rest : Text) :
    erase (c :: rest) = c :: erase rest := by
  rw [erase]
  split
  · rename_i found
    unfold behind? at found
    split at found
    · rename_i same
      exact absurd (List.cons_eq_cons.mp same).1 h
    · cases found
  · rfl

/-- A text that comes to another one when its markup is erased, whatever stands behind it. -/
def Erases (marked plain : Text) : Prop := ∀ t, erase (marked ++ t) = plain ++ erase t

theorem Erases.erase_eq {marked plain : Text} (h : Erases marked plain) : erase marked = plain := by
  have alone := h []
  rw [List.append_nil, erase, List.append_nil] at alone
  exact alone

theorem Erases.append {marked plain marked' plain' : Text} (h : Erases marked plain)
    (h' : Erases marked' plain') : Erases (marked ++ marked') (plain ++ plain') := by
  intro t
  rw [List.append_assoc, h, h', List.append_assoc]

theorem erases_bare {t : Text} (h : t.Bare) : Erases t t := by
  intro u
  induction t with
  | nil => rfl
  | cons c t ih =>
    obtain ⟨first, rest⟩ := Text.bare_cons.mp h
    rw [List.cons_append, erase_cons first, ih rest, List.cons_append]

theorem erases_setting (code : Nat) : Erases (setting code) [] := by
  intro t
  have digits : ∀ c ∈ Text.ofNat code, isParameter c = true := by
    intro c member
    have digit := Nat.isDigit_of_mem_toDigits (by decide) (by decide) member
    rw [isParameter, digit, Bool.true_or]
  have read : (Text.ofNat code ++ 'm' :: t).dropWhile isParameter = 'm' :: t :=
    List.dropWhile_append_of_pos digits
  have found : behind? (setting code ++ t) = some t := by
    have shape : setting code ++ t = '\x1b' :: '[' :: (Text.ofNat code ++ 'm' :: t) := by
      simp [setting]
    rw [shape]
    simp only [behind?, read]
  rw [erase_of_some found, List.nil_append]

theorem erases_settings (codes : List Nat) : Erases (codes.flatMap setting) [] := by
  induction codes with
  | nil => exact fun t => rfl
  | cons code codes ih => exact (erases_setting code).append ih

theorem Erases.marked {t plain : Text} (h : Erases t plain) (codes : List Nat) :
    Erases (marked codes t) plain := by
  have whole := ((erases_settings codes).append h).append (erases_setting 0)
  rw [List.nil_append, List.append_nil] at whole
  exact whole

theorem erases_bold (style : Style) {t : Text} (h : t.Bare) : Erases (style.bold t) t := by
  cases style with
  | plain => exact erases_bare h
  | colored => exact (erases_bare h).marked [1]

theorem erases_alert (style : Style) {t : Text} (h : t.Bare) : Erases (style.alert t) t := by
  cases style with
  | plain => exact erases_bare h
  | colored => exact (erases_bare h).marked [1, 31]

end Style

namespace Diagnostic

open Style (Erases erases_bare erases_alert)

theorem erases_underline (style : Style) {d : Diagnostic} (h : d.subject.Bare) :
    Erases (d.underline style) (d.underline .plain) := by
  have before : Text.Bare d.parts.1 := h.of_subset (List.take_subset _ _)
  have place : Text.Bare d.parts.2.1 :=
    h.of_subset (List.Subset.trans (List.drop_subset _ _) (List.take_subset _ _))
  have behind : Text.Bare d.parts.2.2 := h.of_subset (List.drop_subset _ _)
  have indented : Text.Bare ("  " ++ d.parts.1) := Text.bare_append.mpr ⟨by decide, before⟩
  have gap : Text.Bare (List.replicate d.parts.1.length ' ') := by
    intro member
    cases List.eq_of_mem_replicate member
  have mark : Text.Bare (marker d.parts.2.1.length) := by
    refine Text.bare_cons.mpr ⟨by decide, fun member => ?_⟩
    cases List.eq_of_mem_replicate member
  have upper := ((erases_bare indented).append (erases_alert style place)).append (erases_bare behind)
  have lower := (upper.append (erases_bare (t := "\n  ") (by decide))).append (erases_bare gap)
  exact lower.append (erases_alert style mark)

/-- A diagnostic that differs from another one only by the markup of its message. -/
structure Marks (marked plain : Diagnostic) : Prop where
  styled : Erases marked.styled plain.styled
  same : marked = { plain with styled := marked.styled }
  bare : plain.subject.Bare

def erased (d : Diagnostic) : Diagnostic := { d with styled := Style.erase d.styled }

theorem Marks.erased_eq {marked plain : Diagnostic} (h : marked.Marks plain) :
    marked.erased = plain := by
  rw [erased, h.same, h.styled.erase_eq]

end Diagnostic

namespace Handler

open Style (Erases erases_bare erases_alert)

theorem erases_report {h : Handler} {marked plain : Diagnostic} (marks : marked.Marks plain)
    (unlocated : h.location = none) : Erases (h.report .colored marked) (h.report .plain plain) := by
  obtain ⟨fatal, location⟩ := h
  cases unlocated
  obtain ⟨styled, same, bare⟩ := marks
  have tagged : Text.Bare (tag plain) := by
    unfold tag
    split <;> decide
  have message := (erases_alert .colored tagged).append styled
  have lineEnd := erases_bare (t := ['\n']) (by decide)
  have underlined := (message.append lineEnd).append (Diagnostic.erases_underline .colored bare)
  generalize marked.styled = text at same message underlined
  subst same
  have lines (style : Style) (d : Diagnostic) : reportLines style ⟨fatal, none⟩ d =
      (style.alert (tag d) ++ d.styled) ::
        if d.diagnosis && !d.subject.isEmpty && !d.internal then [d.underline style] else [] := rfl
  unfold report
  simp only [lines]
  cases plain.diagnosis && !plain.subject.isEmpty && !plain.internal with
  | true =>
    simp only [if_true, Text.join_cons_cons, Text.join_singleton]
    exact underlined.append lineEnd
  | false =>
    simp only [Bool.false_eq_true, if_false, Text.join_singleton]
    exact message.append lineEnd

end Handler

end LetLang
