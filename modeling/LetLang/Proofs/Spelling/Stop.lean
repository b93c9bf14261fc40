import LetLang.Proofs.Report
import LetLang.Proofs.Spelling
import Mathlib.Data.List.Basic

/-! # Where reading tokens stops

A character that begins no token and a run of digits above the largest integer cannot be read. Both
are told by the text around them, whatever tokens stand in front. The main statement is that tokens
are read exactly if a text has no such place, and that the report is else about the first of them.
-/
namespace LetLang

namespace Token

/-- A character that begins neither a token nor a gap, with the text behind it. -/
structure Stray (c : Char) (after : Text) : Prop where
  gap : isGap c = false
  digit : c.isDigit = false
  letter : c.isAlpha = false
  punct : ∀ p ∈ puncts, ¬ p <+: c :: after

/-- A whole run of digits, with the text around it, that stands for no integer of the language. -/
structure Excessive (before digits after : Text) : Prop where
  front : ∀ c ∈ before.getLast?, c.isDigit = false
  all : ∀ c ∈ digits, c.isDigit = true
  back : ∀ c ∈ after.head?, c.isDigit = false
  large : maxNumber < Text.toNat digits

/-- A place that cannot be read, with the text before it and the text behind it. -/
inductive Unreadable : Text → Text → Text → Prop
  | stray {before c after} : Stray c after → Unreadable before [c] after
  | excessive {before digits after} : Excessive before digits after → Unreadable before digits after

/-- The first place of a text that cannot be read; what stands before it has tokens. -/
structure Stops (before place after : Text) : Prop where
  unreadable : Unreadable before place after
  spelled : ∃ tokens, Spells before tokens
  first : ∀ before' place' after', before ++ (place ++ after) = before' ++ (place' ++ after') →
    Unreadable before' place' after' → before.length ≤ before'.length

end Token

def Text.Readable (t : Text) : Prop :=
  ∀ before place after, t = before ++ (place ++ after) → ¬ Token.Unreadable before place after

/-- A text in which no run of digits is longer than a numeral may be. -/
def Text.ShortRuns (t : Text) : Prop :=
  ∀ run, run <:+: t → (∀ c ∈ run, c.isDigit = true) → run.length ≤ Numeral.maxDigits

open Token

theorem Token.Excessive.ne_nil {before digits after : Text} (h : Excessive before digits after) :
    digits ≠ [] := by
  rintro rfl
  exact absurd h.large (by decide)

theorem Token.Unreadable.ne_nil {before place after : Text} (h : Unreadable before place after) :
    place ≠ [] := by
  cases h with
  | stray => exact List.cons_ne_nil _ _
  | excessive h => exact h.ne_nil

/-- What is read off the front of a text: nothing within it is unreadable, and no run of digits goes
on behind it. -/
structure Token.Piece (t rest : Text) : Prop where
  within : ∀ x c y place after, t = x ++ c :: y → (c :: y) ++ rest = place ++ after →
    ¬ Unreadable x place after
  apart : ∀ c ∈ t.getLast?, c.isDigit = true → ∀ d ∈ rest.head?, d.isDigit = false

namespace Token.Piece

variable {t rest : Text}

theorem behind (h : Piece t rest) {before place after : Text}
    (split : t ++ rest = before ++ (place ++ after)) (unreadable : Unreadable before place after) :
    ∃ front, before = t ++ front ∧ rest = front ++ (place ++ after) ∧
      Unreadable front place after := by
  rcases List.append_eq_append_iff.mp split with ⟨front, rfl, rest_eq⟩ | ⟨inner, t_eq, tail⟩
  · refine ⟨front, rfl, rest_eq, ?_⟩
    cases unreadable with
    | stray stray => exact .stray stray
    | excessive run =>
      refine .excessive ⟨fun c last => ?_, run.all, run.back, run.large⟩
      refine run.front c ?_
      rw [List.getLast?_append, Option.mem_def.mp last]
      rfl
  · cases inner with
    | nil =>
      rw [List.append_nil] at t_eq
      subst t_eq
      refine ⟨[], (List.append_nil _).symm, tail.symm, ?_⟩
      cases unreadable with
      | stray stray => exact .stray stray
      | excessive run =>
        exact .excessive ⟨fun c last => absurd last (by simp), run.all, run.back, run.large⟩
    | cons c y => exact absurd unreadable (h.within before c y place after t_eq tail.symm)

/-- A run of digits does not reach back into a piece. -/
theorem excessive (h : Piece t rest) {front digits after : Text}
    (split : rest = front ++ (digits ++ after)) (run : Excessive front digits after) :
    Excessive (t ++ front) digits after := by
  refine ⟨fun c last => ?_, run.all, run.back, run.large⟩
  cases front with
  | cons d front =>
    refine run.front c ?_
    rw [List.getLast?_append, List.getLast?_cons] at last
    rw [List.getLast?_cons]
    exact last
  | nil =>
    rw [List.append_nil] at last
    obtain ⟨d, digits, rfl⟩ := List.exists_cons_of_ne_nil run.ne_nil
    have digit := run.all d List.mem_cons_self
    cases isDigit : c.isDigit with
    | false => rfl
    | true =>
      have next := h.apart c last isDigit d (by rw [split]; rfl)
      exact absurd (digit.symm.trans next) Bool.noConfusion

/-- The first unreadable place stays the first behind a piece. -/
theorem stops (h : Piece t rest) {front place after : Text} (split : rest = front ++ (place ++ after))
    (stop : Stops front place after)
    (spelled : ∀ tokens, Spells front tokens → ∃ more, Spells (t ++ front) more) :
    Stops (t ++ front) place after := by
  refine ⟨?_, ?_, ?_⟩
  · cases stop.unreadable with
    | stray stray => exact .stray stray
    | excessive run => exact .excessive (h.excessive split run)
  · obtain ⟨tokens, read⟩ := stop.spelled
    exact spelled tokens read
  · intro before' place' after' same unreadable
    rw [List.append_assoc, ← split] at same
    obtain ⟨front', rfl, split', unreadable'⟩ := h.behind same unreadable
    have bound := stop.first front' place' after' (split.symm.trans split') unreadable'
    rw [List.length_append, List.length_append]
    exact Nat.add_le_add_left bound _

end Token.Piece

theorem piece_gap {c : Char} (h : isGap c = true) (rest : Text) : Piece [c] rest := by
  have noDigit : c.isDigit = false := continues_gap (.number []) h
  refine ⟨?_, ?_⟩
  · intro x d y place after split tail unreadable
    obtain ⟨rfl, single⟩ | ⟨x', rfl, single⟩ := List.cons_eq_append_iff.mp split
    · obtain ⟨rfl, rfl⟩ := List.cons_eq_cons.mp single
      cases unreadable with
      | stray stray =>
        cases tail
        exact absurd (stray.gap.symm.trans h) Bool.noConfusion
      | excessive run =>
        obtain ⟨e, digits, rfl⟩ := List.exists_cons_of_ne_nil run.ne_nil
        cases tail
        exact absurd ((run.all _ List.mem_cons_self).symm.trans noDigit) Bool.noConfusion
    · exact absurd single (by simp)
  · intro d last digit
    cases last
    exact absurd (noDigit.symm.trans digit) Bool.noConfusion

/-- Only numbers have digits. -/
theorem Token.Readable.isNumber_of_digit {t : Token} (h : t.Readable) {c : Char} (member : c ∈ t.text)
    (digit : c.isDigit = true) : ∃ digits, t = .number digits := by
  have noLetter := isAlpha_of_isDigit digit
  cases t with
  | number digits => exact ⟨digits, rfl⟩
  | punct p =>
    have none : ∀ p ∈ puncts, p.all (fun c => !c.isDigit) = true := by decide
    have here := List.all_eq_true.mp (none p h) c member
    rw [digit] at here
    exact absurd here Bool.noConfusion
  | keyword word =>
    have letter := (letters_of_keyword h).2 c member
    exact absurd (noLetter.symm.trans letter) Bool.noConfusion
  | ident name => exact absurd (noLetter.symm.trans (h.2.1 c member)) Bool.noConfusion

/-- Every character of a token begins a token. -/
theorem Token.Readable.not_stray {t : Token} (h : t.Readable) {x y : Text} {c : Char}
    (split : t.text = x ++ c :: y) (rest : Text) : ¬ Stray c (y ++ rest) := by
  intro stray
  have member : c ∈ t.text := by simp [split]
  cases t with
  | number digits => exact absurd (stray.digit.symm.trans (h.2.1 c member)) Bool.noConfusion
  | punct p =>
    have text : p = x ++ c :: y := split
    cases x with
    | nil =>
      refine stray.punct p h ?_
      rw [text]
      exact List.prefix_append (c :: y) rest
    | cons d x =>
      have second : ∀ p ∈ puncts, p.tail.all (· == '=') = true := by decide
      have equals := List.all_eq_true.mp (second p h) c (by simp [text])
      obtain rfl : c = '=' := eq_of_beq equals
      exact stray.punct ['='] (by decide) ⟨y ++ rest, rfl⟩
  | keyword word =>
    have letter := (letters_of_keyword h).2 c member
    exact absurd (stray.letter.symm.trans letter) Bool.noConfusion
  | ident name => exact absurd (stray.letter.symm.trans (h.2.1 c member)) Bool.noConfusion

theorem piece_token {t : Token} (h : t.Readable) {rest : Text} (ends : t.EndsAt rest) :
    Piece t.text rest := by
  refine ⟨?_, ?_⟩
  · intro x c y place after split tail unreadable
    cases unreadable with
    | stray stray =>
      obtain ⟨rfl, rfl⟩ := List.cons_eq_cons.mp tail
      exact h.not_stray split rest stray
    | excessive run =>
      obtain ⟨d, digits, rfl⟩ := List.exists_cons_of_ne_nil run.ne_nil
      obtain ⟨rfl, same⟩ := List.cons_eq_cons.mp tail
      have member : c ∈ t.text := by simp [split]
      obtain ⟨all, rfl⟩ := h.isNumber_of_digit member (run.all c List.mem_cons_self)
      have whole : all = x ++ c :: y := split
      rcases List.eq_nil_or_concat x with rfl | ⟨x, e, rfl⟩
      · -- both runs go on as long as there are digits, so the number would be the excessive one
        have mine : (all ++ rest).takeWhile Char.isDigit = all := takeWhile_of_head h.2.1 ends
        have other := takeWhile_of_head run.all run.back
        rw [whole, List.nil_append, tail, other] at mine
        have small := h.2.2.2
        rw [whole, List.nil_append, ← mine] at small
        exact absurd run.large (Nat.not_lt.mpr small)
      · have digit : e.isDigit = true := h.2.1 e (by simp [whole])
        have noDigit := run.front e (by simp)
        exact absurd (digit.symm.trans noDigit) Bool.noConfusion
  · intro c last digit d head
    obtain ⟨digits, rfl⟩ := h.isNumber_of_digit (List.mem_of_getLast? last) digit
    exact ends d head

/-- What a stop tells of the text that is read. -/
def LexStop.Tells (s : Text) : LexStop → Prop
  | .noToken rest => ∃ before c after, rest = c :: after ∧ s = before ++ rest ∧ Stray c after ∧
      Stops before [c] after
  | .tooLarge digits rest => ∃ before after, rest = digits ++ after ∧ s = before ++ rest ∧
      Excessive before digits after ∧ Stops before digits after
  | .tooManyDigits count => ∃ run, run <:+: s ∧ (∀ c ∈ run, c.isDigit = true) ∧
      run.length = count ∧ Numeral.maxDigits < count

/-- What the reading of a text tells of it, whether or not it stops. -/
def Token.Tells (s : Text) : Except LexStop (List Token) → Prop
  | .ok _ => s.Readable
  | .error stop => stop.Tells s

theorem Token.Piece.tells {t rest : Text} (piece : Piece t rest)
    (spelled : ∀ front, front <+: rest → ∀ tokens, Spells front tokens →
      ∃ more, Spells (t ++ front) more) {result : Except LexStop (List Token)}
    (h : Token.Tells rest result) : Token.Tells (t ++ rest) result := by
  rcases result with stop | tokens
  · cases stop with
    | noToken left =>
      obtain ⟨front, c, after, rfl, split, stray, stops⟩ := h
      refine ⟨t ++ front, c, after, rfl, ?_, stray, ?_⟩
      · rw [split, List.append_assoc]
      · exact piece.stops split stops (spelled front ⟨_, split.symm⟩)
    | tooLarge digits left =>
      obtain ⟨front, after, rfl, split, run, stops⟩ := h
      refine ⟨t ++ front, after, rfl, ?_, piece.excessive split run, ?_⟩
      · rw [split, List.append_assoc]
      · exact piece.stops split stops (spelled front ⟨_, split.symm⟩)
    | tooManyDigits count =>
      obtain ⟨run, part, digits, length, long⟩ := h
      exact ⟨run, part.trans (List.suffix_append t rest).isInfix, digits, length, long⟩
  · intro before place after split unreadable
    obtain ⟨front, _, rest_eq, unreadable'⟩ := piece.behind split unreadable
    exact h front place after rest_eq unreadable'

theorem tells_gap {c : Char} (h : isGap c = true) {rest : Text}
    {result : Except LexStop (List Token)} (told : Token.Tells rest result) :
    Token.Tells (c :: rest) result :=
  (piece_gap h rest).tells (fun _ _ tokens spelled => ⟨tokens, spelled.gap h⟩) told

theorem tells_token {t : Token} (h : t.Readable) {rest : Text} (ends : t.EndsAt rest)
    {result : Except LexStop (List Token)} (told : Token.Tells rest result) :
    Token.Tells (t.text ++ rest) result := by
  refine (piece_token h ends).tells (fun front part tokens spelled => ?_) told
  have ends' : t.EndsAt front := by
    obtain ⟨tail, rfl⟩ := part
    cases front with
    | nil => exact fun c head => absurd head (by simp)
    | cons d front => exact ends
  exact ⟨t :: tokens, spelled.cons h ends'⟩

theorem stops_at_start {place after : Text} (h : Unreadable [] place after) :
    Stops [] place after :=
  ⟨h, ⟨[], .nil⟩, fun _ _ _ _ _ => Nat.zero_le _⟩

theorem punct?_ne_none {p rest : Text} (h : p ∈ puncts) : punct? (p ++ rest) ≠ none := by
  by_cases ends : (Token.punct p).EndsAt rest
  · rw [punct?_append h ends]
    exact Option.some_ne_none _
  · -- an equals sign in front of another is read with it
    obtain ⟨c, head, continued⟩ : ∃ c ∈ rest.head?, (Token.punct p).continues c = true := by
      simpa [EndsAt] using ends
    simp only [continues, Bool.and_eq_true, beq_iff_eq] at continued
    obtain ⟨rfl, rfl⟩ := continued
    obtain ⟨tail, rfl⟩ := List.head?_eq_some_iff.mp head
    have double : (Token.punct ['=', '=']).EndsAt tail := fun _ _ => rfl
    have read := punct?_append (p := ['=', '=']) (by decide) double
    rw [List.singleton_append]
    exact fun none => Option.some_ne_none _ (read.symm.trans none)

theorem tells_scan (done : List Token) (s : Text) : Token.Tells s (scan done s) := by
  -- only of the text that is left: what has been read already does not matter
  fun_induction scan done s with
  | case1 done =>
    intro before place after split unreadable
    have none : place = [] :=
      (List.append_eq_nil_iff.mp (List.append_eq_nil_iff.mp split.symm).2).1
    exact unreadable.ne_nil none
  | case2 done c cs gap ih => exact tells_gap gap ih
  | case3 done c cs _ digit digits long =>
    have all : ∀ d ∈ digits, d.isDigit = true := all_run digit cs
    exact ⟨digits, (List.prefix_cons_inj c |>.mpr (List.takeWhile_prefix _)).isInfix, all, rfl, long⟩
  | case4 done c cs _ digit digits short large =>
    have all : ∀ d ∈ digits, d.isDigit = true := all_run digit cs
    have run : Excessive [] digits (cs.dropWhile Char.isDigit) :=
      ⟨fun _ last => absurd last (by simp), all, endsAt_dropWhile cs, large⟩
    refine ⟨[], cs.dropWhile Char.isDigit, ?_, rfl, run, stops_at_start (.excessive run)⟩
    exact congrArg (c :: ·) List.takeWhile_append_dropWhile.symm
  | case5 done c cs _ digit digits short small ih =>
    have all : ∀ d ∈ digits, d.isDigit = true := all_run digit cs
    have readable : (Token.number digits).Readable :=
      ⟨List.cons_ne_nil _ _, all, Nat.not_lt.mp short, Nat.not_lt.mp small⟩
    have ends : (Token.number digits).EndsAt (cs.dropWhile Char.isDigit) := endsAt_dropWhile cs
    have whole := tells_token readable ends ih
    rw [Token.text, List.cons_append, List.takeWhile_append_dropWhile] at whole
    exact whole
  | case6 done c cs _ _ letter ih =>
    have readable := readable_ofWord (List.cons_ne_nil _ _) (all_run letter cs)
    have ends := endsAt_ofWord (c :: cs.takeWhile Char.isAlpha) cs
    have whole := tells_token readable ends ih
    rw [text_ofWord, List.cons_append, List.takeWhile_append_dropWhile] at whole
    exact whole
  | case7 done c cs _ _ _ p rest taken ih =>
    obtain ⟨split, listed, ends⟩ := punct?_eq_some taken
    have whole := tells_token (t := .punct p) listed ends ih
    rw [Token.text, ← split] at whole
    exact whole
  | case8 done c cs gap digit letter none =>
    have stray : Stray c cs := by
      refine ⟨by simpa using gap, by simpa using digit, by simpa using letter, ?_⟩
      rintro p listed ⟨rest, same⟩
      exact punct?_ne_none listed (same ▸ none)
    exact ⟨[], c, cs, rfl, rfl, stray, stops_at_start (.stray stray)⟩

theorem Text.shortRuns_of_length {t : Text} (h : t.length ≤ Numeral.maxDigits) : t.ShortRuns :=
  fun _ part _ => Nat.le_trans part.length_le h

theorem Text.shortRuns_nil : Text.ShortRuns [] := shortRuns_of_length (Nat.zero_le _)

theorem Text.ShortRuns.of_infix {t u : Text} (h : t.ShortRuns) (part : u <:+: t) : u.ShortRuns :=
  fun run within digits => h run (within.trans part) digits

theorem Text.ShortRuns.append_cons {t u : Text} {c : Char} (ht : t.ShortRuns)
    (other : c.isDigit = false) (hu : u.ShortRuns) : (t ++ c :: u).ShortRuns := by
  intro run part digits
  -- a run of digits does not pass the character between, so that it lies on one side of it
  obtain ⟨before, behind, whole⟩ := part
  rw [List.append_assoc] at whole
  rcases List.append_eq_append_iff.mp whole with ⟨inner, t_eq, tail⟩ | ⟨inner, before_eq, tail⟩
  · rcases List.append_eq_append_iff.mp tail with ⟨after, inner_eq, _⟩ | ⟨late, run_eq, tail'⟩
    · exact ht run ⟨before, after, by rw [t_eq, inner_eq, List.append_assoc]⟩ digits
    · cases late with
      | nil =>
        rw [List.append_nil] at run_eq
        exact ht run ⟨before, [], by rw [t_eq, run_eq, List.append_nil]⟩ digits
      | cons d late =>
        obtain ⟨rfl, _⟩ := List.cons_eq_cons.mp tail'
        exact absurd (other.symm.trans (digits c (by simp [run_eq]))) Bool.false_ne_true
  · cases inner with
    | nil =>
      cases run with
      | nil => exact Nat.zero_le _
      | cons d run =>
        obtain ⟨rfl, _⟩ := List.cons_eq_cons.mp tail
        exact absurd (other.symm.trans (digits c List.mem_cons_self)) Bool.false_ne_true
    | cons d inner =>
      obtain ⟨_, rest⟩ := List.cons_eq_cons.mp tail
      rw [List.append_eq, ← List.append_assoc] at rest
      exact hu run ⟨inner, behind, rest.symm⟩ digits

theorem LexStop.Tells.not_tooManyDigits {text : Text} (short : text.ShortRuns) {count : Nat} :
    ¬ (LexStop.tooManyDigits count).Tells text := by
  rintro ⟨run, part, digits, rfl, long⟩
  exact absurd (short run part digits) (Nat.not_le.mpr long)

theorem tokenize_of_scan_error {text : Text} {stop : LexStop} (h : scan [] text = .error stop) :
    tokenize text = .error (locate text stop) := by
  rw [tokenize, h]
  rfl

theorem exists_stop_of_tokenize {text : Text} {error : LexError} (h : tokenize text = .error error) :
    ∃ stop : LexStop, stop.Tells text ∧ error = locate text stop := by
  have told := tells_scan [] text
  cases read : scan [] text with
  | ok tokens => cases (tokenize_eq_ok.mpr read).symm.trans h
  | error stop =>
    rw [read] at told
    exact ⟨stop, told, Except.error.inj (h.symm.trans (tokenize_of_scan_error read))⟩

theorem length_sub_behind (before rest : Text) :
    (before ++ rest).length - rest.length = before.length := by
  rw [List.length_append, Nat.add_sub_cancel]

theorem LexStop.Tells.about {style : Style} {text : Text} {stop : LexStop} {report : Diagnostic}
    (told : stop.Tells text)
    (made : (StatementError.lex (locate text stop)).failure.diagnostic style = .ok report) :
    ∃ before place after, text = before ++ (place ++ after) ∧ Stops before place after ∧
      report.kind = .lex ∧ report.subject = text ∧ report.start = before.length ∧
      report.stop = (before ++ place).length ∧ report.diagnosis = true ∧ report.internal = false ∧
      ((∃ c, place = [c] ∧ Stray c after ∧
          report.message = "failed to tokenize '" ++ (place ++ after) ++ "'") ∨
        (Excessive before place after ∧
          report.message = "failed to parse '" ++ place ++ "' into a 64-bit integer")) := by
  cases stop with
  | noToken rest =>
    obtain ⟨before, c, after, rfl, rfl, stray, stops⟩ := told
    have behind : (before ++ c :: after).drop before.length = c :: after := List.drop_left
    have known := StatementError.diagnostic_noToken style (before ++ c :: after) before.length
    rw [behind] at known
    rw [locate, length_sub_behind] at made
    obtain rfl := Except.ok.inj (known.symm.trans made)
    refine ⟨before, [c], after, rfl, stops, rfl, rfl, rfl, ?_, rfl, rfl, .inl ⟨c, rfl, stray, rfl⟩⟩
    rw [List.length_append]
    rfl
  | tooLarge digits rest =>
    obtain ⟨before, after, rfl, rfl, run, stops⟩ := told
    have known := StatementError.diagnostic_tooLarge style (before ++ (digits ++ after)) digits
      before.length
    rw [locate, length_sub_behind] at made
    obtain rfl := Except.ok.inj (known.symm.trans made)
    refine ⟨before, digits, after, rfl, stops, rfl, rfl, rfl, ?_, rfl, rfl, .inr ⟨run, rfl⟩⟩
    rw [List.length_append]
    rfl
  | tooManyDigits count => cases made

theorem LexStop.Tells.reported (style : Style) {text : Text} {stop : LexStop}
    (told : stop.Tells text) (short : text.ShortRuns) :
    ∃ before place after report, text = before ++ (place ++ after) ∧ Stops before place after ∧
      (StatementError.lex (locate text stop)).failure.diagnostic style = .ok report ∧
      report.kind = .lex ∧ report.subject = text ∧ report.start = before.length ∧
      report.stop = (before ++ place).length ∧
      ((∃ c, place = [c] ∧ Stray c after ∧
          report.message = "failed to tokenize '" ++ (place ++ after) ++ "'") ∨
        (Excessive before place after ∧
          report.message = "failed to parse '" ++ place ++ "' into a 64-bit integer")) := by
  obtain ⟨report, made⟩ : ∃ report,
      (StatementError.lex (locate text stop)).failure.diagnostic style = .ok report := by
    cases stop with
    | noToken rest => exact ⟨_, StatementError.diagnostic_noToken style text _⟩
    | tooLarge digits rest => exact ⟨_, StatementError.diagnostic_tooLarge style text digits _⟩
    | tooManyDigits count => exact absurd told (not_tooManyDigits short)
  obtain ⟨before, place, after, split, stops, kind, subject, start, behind, _, _, message⟩ :=
    LexStop.Tells.about told made
  exact ⟨before, place, after, report, split, stops, made, kind, subject, start, behind, message⟩

/-- If runs of digits are short, a text has tokens exactly if there is no place in it that cannot be
read. Else it is reported as an error of its own kind, about the first such place: all before the
place has tokens, and the report has the text from a stray character on, or the excessive run. -/
theorem tokenize_stops_at_first_unreadable (style : Style) {text : Text} (short : text.ShortRuns) :
    ((∃ e, tokenize text = .error e) ↔ ∃ before place after,
      text = before ++ (place ++ after) ∧ Unreadable before place after) ∧
    ((∃ tokens, tokenize text = .ok tokens) ↔ text.Readable) ∧
    ∀ e, tokenize text = .error e → ∃ before place after report,
      text = before ++ (place ++ after) ∧
      (∀ before' place' after', text = before' ++ (place' ++ after') →
        Unreadable before' place' after' → before.length ≤ before'.length) ∧
      (∃ tokens, tokenize before = .ok tokens) ∧
      (StatementError.lex e).failure.diagnostic style = .ok report ∧ report.kind = .lex ∧
      report.subject = text ∧ report.start = before.length ∧
      report.stop = (before ++ place).length ∧ report.start < report.stop ∧
      report.stop ≤ text.length ∧
      ((∃ c, place = [c] ∧ Stray c after ∧
          report.message = "failed to tokenize '" ++ (place ++ after) ++ "'") ∨
        (Excessive before place after ∧
          report.message = "failed to parse '" ++ place ++ "' into a 64-bit integer")) := by
  have told := tells_scan [] text
  cases read : scan [] text with
  | ok tokens =>
    rw [read] at told
    have done := tokenize_eq_ok.mpr read
    refine ⟨⟨?_, ?_⟩, ⟨fun _ => told, fun _ => ⟨tokens, done⟩⟩, ?_⟩
    · rintro ⟨e, failed⟩
      cases done.symm.trans failed
    · rintro ⟨before, place, after, split, unreadable⟩
      exact absurd unreadable (told before place after split)
    · intro e failed
      cases done.symm.trans failed
  | error stop =>
    rw [read] at told
    have failed := tokenize_of_scan_error read
    obtain ⟨before, place, after, report, split, stops, made, kind, subject, start, behind, about⟩ :=
      told.reported style short
    have unreadable : ¬ text.Readable := fun readable =>
      readable before place after split stops.unreadable
    refine ⟨⟨fun _ => ⟨before, place, after, split, stops.unreadable⟩, fun _ => ⟨_, failed⟩⟩,
      ⟨?_, fun readable => absurd readable unreadable⟩, ?_⟩
    · rintro ⟨tokens, done⟩
      cases failed.symm.trans done
    · intro e failed'
      obtain rfl := Except.error.inj (failed.symm.trans failed')
      obtain ⟨tokens, spelled⟩ := stops.spelled
      have visible := List.length_pos_iff.mpr stops.unreadable.ne_nil
      refine ⟨before, place, after, report, split, ?_, ⟨tokens, ?_⟩, made, kind, subject, start,
        behind, ?_, ?_, about⟩
      · intro before' place' after' split' unreadable'
        exact stops.first before' place' after' (split.symm.trans split') unreadable'
      · exact tokenize_eq_ok_iff_spells.mpr spelled
      · rw [start, behind, List.length_append]
        omega
      · rw [behind, split, ← List.append_assoc]
        simp only [List.length_append]
        omega

/-- An exclamation mark is read with an equals sign behind it, and not alone. -/
theorem mark_without_equals_stops :
    let text : Text := "1 != 2!3"
    text.ShortRuns ∧ tokenize text = .error (.noToken text 6) ∧ ¬ text.Readable ∧
      ∃ before place after report, text = before ++ (place ++ after) ∧
        (∃ tokens, tokenize before = .ok tokens) ∧
        (StatementError.lex (.noToken text 6)).failure.diagnostic .plain = .ok report ∧
        before.length = 6 ∧ report.stop = 7 ∧ report.message = "failed to tokenize '!3'" := by
  intro text
  have short : text.ShortRuns := Text.shortRuns_of_length (by decide)
  have failed : tokenize text = .error (.noToken text 6) := by decide +kernel
  obtain ⟨_, readable, stops⟩ := tokenize_stops_at_first_unreadable .plain short
  obtain ⟨before, place, after, report, split, _, tokens, made, _, _, start, _⟩ := stops _ failed
  have unreadable : ¬ text.Readable := by
    intro all
    obtain ⟨_, done⟩ := readable.mpr all
    cases failed.symm.trans done
  have known := StatementError.diagnostic_noToken .plain text 6
  obtain rfl := Except.ok.inj (made.symm.trans known)
  have offset : before.length = 6 := Int.ofNat.inj start.symm
  exact ⟨short, failed, unreadable, before, place, after, _, split, tokens, made, offset, rfl, rfl⟩

end LetLang
