import LetLang.Text.Blank
import LetLang.Text.CharClass

/-! # Numerals

The written form of an integer: decimal digits of any script with single underscores between
them, a sign before them, and blanks around both. The value of a run of plain digits is what
`Text.toNat` reads from it.
-/
namespace LetLang.Numeral

inductive Fault where
  | malformed (text : Text)
  | tooManyDigits (count : Nat)
  deriving DecidableEq, Repr

/-- The largest number of digits of a numeral, leading zeros counted. -/
def maxDigits : Nat := 4300

/-- The digits of a text read as one number; all else in it is skipped. -/
def magnitude (t : Text) : Nat := (t.filterMap Text.digitValue?).foldl (fun n d => 10 * n + d) 0

def value (t : Text) : Int := if t.contains '-' then -(magnitude t) else magnitude t

/-- What may surround a numeral: blanks other than the information separators. -/
def isMargin (c : Char) : Bool := Text.isBlank c && !(0x1c ≤ c.toNat && c.toNat ≤ 0x1f)

/-- Whether a run of digits and underscores ends in a digit and has each underscore behind a
digit, given whether a digit stands before the run. -/
def grouped : Bool → Text → Bool
  | afterDigit, [] => afterDigit
  | afterDigit, c :: rest => if c = '_' then afterDigit && grouped false rest else grouped true rest

def isGroupPart (c : Char) : Bool := c == '_' || Text.isScriptDigit c

/-- The text without the sign that it may begin with. -/
def unsigned : Text → Text
  | c :: rest => if c = '+' ∨ c = '-' then rest else c :: rest
  | [] => []

/-- Reads a numeral. Digits that stand rightly are counted before what follows them is looked
at, so that too many of them are told apart from a wrong end. -/
def read (t : Text) : Except Fault Int :=
  let body := unsigned (t.dropWhile isMargin)
  let run := body.takeWhile isGroupPart
  let count := run.countP Text.isScriptDigit
  if !grouped false run then .error (.malformed t)
  else if count > maxDigits then .error (.tooManyDigits count)
  else if (body.dropWhile isGroupPart).all isMargin then .ok (value t)
  else .error (.malformed t)

theorem foldl_digits (t : Text) (h : ∀ c ∈ t, c.isDigit = true) (n : Nat) :
    (t.filterMap Text.digitValue?).foldl (fun n d => 10 * n + d) n = Nat.ofDigitChars 10 t n := by
  induction t generalizing n with
  | nil => rfl
  | cons c t ih =>
    rw [List.filterMap_cons_some (Text.digitValue?_of_isDigit (h c List.mem_cons_self)),
      List.foldl_cons, ih fun d hd => h d (List.mem_cons_of_mem c hd), Nat.ofDigitChars_cons]
    rfl

theorem value_of_digits {t : Text} (h : ∀ c ∈ t, c.isDigit = true) : value t = Text.toNat t := by
  have plain : t.contains '-' = false := by
    cases hm : t.contains '-' with
    | false => rfl
    | true => exact absurd (h '-' (List.contains_iff_mem.mp hm)) (by decide)
  rw [value, plain]
  exact congrArg Int.ofNat (foldl_digits t h 0)

end LetLang.Numeral
