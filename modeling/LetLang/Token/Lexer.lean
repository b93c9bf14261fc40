import LetLang.Token

/-! # Reading tokens

A text is read from left to right. Digits and letters form runs as long as possible, and a
punctuator of two characters is preferred to one of one. Reading stops at the first character
that begins no token and at the first run of digits that is no number of the language.
-/
namespace LetLang

/-- Why a text cannot be read as tokens: none begins at an offset, or a run of digits is above the
largest integer, or it is too long to be read as a number at all. -/
inductive LexError where
  | noToken (source : Text) (offset : Nat)
  | tooLarge (source digits : Text) (offset : Nat)
  | tooManyDigits (count : Nat)
  deriving DecidableEq, Repr

/-- What stops the reading of tokens, told by the text from the place of the stop. -/
inductive LexStop where
  | noToken (rest : Text)
  | tooLarge (digits rest : Text)
  | tooManyDigits (count : Nat)
  deriving DecidableEq, Repr

namespace Token

def maxNumber : Nat := 0x7fffffffffffffff

/-- The characters between tokens: the six of plain text, not the wider class of blanks. -/
def isGap (c : Char) : Bool :=
  c == ' ' || c == '\t' || c == '\n' || c == '\r' || c == '\x0c' || c == '\x0b'

/-- The punctuator at the front of a text, and what follows it. -/
def punct? : Text → Option (Text × Text)
  | c :: d :: rest =>
    if doublePuncts.contains [c, d] then some ([c, d], rest)
    else if singlePuncts.contains c then some ([c], d :: rest) else none
  | [c] => if singlePuncts.contains c then some ([c], []) else none
  | [] => none

theorem length_of_punct? {s p rest : Text} (h : punct? s = some (p, rest)) :
    rest.length < s.length := by
  unfold punct? at h
  split at h
  · split at h
    · cases h
      exact Nat.lt_succ_of_lt (Nat.lt_succ_self _)
    · split at h <;> cases h
      exact Nat.lt_succ_self _
  · split at h <;> cases h
    exact Nat.lt_succ_self _
  · cases h

theorem length_dropWhile_le (p : Char → Bool) (s : Text) :
    (s.dropWhile p).length ≤ s.length :=
  (List.dropWhile_sublist p).length_le

/-- Reads on after the tokens already read, which are kept reversed. -/
def scan (done : List Token) (s : Text) : Except LexStop (List Token) :=
  match s with
  | [] => .ok done.reverse
  | c :: cs =>
    if isGap c then scan done cs
    else if c.isDigit then
      let digits := c :: cs.takeWhile Char.isDigit
      if digits.length > Numeral.maxDigits then .error (.tooManyDigits digits.length)
      else if Text.toNat digits > maxNumber then .error (.tooLarge digits (c :: cs))
      else scan (.number digits :: done) (cs.dropWhile Char.isDigit)
    else if c.isAlpha then
      scan (ofWord (c :: cs.takeWhile Char.isAlpha) :: done) (cs.dropWhile Char.isAlpha)
    else
      match _ : punct? (c :: cs) with
      | some (p, rest) => scan (.punct p :: done) rest
      | none => .error (.noToken (c :: cs))
termination_by s.length
decreasing_by
  · simp
  · exact Nat.lt_succ_of_le (length_dropWhile_le _ _)
  · exact Nat.lt_succ_of_le (length_dropWhile_le _ _)
  · exact length_of_punct? (by assumption)

def locate (source : Text) : LexStop → LexError
  | .noToken rest => .noToken source (source.length - rest.length)
  | .tooLarge digits rest => .tooLarge source digits (source.length - rest.length)
  | .tooManyDigits count => .tooManyDigits count

def tokenize (source : Text) : Except LexError (List Token) :=
  (scan [] source).mapError (locate source)

end Token

end LetLang
