/-! # Text

Programs, messages and printed output are lists of characters, so that scanning and cutting
are recursion on lists. A string literal may stand where a text is wanted.
-/
namespace LetLang

/-- A text is the list of its characters. -/
abbrev Text := List Char

instance : Coe String Text := ⟨String.toList⟩

namespace Text

/-- The decimal numeral of a natural number, without leading zeros. -/
def ofNat (n : Nat) : Text := Nat.toDigits 10 n

/-- The decimal numeral of an integer: a minus sign only below zero. -/
def ofInt : Int → Text
  | .ofNat n => ofNat n
  | .negSucc n => '-' :: ofNat (n + 1)

def toNat (digits : Text) : Nat := Nat.ofDigitChars 10 digits 0

def join (separator : Text) (parts : List Text) : Text := separator.intercalate parts

/-- A text printed as a line of its own. -/
def line (t : Text) : Text := t ++ ['\n']

@[simp] theorem toNat_ofNat (n : Nat) : toNat (ofNat n) = n :=
  Nat.ofDigitChars_toDigits (by decide) (by decide)

@[simp] theorem join_nil (separator : Text) : join separator [] = [] := rfl

@[simp] theorem join_singleton (separator part : Text) : join separator [part] = part := by
  simp [join, List.intercalate]

@[simp] theorem join_cons_cons (separator first second : Text) (rest : List Text) :
    join separator (first :: second :: rest) =
      first ++ separator ++ join separator (second :: rest) := by
  simp [join, List.intercalate, List.append_assoc]

end Text

end LetLang
