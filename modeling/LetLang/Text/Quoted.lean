import LetLang.Text.CharClass

/-! # Quoted text

A text between quotes, with escapes for what would not be seen or would end it. Single quotes
are used unless the text has a single quote and no double one.
-/
namespace LetLang.Text

def single : Char := '\x27'

def hex (width n : Nat) : Text :=
  let digits := Nat.toDigits 16 n
  List.replicate (width - digits.length) '0' ++ digits

/-- The escape of a character by its code point. -/
def codeEscape (c : Char) : Text :=
  if c.toNat < 0x100 then "\\x" ++ hex 2 c.toNat
  else if c.toNat < 0x10000 then "\\u" ++ hex 4 c.toNat
  else "\\U" ++ hex 8 c.toNat

/-- How one character is written between the given quotes. -/
def escape (quote c : Char) : Text :=
  if c = quote ∨ c = '\\' then ['\\', c]
  else if c = '\t' then "\\t"
  else if c = '\n' then "\\n"
  else if c = '\r' then "\\r"
  else if isHidden c then codeEscape c
  else [c]

def quoteFor (t : Text) : Char :=
  if t.contains single && !t.contains '"' then '"' else single

def quoted (t : Text) : Text :=
  let quote := quoteFor t
  quote :: t.flatMap (escape quote) ++ [quote]

/-- A text in which escapes stand for the characters that are not of ASCII. -/
def asciiOnly (t : Text) : Text :=
  t.flatMap fun c => if c.toNat < 0x80 then [c] else codeEscape c

end LetLang.Text
