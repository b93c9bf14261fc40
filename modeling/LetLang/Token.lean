import LetLang.Numeral

/-! # Tokens

The words of the language. A token is its class together with its text as written, so the
numbers 7 and 007 are different tokens of equal value.
-/
namespace LetLang

inductive TokenClass where
  | number | punct | keyword | ident
  deriving DecidableEq, Repr

def TokenClass.name : TokenClass → Text
  | .number => "Number"
  | .punct => "Punct"
  | .keyword => "Keyword"
  | .ident => "Ident"

/-- A word of a statement; tokens carry no positions. The text of a number is a numeral. -/
inductive Token where
  | number (text : Text)
  | punct (text : Text)
  | keyword (text : Text)
  | ident (name : Text)
  deriving DecidableEq, Repr

namespace Token

def text : Token → Text
  | .number text => text
  | .punct text => text
  | .keyword text => text
  | .ident name => name

def tokenClass : Token → TokenClass
  | .number _ => .number
  | .punct _ => .punct
  | .keyword _ => .keyword
  | .ident _ => .ident

/-- A token for display: its class around its text, which is not escaped. -/
def display (t : Token) : Text := t.tokenClass.name ++ "('" ++ t.text ++ "')"

def keywords : List Text := [['l', 'e', 't'], ['i', 'n'], ['t', 'r', 'u', 'e'],
  ['f', 'a', 'l', 's', 'e']]

/-- The punctuators of two characters, which are read before those of one. -/
def doublePuncts : List Text := [['=', '='], ['!', '=']]

def singlePuncts : List Char := ['+', '-', '*', '/', '=', '[', ']', ';', '(', ')']

def ofWord (word : Text) : Token := if keywords.contains word then .keyword word else .ident word

@[simp] theorem text_ofWord (word : Text) : (ofWord word).text = word := by
  unfold ofWord
  split <;> rfl

def ofNumeral (text : Text) : Except Numeral.Fault Token :=
  (Numeral.read text).map fun _ => .number text

end Token

end LetLang
