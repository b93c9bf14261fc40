import LetLang.Reflection.Access

/-! # Faults of templates

What can be wrong with a template, given its subjects, and how it is reported.
-/
namespace LetLang.Template

def opening : Char := '\x7b'

def closing : Char := '\x7d'

/-- What is wrong with a template, or with a subject that is put into it. -/
inductive Fault where
  | loneBrace (brace : Char)
  | braceInSlot
  | openSlot
  | openConversion
  | longConversion
  | openLayout
  | tooManyDigits
  | missingSubject (index : Nat)
  | mixedSlots (emptyLast : Bool)
  | namedSlot (name : Text)
  | openBracket
  | strayAfterBracket
  | emptySelector
  | access (fault : Reflection.AccessFault)
  | unknownConversion (conversion : Char)
  | nestedTooDeeply
  | noLayouts (className : Text)
  | bothSeparators
  | missingPrecision
  | malformedLayout (layout className : Text)
  | separatorOfType (separator type : Char)
  | unknownType (type : Char) (className : Text)
  | signOfText (space : Bool)
  | negativeZero (text : Bool)
  | alternateOfText
  | signAlignment
  | precisionOfInteger
  | signOfCharacter
  | alternateOfCharacter
  | noSuchCharacter
  | precisionTooBig
  | tooWide
  deriving DecidableEq, Repr

/-- A character as it is, or its code point unless it lies between the space and a limit. -/
def visible (limit : Nat) (c : Char) : Text :=
  if 0x20 < c.toNat && c.toNat < limit then [c] else "\\x" ++ Text.hex 0 c.toNat

namespace Fault

def name : Fault → Text
  | .missingSubject _ => "IndexError"
  | .namedSlot _ => "KeyError"
  | .access fault => fault.name
  | .noLayouts _ => "TypeError"
  | .noSuchCharacter => "OverflowError"
  | .tooWide => "MemoryError"
  | _ => "ValueError"

def message : Fault → Text
  | .loneBrace brace => "Single '" ++ [brace] ++ "' encountered in format string"
  | .braceInSlot => "unexpected '" ++ [opening] ++ "' in field name"
  | .openSlot => "expected '" ++ [closing] ++ "' before end of string"
  | .openConversion => "end of string while looking for conversion specifier"
  | .longConversion => "expected ':' after conversion specifier"
  | .openLayout => "unmatched '" ++ [opening] ++ "' in format spec"
  | .tooManyDigits => "Too many decimal digits in format string"
  | .missingSubject index =>
    "Replacement index " ++ Text.ofNat index ++ " out of range for positional args tuple"
  | .mixedSlots true =>
    "cannot switch from manual field specification to automatic field numbering"
  | .mixedSlots false =>
    "cannot switch from automatic field numbering to manual field specification"
  | .namedSlot name => Text.quoted name
  | .openBracket => "Missing ']' in format string"
  | .strayAfterBracket => "Only '.' or '[' may follow ']' in format field specifier"
  | .emptySelector => "Empty attribute in format string"
  | .access fault => fault.message
  | .unknownConversion c => "Unknown conversion specifier " ++ visible 0x7f c
  | .nestedTooDeeply => "Max string recursion exceeded"
  | .noLayouts className => "unsupported format string passed to " ++ className ++ ".__format__"
  | .bothSeparators => "Cannot specify both ',' and '_'."
  | .missingPrecision => "Format specifier missing precision"
  | .malformedLayout layout className =>
    "Invalid format specifier '" ++ layout ++ "' for object of type '" ++ className ++ ['\x27']
  | .separatorOfType separator type =>
    "Cannot specify '" ++ [separator] ++ "' with '" ++ visible 0x80 type ++ "'."
  | .unknownType type className =>
    "Unknown format code '" ++ visible 0x80 type ++ "' for object of type '" ++ className ++
      ['\x27']
  | .signOfText true => "Space not allowed in string format specifier"
  | .signOfText false => "Sign not allowed in string format specifier"
  | .negativeZero text =>
    "Negative zero coercion (z) not allowed in " ++ (if text then "string" else "integer") ++
      " format specifier"
  | .alternateOfText => "Alternate form (#) not allowed in string format specifier"
  | .signAlignment => "'=' alignment not allowed in string format specifier"
  | .precisionOfInteger => "Precision not allowed in integer format specifier"
  | .signOfCharacter => "Sign not allowed with integer format specifier 'c'"
  | .alternateOfCharacter =>
    "Alternate form (#) not allowed with integer format specifier 'c'"
  | .noSuchCharacter => "%c arg not in range(0x110000)"
  | .precisionTooBig => "precision too big"
  | .tooWide => ""

end Fault

end LetLang.Template
