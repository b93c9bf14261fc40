import LetLang.Numeral
import LetLang.Template.Fault
import LetLang.Template.Segment

/-! # Layouts

How a value is laid out in its slot. A layout is written the same way for texts and for numbers,
but each of the two refuses some of what the other takes. A text is cut to a precision and padded
to a width.
-/
namespace LetLang.Template

def maxNumber : Nat := 0x7fffffffffffffff

/-- The number at the front of a text, if it begins with a digit, and what follows its digits. -/
def takeNumber (t : Text) : Except Fault (Option Nat × Text) :=
  let digits := t.takeWhile Text.isScriptDigit
  let number := Numeral.magnitude digits
  if number > maxNumber then .error .tooManyDigits
  else .ok (if digits.isEmpty then none else some number, t.dropWhile Text.isScriptDigit)

/-- A written layout, read apart. -/
structure Layout where
  fill : Option Char
  align : Option Char
  sign : Option Char
  negativeZero : Bool
  alternate : Bool
  zeros : Bool
  width : Nat
  separator : Option Char
  precision : Option Nat
  type : Char
  deriving DecidableEq, Repr

namespace Layout

def isAlignment (c : Char) : Bool := c == '<' || c == '>' || c == '=' || c == '^'

/-- The fill character and the alignment at the front of a layout, if given. -/
def takeAlignment : Text → Option Char × Option Char × Text
  | c :: d :: rest =>
    if isAlignment d then (some c, some d, rest)
    else if isAlignment c then (none, some c, d :: rest)
    else (none, none, c :: d :: rest)
  | [c] => if isAlignment c then (none, some c, []) else (none, none, [c])
  | [] => (none, none, [])

/-- The character at the front of a layout if it passes a test. -/
def takeIf (test : Char → Bool) : Text → Option Char × Text
  | c :: rest => if test c then (some c, rest) else (none, c :: rest)
  | [] => (none, [])

/-- The separator of thousands at the front of a layout, of which there are two. -/
def takeSeparator : Text → Except Fault (Option Char × Text)
  | ',' :: '_' :: _ | '_' :: ',' :: _ => .error .bothSeparators
  | t => .ok (takeIf (fun c => c == ',' || c == '_') t)

/-- The precision at the front of a layout, behind its point. -/
def takePrecision : Text → Except Fault (Option Nat × Text)
  | '.' :: rest =>
    match takeNumber rest with
    | .ok (none, _) => .error .missingPrecision
    | taken => taken
  | t => .ok (none, t)

/-- The types of number that are written to another base than ten. -/
def isBaseType (type : Char) : Bool := ['b', 'o', 'x', 'X'].contains type

def separates (separator type : Char) : Bool :=
  ['d', 'e', 'f', 'g', 'E', 'G', '%', 'F', '\x00'].contains type ||
    (separator == '_' && isBaseType type)

/-- Reads a layout for a class of values with a type of its own: fill and alignment, sign, marks,
width, separator, precision and type, all of them optional. -/
def read (className : Text) (ownType : Char) (layout : Text) : Except Fault Layout := do
  let (fill, align, rest) := takeAlignment layout
  let (sign, rest) := takeIf (fun c => c == ' ' || c == '+' || c == '-') rest
  let (negativeZero, rest) := takeIf (· == 'z') rest
  let (alternate, rest) := takeIf (· == '#') rest
  let (zeros, rest) := if fill.isSome then (none, rest) else takeIf (· == '0') rest
  let (width, rest) ← takeNumber rest
  let (separator, rest) ← takeSeparator rest
  let (precision, rest) ← takePrecision rest
  let type ← match rest with
    | [] => .ok ownType
    | [c] => .ok c
    | _ => .error (.malformedLayout layout className)
  match separator with
  | some separator =>
    if !separates separator type then throw (.separatorOfType separator type)
  | none => pure ()
  return ⟨fill, align, sign, negativeZero.isSome, alternate.isSome, zeros.isSome, width.getD 0,
    separator, precision, type⟩

def maxWidth : Nat := 0x1000000000

def fillChar (l : Layout) : Char := l.fill.getD (if l.zeros then '0' else ' ')

/-- Pads a body of a front part and a back part. A space between the two parts is left for the
alignment that wants it; in the middle, the smaller half of the padding goes before. -/
def pad (l : Layout) (align : Char) (front back : List Segment) : List Segment :=
  let room := l.width - (Segment.totalLength front + Segment.totalLength back)
  let before := if align = '>' then room else if align = '^' then room / 2 else 0
  let between := if align = '=' then room else 0
  [.repeated before l.fillChar] ++ front ++ [.repeated between l.fillChar] ++ back ++
    [.repeated (room - before - between) l.fillChar]

/-- What keeps a layout from being one of a text. -/
def textFault? (l : Layout) : Option Fault :=
  if l.type ≠ 's' then some (.unknownType l.type "str")
  else if l.sign.isSome then some (.signOfText (l.sign == some ' '))
  else if l.negativeZero then some (.negativeZero true)
  else if l.alternate then some .alternateOfText
  else if l.align = some '=' then some .signAlignment
  else if l.width > maxWidth then some .tooWide
  else none

/-- A text in a slot with the given layout. An empty layout leaves the text as it is. -/
def arrangeText (layout text : Text) : Except Fault (List Segment) :=
  if layout.isEmpty then .ok [.text text]
  else do
    let l ← read "str" 's' layout
    match l.textFault? with
    | some fault => throw fault
    | none =>
      let cut := match l.precision with
        | some n => text.take n
        | none => text
      return l.pad (l.align.getD '<') [] [.text cut]

end Layout

end LetLang.Template
