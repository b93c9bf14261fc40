import LetLang.Decimal.Nearest
import LetLang.Template.Layout

/-! # Layouts of numbers

A natural number is written as an integer to one of four bases, as a character, or as a decimal
with a point: with a fixed number of places, with an exponent, in the shorter of the two ways, or
as a percentage. For a point the number is held in binary first, and so is a hundred times it for
a percentage. Digits that are dropped round the rest to the nearest, and to even in the middle.
-/
namespace LetLang.Template

/-- A number written out: a mark of its base, its digits, and what comes behind them. -/
structure Written where
  mark : Text
  digits : Text
  rest : List Segment
  deriving DecidableEq, Repr

namespace Written

/-- The point and the places behind it, of which some are given and the others are zero. -/
def places (alternate : Bool) (given : Text) (zeros : Nat) : List Segment :=
  if given.isEmpty && zeros == 0 && !alternate then []
  else [.text ('.' :: given), .repeated zeros '0']

/-- The number given by digits, in a given number of them, with the exponent of the first. Digits
beyond those are cut off by rounding. -/
def rounded (count : Nat) (digits : Text) : Text × Nat :=
  let kept := Text.toNat (digits.take count)
  let exponent := digits.length - 1
  let up :=
    match digits.drop count with
    | [] => false
    | c :: rest => c > '5' || (c == '5' && (rest.any (· != '0') || kept % 2 == 1))
  if up then
    let next := Text.ofNat (kept + 1)
    if next.length > count then (next.take count, exponent + 1) else (next, exponent)
  else (digits.take count, exponent)

/-- An exponent has two digits at least. -/
def exponentText (letter : Char) (exponent : Nat) : Text :=
  let digits := Text.ofNat exponent
  [letter, '+'] ++ List.replicate (2 - digits.length) '0' ++ digits

def withoutZeros (digits : Text) : Text := (digits.reverse.dropWhile (· == '0')).reverse

def fixed (alternate : Bool) (count : Nat) (n : Nat) : Written :=
  ⟨[], Text.ofNat n, places alternate [] count⟩

/-- One digit, a number of places, and an exponent; zeros at the end of the places may be left
out. -/
def scientific (alternate full : Bool) (letter : Char) (count : Nat) (n : Nat) : Written :=
  let (digits, exponent) := rounded (count + 1) (Text.ofNat n)
  let given := digits.drop 1
  let behind :=
    if full then places alternate given (count - given.length)
    else places alternate (withoutZeros given) 0
  ⟨[], digits.take 1, behind ++ [.text (exponentText letter exponent)]⟩

/-- A number of digits in all, with an exponent if the number has more of them. -/
def general (alternate : Bool) (letter : Char) (count : Nat) (n : Nat) : Written :=
  let count := max count 1
  let digits := Text.ofNat n
  if digits.length ≤ count then
    ⟨[], digits, places alternate [] (if alternate then count - digits.length else 0)⟩
  else scientific alternate alternate letter (count - 1) n

def integer (alternate : Bool) (type : Char) (n : Nat) : Written :=
  let mark : Text := if alternate then ['0', type] else []
  match type with
  | 'b' => ⟨mark, Nat.toDigits 2 n, []⟩
  | 'o' => ⟨mark, Nat.toDigits 8 n, []⟩
  | 'x' => ⟨mark, Nat.toDigits 16 n, []⟩
  | 'X' => ⟨mark, (Nat.toDigits 16 n).map Char.toUpper, []⟩
  | _ => ⟨[], Text.ofNat n, []⟩

/-- Digits with a separator between groups of a size, counted from the right; the digits are
reversed, and so is the result. -/
def groupedFrom (size : Nat) (separator : Char) : Nat → Text → Text
  | _, [] => []
  | 0, c :: rest => separator :: c :: groupedFrom size separator (size - 1) rest
  | room + 1, c :: rest => c :: groupedFrom size separator room rest

def grouped (size : Nat) (separator : Char) (digits : Text) : Text :=
  (groupedFrom size separator size digits.reverse).reverse

end Written

namespace Layout

/-- The places of a number with a point if no precision is given. -/
def ownPlaces : Nat := 6

def maxPrecision : Nat := 0x7fffffff

def isIntegerType (type : Char) : Bool := isBaseType type || type == 'd' || type == 'n'

/-- A number written out by the type of a layout, unless that is not one for numbers. -/
def write (className : Text) (l : Layout) (n : Nat) : Except Fault Written :=
  if l.type = 'c' ∨ isIntegerType l.type then
    if l.precision.isSome then .error .precisionOfInteger
    else if l.negativeZero then .error (.negativeZero false)
    else if l.type ≠ 'c' then .ok (.integer l.alternate l.type n)
    else if l.sign.isSome then .error .signOfCharacter
    else if l.alternate then .error .alternateOfCharacter
    else if n ≥ 0x110000 then .error .noSuchCharacter
    else .ok ⟨[], [], [.text [Char.ofNat n]]⟩
  else
    let count := l.precision.getD ownPlaces
    let held := Binary.nearestNat n
    let checked (w : Written) : Except Fault Written :=
      if count > maxPrecision then .error .precisionTooBig else .ok w
    match l.type with
    | 'f' | 'F' => checked (.fixed l.alternate count held)
    | 'e' | 'E' => checked (.scientific l.alternate true l.type count held)
    | 'g' => checked (.general l.alternate 'e' count held)
    | 'G' => checked (.general l.alternate 'E' count held)
    | '%' =>
      let w := Written.fixed l.alternate count (Binary.nearestNat (100 * held))
      checked { w with rest := w.rest ++ [.text ['%']] }
    | type => .error (.unknownType type className)

/-- The digits with their separators. Zeros that fill the width count as digits: there are as many
of them as bring digits and separators together to the width or one beyond it. -/
def arrangeDigits (l : Layout) (align : Char) (w : Written) (front : Text) : List Segment :=
  if w.digits.isEmpty then []
  else
    let wanted :=
      if l.fillChar = '0' ∧ align = '=' then
        l.width - (front.length + Segment.totalLength w.rest)
      else 0
    match l.separator with
    | none => [.repeated (wanted - w.digits.length) '0', .text w.digits]
    | some separator =>
      let size := if isBaseType l.type then 4 else 3
      let zeros := wanted - (wanted - 1) / (size + 1) - w.digits.length
      [.text (Written.grouped size separator (List.replicate zeros '0' ++ w.digits))]

def arrangeNumber (className layout : Text) (n : Nat) : Except Fault (List Segment) := do
  let l ← read className 'd' layout
  let w ← l.write className n
  if l.width > maxWidth then throw .tooWide
  let align := l.align.getD (if l.zeros then '=' else '>')
  let sign := match l.sign with
    | some '-' | none => []
    | some c => [c]
  let front := sign ++ w.mark
  return l.pad align [.text front] (l.arrangeDigits align w front ++ w.rest)

end Layout

end LetLang.Template
