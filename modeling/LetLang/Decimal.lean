import LetLang.Text

/-! # Decimals

A number written with a point or an exponent, and how it is read. How it is laid out depends on
where the point falls: near the digits it is written among them, and far from them there is one
digit before the point and an exponent says the rest.
-/
namespace LetLang

/-- The number `± digits · 10 ^ exponent`. -/
structure Decimal where
  negative : Bool
  digits : Nat
  exponent : Int
  deriving DecidableEq, Repr

namespace Decimal

/-- An exponent with its sign, or zero if there is none. -/
def exponentOf? : Text → Option Int
  | [] => some 0
  | mark :: rest =>
    if mark = 'e' ∨ mark = 'E' then
      let run := match rest with
        | c :: digits => if c = '+' ∨ c = '-' then digits else rest
        | [] => rest
      if run.isEmpty || !run.all Char.isDigit then none
      else if rest.contains '-' then some (-(Text.toNat run)) else some (Text.toNat run)
    else none

/-- Reads digits that may have a sign, a point among them and an exponent behind them. -/
def read? (t : Text) : Option Decimal :=
  let (negative, t) := match t with
    | '-' :: rest => (true, rest)
    | _ => (false, t)
  let whole := t.takeWhile Char.isDigit
  let (places, rest) := match t.dropWhile Char.isDigit with
    | '.' :: rest => (rest.takeWhile Char.isDigit, rest.dropWhile Char.isDigit)
    | rest => ([], rest)
  if whole.isEmpty then none
  else (exponentOf? rest).map fun exponent =>
    ⟨negative, Text.toNat (whole ++ places), exponent - places.length⟩

/-- The same number with no zero at the end of its digits, given at least as much fuel as there
are such zeros. -/
def stripZeros : Nat → Nat → Int → Nat × Int
  | 0, digits, exponent => (digits, exponent)
  | fuel + 1, digits, exponent =>
    if digits ≠ 0 ∧ digits % 10 = 0 then stripZeros fuel (digits / 10) (exponent + 1)
    else (digits, exponent)

/-- An exponent has a sign and two digits at least. -/
def exponentText (exponent : Int) : Text :=
  let digits := Text.ofNat exponent.natAbs
  ['e', if exponent < 0 then '-' else '+'] ++ List.replicate (2 - digits.length) '0' ++ digits

/-- Digits with the point behind as many of them as `point` says, which may be before all of them
or beyond the last. Only with more than sixteen digits before the point, or more than three zeros
behind it, there is an exponent. -/
def layout (digits : Text) (point : Int) : Text :=
  if point ≤ -4 ∨ 16 < point then
    let places := digits.drop 1
    digits.take 1 ++ (if places.isEmpty then [] else '.' :: places) ++ exponentText (point - 1)
  else if point ≤ 0 then
    "0." ++ List.replicate point.natAbs '0' ++ digits
  else
    let places := digits.drop point.toNat
    digits.take point.toNat ++ List.replicate (point.toNat - digits.length) '0' ++
      '.' :: (if places.isEmpty then ['0'] else places)

/-- The text of a decimal. Zero has one digit, and the sign of a zero is kept. -/
def text (d : Decimal) : Text :=
  let (digits, exponent) := stripZeros (Text.ofNat d.digits).length d.digits d.exponent
  let shown := Text.ofNat digits
  (if d.negative then ['-'] else []) ++
    layout shown (if digits = 0 then 1 else shown.length + exponent)

end Decimal

end LetLang
