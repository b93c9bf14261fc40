import LetLang.Decimal

/-! # Nearest binary numbers

Decimals are held to 53 binary digits. A decimal becomes the nearest such number, the one with an
even significand if two are as near; what is too large becomes infinite. A natural number that is
to be written with a point is held in the same way. All comparisons are made on natural numbers,
so that nothing is lost.
-/
namespace LetLang

/-- The number `significand · 2 ^ exponent`. -/
structure Binary where
  significand : Nat
  exponent : Int
  deriving DecidableEq, Repr

namespace Binary

def significandLimit : Nat := 1 <<< 53

def leastExponent : Int := -1074

def greatestExponent : Int := 971

/-- A power with a whole exponent, or one if that is below zero: the numerator of the power, and
for the opposite exponent its denominator. -/
def power (base : Nat) (exponent : Int) : Nat := Nat.pow base exponent.toNat

/-- A quotient rounded to the nearest, and to even in the middle. -/
def roundedQuotient (numerator denominator : Nat) : Nat :=
  let below := numerator / denominator
  match compare (2 * (numerator % denominator)) denominator with
  | .lt => below
  | .eq => below + below % 2
  | .gt => below + 1

/-- The exponent of the leading binary digit of a quotient. -/
def leadingExponent (numerator denominator : Nat) : Int :=
  let guess : Int := (Nat.log2 numerator : Int) - Nat.log2 denominator
  if numerator * power 2 (-guess) < denominator * power 2 guess then guess - 1 else guess

/-- The binary number nearest to a quotient above zero. -/
def ofQuotient (numerator denominator : Nat) : Binary :=
  let exponent := max (leadingExponent numerator denominator - 52) leastExponent
  let significand :=
    roundedQuotient (numerator * power 2 (-exponent)) (denominator * power 2 exponent)
  if significand = significandLimit then ⟨significandLimit / 2, exponent + 1⟩
  else ⟨significand, exponent⟩

/-- The natural number nearest to a given one among those that are held in 53 binary digits. -/
def nearestNat (n : Nat) : Nat :=
  let unit := Nat.pow 2 (Nat.log2 n - 52)
  roundedQuotient n unit * unit

end Binary

namespace Decimal

inductive Held where
  | infinite
  | finite (value : Binary)
  deriving DecidableEq, Repr

/-- How a decimal is held. Numbers with their first digit far out are not computed with: from
`10 ^ 310` on all are infinite, and below `10 ^ (-330)` all are zero. -/
def held (d : Decimal) : Held :=
  let order := (Text.ofNat d.digits).length + d.exponent
  if d.digits = 0 ∨ order < -330 then .finite ⟨0, Binary.leastExponent⟩
  else if 310 < order then .infinite
  else
    let b := Binary.ofQuotient (d.digits * Binary.power 10 d.exponent)
      (Binary.power 10 (-d.exponent))
    if Binary.greatestExponent < b.exponent then .infinite else .finite b

end Decimal

namespace Binary

end Binary

end LetLang
