/-! # Integers of 64 bits

Arithmetic is that of signed words in two's complement: a result that does not fit is replaced
by the integer that is congruent to it modulo 2 ^ 64 and does.
-/
namespace LetLang.Word

/-- The integers of 64 bits with sign. -/
def Fits (n : Int) : Prop := -0x8000000000000000 ≤ n ∧ n < 0x8000000000000000

instance (n : Int) : Decidable (Fits n) := inferInstanceAs (Decidable (_ ∧ _))

/-- The integer of 64 bits that is congruent modulo 2 ^ 64. -/
def wrap (n : Int) : Int := n.bmod 0x10000000000000000

theorem fits_wrap (n : Int) : Fits (wrap n) := by
  have low := Int.le_bmod (x := n) (m := 0x10000000000000000) (by decide)
  have high := Int.bmod_lt (x := n) (m := 0x10000000000000000) (by decide)
  unfold Fits wrap
  omega

theorem wrap_of_fits {n : Int} (h : Fits n) : wrap n = n := by
  unfold Fits at h
  exact Int.bmod_eq_of_le (by omega) (by omega)

/-- The quotient of the magnitudes, negative if just one of the numbers is. -/
def quotient (a b : Int) : Int :=
  wrap (if a < 0 ↔ b < 0 then (a.natAbs / b.natAbs : Nat) else -(a.natAbs / b.natAbs : Nat))

/-- The quotient is rounded toward zero. -/
theorem quotient_eq (a b : Int) : quotient a b = wrap (a.tdiv b) := by
  have ofNat_nonneg (n : Nat) : ¬ Int.ofNat n < 0 := Int.not_lt.mpr (Int.natCast_nonneg n)
  have negSucc_neg (n : Nat) : Int.negSucc n < 0 := Int.negSucc_lt_zero n
  refine congrArg wrap ?_
  -- the signs of both numbers choose the equation of truncated division
  cases a with
  | ofNat m =>
    cases b with
    | ofNat n => exact if_pos (iff_of_false (ofNat_nonneg m) (ofNat_nonneg n))
    | negSucc n => exact if_neg fun same => ofNat_nonneg m (same.mpr (negSucc_neg n))
  | negSucc m =>
    cases b with
    | ofNat n => exact if_neg fun same => ofNat_nonneg n (same.mp (negSucc_neg m))
    | negSucc n => exact if_pos (iff_of_true (negSucc_neg m) (negSucc_neg n))

end LetLang.Word
