/-! Finite binary floating-point numbers of 64 bits, in exact arithmetic. A magnitude is named by
its rank among the finite magnitudes, so every value of the type is a number and no number has two
values. All rounding is to the nearest number, and to the even one from halfway. -/
namespace EntitySearch

/-- A finite double. `rank` counts the magnitudes below this one: 2 to the power 52 of them for each
of the 2047 exponents, the subnormal ones first. The two zeros differ in sign only. -/
structure Binary64 where
  negative : Bool
  rank : Fin (2047 <<< 52)
deriving DecidableEq

/-- Quotient rounded to nearest, ties to even. -/
def divideToEven (num den : Nat) : Nat :=
  let q := num / den
  let r := num % den
  if den < 2 * r || (den == 2 * r && q % 2 == 1) then q + 1 else q

namespace Binary64

/-- The magnitude is `significand * 2 ^ exponent`. -/
def significand (x : Binary64) : Nat :=
  if x.rank.val < 1 <<< 52 then x.rank.val else 1 <<< 52 + x.rank.val % (1 <<< 52)

def exponent (x : Binary64) : Int :=
  (max (x.rank.val >>> 52) 1 : Nat) - 1075

def isZero (x : Binary64) : Bool :=
  x.rank.val == 0

/-- The rank of the magnitude nearest to `num / den`; beyond the largest finite magnitude the count
simply goes on. The quotient is scaled to 53 binary digits, or to as many as a subnormal number has,
and each step of the exponent adds 2 to the power 52 ranks. -/
def nearestRank (num den : Nat) : Nat :=
  if num = 0 then
    0
  else
    let guess : Int := (num.log2 : Int) - den.log2
    let scaled (e : Int) : Nat × Nat := (num <<< (-e).toNat, den <<< e.toNat)
    let below := (scaled guess).1 < (scaled guess).2
    let e := max ((if below then guess - 1 else guess) - 52) (-1074)
    (e + 1074).toNat <<< 52 + divideToEven (scaled e).1 (scaled e).2

/-- Nearest double to plus or minus `num / den`, or none beyond the largest. -/
def ofRatio? (negative : Bool) (num den : Nat) : Option Binary64 :=
  let rank := nearestRank num den
  if h : rank < 2047 <<< 52 then some ⟨negative, rank, h⟩ else none

/-- Nearest double to `num / den * 2 ^ e`, or none beyond the largest. -/
def ofScaled? (negative : Bool) (num den : Nat) (e : Int) : Option Binary64 :=
  ofRatio? negative (num <<< e.toNat) (den <<< (-e).toNat)

def zero (negative : Bool) : Binary64 :=
  ⟨negative, 0, by decide⟩

def mul? (x y : Binary64) : Option Binary64 :=
  ofScaled? (x.negative != y.negative) (x.significand * y.significand) 1 (x.exponent + y.exponent)

/-- Rounded quotient. The divisor must not be zero. -/
def div? (x y : Binary64) : Option Binary64 :=
  ofScaled? (x.negative != y.negative) x.significand y.significand (x.exponent - y.exponent)

end Binary64

end EntitySearch
