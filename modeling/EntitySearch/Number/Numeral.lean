import EntitySearch.Number.Basic

/-! Numerals: numbers as they are written. A numeral without fraction and exponent stands for an
integer when that fits a word. Every other one stands for a double, found in two steps: as many
digits as fit an unsigned word are read exactly and rounded, and the result is multiplied or divided
by a power of ten and rounded again. -/
namespace EntitySearch

/-- Digits of a numeral in written order. An exponent comes with its sign, true for minus. -/
structure Numeral where
  negative : Bool
  whole : List Nat
  fraction : Option (List Nat)
  exponent : Option (Bool × List Nat)
deriving DecidableEq

namespace Numeral

def spelled (digits : List Nat) : Nat :=
  digits.foldl (fun n d => 10 * n + d) 0

/-- Reads digits while the number fits a word, and counts those read. -/
def accumulate (n count : Nat) : List Nat → Nat × Nat
  | [] => (n, count)
  | d :: rest =>
    let next := 10 * n + d
    if next < 0x10000000000000000 then accumulate next (count + 1) rest else (n, count)

/-- The exact significand with its power of ten. Digits of the whole part that no longer fit raise
the power, digits of the fraction that fit lower it, and the others are lost. -/
def parts (n : Numeral) : Nat × Int :=
  let (whole, read) := accumulate 0 0 n.whole
  let (significand, places) := accumulate whole 0 (n.fraction.getD [])
  let power : Int := match n.exponent with
    | none => 0
    | some (minus, digits) => if minus then -(spelled digits) else spelled digits
  (significand, (n.whole.length - read : Nat) - (places : Int) + power)

def powerOfTen (k : Nat) : Binary64 :=
  (Binary64.ofRatio? false (Nat.pow 10 k) 1).getD (.zero false)

/-- `significand * 10 ^ power` by at most two rounded operations after the significand is rounded.
Nothing remains of a number that two divisions by the largest power do not bring into range. -/
def scale? (significand : Nat) (power : Int) : Option Binary64 := do
  let f ← Binary64.ofRatio? false significand 1
  if f.isZero then
    some f
  else if 0 ≤ power then
    if power ≤ 308 then f.mul? (powerOfTen power.toNat) else none
  else if -308 ≤ power then
    f.div? (powerOfTen (-power).toNat)
  else if -616 ≤ power then
    (← f.div? (powerOfTen 308)).div? (powerOfTen (-power - 308).toNat)
  else
    some (.zero false)

def float? (n : Numeral) : Option Binary64 :=
  let (significand, power) := n.parts
  (scale? significand power).map fun f => { f with negative := n.negative }

/-- The integer that the numeral stands for, if it has no fraction and no exponent and fits a word.
Minus zero is not an integer. -/
def integer? (n : Numeral) : Option WordInt :=
  if n.fraction.isNone && n.exponent.isNone then
    let magnitude := spelled n.whole
    if n.negative then
      if h : magnitude ≠ 0 ∧ magnitude ≤ 0x8000000000000000 then
        some ⟨-magnitude, by omega, by omega⟩
      else
        none
    else
      if h : magnitude < 0x10000000000000000 then some ⟨magnitude, by omega, by omega⟩ else none
  else
    none

def number? (n : Numeral) : Option Number :=
  match n.integer? with
  | some i => some (.integer i)
  | none => n.float?.map .float

end Numeral

end EntitySearch
