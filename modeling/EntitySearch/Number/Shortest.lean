import EntitySearch.Number.Basic

/-! Decimal text of numbers. A double is written with the fewest digits that read back as the same
double, and of those with the ones nearest to it. -/
namespace EntitySearch

namespace Binary64

/-- What rounds to a double: the interval from `lower / den` to `upper / den` around
`middle / den`. Its ends belong to it when `closed` holds. -/
structure Interval where
  lower : Nat
  middle : Nat
  upper : Nat
  den : Nat
  closed : Bool

/-- The interval of a magnitude. Its lower half is only half as wide below a power of two. -/
def interval (x : Binary64) : Interval :=
  let m := x.significand
  let e := x.exponent - 2
  let narrow := m == 1 <<< 52 && 2 <<< 52 ≤ x.rank.val
  let scale (n : Nat) := n <<< e.toNat
  { lower := scale (if narrow then 4 * m - 1 else 4 * m - 2)
    middle := scale (4 * m)
    upper := scale (4 * m + 2)
    den := 1 <<< (-e).toNat
    closed := m % 2 == 0 }

def Interval.inUnits (i : Interval) (k : Int) : Interval :=
  let up := Nat.pow 10 (-k).toNat
  { i with
    lower := i.lower * up
    middle := i.middle * up
    upper := i.upper * up
    den := i.den * Nat.pow 10 k.toNat }

def Interval.holds (i : Interval) (n : Nat) : Bool :=
  let point := n * i.den
  if i.closed then i.lower ≤ point && point ≤ i.upper else i.lower < point && point < i.upper

/-- Of the two integers around the middle the one that the interval holds, the nearer one if it
holds both, and the even one if neither is nearer. -/
def Interval.integer? (i : Interval) : Option Nat :=
  let below := i.middle / i.den
  match i.holds below, i.holds (below + 1) with
  | true, true => some (divideToEven i.middle i.den)
  | true, false => some below
  | false, true => some (below + 1)
  | false, false => none

/-- How many digits a positive number has before the point; below one, the zeros after the point
count negatively. -/
def Interval.places (i : Interval) : Int :=
  (Nat.toDigits 10 (i.middle * Nat.pow 10 400 / i.den)).length - 400

/-- The first grid of decimals on which the interval holds a neighbour of its middle, from one digit
on; seventeen digits always suffice. -/
def Interval.shortest (i : Interval) (places : Int) : (grids digits : Nat) → Nat × Int
  | 0, digits => ((i.inUnits (places - digits)).middle / (i.inUnits (places - digits)).den,
      places - digits)
  | grids + 1, digits =>
    match (i.inUnits (places - digits)).integer? with
    | some n => (n, places - digits)
    | none => i.shortest places grids (digits + 1)

/-- Shortest digits of a nonzero magnitude, with the number of them before the point. -/
def digits (x : Binary64) : List Char × Int :=
  let i := x.interval
  let (n, power) := i.shortest i.places 17 1
  let all := Nat.toDigits 10 n
  let kept := (all.reverse.dropWhile (· == '0')).reverse
  (kept, all.length + power)

/-- The text of a magnitude. The point is set by position with up to sixteen digits before it and up
to four zeros after it; outside that range an exponent follows. -/
def magnitudeText (x : Binary64) : List Char :=
  if x.isZero then
    ['0', '.', '0']
  else
    let (digits, places) := x.digits
    let count : Int := digits.length
    if 0 < places && places ≤ 16 then
      if count ≤ places then
        digits ++ List.replicate (places - count).toNat '0' ++ ['.', '0']
      else
        digits.take places.toNat ++ '.' :: digits.drop places.toNat
    else if -5 < places && places ≤ 0 then
      '0' :: '.' :: List.replicate (-places).toNat '0' ++ digits
    else
      let point := match digits with
        | first :: second :: rest => first :: '.' :: second :: rest
        | short => short
      let e := places - 1
      let exponent := if e < 0 then '-' :: Nat.toDigits 10 (-e).toNat else Nat.toDigits 10 e.toNat
      point ++ 'e' :: exponent

/-- Text of a double. A negative zero keeps its sign. -/
def text (x : Binary64) : List Char :=
  if x.negative then '-' :: x.magnitudeText else x.magnitudeText

end Binary64

def WordInt.text (n : WordInt) : List Char :=
  let digits := Nat.toDigits 10 n.value.natAbs
  if n.value < 0 then '-' :: digits else digits

def Number.text : Number → List Char
  | .integer n => n.text
  | .float x => x.text

end EntitySearch
