/-
  GrammarLint/Decimal/Shortest.lean
  =================================
  **The shortest decimal that reads back** — of all decimals that round to a given
  binary magnitude the ones with the fewest digits, and of those the nearest.

  For 1, 2, … 17 digits the two neighbours of the magnitude on the grid of decimals
  with so many digits are tested; the first grid with a hit wins.  Everything is
  exact arithmetic on natural numbers: a magnitude and the two midpoints to its
  neighbours are numerators over the common denominator `2^1076`.
-/
import GrammarLint.Decimal.Binary64

namespace GrammarLint.Decimal

/-- Decimal digits `digits` read as `0.digits · 10^point`. -/
structure Digits where
  digits : List Char
  point : Int
deriving DecidableEq, Repr

/-- The decimals that round to one magnitude: it and the ends of the interval, over
    `2^1076`, and whether the ends belong to it. -/
structure Interval where
  value : Nat
  low : Nat
  high : Nat
  closed : Bool

/-- The interval of `x`.  Below a power of two the neighbour is half as far. -/
def Interval.of (x : Binary64) : Interval :=
  let unit := Nat.pow 2 x.shift
  let value := 4 * x.mantissa * unit
  let low := if x.mantissa = Nat.pow 2 52 ∧ 0 < x.shift then value - unit else value - 2 * unit
  ⟨value, low, value + 2 * unit, x.mantissa % 2 == 0⟩

/-- Whether `num / den` lies in the interval. -/
def Interval.holds (i : Interval) (num den : Nat) : Bool :=
  let n := num * Nat.pow 2 1076
  if i.closed then i.low * den ≤ n && n ≤ i.high * den else i.low * den < n && n < i.high * den

/-- The power of ten just above the magnitude `value / 2^1076`. -/
def pointOf (value : Nat) : Int :=
  (Nat.toDigits 10 (value * Nat.pow 10 400 / Nat.pow 2 1076)).length - 400

/-- The decimal with `n` digits that is nearest to the interval's value and lies in the
    interval, as a whole number of units `10^(point - n)`. -/
def Interval.nearest? (i : Interval) (point : Int) (n : Nat) : Option Nat :=
  let e : Int := point - n
  let num := if 0 ≤ e then Nat.pow 10 e.natAbs else 1
  let den := if 0 ≤ e then 1 else Nat.pow 10 e.natAbs
  -- the value in units of the grid is `i.value * den / (2^1076 * num)`
  let top := i.value * den
  let bottom := Nat.pow 2 1076 * num
  let below := top / bottom
  let near := roundHalfEven top bottom
  let far := if near = below then below + 1 else below
  if i.holds (near * num) den then some near
  else if i.holds (far * num) den then some far
  else none

/-- Takes the zeros off the end of a list of digits. -/
def stripZeros (ds : List Char) : List Char :=
  (ds.reverse.dropWhile (· == '0')).reverse

/-- The digits of `u` units `10^(point - n)`; `u` may have one digit more than `n`. -/
def digitsOfUnits (point : Int) (n u : Nat) : Digits :=
  let ds := Nat.toDigits 10 u
  ⟨stripZeros ds, point + (ds.length - n)⟩

/-- Tries the grids with `n`, `n + 1`, … digits, `tries` of them. -/
def shortestFrom (i : Interval) (point : Int) : Nat → Nat → Digits
  | 0, n => digitsOfUnits point n (i.value * Nat.pow 10 n / Nat.pow 2 1076)
  | tries + 1, n =>
    match i.nearest? point n with
    | some u => digitsOfUnits point n u
    | none => shortestFrom i point tries (n + 1)

/-- The shortest digits that read back as the magnitude of `x`; none for zero. -/
def shortest (x : Binary64) : Digits :=
  if x.isZero then ⟨[], 0⟩
  else
    let i := Interval.of x
    shortestFrom i (pointOf i.value) 17 1

/-- A number in decimal.  Magnitudes from `10^-5` up to below `10^16` are written
    positionally, with a fraction always; the others with an exponent and its sign. -/
def Binary64.text (x : Binary64) : List Char :=
  let sign := if x.negative then ['-'] else []
  let d := shortest x
  let len : Int := d.digits.length
  sign ++
    if d.digits.isEmpty then ['0', '.', '0']
    else if 0 < d.point ∧ d.point ≤ 16 then
      if len ≤ d.point then
        d.digits ++ List.replicate (d.point - len).toNat '0' ++ ['.', '0']
      else d.digits.take d.point.toNat ++ ['.'] ++ d.digits.drop d.point.toNat
    else if -5 < d.point ∧ d.point ≤ 0 then
      ['0', '.'] ++ List.replicate (-d.point).toNat '0' ++ d.digits
    else
      let e := d.point - 1
      let fraction := d.digits.drop 1
      d.digits.take 1 ++ (if fraction.isEmpty then [] else '.' :: fraction) ++
        ['e', if e < 0 then '-' else '+'] ++ Nat.toDigits 10 e.natAbs

end GrammarLint.Decimal
