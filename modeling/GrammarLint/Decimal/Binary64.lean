/-
  GrammarLint/Decimal/Binary64.lean
  =================================
  **Binary floating point with 53 significant bits** — the numbers that a decimal
  fraction or an integer of more than 64 bits is read as.

  A magnitude is `mantissa · 2^shift / 2^1074`, with exact natural numbers and no
  rounding hidden in a primitive type.  `ofRatio` rounds an exact quotient to the
  nearest magnitude, a tie going to the even mantissa; the two operations that are
  needed, multiplying and dividing by a power of ten that is itself rounded, are
  quotients rounded by it.
-/

namespace GrammarLint.Decimal

/-- A magnitude `mantissa · 2^shift / 2^1074` with a sign. -/
structure Binary64 where
  negative : Bool
  mantissa : Nat
  shift : Nat
deriving DecidableEq, Repr

/-- `num / den` rounded to a whole number, a half going to the even neighbour. -/
def roundHalfEven (num den : Nat) : Nat :=
  let q := num / den
  let twice := 2 * (num % den)
  if twice < den then q else if den < twice then q + 1 else q + q % 2

namespace Binary64

def zero : Binary64 := ⟨false, 0, 0⟩

def isZero (x : Binary64) : Bool := x.mantissa == 0

/-- Whether the magnitude lies beyond the largest finite one. -/
def isInfinite (x : Binary64) : Bool := 2045 < x.shift

/-- The magnitude nearest to `num / den`. -/
def ofRatio (num den : Nat) : Binary64 :=
  let scaled := num * Nat.pow 2 1074
  let bits := (scaled / den).log2 + 1
  let shift := bits - 53
  let mantissa := roundHalfEven scaled (den * Nat.pow 2 shift)
  if mantissa = Nat.pow 2 53 then ⟨false, Nat.pow 2 52, shift + 1⟩ else ⟨false, mantissa, shift⟩

/-- The magnitude nearest to `10^k`. -/
def powerOfTen (k : Nat) : Binary64 := ofRatio (Nat.pow 10 k) 1

/-- `x · 10^k`, rounded. -/
def timesPower (x : Binary64) (k : Nat) : Binary64 :=
  let p := powerOfTen k
  ofRatio (x.mantissa * Nat.pow 2 x.shift * (p.mantissa * Nat.pow 2 p.shift)) (Nat.pow 2 2148)

/-- `x / 10^k`, rounded. -/
def dividedByPower (x : Binary64) (k : Nat) : Binary64 :=
  let p := powerOfTen k
  ofRatio (x.mantissa * Nat.pow 2 x.shift) (p.mantissa * Nat.pow 2 p.shift)

/-- The largest power of ten that is scaled by in one step. -/
def maxPower : Nat := 308

/-- `x · 10^e`, in steps of at most `10^308`; nothing if the result is not finite.
    Two steps down take every `x` below `2^64` to zero, so three are enough. -/
def scale : Nat → Binary64 → Int → Option Binary64
  | 0, x, _ => some x
  | steps + 1, x, e =>
    if e.natAbs ≤ maxPower then
      if 0 ≤ e then
        let y := x.timesPower e.natAbs
        if y.isInfinite then none else some y
      else some (x.dividedByPower e.natAbs)
    else if x.isZero then some x
    else if 0 ≤ e then none
    else scale steps (x.dividedByPower maxPower) (e + maxPower)

/-- The number `significand · 10^e` with a sign, for a significand below `2^64`;
    nothing if it is not finite. -/
def ofDecimal (negative : Bool) (significand : Nat) (e : Int) : Option Binary64 :=
  (scale 3 (ofRatio significand 1) e).map fun x => { x with negative }

end Binary64

end GrammarLint.Decimal
