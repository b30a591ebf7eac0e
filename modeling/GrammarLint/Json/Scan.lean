/-
  GrammarLint/Json/Scan.lean
  ==========================
  **The small scanners of JSON** — blanks, the words `null`, `true` and `false`, and
  numbers.  Each takes the characters that are left and returns what it read and what
  is left after it.
-/
import GrammarLint.Json.Fault

namespace GrammarLint.Json

open Text Decimal

/-! ### Blanks and words -/

/-- The four blanks of JSON. -/
def isBlank (c : Char) : Bool :=
  c == ' ' || c == '\t' || c == '\n' || c == '\r'

def skipBlanks (s : List Char) : List Char := s.dropWhile isBlank

/-- Reads the letters `word`; a wrong letter counts as read. -/
def scanWord : List Char → List Char → Except Failure (List Char)
  | [], s => .ok s
  | _ :: _, [] => .error (.atEnd .eofInValue)
  | w :: ws, c :: s => if c = w then scanWord ws s else .error (.inside .expectedWord (c :: s))

/-! ### Numbers -/

/-- The parts of a number as they are written: digits throughout. -/
structure Numeral where
  negative : Bool
  whole : List Char
  fraction : Option (List Char)
  exponent : Option (Bool × List Char)
deriving DecidableEq, Repr

def scanDigits (s : List Char) : List Char × List Char :=
  (s.takeWhile Char.isDigit, s.dropWhile Char.isDigit)

def startsWithDigit : List Char → Bool
  | [] => false
  | c :: _ => c.isDigit

/-- The digits before the point: a zero stands alone.  `cutOff` is the fault of a number
    that the document ends in. -/
def scanWhole (cutOff : Fault) : List Char → Except Failure (List Char × List Char)
  | [] => .error (.atEnd cutOff)
  | '0' :: s => if startsWithDigit s then .error (.inside .invalidNumber s) else .ok (['0'], s)
  | s => if startsWithDigit s then .ok (scanDigits s) else .error (.inside .invalidNumber s)

/-- The digits after a point, if there is a point: one at least. -/
def scanFraction (cutOff : Fault) :
    List Char → Except Failure (Option (List Char) × List Char)
  | '.' :: s =>
    if startsWithDigit s then .ok ((scanDigits s).map some id)
    else .error (.inside (if s.isEmpty then cutOff else .invalidNumber) s)
  | s => .ok (none, s)

/-- The sign of an exponent, and what is left. -/
def scanSign : List Char → Bool × List Char
  | '+' :: s => (false, s)
  | '-' :: s => (true, s)
  | s => (false, s)

/-- The exponent, if there is one: a sign, and one digit at least. -/
def scanExponent (cutOff : Fault) :
    List Char → Except Failure (Option (Bool × List Char) × List Char)
  | [] => .ok (none, [])
  | c :: s =>
    if c = 'e' ∨ c = 'E' then
      let (negative, s) := scanSign s
      if startsWithDigit s then .ok ((scanDigits s).map (fun ds => some (negative, ds)) id)
      else .error (.inside (if s.isEmpty then cutOff else .invalidNumber) s)
    else .ok (none, c :: s)

def scanNumeral (cutOff : Fault) (s : List Char) : Except Failure (Numeral × List Char) := do
  let (negative, s) := match s with
    | '-' :: s => (true, s)
    | s => (false, s)
  let (whole, s) ← scanWhole cutOff s
  let (fraction, s) ← scanFraction cutOff s
  let (exponent, s) ← scanExponent cutOff s
  return (⟨negative, whole, fraction, exponent⟩, s)

/-! ### Values of numbers -/

def digitValue (c : Char) : Nat := c.toNat - '0'.toNat

/-- Reads digits behind `acc` for as long as the value stays within `limit`, and returns
    the digits that are left. -/
def gather (limit : Nat) (acc : Nat) : List Char → Nat × List Char
  | [] => (acc, [])
  | d :: ds =>
    let next := acc * 10 + digitValue d
    if limit < next then (acc, d :: ds) else gather limit next ds

def maxSignificand : Nat := 18446744073709551615

def maxExponent : Nat := 2147483647

/-- What a numeral denotes: an integer that fits in 64 bits, a floating point number, or
    nothing finite.  In the last case `unread` digits were not looked at any more. -/
inductive Number where
  | integer (n : Int)
  | float (x : Binary64)
  | tooLarge (unread : Nat)
deriving DecidableEq, Repr

/-- A floating point number from a significand and a power of ten. -/
def Number.ofDecimal (negative : Bool) (significand : Nat) (e : Int) : Number :=
  match Binary64.ofDecimal negative significand e with
  | some x => .float x
  | none => .tooLarge 0

/-- The value of a numeral without fraction and exponent whose digits fit in 64 bits.  A
    negative zero, and what is below the least signed integer, is floating point. -/
def Number.ofInteger (negative : Bool) (n : Nat) : Number :=
  if !negative then .integer n
  else if 0 < n ∧ n ≤ 9223372036854775808 then .integer (-n)
  else .ofDecimal true n 0

/-- The value of a numeral.  At most 64 bits of significand are kept: later digits of the
    whole part count as powers of ten, later digits of the fraction not at all. -/
def Numeral.value (u : Numeral) : Number :=
  let (kept, dropped) := gather maxSignificand 0 u.whole
  let (significand, shift) : Nat × Int := match u.fraction with
    | none => (kept, dropped.length)
    | some ds =>
      let (m, ignored) := gather maxSignificand kept ds
      (m, dropped.length - (ds.length - ignored.length : Nat))
  match u.exponent with
  | some (down, ds) =>
    let (e, unread) := gather maxExponent 0 ds
    if unread.isEmpty then .ofDecimal u.negative significand (if down then shift - e else shift + e)
    else if significand = 0 ∨ down then .float { Binary64.zero with negative := u.negative }
    else .tooLarge (unread.length - 1)
  | none =>
    if u.fraction.isNone ∧ dropped.isEmpty then .ofInteger u.negative significand
    else .ofDecimal u.negative significand shift

end GrammarLint.Json
