/-
  GrammarLint/Json/Literal.lean
  =============================
  **String literals** — reading them, skipping them without decoding, and writing
  them.

  Reading replaces escapes by the characters they stand for; a character outside the
  Basic Multilingual Plane is escaped as a pair of surrogates.  Skipping checks that
  every escape is well formed and no more.  Writing escapes quotes, backslashes and
  the characters below U+0020, and leaves every other character as it is.
-/
import GrammarLint.Json.Scan

namespace GrammarLint.Json

open Text

/-! ### Escapes -/

def hexValue? (c : Char) : Option Nat :=
  let n := c.toNat
  if '0'.toNat ≤ n ∧ n ≤ '9'.toNat then some (n - '0'.toNat)
  else if 'a'.toNat ≤ n ∧ n ≤ 'f'.toNat then some (n - 'a'.toNat + 10)
  else if 'A'.toNat ≤ n ∧ n ≤ 'F'.toNat then some (n - 'A'.toNat + 10)
  else none

def hexQuad? (a b c d : Char) : Option Nat := do
  return (((← hexValue? a) * 16 + (← hexValue? b)) * 16 + (← hexValue? c)) * 16 + (← hexValue? d)

/-- What a failed group of four digits reports, for the text `s` behind the `u`: four
    bytes are taken before they are looked at. -/
def hexFailure (s : List Char) : Failure :=
  if 4 ≤ utf8Length s then ⟨.invalidEscape, utf8Length s - 4⟩ else .atEnd .eofInString

/-- The character that a one-letter escape stands for. -/
def shortEscape? (c : Char) : Option Char :=
  if c = '"' then some '"'
  else if c = '\\' then some '\\'
  else if c = '/' then some '/'
  else if c = 'b' then some (Char.ofNat 0x08)
  else if c = 'f' then some (Char.ofNat 0x0C)
  else if c = 'n' then some '\n'
  else if c = 'r' then some '\r'
  else if c = 't' then some '\t'
  else none

/-- Whether a 16-bit unit is the first half of a pair of surrogates. -/
def isLeading (n : Nat) : Bool := 0xD800 ≤ n && n ≤ 0xDBFF

/-- Whether a 16-bit unit is the second half of a pair of surrogates. -/
def isTrailing (n : Nat) : Bool := 0xDC00 ≤ n && n ≤ 0xDFFF

def pairChar (leading trailing : Nat) : Char :=
  Char.ofNat ((leading - 0xD800) * 0x400 + (trailing - 0xDC00) + 0x10000)

/-- What is reported when no second half follows a leading surrogate, for the text `s`
    behind the first half. -/
def pairFailure : List Char → Failure
  | [] => .atEnd .eofInString
  | '\\' :: [] => .atEnd .eofInString
  | '\\' :: 'u' :: s => hexFailure s
  | '\\' :: s => .inside .unpairedSurrogate s
  | s => .inside .unpairedSurrogate s

/-! ### Reading and skipping -/

/-- Reads a literal from behind its opening quote; `acc` holds the characters read so
    far in reverse. -/
def readBody (acc : List Char) : List Char → Except Failure (List Char × List Char)
  | [] => .error (.atEnd .eofInString)
  | '"' :: s => .ok (acc.reverse, s)
  | '\\' :: 'u' :: a :: b :: c :: d :: s =>
    match hexQuad? a b c d with
    | none => .error (hexFailure (a :: b :: c :: d :: s))
    | some n =>
      if isTrailing n then .error (.before .loneSurrogate s)
      else if isLeading n then
        match s with
        | '\\' :: 'u' :: a :: b :: c :: d :: s =>
          match hexQuad? a b c d with
          | none => .error (hexFailure (a :: b :: c :: d :: s))
          | some m =>
            if isTrailing m then readBody (pairChar n m :: acc) s
            else .error (.before .loneSurrogate s)
        | s => .error (pairFailure s)
      else readBody (Char.ofNat n :: acc) s
  | '\\' :: 'u' :: s => .error (hexFailure s)
  | '\\' :: c :: s =>
    match shortEscape? c with
    | some x => readBody (x :: acc) s
    | none => .error (.inside .invalidEscape (c :: s))
  | ['\\'] => .error (.atEnd .eofInString)
  | c :: s =>
    if c < ' ' then .error (.inside .controlCharacter (c :: s)) else readBody (c :: acc) s

/-- Skips a literal from behind its opening quote. -/
def skipBody : List Char → Except Failure (List Char)
  | [] => .error (.atEnd .eofInString)
  | '"' :: s => .ok s
  | '\\' :: 'u' :: a :: b :: c :: d :: s =>
    if (hexQuad? a b c d).isSome then skipBody s else .error (hexFailure (a :: b :: c :: d :: s))
  | '\\' :: 'u' :: s => .error (hexFailure s)
  | '\\' :: c :: s =>
    if (shortEscape? c).isSome then skipBody s else .error (.inside .invalidEscape (c :: s))
  | ['\\'] => .error (.atEnd .eofInString)
  | c :: s =>
    if c < ' ' then .error (.before .controlCharacter (c :: s)) else skipBody s

/-! ### Writing -/

def hexDigit (n : Nat) : Char :=
  if n < 10 then Char.ofNat ('0'.toNat + n) else Char.ofNat ('a'.toNat + (n - 10))

/-- How a character is written inside a literal. -/
def escaped (c : Char) : List Char :=
  if c = '"' then ['\\', '"']
  else if c = '\\' then ['\\', '\\']
  else if c < ' ' then
    if c = Char.ofNat 0x08 then ['\\', 'b']
    else if c = Char.ofNat 0x0C then ['\\', 'f']
    else if c = '\n' then ['\\', 'n']
    else if c = '\r' then ['\\', 'r']
    else if c = '\t' then ['\\', 't']
    else ['\\', 'u', '0', '0', hexDigit (c.toNat / 16), hexDigit (c.toNat % 16)]
  else [c]

def literal (s : String) : List Char :=
  '"' :: s.toList.flatMap escaped ++ ['"']

end GrammarLint.Json
