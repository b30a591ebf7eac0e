/-
  GrammarLint/CommandLine/Argument.lean
  =====================================
  **Arguments of a command** — what can be given on a command line, how it is shown in
  help texts and messages, and which values it takes.
-/

namespace GrammarLint.CommandLine

/-! ### Values -/

/-- The values that an argument takes. -/
inductive ValueKind where
  | text
  /-- A path, which is not empty. -/
  | path
  /-- A number of 64 bits that is not less than `least`. -/
  | number (least : Nat)
  | choice (options : List String)
deriving DecidableEq, Repr

/-- A value that was given. -/
inductive Value where
  | text (s : String)
  | number (n : Nat)
  /-- What stands for the value of a flag. -/
  | on
deriving DecidableEq, Repr

/-- What is wrong with the text of a value. -/
inductive ValueFault where
  | missing
  /-- It is none of the words that there are. -/
  | unknownChoice
  /-- It is no number, or not one of those that are allowed. -/
  | badNumber (reason : String)
deriving DecidableEq, Repr

/-- The first number that is too large. -/
def numberBound : Nat := 18446744073709551616

/-- Reads the digits that follow those of `n`.  Of two faults the first one counts. -/
def readDigits : Nat → List Char → Except String Nat
  | n, [] => .ok n
  | n, c :: cs =>
    if !c.isDigit then .error "invalid digit found in string"
    else
      let n := n * 10 + (c.toNat - '0'.toNat)
      if numberBound ≤ n then .error "number too large to fit in target type"
      else readDigits n cs

/-- Reads a number in decimal, with an optional plus sign. -/
def readNumber : List Char → Except String Nat
  | [] => .error "cannot parse integer from empty string"
  | '+' :: [] => .error "invalid digit found in string"
  | '+' :: c :: cs => readDigits 0 (c :: cs)
  | cs => readDigits 0 cs

namespace ValueKind

def options : ValueKind → List String
  | .choice options => options
  | _ => []

def read : ValueKind → String → Except ValueFault Value
  | .text, s => .ok (.text s)
  | .path, s => if s.isEmpty then .error .missing else .ok (.text s)
  | .choice options, s =>
    if s ∈ options then .ok (.text s)
    else if s.isEmpty then .error .missing
    else .error .unknownChoice
  | .number least, s =>
    match readNumber s.toList with
    | .error reason => .error (.badNumber reason)
    | .ok n =>
      if least ≤ n then .ok (.number n)
      else .error (.badNumber
        (toString n ++ " is not in " ++ toString least ++ ".." ++ toString (numberBound - 1)))

end ValueKind

/-! ### Arguments -/

/-- In which form an argument is given. -/
inductive Form where
  /-- By its place among those without a name. -/
  | positional (kind : ValueKind)
  /-- By name and value, once. -/
  | option (kind : ValueKind)
  /-- By name and value, any number of times; a value may look like a name. -/
  | options (kind : ValueKind)
  | flag
  /-- By name; asks for the help text. -/
  | help
  /-- By name; asks for the version. -/
  | version
deriving DecidableEq, Repr

/-- Something that can be given to a command. -/
structure Argument where
  /-- The name, which is given behind two dashes unless the argument is a positional one. -/
  name : String
  form : Form
  /-- How its value is called in help texts. -/
  placeholder : String
  /-- A letter that can be given behind one dash in place of the name. -/
  short : Option Char
  required : Bool
  /-- The arguments that it cannot be given together with. -/
  conflicts : List String
  help : String
deriving DecidableEq, Repr

namespace Argument

def kind? (a : Argument) : Option ValueKind :=
  match a.form with
  | .positional kind | .option kind | .options kind => some kind
  | _ => none

def isPositional (a : Argument) : Bool :=
  match a.form with
  | .positional _ => true
  | _ => false

def repeats (a : Argument) : Bool :=
  match a.form with
  | .options _ => true
  | _ => false

def display (a : Argument) : String :=
  match a.form with
  | .positional _ =>
    if a.required then "<" ++ a.placeholder ++ ">" else "[" ++ a.placeholder ++ "]..."
  | .option _ | .options _ => "--" ++ a.name ++ " <" ++ a.placeholder ++ ">"
  | _ => "--" ++ a.name

end Argument

end GrammarLint.CommandLine
