/-
  GrammarLint/Json/Writer.lean
  ============================
  **Writing documents** — objects, arrays and numbers from parts that are written
  already.  Compact documents have no blanks at all; a map of strings is also written
  over several lines, with two blanks before each member.
-/
import GrammarLint.Json.Literal

namespace GrammarLint.Json

def separated (separator : List Char) (parts : List (List Char)) : List Char :=
  (parts.intersperse separator).flatten

def digits (n : Nat) : List Char := Nat.toDigits 10 n

def array (items : List (List Char)) : List Char :=
  '[' :: separated [','] items ++ [']']

def member (key : String) (value : List Char) : List Char :=
  literal key ++ ':' :: value

/-- A compact object with the given members in order. -/
def object (entries : List (String × List Char)) : List Char :=
  '{' :: separated [','] (entries.map fun e => member e.1 e.2) ++ ['}']

/-- One line of an object that is written over several lines. -/
def memberLine (key value : String) : List Char :=
  ' ' :: ' ' :: literal key ++ ':' :: ' ' :: literal value

/-- A map of strings, one member a line; an empty one is written without any line. -/
def prettyMap (entries : List (String × String)) : List Char :=
  if entries.isEmpty then ['{', '}']
  else
    '{' :: '\n' :: separated [',', '\n'] (entries.map fun e => memberLine e.1 e.2) ++ ['\n', '}']

end GrammarLint.Json
