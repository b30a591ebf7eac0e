/-
  GrammarLint/Json/Fault.lean
  ===========================
  **What can be wrong with a JSON document** — the causes, their wording, and where
  in the text they are reported.

  A `Fault` is a cause without a place.  A `Failure` adds the place in the way the
  readers know it, as the number of bytes that are left unread there.  A `Defect` is
  what a caller sees: the cause with its 1-based line and its column in bytes.  The
  three are kept apart so that no reader has to carry a position: `Failure.locate`
  computes it once from the whole text.
-/
import GrammarLint.Decimal.Shortest
import GrammarLint.Text.LineIndex
import GrammarLint.Text.Quoted

namespace GrammarLint.Json

open Text Decimal

/-- A value that stands where another kind of value is wanted. -/
inductive Found where
  | null
  | boolean (b : Bool)
  | integer (n : Int)
  | float (x : Binary64)
  | text (s : String)
  | sequence
  | map
deriving DecidableEq, Repr

def Found.describe : Found → String
  | .null => "null"
  | .boolean b => "boolean `" ++ toString b ++ "`"
  | .integer n => "integer `" ++ toString n ++ "`"
  | .float x => "floating point `" ++ String.ofList x.text ++ "`"
  | .text s => "string " ++ quoted s
  | .sequence => "sequence"
  | .map => "map"

/-- Everything that a reader objects to: first the offences against the syntax of JSON,
    then those against the shape that the reader expects. -/
inductive Fault where
  | eofInValue
  | eofInList
  | eofInObject
  | eofInString
  | expectedValue
  | expectedWord
  | expectedListEnd
  | expectedObjectEnd
  | expectedColon
  | keyNotString
  | trailingComma
  | trailingCharacters
  | invalidNumber
  | numberOutOfRange
  | controlCharacter
  | invalidEscape
  | loneSurrogate
  | unpairedSurrogate
  | wrongType (found : Found) (expected : String)
  | wrongValue (found : Int) (expected : String)
  | missingField (name : String)
  | duplicateField (name : String)
  | unknownField (name : String) (known : List String)
  | unknownVariant (name : String) (known : List String)
  | wrongLength (length : Nat) (title : String) (expected : Nat)
deriving DecidableEq, Repr

def ticked (name : String) : String := "`" ++ name ++ "`"

/-- A choice between names: the only one, one of two, or one of several. -/
def alternatives (names : List String) : String :=
  match names with
  | [a] => ticked a
  | [a, b] => ticked a ++ " or " ++ ticked b
  | _ => "one of " ++ String.intercalate ", " (names.map ticked)

def Fault.message : Fault → String
  | .eofInValue => "EOF while parsing a value"
  | .eofInList => "EOF while parsing a list"
  | .eofInObject => "EOF while parsing an object"
  | .eofInString => "EOF while parsing a string"
  | .expectedValue => "expected value"
  | .expectedWord => "expected ident"
  | .expectedListEnd => "expected `,` or `]`"
  | .expectedObjectEnd => "expected `,` or `\x7d`"
  | .expectedColon => "expected `:`"
  | .keyNotString => "key must be a string"
  | .trailingComma => "trailing comma"
  | .trailingCharacters => "trailing characters"
  | .invalidNumber => "invalid number"
  | .numberOutOfRange => "number out of range"
  | .controlCharacter => "control character (\\u0000-\\u001F) found while parsing a string"
  | .invalidEscape => "invalid escape"
  | .loneSurrogate => "lone leading surrogate in hex escape"
  | .unpairedSurrogate => "unexpected end of hex escape"
  | .wrongType found expected => "invalid type: " ++ found.describe ++ ", expected " ++ expected
  | .wrongValue found expected =>
    "invalid value: " ++ (Found.integer found).describe ++ ", expected " ++ expected
  | .missingField name => "missing field " ++ ticked name
  | .duplicateField name => "duplicate field " ++ ticked name
  | .unknownField name known => "unknown field " ++ ticked name ++ ", expected " ++ alternatives known
  | .unknownVariant name known =>
    "unknown variant " ++ ticked name ++ ", expected " ++ alternatives known
  | .wrongLength length title expected =>
    "invalid length " ++ toString length ++ ", expected " ++ title ++ " with " ++
      toString expected ++ " elements"

/-- A cause and the number of bytes that are unread at the place it is reported at. -/
structure Failure where
  fault : Fault
  left : Nat
deriving DecidableEq, Repr

/-- A cause reported where `rest` begins. -/
def Failure.before (fault : Fault) (rest : List Char) : Failure :=
  ⟨fault, utf8Length rest⟩

/-- A cause reported behind the first byte of `rest`, or at its end if it is empty. -/
def Failure.inside (fault : Fault) (rest : List Char) : Failure :=
  ⟨fault, utf8Length rest - 1⟩

/-- A cause reported at the end of the document. -/
def Failure.atEnd (fault : Fault) : Failure := ⟨fault, 0⟩

/-- A cause with its line, counted from 1, and the bytes before it on that line. -/
structure Defect where
  fault : Fault
  line : Nat
  column : Nat
deriving DecidableEq, Repr

def Defect.message (d : Defect) : String :=
  d.fault.message ++ " at line " ++ toString d.line ++ " column " ++ toString d.column

/-- The place of a failure in the document `cs` that it was met in. -/
def Failure.locate (cs : List Char) (f : Failure) : Defect :=
  let place := (LineIndex.ofChars cs).lineCol (utf8Length cs - f.left)
  ⟨f.fault, place.1 + 1, place.2⟩

end GrammarLint.Json
