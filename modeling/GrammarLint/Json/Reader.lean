/-
  GrammarLint/Json/Reader.lean
  ============================
  **Readers of typed values** — strings, integers of limited size, optional values,
  lists, maps of strings and named variants.

  A reader takes the characters that are left and returns a value and the characters
  left after it.  It stops at the first offence in reading order, whether that is one
  against the syntax or against the expected shape; `parse` runs a reader on a whole
  document and gives the offence its line and column.
-/
import GrammarLint.Json.Skip

namespace GrammarLint.Json

open Text

/-- Reads a value off the front of a text. -/
abbrev Reader (α : Type) := List Char → Except Failure (α × List Char)

def Reader.map {α β : Type} (f : α → β) (read : Reader α) : Reader β :=
  fun s => match read s with
    | .error e => .error e
    | .ok (x, s) => .ok (f x, s)

/-- The offence of a value that is not of the expected kind, for a text without leading
    blanks.  A scalar is read to its end first, so a fault in it comes before. -/
def mismatch (expected : String) (s : List Char) : Failure :=
  let wrong (found : Found) (rest : List Char) : Failure := .before (.wrongType found expected) rest
  let word (letters : String) (found : Found) (rest : List Char) : Failure :=
    match scanWord letters.toList rest with
    | .error e => e
    | .ok rest => wrong found rest
  match s with
  | [] => .atEnd .expectedValue
  | 'n' :: s => word "ull" .null s
  | 't' :: s => word "rue" (.boolean true) s
  | 'f' :: s => word "alse" (.boolean false) s
  | '"' :: s =>
    match readBody [] s with
    | .error e => e
    | .ok (cs, s) => wrong (.text (String.ofList cs)) s
  | '[' :: s => wrong .sequence ('[' :: s)
  | '{' :: s => wrong .map ('{' :: s)
  | c :: s =>
    if c = '-' ∨ c.isDigit then
      match scanNumeral .eofInValue (c :: s) with
      | .error e => e
      | .ok (u, s) =>
        match u.value with
        | .integer n => wrong (.integer n) s
        | .float x => wrong (.float x) s
        | .tooLarge unread => ⟨.numberOutOfRange, utf8Length s + unread⟩
    else .inside .expectedValue (c :: s)

/-! ### Scalars -/

def natural (max : Nat) (expected : String) : Reader Nat := fun s =>
  match skipBlanks s with
  | [] => .error (.atEnd .eofInValue)
  | c :: s =>
    if c = '-' ∨ c.isDigit then
      match scanNumeral .eofInValue (c :: s) with
      | .error e => .error e
      | .ok (u, s) =>
        match u.value with
        | .integer n =>
          if 0 ≤ n ∧ n ≤ max then .ok (n.toNat, s) else .error (.before (.wrongValue n expected) s)
        | .float x => .error (.before (.wrongType (.float x) expected) s)
        | .tooLarge unread => .error ⟨.numberOutOfRange, utf8Length s + unread⟩
    else .error (mismatch expected (c :: s))

/-- Reads an integer of 32 bits without sign. -/
def uint32 : Reader UInt32 := (natural 4294967295 "u32").map UInt32.ofNat

/-- Reads an integer of 64 bits without sign. -/
def uint64 : Reader Nat := natural 18446744073709551615 "u64"

/-- Reads a string; `expected` names what it should have been. -/
def stringAs (expected : String) : Reader String := fun s =>
  match skipBlanks s with
  | [] => .error (.atEnd .eofInValue)
  | '"' :: s =>
    match readBody [] s with
    | .error e => .error e
    | .ok (cs, s) => .ok (String.ofList cs, s)
  | s => .error (mismatch expected s)

def string : Reader String := stringAs "a string"

/-- Reads `null` as nothing, and anything else as `read` does. -/
def nullable {α : Type} (read : Reader α) : Reader (Option α) := fun s =>
  match skipBlanks s with
  | 'n' :: s =>
    match scanWord "ull".toList s with
    | .error e => .error e
    | .ok s => .ok (none, s)
  | s => read.map some s

/-! ### Commas and colons -/

/-- What comes next in a list or an object: its end, or one more entry. -/
inductive Next (α : Type) where
  | close (rest : List Char)
  | more (entry : α) (rest : List Char)

/-- Goes to the next element of a list; `first` says that none was read yet. -/
def nextElement (first : Bool) (s : List Char) : Except Failure (Next Unit) :=
  match skipBlanks s with
  | [] => .error (.atEnd .eofInList)
  | c :: s =>
    if c = ']' then .ok (.close s)
    else if first then .ok (.more () (c :: s))
    else if c = ',' then
      match skipBlanks s with
      | [] => .error (.atEnd .eofInValue)
      | d :: s => if d = ']' then .error (.inside .trailingComma (d :: s)) else .ok (.more () (d :: s))
    else .error (.inside .expectedListEnd (c :: s))

def memberKey (s : List Char) : Except Failure (Next String) :=
  match s with
  | [] => .error (.atEnd .eofInValue)
  | '"' :: s =>
    match readBody [] s with
    | .error e => .error e
    | .ok (cs, s) => .ok (.more (String.ofList cs) s)
  | '}' :: s => .error (.inside .trailingComma ('}' :: s))
  | s => .error (.inside .keyNotString s)

/-- Goes to the next member of an object and reads its key. -/
def nextMember (first : Bool) (s : List Char) : Except Failure (Next String) :=
  match skipBlanks s with
  | [] => .error (.atEnd .eofInObject)
  | c :: s =>
    if c = '}' then .ok (.close s)
    else if first then memberKey (c :: s)
    else if c = ',' then memberKey (skipBlanks s)
    else .error (.inside .expectedObjectEnd (c :: s))

def colon (s : List Char) : Except Failure (List Char) :=
  match skipBlanks s with
  | [] => .error (.atEnd .eofInObject)
  | ':' :: s => .ok s
  | s => .error (.inside .expectedColon s)

/-! ### Lists and maps -/

/-- Reads the elements that are left in a list, behind those in `acc` (in reverse).  An
    element takes one character at least, and one off `clock`, which is as long as the
    text: when it has run out, so has the text. -/
def elements {α : Type} (read : Reader α) : List Char → Bool → List α → Reader (List α)
  | [], _, _, _ => .error (.atEnd .eofInList)
  | _ :: clock, first, acc, s =>
    match nextElement first s with
    | .error e => .error e
    | .ok (.close s) => .ok (acc.reverse, s)
    | .ok (.more _ s) =>
      match read s with
      | .error e => .error e
      | .ok (x, s) => elements read clock false (x :: acc) s

def list {α : Type} (read : Reader α) : Reader (List α) := fun s =>
  match skipBlanks s with
  | [] => .error (.atEnd .eofInValue)
  | '[' :: s => elements read s true [] s
  | s => .error (mismatch "a sequence" s)

/-- Reads the members that are left in a map of strings, behind those in `acc` (in
    reverse).  The clock is that of `elements`. -/
def members : List Char → Bool → List (String × String) → Reader (List (String × String))
  | [], _, _, _ => .error (.atEnd .eofInObject)
  | _ :: clock, first, acc, s =>
    match nextMember first s with
    | .error e => .error e
    | .ok (.close s) => .ok (acc.reverse, s)
    | .ok (.more key s) =>
      match colon s with
      | .error e => .error e
      | .ok s =>
        match string s with
        | .error e => .error e
        | .ok (value, s) => members clock false ((key, value) :: acc) s

/-- Reads an object whose values are strings, as the list of its members in order. -/
def stringMap : Reader (List (String × String)) := fun s =>
  match skipBlanks s with
  | [] => .error (.atEnd .eofInValue)
  | '{' :: s => members s true [] s
  | s => .error (mismatch "a map" s)

/-! ### Variants -/

def variantName {α : Type} (variants : List (String × α)) : Reader α := fun s =>
  match stringAs "variant identifier" s with
  | .error e => .error e
  | .ok (name, s) =>
    match variants.lookup name with
    | some x => .ok (x, s)
    | none => .error (.before (.unknownVariant name (variants.map Prod.fst)) s)

def unit : Reader Unit := fun s =>
  match skipBlanks s with
  | [] => .error (.atEnd .eofInValue)
  | 'n' :: s => (scanWord "ull".toList s).map fun s => ((), s)
  | s => .error (mismatch "unit" s)

def variantKey {α : Type} (variants : List (String × α)) : Reader α := fun s =>
  match skipBlanks s with
  | [] => .error (.atEnd .eofInObject)
  | '"' :: s => variantName variants ('"' :: s)
  | '}' :: s => .error (.inside .expectedValue ('}' :: s))
  | s => .error (.inside .keyNotString s)

/-- Reads a variant without contents: its name, or an object with the name as its only
    key and `null` as the value. -/
def variant {α : Type} (variants : List (String × α)) : Reader α := fun s =>
  match skipBlanks s with
  | [] => .error (.atEnd .eofInValue)
  | '"' :: s => variantName variants ('"' :: s)
  | '{' :: s => do
    let (x, s) ← variantKey variants s
    let s ← colon s
    let (_, s) ← unit s
    match skipBlanks s with
    | [] => .error (.atEnd .eofInObject)
    | '}' :: s => return (x, s)
    | s => .error (.before .expectedValue s)
  | s => .error (.inside .expectedValue s)

/-! ### Whole documents -/

/-- Reads one value that is followed by nothing but blanks. -/
def readAll {α : Type} (read : Reader α) (s : List Char) : Except Failure α :=
  match read s with
  | .error e => .error e
  | .ok (x, s) =>
    match skipBlanks s with
    | [] => .ok x
    | s => .error (.inside .trailingCharacters s)

def parse {α : Type} (read : Reader α) (text : String) : Except Defect α :=
  (readAll read text.toList).mapError (Failure.locate text.toList)

end GrammarLint.Json
