/-
  GrammarLint/Json/Skip.lean
  ==========================
  **Skipping a value of any kind** — what a reader does with a member that it has no
  use for.

  Only the syntax is checked: numbers are not evaluated and surrogates need not be
  paired.  The brackets that are open are kept on a stack, innermost first, so the
  nesting of the skipped value is not limited by anything.
-/
import GrammarLint.Json.Literal

namespace GrammarLint.Json

/-- An open bracket. -/
inductive Frame where
  | list
  | object
deriving DecidableEq, Repr

def Frame.closer : Frame → Char
  | .list => ']'
  | .object => '}'

/-- The fault of a document that ends inside a frame. -/
def Frame.cutOff : Frame → Fault
  | .list => .eofInList
  | .object => .eofInObject

/-- The fault of a frame in which neither a comma nor the closing bracket follows. -/
def Frame.unended : Frame → Fault
  | .list => .expectedListEnd
  | .object => .expectedObjectEnd

def skipKey (s : List Char) : Except Failure (List Char) :=
  match skipBlanks s with
  | [] => .error (.atEnd .eofInObject)
  | '"' :: s => do
    let s ← skipBody s
    match skipBlanks s with
    | [] => .error (.atEnd .eofInObject)
    | ':' :: s => return s
    | s => .error (.inside .expectedColon s)
  | s => .error (.inside .keyNotString s)

/-- Goes to where the next value of a frame begins. -/
def skipToValue (frame : Frame) (s : List Char) : Except Failure (List Char) :=
  match frame with
  | .list => .ok s
  | .object => skipKey s

/-- How the skipping goes on: it is over, or a value has to follow inside open frames. -/
inductive Progress where
  | done (rest : List Char)
  | value (stack : List Frame) (rest : List Char)

/-- Goes on behind a complete value: past the brackets that close frames, and past one
    comma if a frame stays open. -/
def afterValue : List Frame → List Char → Except Failure Progress
  | [], s => .ok (.done s)
  | frame :: stack, s =>
    match skipBlanks s with
    | [] => .error (.atEnd frame.cutOff)
    | c :: s =>
      if c = ',' then (skipToValue frame s).map (.value (frame :: stack))
      else if c = frame.closer then afterValue stack s
      else .error (.inside frame.unended (c :: s))

def afterOpen (frame : Frame) (stack : List Frame) (s : List Char) : Except Failure Progress :=
  match skipBlanks s with
  | [] => .error (.atEnd frame.cutOff)
  | c :: s =>
    if c = frame.closer then afterValue stack s
    else (skipToValue frame (c :: s)).map (.value (frame :: stack))

/-- Skips a scalar, or the opening bracket of a list or an object. -/
def skipStep (stack : List Frame) (s : List Char) : Except Failure Progress := do
  match skipBlanks s with
  | [] => .error (.atEnd .eofInValue)
  | 'n' :: s => afterValue stack (← scanWord "ull".toList s)
  | 't' :: s => afterValue stack (← scanWord "rue".toList s)
  | 'f' :: s => afterValue stack (← scanWord "alse".toList s)
  | '"' :: s => afterValue stack (← skipBody s)
  | '[' :: s => afterOpen .list stack s
  | '{' :: s => afterOpen .object stack s
  | c :: s =>
    if c = '-' ∨ c.isDigit then
      let (_, s) ← scanNumeral .invalidNumber (c :: s)
      afterValue stack s
    else .error (.inside .expectedValue (c :: s))

/-- Skips values until every frame is closed.  Every step takes one character at least,
    and one off `clock`, which is as long as the text: when it has run out, so has the
    text. -/
def skipFrom : List Char → List Frame → List Char → Except Failure (List Char)
  | [], _, _ => .error (.atEnd .eofInValue)
  | _ :: clock, stack, s =>
    match skipStep stack s with
    | .error e => .error e
    | .ok (.done rest) => .ok rest
    | .ok (.value stack rest) => skipFrom clock stack rest

def skipValue (s : List Char) : Except Failure (List Char) :=
  skipFrom s [] s

end GrammarLint.Json
