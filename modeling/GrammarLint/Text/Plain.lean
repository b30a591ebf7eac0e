/-
  GrammarLint/Text/Plain.lean
  ===========================
  **Plain text** — what is left of a text without the control sequences that a terminal
  acts on.

  A sequence begins with the escape character and ends with a letter or a mark that
  depends on its kind; one that is not ended hides the rest of the text.  White space is
  kept where a terminal would act on it, and other controls are dropped.
-/

namespace GrammarLint.Text

/-- Where the reading of a control sequence stands. -/
inductive ControlState where
  | outside
  /-- Only the escape character is read. -/
  | escape
  /-- In a short sequence, behind its first marks. -/
  | short
  /-- In a sequence with parameters. -/
  | parameters
  /-- At the start of a string for a device. -/
  | device
  /-- In the parameters of a string for a device. -/
  | deviceParameters
  /-- Behind the parameters of a string for a device. -/
  | deviceMarks
  /-- In a string that only a string terminator ends. -/
  | string
  /-- In a command for the system, which a bell ends. -/
  | command
deriving DecidableEq, Repr

namespace ControlState

/-- What the character behind the escape character begins. -/
def begun (n : Nat) : ControlState :=
  if n < 0x20 ∨ n = 0x7F then .escape
  else if n ≤ 0x2F then .short
  else if n = 0x5B then .parameters
  else if n = 0x5D then .command
  else if n = 0x50 then .device
  else if n = 0x58 ∨ n = 0x5E ∨ n = 0x5F then .string
  else .outside

/-- Where the reading stands behind an ASCII character with code `n`. -/
def after (s : ControlState) (n : Nat) : ControlState :=
  if n = 0x18 ∨ n = 0x1A then .outside
  else if n = 0x1B then .escape
  else
    match s with
    | .outside => .outside
    | .escape => begun n
    | .short => if 0x30 ≤ n ∧ n < 0x7F then .outside else .short
    | .parameters => if 0x40 ≤ n ∧ n < 0x7F then .outside else .parameters
    | .device =>
      if n < 0x20 ∨ n = 0x7F then .device
      else if n ≤ 0x2F then .deviceMarks
      else if n ≤ 0x3F then .deviceParameters
      else .string
    | .deviceParameters =>
      if n < 0x20 ∨ n = 0x7F then .deviceParameters
      else if n ≤ 0x2F then .deviceMarks
      else if n ≤ 0x3B then .deviceParameters
      else .string
    | .deviceMarks => if n < 0x30 ∨ n = 0x7F then .deviceMarks else .string
    | .string => .string
    | .command => if n = 0x07 then .outside else .command

/-- Where the reading stands behind a character outside ASCII.  A string is ended by the
    byte of the string terminator, even as a part of a character. -/
def afterWide (s : ControlState) (c : Char) : ControlState :=
  match s with
  | .string => if (String.singleton c).toUTF8.toList.contains 0x9C then .outside else .string
  | s => s

/-- Whether white space has its effect although a sequence is being read. -/
def spaces (s : ControlState) : Bool :=
  match s with
  | .outside | .escape | .short | .parameters => true
  | _ => false

/-- Whether an ASCII character with code `n` is left. -/
def leaves (s : ControlState) (n : Nat) : Bool :=
  s == .outside && 0x20 ≤ n && n < 0x7F ||
    s.spaces && (n == 0x09 || n == 0x0A || n == 0x0C || n == 0x0D)

end ControlState

/-- What is left of `cs`.  While `shown` holds, the character before was left too, and a
    sequence that is being read is not gone on with until something is dropped again. -/
def plainChars (s : ControlState) (shown : Bool) : List Char → List Char
  | [] => []
  | c :: cs =>
    if 0x80 ≤ c.toNat then
      if shown || s == .outside then c :: plainChars .outside true cs
      else plainChars (s.afterWide c) false cs
    else if (if shown then ControlState.outside else s).leaves c.toNat then
      c :: plainChars s true cs
    else plainChars (s.after c.toNat) false cs

def plain (s : String) : String := String.ofList (plainChars .outside false s.toList)

end GrammarLint.Text
