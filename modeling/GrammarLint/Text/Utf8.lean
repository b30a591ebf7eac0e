/-
  GrammarLint/Text/Utf8.lean
  ==========================
  **UTF-8 measures of a text** — how many bytes a run of characters takes, which
  character starts at a byte offset, and how raw bytes are read as text.

  Texts are kept as strings of Unicode scalars; byte offsets are computed from
  them.  `utf8Length` is the one measure that every offset and every error
  position of the library is expressed in, and its two laws (`utf8Length_cons`,
  `utf8Length_append`) are all that is used about it elsewhere.

  Bytes that are not UTF-8 are read in two ways: strictly, by
  `String.fromUTF8?`, and with replacement, by `readLossy`, which puts one
  U+FFFD for each maximal run of bytes that begins a character and breaks off.
-/

namespace GrammarLint.Text

/-! ### Byte length -/

/-- The number of bytes that `cs` takes in UTF-8. -/
def utf8Length (cs : List Char) : Nat :=
  cs.foldl (fun n c => n + c.utf8Size) 0

theorem foldl_utf8Size (cs : List Char) (n : Nat) :
    cs.foldl (fun n c => n + c.utf8Size) n = n + utf8Length cs := by
  induction cs generalizing n with
  | nil => rfl
  | cons c cs ih =>
    simp only [utf8Length, List.foldl_cons] at ih ⊢
    rw [ih (n + c.utf8Size), ih (0 + c.utf8Size)]
    omega

@[simp] theorem utf8Length_nil : utf8Length [] = 0 := rfl

@[simp] theorem utf8Length_cons (c : Char) (cs : List Char) :
    utf8Length (c :: cs) = c.utf8Size + utf8Length cs := by
  rw [utf8Length, List.foldl_cons, foldl_utf8Size]
  omega

@[simp] theorem utf8Length_append (as bs : List Char) :
    utf8Length (as ++ bs) = utf8Length as + utf8Length bs := by
  induction as with
  | nil => simp
  | cons a as ih => simp [ih]; omega

/-! ### Offsets -/

/-- The character that starts at byte `n` of `cs`, if the text reaches that far. -/
def charAt? : List Char → Nat → Option Char
  | [], _ => none
  | c :: cs, n => if n = 0 then some c else charAt? cs (n - c.utf8Size)

/-- What is left of `cs` once `n` bytes are taken off its front. -/
def dropBytes : List Char → Nat → List Char
  | [], _ => []
  | c :: cs, n => if n = 0 then c :: cs else dropBytes cs (n - c.utf8Size)

/-- The first `n` bytes of `cs`, as far as whole characters fit. -/
def takeBytes (acc : List Char) : List Char → Nat → List Char
  | [], _ => acc.reverse
  | c :: cs, n => if n < c.utf8Size then acc.reverse else takeBytes (c :: acc) cs (n - c.utf8Size)

/-- The text between the byte offsets `first` and `last`. -/
def slice (cs : List Char) (first last : Nat) : List Char :=
  takeBytes [] (dropBytes cs first) (last - first)

/-! ### Reading bytes with replacement -/

/-- A character whose first bytes are read: the bounds of its next byte, how many
    bytes are missing, and the value so far. -/
structure Partial where
  low : UInt8
  high : UInt8
  missing : Nat
  value : Nat

/-- What the first byte of a character promises: the character itself, the bytes
    that have to follow, or nothing at all. -/
inductive Lead where
  | whole (c : Char)
  | partly (p : Partial)
  | invalid

/-- Reads a first byte.  The bounds of the second byte rule out overlong forms,
    surrogates and values above U+10FFFF. -/
def Lead.ofByte (b : UInt8) : Lead :=
  let v := b.toNat
  if v < 0x80 then .whole (Char.ofNat v)
  else if v < 0xC2 then .invalid
  else if v < 0xE0 then .partly ⟨0x80, 0xBF, 1, v - 0xC0⟩
  else if v < 0xF0 then
    .partly ⟨if v = 0xE0 then 0xA0 else 0x80, if v = 0xED then 0x9F else 0xBF, 2, v - 0xE0⟩
  else if v < 0xF5 then
    .partly ⟨if v = 0xF0 then 0x90 else 0x80, if v = 0xF4 then 0x8F else 0xBF, 3, v - 0xF0⟩
  else .invalid

/-- The character that stands for bytes which are no text. -/
def replacement : Char := Char.ofNat 0xFFFD

/-- Reads one byte at the start of a character. -/
def lossyLead (out : List Char) (b : UInt8) : List Char × Option Partial :=
  match Lead.ofByte b with
  | .whole c => (c :: out, none)
  | .partly p => (out, some p)
  | .invalid => (replacement :: out, none)

/-- Reads one byte, with the characters read so far in reverse. -/
def lossyStep (state : List Char × Option Partial) (b : UInt8) : List Char × Option Partial :=
  match state with
  | (out, none) => lossyLead out b
  | (out, some p) =>
    if p.low ≤ b ∧ b ≤ p.high then
      let value := p.value * 64 + (b.toNat - 0x80)
      if p.missing ≤ 1 then (Char.ofNat value :: out, none)
      else (out, some ⟨0x80, 0xBF, p.missing - 1, value⟩)
    else lossyLead (replacement :: out) b

/-- Reads bytes as text; what is not UTF-8 becomes U+FFFD. -/
def readLossy (bytes : ByteArray) : String :=
  match bytes.toList.foldl lossyStep ([], none) with
  | (out, none) => String.ofList out.reverse
  | (out, some _) => String.ofList (replacement :: out).reverse

def read? (bytes : ByteArray) : Option String :=
  String.fromUTF8? bytes

end GrammarLint.Text
