/-
  GrammarLint/Proofs/Json/Grammar.lean
  ====================================
  **The grammar of JSON documents** — which texts are literals, numbers and values, said
  without the readers.

  A literal is one spelling after another, and a text that is read has one for each of its
  characters.  A value that is skipped only has to be well formed: surrogates need not be
  paired and numbers have no limits.  What stands between brackets is a `Row` of entries;
  each has blanks in front of it, and a comma unless it is the first, and blanks may follow
  the last one.  Lists, objects and the objects inside skipped values are rows of different
  entries.

  A relation is always between a whole text and what it stands for.  What may follow such a
  text without becoming part of it is `Ends`.
-/
import GrammarLint.Json.Literal
import Mathlib.Data.List.Forall2

namespace GrammarLint.Json

/-! ### Blanks -/

def Blanks (s : List Char) : Prop := ∀ c ∈ s, c ∈ [' ', '\t', '\n', '\r']

theorem isBlank_iff {c : Char} : isBlank c = true ↔ c ∈ [' ', '\t', '\n', '\r'] := by
  simp [isBlank, or_assoc]

/-- What may stand behind a value: nothing, a blank, a comma or a closing bracket. -/
def Ends (rest : List Char) : Prop :=
  ∀ c ∈ rest.head?, isBlank c = true ∨ c = ',' ∨ c = ']' ∨ c = '}'

/-- A text that does not begin with a blank or the end of a list. -/
def Begins (w : List Char) : Prop :=
  ∃ c s, w = c :: s ∧ isBlank c = false ∧ c ≠ ']'

/-! ### Literals -/

/-- The letters that may stand behind a backslash, with the characters they stand for. -/
def shortEscapes : List (Char × Char) :=
  [('"', '"'), ('\\', '\\'), ('/', '/'), ('b', Char.ofNat 0x08), ('f', Char.ofNat 0x0C),
    ('n', '\n'), ('r', '\r'), ('t', '\t')]

/-- The hexadecimal digits with their values. -/
def hexDigits : List (Char × Nat) :=
  "0123456789abcdef".toList.zipIdx ++ "ABCDEF".toList.zipIdx 10

/-- Four hexadecimal digits of a number. -/
def Quad (a b c d : Char) (n : Nat) : Prop :=
  ∃ i j k l, (a, i) ∈ hexDigits ∧ (b, j) ∈ hexDigits ∧ (c, k) ∈ hexDigits ∧ (d, l) ∈ hexDigits ∧
    n = ((i * 16 + j) * 16 + k) * 16 + l

/-- The ways to write one character inside a literal: as it is, as a letter or as its number
    behind a backslash, or in two halves if it takes more than four digits. -/
inductive Spelling : List Char → Char → Prop
  | plain {c : Char} (hquote : c ≠ '"') (hslash : c ≠ '\\') (hcontrol : ¬ c < ' ') :
    Spelling [c] c
  | short {letter c : Char} (h : (letter, c) ∈ shortEscapes) : Spelling ['\\', letter] c
  | unit {a b c d : Char} {n : Nat} (h : Quad a b c d n) (hwhole : n < 0xD800 ∨ 0xDFFF < n) :
    Spelling ['\\', 'u', a, b, c, d] (Char.ofNat n)
  | pair {a b c d a' b' c' d' : Char} {n m : Nat} (h : Quad a b c d n) (h' : Quad a' b' c' d' m)
    (hleading : 0xD800 ≤ n ∧ n ≤ 0xDBFF) (htrailing : 0xDC00 ≤ m ∧ m ≤ 0xDFFF) :
    Spelling ['\\', 'u', a, b, c, d, '\\', 'u', a', b', c', d']
      (Char.ofNat (0x10000 + (n - 0xD800) * 0x400 + (m - 0xDC00)))

/-- The literals of a string. -/
def LiteralText (w : List Char) (text : String) : Prop :=
  ∃ pieces : List (List Char), w = '"' :: (pieces.flatten ++ ['"']) ∧
    List.Forall₂ Spelling pieces text.toList

/-- A piece of a literal that is well formed, whatever it stands for. -/
inductive Piece : List Char → Prop
  | plain {c : Char} (hquote : c ≠ '"') (hslash : c ≠ '\\') (hcontrol : ¬ c < ' ') : Piece [c]
  | short {letter c : Char} (h : (letter, c) ∈ shortEscapes) : Piece ['\\', letter]
  | unit {a b c d : Char} {n : Nat} (h : Quad a b c d n) : Piece ['\\', 'u', a, b, c, d]

/-- A well-formed literal, with surrogates paired or not. -/
def QuotedText (w : List Char) : Prop :=
  ∃ pieces : List (List Char), w = '"' :: (pieces.flatten ++ ['"']) ∧ ∀ p ∈ pieces, Piece p

/-! ### Numbers -/

def DigitRun (s : List Char) : Prop := s ≠ [] ∧ ∀ c ∈ s, c.isDigit = true

/-- The digits before the point: no zero stands in front of others. -/
inductive WholeText : List Char → Prop
  | zero : WholeText ['0']
  | digits {c : Char} {s : List Char} (hzero : c ≠ '0') (h : DigitRun (c :: s)) :
    WholeText (c :: s)

inductive FractionText : List Char → Option (List Char) → Prop
  | none : FractionText [] none
  | some {ds : List Char} (h : DigitRun ds) : FractionText ('.' :: ds) (some ds)

inductive SignText : List Char → Bool → Prop
  | none : SignText [] false
  | plus : SignText ['+'] false
  | minus : SignText ['-'] true

inductive ExponentText : List Char → Option (Bool × List Char) → Prop
  | none : ExponentText [] none
  | some {e : Char} {sign ds : List Char} {negative : Bool} (he : e = 'e' ∨ e = 'E')
    (hsign : SignText sign negative) (h : DigitRun ds) :
    ExponentText (e :: (sign ++ ds)) (some (negative, ds))

/-- Numbers and their parts. -/
inductive NumberText : List Char → Numeral → Prop
  | mk {sign whole point power : List Char} {negative : Bool} {fraction : Option (List Char)}
    {exponent : Option (Bool × List Char)}
    (hsign : sign = [] ∧ negative = false ∨ sign = ['-'] ∧ negative = true)
    (hwhole : WholeText whole) (hfraction : FractionText point fraction)
    (hexponent : ExponentText power exponent) :
    NumberText (sign ++ (whole ++ (point ++ power))) ⟨negative, whole, fraction, exponent⟩

/-- Integers without sign, fraction and exponent, and their value. -/
def NaturalText (w : List Char) (n : Nat) : Prop :=
  WholeText w ∧ Nat.ofDigitChars 10 w 0 = n

/-! ### Null -/

/-- The texts of a format, and `null`, which stands for nothing. -/
inductive NullableText {α : Type} (F : List Char → α → Prop) : List Char → Option α → Prop
  | null : NullableText F ['n', 'u', 'l', 'l'] none
  | given {w : List Char} {x : α} (h : F w x) : NullableText F w (some x)

/-! ### Rows of entries -/

/-- What stands in front of an entry: blanks, and a comma unless the entry is the first. -/
def Separator : Bool → List Char → Prop
  | true, p => Blanks p
  | false, p => ∃ b a, p = b ++ ',' :: a ∧ Blanks b ∧ Blanks a

/-- The entries from some point on, where the flag says that none came before, up to the
    closing bracket. -/
inductive Row {ε : Type} (E : List Char → ε → Prop) : Bool → List Char → List ε → Prop
  | nil {first : Bool} {b : List Char} (hb : Blanks b) : Row E first b []
  | cons {first : Bool} {p w s : List Char} {x : ε} {xs : List ε} (hp : Separator first p)
    (hx : E w x) (more : Row E false s xs) : Row E first (p ++ (w ++ s)) (x :: xs)

/-- Entries between brackets. -/
def Bracketed {ε : Type} (opening closing : Char) (E : List Char → ε → Prop) (w : List Char)
    (xs : List ε) : Prop :=
  ∃ row, w = opening :: (row ++ [closing]) ∧ Row E true row xs

/-- A member of an object: its key, a colon, and the text of its value. -/
inductive MemberText : List Char → String × List Char → Prop
  | mk {k a b v : List Char} {key : String} (hkey : LiteralText k key) (ha : Blanks a)
    (hb : Blanks b) : MemberText (k ++ (a ++ ':' :: (b ++ v))) (key, v)

/-- A list, as the texts of its elements. -/
def ListText (w : List Char) (elements : List (List Char)) : Prop :=
  Bracketed '[' ']' Eq w elements

/-- An object, as its members in order. -/
def ObjectText (w : List Char) (members : List (String × List Char)) : Prop :=
  Bracketed '{' '}' MemberText w members

/-! ### Values of any kind -/

/-- A member of an object that is skipped, and the text of its value. -/
inductive SkippedMember : List Char → List Char → Prop
  | mk {k a b v : List Char} (hkey : QuotedText k) (ha : Blanks a) (hb : Blanks b) :
    SkippedMember (k ++ (a ++ ':' :: (b ++ v))) v

/-- **The syntax of JSON.** -/
inductive ValueText : List Char → Prop
  | null : ValueText ['n', 'u', 'l', 'l']
  | true : ValueText ['t', 'r', 'u', 'e']
  | false : ValueText ['f', 'a', 'l', 's', 'e']
  | quoted {w : List Char} (h : QuotedText w) : ValueText w
  | number {w : List Char} {u : Numeral} (h : NumberText w u) : ValueText w
  | list {w : List Char} {elements : List (List Char)} (h : ListText w elements)
    (all : ∀ v ∈ elements, ValueText v) : ValueText w
  | object {w : List Char} {values : List (List Char)}
    (h : Bracketed '{' '}' SkippedMember w values) (all : ∀ v ∈ values, ValueText v) : ValueText w

/-! ### Documents -/

/-- A document that holds one text of a format, and blanks around it. -/
def Document {α : Type} (F : List Char → α → Prop) (text : String) (x : α) : Prop :=
  ∃ a w b, text.toList = a ++ (w ++ b) ∧ Blanks a ∧ Blanks b ∧ F w x

end GrammarLint.Json
