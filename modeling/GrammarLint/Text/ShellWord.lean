/-
  GrammarLint/Text/ShellWord.lean
  ===============================
  **Words for a shell** — a name as it would be typed, so that a shell reads it as one
  word and every byte of it can be seen.

  A name without marks is written as it stands, and any other one between quotes: double
  ones where single quotes are the only marks that matter between them, else single ones.
  Inside single quotes a single quote is written behind a backslash, with the quotes
  closed before and opened after it, and bytes that are not printed as codes.
-/
namespace GrammarLint.Text

/-- The marks that need quotes wherever they stand. -/
def shellMarks : List Char := " !\"$&'()*:;<=>?[\\^`|".toList

/-- Whether a character is a visible one of ASCII, or the space. -/
def isVisibleAscii (c : Char) : Bool := 0x20 ≤ c.toNat && c.toNat < 0x7F

/-- Whether a name, as a list of its bytes, has to be quoted. -/
def needsShellQuotes (cs : List Char) : Bool :=
  cs.isEmpty || cs = ['\x7b'] || cs = ['\x7d'] ||
    cs.head? = some '#' || cs.head? = some '~' ||
    cs.any fun c => shellMarks.contains c || !isVisibleAscii c

/-- Whether a character reads the same between double quotes as between single ones. -/
def readsTheSameQuoted (c : Char) : Bool :=
  c.isAlphanum || "%+,-./:@]_ '".toList.contains c

/-- The letter or the three digits by which a byte is named behind a backslash. -/
def byteCode (c : Char) : List Char :=
  match [('\x07', 'a'), ('\x08', 'b'), ('\t', 't'), ('\n', 'n'), ('\x0b', 'v'), ('\x0c', 'f'),
      ('\r', 'r')].lookup c with
  | some letter => [letter]
  | none =>
    [c.toNat / 64, c.toNat / 8 % 8, c.toNat % 8].map fun d => Char.ofNat ('0'.toNat + d)

/-- The bytes of a name between single quotes; `coded` says that codes are being
    written. -/
def singleQuoted (coded : Bool) : List Char → List Char
  | [] => []
  | c :: cs =>
    if c = '\x27' then "'\\''".toList ++ singleQuoted false cs
    else if isVisibleAscii c then
      (if coded then "''".toList else []) ++ c :: singleQuoted false cs
    else
      (if coded then [] else "'$'".toList) ++ '\\' :: byteCode c ++ singleQuoted true cs

def shellWord (name : String) : String :=
  let cs := name.toUTF8.toList.map fun b => Char.ofNat b.toNat
  let same :=
    match cs with
    | '#' :: rest | '~' :: rest => rest.all readsTheSameQuoted
    | cs => cs.all readsTheSameQuoted
  if !needsShellQuotes cs then name
  else if cs.contains '\x27' && same then "\"" ++ name ++ "\""
  else "'" ++ String.ofList (singleQuoted false cs) ++ "'"

end GrammarLint.Text
