/-
  GrammarLint/Text/Quoted.lean
  ============================
  **Quoted texts** — a text between double quotes in which every character can be
  seen: quotes and backslashes are escaped, and so is whatever is not printed as it
  stands.
-/
import GrammarLint.Text.Unprintable

namespace GrammarLint.Text

/-- How one character is written inside a quoted text. -/
def quotedChar (c : Char) : List Char :=
  if c = Char.ofNat 0 then ['\\', '0']
  else if c = '\t' then ['\\', 't']
  else if c = '\r' then ['\\', 'r']
  else if c = '\n' then ['\\', 'n']
  else if c = '\\' then ['\\', '\\']
  else if c = '"' then ['\\', '"']
  else if isExtending c || !isPrintable c then
    "\\u\x7b".toList ++ Nat.toDigits 16 c.toNat ++ ['}']
  else [c]

/-- `s` between double quotes, with everything that would not show escaped. -/
def quoted (s : String) : String :=
  String.ofList ('"' :: s.toList.flatMap quotedChar ++ ['"'])

end GrammarLint.Text
