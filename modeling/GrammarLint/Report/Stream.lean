/-
  GrammarLint/Report/Stream.lean
  ==============================
  **Output on two streams** — results go to one, everything that is said about them goes
  to the other.
-/

namespace GrammarLint

/-- An output stream. -/
inductive Stream where
  | out
  | err
deriving DecidableEq, Repr

/-- A text that is written to a stream at once. -/
structure Chunk where
  stream : Stream
  text : String
deriving DecidableEq, Repr

/-- Everything that a list of chunks writes to one of the streams. -/
def Stream.contents (s : Stream) (chunks : List Chunk) : String :=
  String.join ((chunks.filter (·.stream == s)).map (·.text))

end GrammarLint
