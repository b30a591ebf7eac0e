/-
  GrammarLint/CommandLine/Similarity.lean
  =======================================
  **Words that were probably meant** — the Jaro similarity of two words, and the known
  words that are similar to one that is not known.

  Two characters match if they are equal and not further apart than about half the
  length of the longer word; the similarity is the mean of the shares of matching
  characters in both words and the share of those that match in the same order.
-/

namespace GrammarLint.CommandLine

/-- Takes the first free character equal to `c` among those from place `low` up to
    `high`; the places of the list begin at `place`. -/
def claimMatch (c : Char) (low high : Nat) : Nat → List (Char × Bool) → Option (List (Char × Bool))
  | _, [] => none
  | place, (d, taken) :: rest =>
    if high ≤ place then none
    else if low ≤ place ∧ d = c ∧ taken = false then some ((d, true) :: rest)
    else (claimMatch c low high (place + 1) rest).map ((d, taken) :: ·)

/-- The characters of `as` that find a match, and the other word with those taken that
    are matched.  The places of `as` begin at `place`. -/
def matchUp (range : Nat) : Nat → List Char → List (Char × Bool) → List Char × List (Char × Bool)
  | _, [], bs => ([], bs)
  | place, a :: as, bs =>
    match claimMatch a (place - range) (place + range + 1) 0 bs with
    | some bs =>
      let (found, bs) := matchUp range (place + 1) as bs
      (a :: found, bs)
    | none => matchUp range (place + 1) as bs

/-- The Jaro similarity of two words: 1 for equal ones, 0 for those without a match. -/
def similarity (a b : String) : Float :=
  let as := a.toList
  let bs := b.toList
  if as.isEmpty && bs.isEmpty then 1
  else
    let range := max as.length bs.length / 2 - 1
    let (found, marked) := matchUp range 0 as (bs.map fun c => (c, false))
    if found.isEmpty then 0
    else
      let others := (marked.filter (·.2)).map (·.1)
      let moved := ((found.zip others).filter fun p => p.1 != p.2).length / 2
      let share (n m : Nat) : Float := n.toFloat / m.toFloat
      (share found.length as.length + share found.length bs.length +
        share (found.length - moved) found.length) / 3

/-- The known words that are similar to `word`, the best one last. -/
def similarWords (word : String) (known : List String) : List String :=
  let scored := known.map fun k => (similarity word k, k)
  ((scored.filter fun s => 0.7 < s.1).mergeSort fun a b => a.1 ≤ b.1).map (·.2)

end GrammarLint.CommandLine
