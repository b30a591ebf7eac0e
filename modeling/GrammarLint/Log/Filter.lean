/-
  GrammarLint/Log/Filter.lean
  ===========================
  **Which log records are shown** — a list of directives, each letting through the
  records of some part of the program down to some level.

  A filter is written as directives with commas between them: a level (`warn`), a
  target (`peglint`), both (`peglint=debug`), or one of these with a span and a field in
  brackets.  Of the directives that a record meets the most specific one decides.  A
  directive that names a span, or the value of a field of one, decides nothing, as no
  record is inside a span.
-/
import GrammarLint.Log.Pattern
import GrammarLint.Log.Record

namespace GrammarLint.Log

open Text

/-- A field that there has to be, and what its value is compared with. -/
structure FieldTest where
  name : String
  value : Option String
deriving DecidableEq, Repr

/-- One directive: how much it lets through, and of what. -/
structure Directive where
  /-- The records up to this verbosity are let through. -/
  verbosity : Nat
  /-- What the target of a record has to begin with. -/
  target : Option String
  /-- The span that a record has to be in. -/
  span : Option String
  /-- The field that a record has to have. -/
  field : Option FieldTest
deriving DecidableEq, Repr

/-! ### Reading directives -/

/-- Whether two texts are equal up to the case of the letters A to Z. -/
def sameIgnoringCase (a b : String) : Bool :=
  a.toList.map Char.toLower == b.toList.map Char.toLower

/-- The names of the verbosities, from none at all on. -/
def verbosityNames : List String := ["off", "error", "warn", "info", "debug", "trace"]

/-- Reads a number in decimal, with an optional plus sign. -/
def number? (cs : List Char) : Option Nat :=
  let ds := match cs with
    | '+' :: ds => ds
    | ds => ds
  if ds.isEmpty || !ds.all Char.isDigit then none
  else some (ds.foldl (fun n d => n * 10 + (d.toNat - '0'.toNat)) 0)

/-- Reads a verbosity: a name, or a number from 0 to 5. -/
def verbosity? (s : String) : Option Nat :=
  match number? s.toList with
  | some n => if n ≤ 5 then some n else none
  | none =>
    if s.isEmpty then some 1
    else verbosityNames.findIdx? (sameIgnoringCase s)

/-- Whether a directive may begin with `c`: a letter, a digit or one of three marks. -/
def beginsDirective (c : Char) : Bool :=
  isAlphanumeric c || c == '-' || c == ':' || c == '_'

/-- Reads the test of a field: a name, or a name and what its value is compared with. -/
def fieldTest? (text : String) : Option FieldTest :=
  match text.toList.dropWhile (· != '=') with
  | [] => if text.isEmpty then none else some ⟨text, none⟩
  | _ :: cs =>
    let value := String.ofList (cs.takeWhile (· != '='))
    if isComparable value then
      some ⟨String.ofList (text.toList.takeWhile (· != '=')), some value⟩
    else none

/-- Where the reading of a directive stands.  Numbers are the places where a part
    begins. -/
inductive Reading where
  | start
  | levelOrTarget (first : Nat)
  | span (first : Nat)
  | field (first : Nat)
  | fieldDone
  | targetDone
  | level (first : Nat)

/-- What follows the first `n` bytes, if that is where a character begins. -/
def behindBytes : Nat → List Char → Option (List Char)
  | 0, cs => some cs
  | _ + 1, [] => none
  | n + 1, c :: cs => if c.utf8Size ≤ n + 1 then behindBytes (n + 1 - c.utf8Size) cs else none

/-- The first `n` bytes, if that is where a character ends. -/
def firstBytes : Nat → List Char → Option (List Char)
  | 0, _ => some []
  | _ + 1, [] => none
  | n + 1, c :: cs =>
    if c.utf8Size ≤ n + 1 then (firstBytes (n + 1 - c.utf8Size) cs).map (c :: ·) else none

/-- What `cs` has from byte `first` on. -/
def rest? (cs : List Char) (first : Nat) : Option String :=
  (behindBytes first cs).map String.ofList

/-- What `cs` has from byte `first` up to byte `last`. -/
def part? (cs : List Char) (first last : Nat) : Option String := do
  return String.ofList (← firstBytes (last - first) (← behindBytes first cs))

/-- Reads one character, which stands at byte `i`; parts are cut out of `cs`. -/
def readStep (cs : List Char) (d : Directive) (state : Reading) (i : Nat) (c : Char) :
    Option (Directive × Reading) := do
  match state with
  | .start =>
    if c = '[' then return (d, .span (i + 1))
    else if beginsDirective c then return (d, .levelOrTarget i)
    else none
  | .levelOrTarget first =>
    if c = '=' then return ({ d with target := some (← part? cs first i) }, .level (i + 1))
    else if c = '[' then return ({ d with target := some (← part? cs first i) }, .span (i + 1))
    else return (d, state)
  | .span first =>
    if c = ']' then return ({ d with span := some (← part? cs first i) }, .targetDone)
    else if c = '{' then
      let span ← part? cs first i
      return ({ d with span := if span.isEmpty then none else some span }, .field (i + 1))
    else return (d, state)
  | .field first =>
    if c = '}' then
      return ({ d with field := some (← fieldTest? (← part? cs first i)) }, .fieldDone)
    else return (d, state)
  | .fieldDone => if c = ']' then return (d, .targetDone) else none
  | .targetDone => if c = '=' then return (d, .level (i + 1)) else none
  | .level _ => return (d, state)

/-- Reads the characters `rest`, which begin at byte `i`; parts are cut out of `cs`. -/
def readChars (cs : List Char) (d : Directive) (state : Reading) :
    Nat → List Char → Option (Directive × Reading)
  | _, [] => some (d, state)
  | i, c :: rest =>
    match readStep cs d state i c with
    | none => none
    | some (d, state) => readChars cs d state (i + c.utf8Size) rest

/-- Reads one directive.  White space around it is passed over, but its parts are cut out
    of the text as it stands, at the places that they have without the white space. -/
def directive? (text : String) : Option Directive := do
  let cs := text.toList
  match ← readChars cs ⟨5, none, none, none⟩ .start 0 (trim text).toList with
  | (d, .levelOrTarget first) =>
    let s ← rest? cs first
    match verbosity? s with
    | some v => return { d with verbosity := v }
    | none => return { d with target := some s }
  | (d, .level first) =>
    let s ← rest? cs first
    if s.isEmpty then return d else return { d with verbosity := ← verbosity? s }
  | (d, .targetDone) => return d
  | _ => none

/-! ### Filters -/

/-- The directives of a filter. -/
abbrev Filter := List Directive

def cutAtCommas (cs : List Char) : List (List Char) :=
  cs.foldr (fun c parts =>
    if c = ',' then [] :: parts
    else match parts with
      | [] => [[c]]
      | p :: ps => (c :: p) :: ps) [[]]

/-- Reads a filter; without a directive it lets errors through. -/
def Filter.parse (text : String) : Option Filter := do
  let parts := (cutAtCommas text.toList).filter (!·.isEmpty)
  let directives ← parts.mapM fun p => directive? (String.ofList p)
  return if directives.isEmpty then [⟨1, none, none, none⟩] else directives

/-- Whether a directive has anything to say about records outside all spans. -/
def Directive.applies (d : Directive) : Bool :=
  d.span.isNone && d.field.all (·.value.isNone)

/-- Whether a record has a field with a given name; the message is one. -/
def Record.hasField (r : Record) (name : String) : Bool :=
  name == "message" || r.fields.any (·.1 == name)

/-- Whether a record is one that a directive is about. -/
def Directive.covers (d : Directive) (r : Record) : Bool :=
  d.target.all (fun t => t.toList.isPrefixOf r.target.toList) &&
    d.field.all (fun f => r.hasField f.name)

/-- Whether the first of two directives is less specific than the second, or as specific
    as it; then the second one, which is written later, goes first.  A longer target is
    more specific, then a field, and then its place in the order of names. -/
def Directive.yieldsTo (a b : Directive) : Bool :=
  let length (d : Directive) : Nat := (d.target.map (·.utf8ByteSize + 1)).getD 0
  if length a = length b then
    match a.field, b.field with
    | none, _ => true
    | some _, none => false
    | some f, some g => f.name ≤ g.name
  else length a < length b

/-- The directive that decides about a record. -/
def Filter.deciding (f : Filter) (r : Record) : Option Directive :=
  f.foldl (fun best d =>
    if d.applies && d.covers r then
      match best with
      | none => some d
      | some b => if b.yieldsTo d then some d else some b
    else best) none

def Filter.shows (f : Filter) (r : Record) : Bool :=
  match f.deciding r with
  | none => false
  | some d => r.level.verbosity ≤ d.verbosity

/-- The filter that holds without a setting, or with one that cannot be read. -/
def Filter.standard (verbose : Bool) : Filter :=
  [⟨if verbose then 4 else 3, some "peglint", none, none⟩]

def Filter.choose (setting : Option String) (verbose : Bool) : Filter :=
  (setting.bind Filter.parse).getD (.standard verbose)

end GrammarLint.Log
