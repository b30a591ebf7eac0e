/-
  GrammarLint/Log/Pattern.lean
  ============================
  **Patterns for values** — which texts are patterns that the value of a field can be
  compared with.

  A pattern is a regular expression: literals, classes in brackets, groups, alternatives,
  repetitions and assertions.  It is compared by a machine without tables of characters
  and without lookahead.  So what would need either is no pattern: classes by property,
  the shorthands for digits, words and spaces and the edges of words outside ASCII mode,
  and letters of either case.  Inside ASCII mode nothing may match a part of a character.

  What is nested too deeply is no pattern either.  Every group, repetition, class and
  operator between classes is one level deeper than what it is made of, and so is every
  sequence, choice or collection with more than one member.

  A pattern stands between braces, and commas and equals signs end it; so a repetition
  with counts, which needs a closing brace, is never complete.
-/
import GrammarLint.Text.Alphanumeric
import GrammarLint.Text.Blank

namespace GrammarLint.Log

open Text

/-! ### Modes -/

/-- How what follows is read. -/
structure PatternMode where
  /-- White space and comments are left out. -/
  spaced : Bool
  /-- A character is one of Unicode, not of ASCII. -/
  unicode : Bool
  /-- Letters stand for both cases. -/
  caseless : Bool
deriving DecidableEq, Repr

def PatternMode.standard : PatternMode := ⟨false, true, false⟩

def modeLetters : List Char := ['i', 'm', 's', 'U', 'u', 'R', 'x']

/-- Turns what a letter stands for on or off. -/
def PatternMode.set (m : PatternMode) (letter : Char) (on : Bool) : PatternMode :=
  match letter with
  | 'x' => { m with spaced := on }
  | 'u' => { m with unicode := on }
  | 'i' => { m with caseless := on }
  | _ => m

/-- Leaves out white space, and comments up to the end of a line; `comment` says that a
    comment is being left out. -/
def skipSpaced (comment : Bool) : List Char → List Char
  | [] => []
  | c :: cs =>
    if comment then skipSpaced (c != '\n') cs
    else if isBlank c then skipSpaced false cs
    else if c = '#' then skipSpaced true cs
    else c :: cs

def PatternMode.skip (m : PatternMode) (cs : List Char) : List Char :=
  if m.spaced then skipSpaced false cs else cs

/-- The character that decides what a dash in front of it means. -/
def PatternMode.peek (m : PatternMode) (cs : List Char) : Option Char :=
  if m.spaced then
    match cs.dropWhile isBlank with
    | '#' :: cs => (cs.dropWhile isBlank).head?
    | cs => cs.head?
  else cs.head?

/-! ### Escapes -/

/-- What an escape, or a character in a class, stands for. -/
inductive PatternAtom where
  /-- A character; `byte` says that it was given by two digits. -/
  | literal (c : Char) (byte : Bool)
  /-- One of the classes that have a letter, or the complement of one. -/
  | shorthand (complement : Bool)
  /-- A place between characters. -/
  | edge (ofWord : Bool)
deriving DecidableEq, Repr

/-- Whether the machine can compare an atom in a mode. -/
def PatternAtom.fits (m : PatternMode) : PatternAtom → Bool
  | .literal c byte => if m.unicode then !m.caseless else !byte || c.toNat < 0x80
  | .shorthand complement => !m.unicode && !complement
  | .edge ofWord => !m.unicode || !ofWord

/-- Whether an atom can be a member of a class in a mode. -/
def PatternAtom.fitsClass (m : PatternMode) : PatternAtom → Bool
  | .literal c byte => PatternAtom.fits m (.literal c byte) && (m.unicode || c.toNat < 0x80)
  | .shorthand complement => PatternAtom.fits m (.shorthand complement)
  | .edge _ => false

/-- The number that a digit of a hexadecimal number stands for. -/
def hexDigit? (c : Char) : Option Nat :=
  if c.isDigit then some (c.toNat - '0'.toNat)
  else if 'a' ≤ c ∧ c ≤ 'f' then some (c.toNat - 'a'.toNat + 10)
  else if 'A' ≤ c ∧ c ≤ 'F' then some (c.toNat - 'A'.toNat + 10)
  else none

/-- Reads `n` digits of a hexadecimal number that begins with `value`. -/
def hexNumber (m : PatternMode) : Nat → Nat → List Char → Option (Nat × List Char)
  | 0, value, cs => some (value, cs)
  | _ + 1, _, [] => none
  | n + 1, value, c :: cs =>
    match hexDigit? c with
    | some d => hexNumber m n (value * 16 + d) (m.skip cs)
    | none => none

/-- Reads a character that is given by `n` digits. -/
def codeEscape (m : PatternMode) (n : Nat) (cs : List Char) : Option (PatternAtom × List Char) :=
  match hexNumber m n 0 (m.skip cs) with
  | some (value, cs) =>
    if value.isValidChar then some (.literal (Char.ofNat value) (n == 2), cs) else none
  | none => none

/-- Whether a backslash takes its meaning from a character. -/
def escapable (c : Char) : Bool :=
  c.toNat < 0x80 && !c.isAlphanum && c != '<' && c != '>'

def controlLetters : List (Char × Nat) :=
  [('a', 0x07), ('f', 0x0C), ('t', 0x09), ('n', 0x0A), ('r', 0x0D), ('v', 0x0B)]

def escapeAtom (m : PatternMode) : List Char → Option (PatternAtom × List Char)
  | [] => none
  | c :: cs =>
    if escapable c then some (.literal c false, cs)
    else if c = 'x' then codeEscape m 2 cs
    else if c = 'u' then codeEscape m 4 cs
    else if c = 'U' then codeEscape m 8 cs
    else if c = 'd' ∨ c = 's' ∨ c = 'w' then some (.shorthand false, cs)
    else if c = 'D' ∨ c = 'S' ∨ c = 'W' then some (.shorthand true, cs)
    else if c = 'A' ∨ c = 'z' then some (.edge false, cs)
    else if c = 'b' ∨ c = 'B' ∨ c = '<' ∨ c = '>' then some (.edge true, cs)
    else (controlLetters.lookup c).map fun n => (.literal (Char.ofNat n) false, cs)

/-! ### Classes -/

def namedClasses : List String :=
  ["alnum", "alpha", "ascii", "blank", "cntrl", "digit", "graph", "lower", "print", "punct",
   "space", "upper", "word", "xdigit"]

/-- Reads a class of ASCII by its name, from behind its opening bracket on: whether it is
    a complement, and what follows it. -/
def namedClass? (cs : List Char) : Option (Bool × List Char) :=
  match cs with
  | ':' :: cs =>
    let (complement, cs) := match cs with
      | '^' :: cs => (true, cs)
      | cs => (false, cs)
    match cs.dropWhile (· != ':') with
    | ':' :: ']' :: rest =>
      if namedClasses.contains (String.ofList (cs.takeWhile (· != ':'))) then
        some (complement, rest)
      else none
    | _ => none
  | _ => none

/-- The depth of things that stand together: more than one of them are a level of their
    own. -/
def depthTogether : List Nat → Nat
  | [] => 0
  | [d] => d
  | ds => 1 + ds.foldl max 0

/-- What is read of a class inside one pair of brackets. -/
structure ClassLevel where
  /-- The depths of the members behind the last operator, the latest one first. -/
  members : List Nat
  /-- The depth of what stands in front of the last operator. -/
  front : Option Nat
deriving DecidableEq, Repr

namespace ClassLevel

def depth (l : ClassLevel) : Nat :=
  match l.front with
  | none => depthTogether l.members
  | some d => 1 + max d (depthTogether l.members)

def add (l : ClassLevel) (depth : Nat) : ClassLevel := { l with members := depth :: l.members }

/-- Puts an operator behind all that is read. -/
def combine (l : ClassLevel) : ClassLevel := ⟨[], some l.depth⟩

end ClassLevel

/-- Reads dashes that are members of a class since they stand first: how many there are,
    and what follows them. -/
def leadingDashes (m : PatternMode) : Nat → List Char → Nat × List Char
  | n + 1, '-' :: cs =>
    let (dashes, cs) := leadingDashes m n (m.skip cs)
    (dashes + 1, cs)
  | _, cs => (0, cs)

/-- Whether classes have to be free of members in a mode, as those have to stand for both
    cases of letters. -/
def PatternMode.memberless (m : PatternMode) : Bool := m.caseless && m.unicode

/-- Reads the beginning of a class, from behind its opening bracket on. -/
def classStart (m : PatternMode) (cs : List Char) : Option (ClassLevel × List Char) :=
  let cs := m.skip cs
  let (complement, cs) := match cs with
    | '^' :: cs => (true, m.skip cs)
    | cs => (false, cs)
  let (dashes, cs) := leadingDashes m cs.length cs
  let (members, cs) := match dashes, cs with
    | 0, ']' :: cs => (1, m.skip cs)
    | _, _ => (dashes, cs)
  if complement && !m.unicode || m.memberless && members != 0 then none
  else some (⟨List.replicate members 0, none⟩, cs)

/-- Reads one character of a class, or an escape. -/
def classAtom (m : PatternMode) : List Char → Option (PatternAtom × List Char)
  | [] => none
  | '\\' :: cs => escapeAtom m cs
  | c :: cs => some (.literal c false, cs)

/-- Reads a member of a class: an atom, or a range between two characters. -/
def classMember (m : PatternMode) (cs : List Char) : Option (List Char) :=
  match classAtom m cs with
  | none => none
  | some (a, cs) =>
    if !a.fitsClass m then none
    else
      match m.skip cs with
      | '-' :: rest =>
        if m.peek rest = some ']' ∨ m.peek rest = some '-' then some ('-' :: rest)
        else
          match a, classAtom m (m.skip rest) with
          | .literal c _, some (.literal d byte, cs) =>
            if c ≤ d ∧ PatternAtom.fitsClass m (.literal d byte) then some cs else none
          | _, _ => none
      | cs => some cs

/-- Reads the rest of a class.  `level` is what is read inside the innermost brackets, and
    `outer` inside those around them.  Answers the depth of the class and what follows it.
    Each step reads a character at least, so the length of the text is enough `fuel`. -/
def classRest (m : PatternMode) :
    Nat → ClassLevel → List ClassLevel → List Char → Option (Nat × List Char)
  | 0, _, _, _ => none
  | fuel + 1, level, outer, cs =>
    match m.skip cs with
    | [] => none
    | '[' :: cs =>
      match namedClass? cs with
      | some (complement, cs) =>
        if complement && !m.unicode || m.memberless then none
        else classRest m fuel (level.add 0) outer cs
      | none =>
        match classStart m cs with
        | some (inner, cs) => classRest m fuel inner (level :: outer) cs
        | none => none
    | ']' :: cs =>
      match outer with
      | [] => some (1 + level.depth, cs)
      | around :: outer => classRest m fuel (around.add (1 + level.depth)) outer cs
    | '&' :: '&' :: cs => classRest m fuel level.combine outer cs
    | '-' :: '-' :: cs => classRest m fuel level.combine outer cs
    | '~' :: '~' :: cs => classRest m fuel level.combine outer cs
    | cs =>
      match classMember m cs with
      | some cs => classRest m fuel (level.add 0) outer cs
      | none => none

/-- Reads a class, from behind its opening bracket on. -/
def classPattern (m : PatternMode) (cs : List Char) : Option (Nat × List Char) :=
  (classStart m cs).bind fun (level, rest) => classRest m (cs.length + 1) level [] rest

/-! ### Groups -/

/-- How a group begins. -/
inductive GroupStart where
  /-- With a new mode, in which what follows is read up to the end of the group. -/
  | group (mode : PatternMode) (name : Option String)
  /-- It is no group, but changes the mode of what follows. -/
  | change (mode : PatternMode)
deriving DecidableEq, Repr

def groupName (cs : List Char) : Option (String × List Char) :=
  let name := cs.takeWhile (· != '>')
  match name, cs.dropWhile (· != '>') with
  | c :: cs, '>' :: rest =>
    if (c == '_' || isLetter c) &&
        cs.all (fun d => d == '_' || d == '.' || d == '[' || d == ']' || isAlphanumeric d) then
      some (String.ofList (c :: cs), rest)
    else none
  | _, _ => none

/-- Reads letters that change a mode up to the end of the group's beginning.  `seen` are
    the letters before, `off` says that a dash was before them, and `dangling` that it was
    the last of them. -/
def groupMode (m : PatternMode) (seen : List Char) (off dangling : Bool) :
    List Char → Option (GroupStart × List Char)
  | [] => none
  | c :: cs =>
    if c = ':' then if dangling then none else some (.group m none, cs)
    else if c = ')' then if dangling || seen.isEmpty then none else some (.change m, cs)
    else if c = '-' then if off then none else groupMode m seen true true cs
    else if modeLetters.contains c && !seen.contains c then
      groupMode (m.set c !off) (c :: seen) off false cs
    else none

/-- Reads the beginning of a group, from behind its parenthesis on. -/
def groupStart (m : PatternMode) (cs : List Char) : Option (GroupStart × List Char) :=
  let named (cs : List Char) := (groupName cs).map fun (name, cs) => (.group m (some name), cs)
  match m.skip cs with
  | '?' :: 'P' :: '<' :: cs => named cs
  | '?' :: '<' :: '=' :: _ => none
  | '?' :: '<' :: '!' :: _ => none
  | '?' :: '<' :: cs => named cs
  | '?' :: cs => groupMode m [] false false cs
  | cs => some (.group m none, cs)

/-! ### Patterns -/

/-- What is read inside one pair of parentheses, or outside all of them. -/
structure PatternLevel where
  mode : PatternMode
  /-- The depths of the parts since the last bar, the latest one first. -/
  parts : List Nat
  /-- The depths of the alternatives in front of that bar. -/
  choices : List Nat
deriving DecidableEq, Repr

namespace PatternLevel

def new (mode : PatternMode) : PatternLevel := ⟨mode, [], []⟩

def depth (l : PatternLevel) : Nat :=
  match l.choices with
  | [] => depthTogether l.parts
  | choices => 1 + choices.foldl max (depthTogether l.parts)

def add (l : PatternLevel) (depth : Nat) : PatternLevel := { l with parts := depth :: l.parts }

def bar (l : PatternLevel) : PatternLevel :=
  ⟨l.mode, [], depthTogether l.parts :: l.choices⟩

def repetition (l : PatternLevel) : PatternLevel :=
  match l.parts with
  | [] => l
  | d :: ds => { l with parts := (d + 1) :: ds }

end PatternLevel

/-- Where the reading of a pattern stands. -/
structure PatternState where
  level : PatternLevel
  /-- The levels around it, from the inside out. -/
  outer : List PatternLevel
  names : List String
  /-- Whether there is something that can be repeated. -/
  repeatable : Bool
deriving DecidableEq, Repr

def patternStep (s : PatternState) (c : Char) (cs : List Char) :
    Option (PatternState × List Char) :=
  let mode := s.level.mode
  let after (depth : Nat) (cs : List Char) :=
    some ({ s with level := s.level.add depth, repeatable := true }, cs)
  match c with
  | '(' =>
    match groupStart mode cs with
    | none => none
    | some (.change mode, cs) =>
      some ({ s with level := { s.level.add 0 with mode }, repeatable := false }, cs)
    | some (.group mode name, cs) =>
      if name.any s.names.contains then none
      else some (⟨.new mode, s.level :: s.outer, name.toList ++ s.names, false⟩, cs)
  | ')' =>
    match s.outer with
    | [] => none
    | around :: outer => some (⟨around.add (1 + s.level.depth), outer, s.names, true⟩, cs)
  | '|' => some ({ s with level := s.level.bar, repeatable := false }, cs)
  | '[' => (classPattern mode cs).bind fun (depth, cs) => after depth cs
  | '?' | '*' | '+' =>
    if s.repeatable then
      let s := { s with level := s.level.repetition }
      match cs with
      | '?' :: cs => some (s, cs)
      | cs => some (s, cs)
    else none
  | '\x7b' => none
  | '\\' =>
    match escapeAtom mode cs with
    | some (a, cs) => if a.fits mode then after 0 cs else none
    | none => none
  | '.' => if mode.unicode then after 0 cs else none
  | '^' | '$' => after 0 cs
  | c => if PatternAtom.fits mode (.literal c false) then after 0 cs else none

/-- Reads the rest of a pattern, and answers the depth of the whole.  Each step reads a
    character at least, so the length of the text is enough `fuel`. -/
def patternRest : Nat → PatternState → List Char → Option Nat
  | 0, _, _ => none
  | fuel + 1, s, cs =>
    match s.level.mode.skip cs with
    | [] => if s.outer.isEmpty then some s.level.depth else none
    | c :: cs =>
      match patternStep s c cs with
      | some (s, cs) => patternRest fuel s cs
      | none => none

def patternDepthLimit : Nat := 250

def isPattern (cs : List Char) : Bool :=
  match patternRest (cs.length + 1) ⟨.new .standard, [], [], false⟩ cs with
  | some depth => depth ≤ patternDepthLimit
  | none => false

/-! ### Numbers -/

def isExponent (cs : List Char) : Bool :=
  match cs with
  | [] => true
  | e :: cs =>
    (e == 'e' || e == 'E') &&
      match cs with
      | '+' :: cs => !cs.isEmpty && cs.all Char.isDigit
      | '-' :: cs => !cs.isEmpty && cs.all Char.isDigit
      | cs => !cs.isEmpty && cs.all Char.isDigit

/-- Whether a text is a number without a sign. -/
def isNumeral (cs : List Char) : Bool :=
  ["inf", "infinity", "nan"].contains (String.ofList (cs.map Char.toLower)) ||
    let whole := cs.takeWhile Char.isDigit
    match cs.dropWhile Char.isDigit with
    | '.' :: cs =>
      let part := cs.takeWhile Char.isDigit
      !(whole.isEmpty && part.isEmpty) && isExponent (cs.dropWhile Char.isDigit)
    | cs => !whole.isEmpty && isExponent cs

/-- Whether the value of a field can be compared with a text: a number or a pattern.
    Numbers are patterns, unless they have a plus sign. -/
def isComparable (text : String) : Bool :=
  match text.toList with
  | '+' :: cs => isNumeral cs
  | cs => isPattern cs

end GrammarLint.Log
