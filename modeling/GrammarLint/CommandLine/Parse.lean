/-
  GrammarLint/CommandLine/Parse.lean
  ==================================
  **Reading a command line** — which arguments it gives to which command, or what is
  answered instead.

  An option waits for its value, and a value is looked at only when the next argument
  shows that it is the whole of it; so of two faults the earlier one need not be the one
  that is reported.  What is in front of a command is settled last of all.
-/
import GrammarLint.CommandLine.Command
import GrammarLint.CommandLine.Refusal
import GrammarLint.CommandLine.Similarity

namespace GrammarLint.CommandLine

/-! ### What is given -/

/-- An argument that was given, with its values in order. -/
structure Given where
  argument : Argument
  values : List Value
deriving DecidableEq, Repr

/-- The arguments that were given, in the order of their first values. -/
abbrev Matches := List Given

namespace Matches

def has (m : Matches) (name : String) : Bool := m.any (·.argument.name == name)

/-- The values that were given for an argument. -/
def values (m : Matches) (name : String) : List Value :=
  match m.find? (·.argument.name == name) with
  | some given => given.values
  | none => []

/-- The first text that was given for an argument. -/
def text? (m : Matches) (name : String) : Option String :=
  (m.values name).findSome? fun
    | .text s => some s
    | _ => none

/-- All texts that were given for an argument. -/
def texts (m : Matches) (name : String) : List String :=
  (m.values name).filterMap fun
    | .text s => some s
    | _ => none

/-- The first number that was given for an argument. -/
def number? (m : Matches) (name : String) : Option Nat :=
  (m.values name).findSome? fun
    | .number n => some n
    | _ => none

def add (m : Matches) (a : Argument) (values : List Value) : Matches :=
  if m.has a.name then
    m.map fun g => if g.argument.name == a.name then { g with values := g.values ++ values } else g
  else m ++ [⟨a, values⟩]

def remove (m : Matches) (a : Argument) : Matches := m.filter (·.argument.name != a.name)

def used (m : Matches) : List Argument := m.map (·.argument)

end Matches

/-! ### What is answered instead -/

/-- What a command line is answered with if nothing is to be done. -/
inductive Reply where
  | page (text : String)
  /-- The page for someone who has given nothing at all. -/
  | introduction (text : String)
  | refused (refusal : Refusal)
deriving DecidableEq, Repr

/-- Something that can be called: a command that is made of its arguments, unless one is
    missing that has to be given. -/
structure Callable (α : Type) where
  command : Command
  build : Matches → Option α

/-- A program: what can be given in front of a command, the commands, and the command
    that shows help pages. -/
structure Interface (α : Type) where
  main : Command
  callables : List (Callable α)
  help : Command
  version : String

namespace Interface

variable {α : Type}

def commands (i : Interface α) : List Command := i.callables.map (·.command) ++ [i.help]

end Interface

/-! ### Reading one command -/

/-- The argument whose value is being read. -/
inductive Open where
  /-- Its value is the next argument. -/
  | waiting (a : Argument)
  /-- This is its value. -/
  | given (a : Argument) (value : String)
deriving DecidableEq, Repr

/-- How far a command is read. -/
structure Progress where
  matched : Matches
  pending : Option Open
  /-- The places that nothing was given for yet. -/
  places : List Argument
  /-- Whether two dashes are behind us, so that nothing is a name any more. -/
  literal : Bool
deriving DecidableEq, Repr

/-- Where a command line is read: the command, those that may follow it, and what is
    shown as the version. -/
structure Level where
  command : Command
  followers : List Command
  version : String

namespace Level

/-- A refusal with a usage line for what is given already. -/
def refusal (l : Level) (cause : Cause) (tips : List Tip) (used : List Argument) : Refusal :=
  ⟨cause, tips, some (l.command.usageFor used), true⟩

def badValue (a : Argument) (text : String) : ValueFault → Refusal
  | .missing => ⟨.missingValue a.display ((a.kind?.map (·.options)).getD []), [], none, true⟩
  | .unknownChoice =>
    let options := (a.kind?.map (·.options)).getD []
    let tips := match (similarWords text options).getLast? with
      | some s => [.similar "value" [s]]
      | none => []
    ⟨.badChoice text a.display options, tips, none, true⟩
  | .badNumber reason => ⟨.badNumber text a.display reason, [], none, true⟩

def take (l : Level) (m : Matches) (a : Argument) (text : String) (value : Except ValueFault Value) :
    Matches × Option Refusal :=
  if m.has a.name && !a.repeats then
    (m.remove a, some (l.refusal (.repeated a.display) [] []))
  else
    match value with
    | .ok v => (m.add a [v], none)
    | .error fault => (m.add a [], some (badValue a text fault))

/-- Takes the value that is being read, if there is one. -/
def settle (l : Level) (p : Progress) : Progress × Option Refusal :=
  match p.pending with
  | none => (p, none)
  | some (.waiting a) => ({ p with pending := none }, some (badValue a "" .missing))
  | some (.given a text) =>
    let value := match a.kind? with
      | some kind => kind.read text
      | none => .ok .on
    let (matched, refusal) := l.take p.matched a text value
    ({ p with matched, pending := none }, refusal)

/-- Takes the value that is being read; a refusal ends the reading. -/
def settled (l : Level) (p : Progress) : Except Reply Progress :=
  match l.settle p with
  | (p, none) => .ok p
  | (_, some refusal) => .error (.refused refusal)

def flag (l : Level) (p : Progress) (a : Argument) : Except Reply Progress := do
  let p ← l.settled p
  match a.form with
  | .help => throw (.page (l.command.page l.followers))
  | .version => throw (.page (l.version ++ "\n"))
  | _ =>
    match l.take p.matched a "" (.ok .on) with
    | (matched, none) => return { p with matched }
    | (_, some refusal) => throw (.refused refusal)

/-- The argument of a command that is called later which `name` is similar to. -/
def hint (l : Level) (name : String) (rest : List String) : Option Tip :=
  let found := l.followers.filterMap fun c =>
    match (similarWords name (c.named.map (·.name))).getLast?, rest.idxOf? c.name with
    | some s, some place => some (place, Tip.ofCommand c.name ("--" ++ s))
    | _, _ => none
  let nearest := found.foldl
    (fun best t => match best with
      | some b => if t.1 < b.1 then some t else some b
      | none => some t) (none : Option (Nat × Tip))
  nearest.map (·.2)

/-- What is said about a name that no argument has. -/
def unknownName (l : Level) (p : Progress) (name : String) (rest : List String) : Refusal :=
  let matched := (l.settle p).1.matched
  let cause := Cause.unexpectedArgument ("--" ++ name)
  match (similarWords name (l.command.named.map (·.name))).getLast? with
  | some s =>
    let matched := match l.command.named? s with
      | some a => matched.add a []
      | none => matched
    l.refusal cause [.similar "argument" ["--" ++ s]] matched.used
  | none =>
    match l.hint name rest with
    | some tip => l.refusal cause [tip] matched.used
    | none =>
      let tips := if l.command.positionals.isEmpty then [] else [.afterDashes ("--" ++ name)]
      l.refusal cause tips matched.used

/-- Reads an argument that begins with two dashes. -/
def long (l : Level) (p : Progress) (name : String) (value : Option String)
    (rest : List String) : Except Reply Progress := do
  match l.command.named? name with
  | none => throw (.refused (l.unknownName p name rest))
  | some a =>
    match a.kind?, value with
    | some _, some text =>
      let p ← l.settled p
      l.settled { p with pending := some (.given a text) }
    | some _, none =>
      let p ← l.settled p
      return { p with pending := some (.waiting a) }
    | none, some text =>
      let usage := l.command.usageAround p.matched.used a
      throw (.refused ⟨.unexpectedValue text a.display, [], some usage, true⟩)
    | none, none => l.flag p a

/-- Reads letters behind one dash.  Each of them stands for an argument without a value. -/
def letters (l : Level) : Progress → List Char → Except Reply Progress
  | p, [] => .ok p
  | p, c :: cs =>
    match l.command.short? c with
    | some a => do l.letters (← l.flag p a) cs
    | none =>
      let text := "-" ++ String.singleton c
      let tips := if l.command.positionals.isEmpty then [] else [.afterDashes text]
      .error (.refused (l.refusal (.unexpectedArgument text) tips []))

/-- What is said about an argument that there is no place for. -/
def unplaced (l : Level) (p : Progress) (text : String) : Refusal :=
  let names := l.followers.map (·.name)
  if p.literal && names.contains text then
    l.refusal (.unexpectedArgument text) [.withoutDashes text] []
  else if names.isEmpty then l.refusal (.unexpectedArgument text) [] []
  else
    match similarWords text names with
    | [] => l.refusal (.unknownCommand text) [] []
    | similar => l.refusal (.unknownCommand text) [.similar "subcommand" similar] []

def plain (l : Level) (p : Progress) (text : String) : Except Reply Progress := do
  match p.places with
  | a :: places =>
    let p ← l.settled p
    return { p with places, pending := some (.given a text) }
  | [] => throw (.refused (l.unplaced p text))

def cutAtEquals (cs : List Char) : String × Option String :=
  let name := String.ofList (cs.takeWhile (· != '='))
  match cs.dropWhile (· != '=') with
  | [] => (name, none)
  | _ :: value => (name, some (String.ofList value))

def named (l : Level) (p : Progress) (text : String) (rest : List String) :
    Except Reply Progress :=
  match text.toList with
  | ['-', '-'] => .ok { p with literal := true }
  | '-' :: '-' :: cs =>
    let (name, value) := cutAtEquals cs
    l.long p name value rest
  | '-' :: c :: cs => l.letters p (c :: cs)
  | _ =>
    match p.pending with
    | some (.waiting a) => .ok { p with pending := some (.given a text) }
    | _ => l.plain p text

/-- Reads one argument; `rest` are those behind it. -/
def accept (l : Level) (p : Progress) (text : String) (rest : List String) :
    Except Reply Progress :=
  if p.literal then l.plain p text
  else
    match p.pending with
    | some (.waiting a) =>
      if a.repeats then .ok { p with pending := some (.given a text) }
      else l.named p text rest
    | _ => l.named p text rest

/-- The command that an argument names, where one may be named. -/
def follower? (l : Level) (p : Progress) (text : String) : Option Command :=
  match p.literal, p.pending with
  | true, _ => none
  | _, some (.waiting _) => none
  | _, _ => l.followers.find? (·.name == text)

/-- Reads arguments up to the name of another command. -/
def scan (l : Level) : Progress → List String →
    Except Reply (Progress × Option (Command × List String))
  | p, [] => .ok (p, none)
  | p, text :: rest =>
    match l.follower? p text with
    | some c => .ok (p, some (c, rest))
    | none => do l.scan (← l.accept p text rest) rest

def start (l : Level) : Progress := ⟨[], none, l.command.positionals, false⟩

/-! ### Checking what is given -/

/-- The arguments that cannot be given together with `a` although they are. -/
def opponents (m : Matches) (a : Argument) : List Argument :=
  m.used.filter fun b =>
    b.name != a.name && (a.conflicts.contains b.name || b.conflicts.contains a.name)

/-- The refusal of the first argument that cannot be given together with others. -/
def conflict? (l : Level) (m : Matches) : Option Refusal :=
  m.used.findSome? fun a =>
    match opponents m a with
    | [] => none
    | others =>
      let rest := m.used.filter fun b => !others.contains b
      some (l.refusal (.conflicting a.display (others.map (·.display))) [] rest)

/-- The refusal of a command line on which arguments are missing. -/
def missing (l : Level) (m : Matches) : Refusal :=
  let absent := l.command.arguments.filter fun a => a.required && !m.has a.name
  let shown := absent.filter (!·.isPositional) ++ absent.filter (·.isPositional)
  l.refusal (.missingArguments (shown.map (·.display))) [] (m.used ++ shown)

end Level

namespace Interface

variable {α : Type}

/-! ### Reading a whole command line -/

/-- Reads everything behind the name of a command. -/
def call (i : Interface α) (c : Callable α) (args : List String) : Except Reply (α × Matches) := do
  let l : Level := ⟨c.command, [], i.version⟩
  let (p, _) ← l.scan l.start args
  let p ← l.settled p
  if let some refusal := l.conflict? p.matched then throw (.refused refusal)
  match c.build p.matched with
  | some x => return (x, p.matched)
  | none => throw (.refused (l.missing p.matched))

/-- The page that is asked for by the names of commands. -/
def helpPage (i : Interface α) : List String → Reply
  | [] => .page (i.main.page i.commands)
  | name :: names =>
    match i.commands.find? (·.name == name) with
    | none => .refused ⟨.unknownCommand name, [], some i.main.usage, true⟩
    | some c =>
      match names with
      | [] => .page (c.page [])
      | name :: _ =>
        .refused ⟨.unknownCommand name, [], some c.usage, !c.inquiries.isEmpty⟩

/-- Reads a command line: what is to be done, what was given to the command, and what
    was given in front of it. -/
def parse (i : Interface α) (args : List String) : Except Reply (α × Matches × Matches) := do
  let l : Level := ⟨i.main, i.commands, i.version⟩
  let (p, next) ← l.scan l.start args
  match next with
  | none =>
    let p ← l.settled p
    if p.matched.isEmpty then throw (.introduction (i.main.page i.commands))
    throw (.refused (l.refusal (.missingCommand i.main.call (i.commands.map (·.name))) [] []))
  | some (command, rest) =>
    match i.callables.find? (·.command.name == command.name) with
    | none => throw (i.helpPage rest)
    | some c =>
      let (x, m) ← i.call c rest
      let p ← l.settled p
      return (x, m, p.matched)

end Interface

end GrammarLint.CommandLine
