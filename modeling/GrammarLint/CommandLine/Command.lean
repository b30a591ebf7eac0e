/-
  GrammarLint/CommandLine/Command.lean
  ====================================
  **Commands and their help texts** — a command with its arguments, its usage lines and
  the page that describes it.

  The columns of a page are as wide as their widest entry and two blanks apart.
-/
import GrammarLint.CommandLine.Argument

namespace GrammarLint.CommandLine

/-- A command. -/
structure Command where
  name : String
  /-- The words that the command is called with. -/
  call : String
  about : String
  /-- The arguments of its own. -/
  own : List Argument
  /-- The arguments that it shares with all commands. -/
  shared : List Argument
  /-- The arguments that ask for a page. -/
  inquiries : List Argument
  /-- The names of arguments that belong together. -/
  groups : List (List String)
  /-- What follows the arguments in a usage line. -/
  tail : List String
deriving DecidableEq, Repr

namespace Command

def arguments (c : Command) : List Argument := c.own ++ c.shared ++ c.inquiries

/-- The arguments that are given by place, in order. -/
def positionals (c : Command) : List Argument := c.arguments.filter (·.isPositional)

def named (c : Command) : List Argument := c.arguments.filter (!·.isPositional)

def named? (c : Command) (name : String) : Option Argument := c.named.find? (·.name == name)

def short? (c : Command) (letter : Char) : Option Argument :=
  c.named.find? (·.short == some letter)

/-! ### Usage -/

/-- A usage line: the call, and `parts` behind it. -/
def usageOf (c : Command) (parts : List String) : String :=
  " ".intercalate (c.call :: parts ++ c.tail)

def usage (c : Command) : String :=
  let required := c.named.filter (·.required)
  let general := if c.named.all (·.required) then [] else ["[OPTIONS]"]
  c.usageOf (general ++ required.map (·.display) ++ c.positionals.map (·.display))

/-- The usage line for someone who has given the arguments `used`: those, and the ones
    that have to be given; or the general one if none has been given. -/
def usageFor (c : Command) (used : List Argument) : String :=
  if used.isEmpty then c.usage
  else
    let shown := (c.arguments.filter (·.required) ++ used).eraseDups
    let positionals := c.positionals.filter fun a => shown.contains a
    c.usageOf ((shown.filter (!·.isPositional) ++ positionals).map (·.display))

/-- How arguments that belong together are shown. -/
def shownGroup (c : Command) (group : List String) : String :=
  let members := c.arguments.filter fun a => group.contains a.name
  "<" ++ "|".intercalate (members.map (·.display)) ++ ">"

/-- The usage line for someone who has given the arguments `given` and then gives `a` in a
    wrong way: what belongs together with a given one is shown together with it. -/
def usageAround (c : Command) (given : List Argument) (a : Argument) : String :=
  let groups := (given.flatMap fun b => c.groups.filter (·.contains b.name)).eraseDups
  let shown := ((c.arguments.filter (·.required) ++ given ++ [a]).eraseDups).filter fun b =>
    !groups.any (·.contains b.name)
  let positionals := c.positionals.filter fun b => shown.contains b
  c.usageOf ((shown.filter (!·.isPositional)).map (·.display) ++ groups.map c.shownGroup ++
    positionals.map (·.display))

/-! ### Pages -/

/-- The elements of two lists in turn, and then those that are left in one of them. -/
def inTurn {α : Type} : List α → List α → List α
  | [], bs => bs
  | as, [] => as
  | a :: as, b :: bs => a :: b :: inTurn as bs

/-- The arguments that are given by name, as they are listed on a page. -/
def listed (c : Command) : List Argument :=
  inTurn (c.own.filter (!·.isPositional)) c.shared ++ c.inquiries

/-- `s` with blanks behind it, as wide as `width`. -/
def padded (width : Nat) (s : String) : String :=
  s ++ String.ofList (List.replicate (width - s.length) ' ')

def table (rows : List (String × String)) : String :=
  let width := rows.foldl (fun w r => max w r.1.length) 0
  "\n".intercalate (rows.map fun r => "  " ++ padded width r.1 ++ "  " ++ r.2)

/-- A titled table, or nothing if it would be empty. -/
def block (title : String) (rows : List (String × String)) : List String :=
  if rows.isEmpty then [] else [title ++ ":\n" ++ table rows]

/-- The line of an argument that is given by name. -/
def namedRow (a : Argument) : String × String :=
  let letter := match a.short with
    | some c => "-" ++ String.singleton c ++ ", "
    | none => "    "
  let options := match a.kind? with
    | some (.choice options) => " [possible values: " ++ ", ".intercalate options ++ "]"
    | _ => ""
  (letter ++ a.display, a.help ++ options)

/-- The help page of a command; `commands` are those that can follow it. -/
def page (c : Command) (commands : List Command) : String :=
  "\n\n".intercalate
    ([c.about, "Usage: " ++ c.usage] ++
      block "Commands" (commands.map fun d => (d.name, d.about)) ++
      block "Arguments" (c.positionals.map fun a => (a.display, a.help)) ++
      block "Options" (c.listed.map namedRow)) ++ "\n"

end Command

end GrammarLint.CommandLine
