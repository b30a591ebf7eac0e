/-
  GrammarLint/CommandLine/Refusal.lean
  ====================================
  **Command lines that are refused** — why, what might have been meant, and how it
  should have been called.

  What was given is quoted without terminal control sequences, so that it cannot change
  how the rest is shown.
-/
import GrammarLint.CommandLine.Argument
import GrammarLint.Text.Plain

namespace GrammarLint.CommandLine

/-- Why a command line is refused. -/
inductive Cause where
  | unknownCommand (name : String)
  | missingCommand (program : String) (commands : List String)
  | unexpectedArgument (text : String)
  | unexpectedValue (value argument : String)
  | missingValue (argument : String) (options : List String)
  | badChoice (value argument : String) (options : List String)
  | badNumber (value argument reason : String)
  | repeated (argument : String)
  | conflicting (argument : String) (others : List String)
  | missingArguments (arguments : List String)
deriving DecidableEq, Repr

def inQuotes (s : String) : String := "'" ++ s ++ "'"

def cited (s : String) : String := inQuotes (Text.plain s)

/-- A line that names the words there are to choose from, if there are any. -/
def optionsLine (title : String) (options : List String) : String :=
  if options.isEmpty then ""
  else "\n  [" ++ title ++ ": " ++ ", ".intercalate options ++ "]"

def Cause.message : Cause → String
  | .unknownCommand name => "unrecognized subcommand " ++ cited name
  | .missingCommand program commands =>
    inQuotes program ++ " requires a subcommand but one was not provided" ++
      optionsLine "subcommands" commands
  | .unexpectedArgument text => "unexpected argument " ++ cited text ++ " found"
  | .unexpectedValue value argument =>
    "unexpected value " ++ cited value ++ " for " ++ inQuotes argument ++
      " found; no more were expected"
  | .missingValue argument options =>
    "a value is required for " ++ inQuotes argument ++ " but none was supplied" ++
      optionsLine "possible values" options
  | .badChoice value argument options =>
    "invalid value " ++ cited value ++ " for " ++ inQuotes argument ++
      optionsLine "possible values" options
  | .badNumber value argument reason =>
    "invalid value " ++ cited value ++ " for " ++ inQuotes argument ++ ": " ++ reason
  | .repeated argument =>
    "the argument " ++ inQuotes argument ++ " cannot be used multiple times"
  | .conflicting argument [other] =>
    "the argument " ++ inQuotes argument ++ " cannot be used with " ++ inQuotes other
  | .conflicting argument others =>
    "the argument " ++ inQuotes argument ++ " cannot be used with:" ++
      String.join (others.map fun o => "\n  " ++ o)
  | .missingArguments arguments =>
    "the following required arguments were not provided:" ++
      String.join (arguments.map fun a => "\n  " ++ a)

/-- A hint at what might have been meant. -/
inductive Tip where
  /-- Something that is there has a similar name. -/
  | similar (kind : String) (names : List String)
  /-- Anything can be given as a value behind two dashes. -/
  | afterDashes (text : String)
  /-- The name is one of an argument of a command. -/
  | ofCommand (command argument : String)
  /-- A command does not follow two dashes. -/
  | withoutDashes (command : String)
deriving DecidableEq, Repr

def Tip.message : Tip → String
  | .similar kind [name] => "a similar " ++ kind ++ " exists: " ++ inQuotes name
  | .similar kind names =>
    "some similar " ++ kind ++ "s exist: " ++ ", ".intercalate (names.map inQuotes)
  | .afterDashes text =>
    "to pass " ++ cited text ++ " as a value, use " ++ cited ("-- " ++ text)
  | .ofCommand command argument => inQuotes (command ++ " " ++ argument) ++ " exists"
  | .withoutDashes command =>
    "subcommand " ++ inQuotes command ++ " exists; to use it, remove the '--' before it"

/-- A command line that is refused. -/
structure Refusal where
  cause : Cause
  tips : List Tip
  usage : Option String
  /-- Whether there is a help page to look at. -/
  helpful : Bool
deriving DecidableEq, Repr

def Refusal.text (r : Refusal) : String :=
  let tips := String.join (r.tips.map fun t => "\n  tip: " ++ t.message)
  "error: " ++ r.cause.message ++ (if r.tips.isEmpty then "" else "\n" ++ tips) ++
    (match r.usage with
      | some usage => "\n\nUsage: " ++ usage
      | none => "") ++
    (if r.helpful then "\n\nFor more information, try '--help'." else "") ++ "\n"

end GrammarLint.CommandLine
