/-
  GrammarLint/CommandLine/Program.lean
  ====================================
  **The commands of the program** — `lint` and `watch`, with everything that can be given
  to them, and what they are asked to do by it.
-/
import GrammarLint.CommandLine.Parse
import GrammarLint.Session.Job

namespace GrammarLint.CommandLine

/-! ### Arguments -/

def fileArgument (name placeholder : String) : Argument where
  name
  form := .positional .path
  placeholder
  short := none
  required := true
  conflicts := []
  help := ""

def namedArgument (name placeholder : String) (form : Form) (help : String) : Argument where
  name
  form
  placeholder
  short := none
  required := false
  conflicts := []
  help

def analyzerArgument : Argument :=
  { namedArgument "analyzer" "ANALYZER" (.option .text)
      ("Program that reads `\x7b\"grammar\",\"code\"\x7d` on stdin and prints the " ++
        "analysis response") with
    required := true }

def outputArgument : Argument :=
  namedArgument "output" "OUTPUT" (.option (.choice (Format.all.map Format.name)))
    ("Output mode: \"pretty\" for coloured terminal output, \"json\" for machine-readable " ++
      "JSON. Defaults to \"pretty\" when stdout is a TTY, \"json\" otherwise")

/-- What is given to the analyzer; it may look like an argument of this program. -/
def analyzerArgsArgument : Argument :=
  namedArgument "analyzer-arg" "ANALYZER_ARGS" (.options .text)
    "Extra argument for the analyzer program (repeatable)"

def verboseArgument : Argument :=
  { namedArgument "verbose" "" .flag
      "Log pipeline activity at debug level (overridden by `PEGLINT_LOG`)" with
    short := some 'v' }

def configArgument : Argument :=
  namedArgument "config" "CONFIG" (.option .path)
    "Pipeline config JSON: `\x7b\"debounceMs\", \"grammarKey\", \"codeKey\"\x7d`"

/-- A waiting time in place of that of the settings. -/
def debounceArgument : Argument :=
  namedArgument "debounce-ms" "DEBOUNCE_MS" (.option (.number 1))
    "Override the debounce window, in milliseconds"

def stateArgument : Argument :=
  namedArgument "state" "STATE" (.option .path)
    "JSON file the buffer texts are persisted to and restored from"

/-- How often the files are looked at unless it is said otherwise. -/
def standardPollMs : Nat := 100

def pollArgument : Argument :=
  namedArgument "poll-ms" "POLL_MS" (.option (.number 0))
    ("How often to check the files for changes, in milliseconds [default: " ++
      toString standardPollMs ++ "]")

def cyclesArgument : Argument :=
  { namedArgument "cycles" "CYCLES" (.option (.number 0))
      "Stop after this many analysis cycles (the startup cycle counts)" with
    conflicts := ["once"] }

def onceArgument : Argument :=
  namedArgument "once" "" .flag "Run the startup cycle only"

def helpArgument : Argument :=
  { namedArgument "help" "" .help "Print help" with short := some 'h' }

def versionArgument : Argument :=
  { namedArgument "version" "" .version "Print version" with short := some 'V' }

/-! ### Commands -/

def jobArguments : List Argument :=
  [fileArgument "grammar" "GRAMMAR", fileArgument "code" "CODE", analyzerArgument,
   analyzerArgsArgument, configArgument, debounceArgument]

/-- What can be given to the program as well as to a command. -/
def sharedArguments : List Argument := [outputArgument, verboseArgument]

/-- The parts of a job that are described by more than one argument. -/
def jobGroups : List (List String) :=
  [["analyzer", "analyzer-arg"], ["config", "debounce-ms"]]

def mainCommand : Command where
  name := "peglint"
  call := "peglint"
  about := "Lint a PEG grammar and a sample input with an external analyzer"
  own := sharedArguments
  shared := []
  inquiries := [helpArgument, versionArgument]
  groups := [["output", "verbose"]]
  tail := ["<COMMAND>"]

def lintCommand : Command where
  name := "lint"
  call := "peglint lint"
  about := "Run one analysis of a grammar file against a code file"
  own := jobArguments
  shared := sharedArguments
  inquiries := [helpArgument]
  groups := jobGroups
  tail := []

def watchCommand : Command where
  name := "watch"
  call := "peglint watch"
  about := "Re-analyze whenever either file changes, after the debounce window"
  own := jobArguments ++ [stateArgument, pollArgument, cyclesArgument, onceArgument]
  shared := sharedArguments
  inquiries := [helpArgument]
  groups := jobGroups
  tail := []

def helpCommand : Command where
  name := "help"
  call := "peglint help"
  about := "Print this message or the help of the given subcommand(s)"
  own :=
    [{ fileArgument "command" "COMMAND" with
        required := false
        help := "Print help for the subcommand(s)" }]
  shared := []
  inquiries := []
  groups := []
  tail := []

/-! ### What they are asked to do -/

def job (m : Matches) : Option Job := do
  let grammar ← m.text? "grammar"
  let code ← m.text? "code"
  let analyzer ← m.text? "analyzer"
  return ⟨grammar, code, ⟨analyzer, m.texts "analyzer-arg"⟩, m.text? "config",
    m.number? "debounce-ms"⟩

def lintOrder (m : Matches) : Option Order := (job m).map .lint

def watchOrder (m : Matches) : Option Order := do
  let job ← job m
  return .watch ⟨job, m.text? "state", (m.number? "poll-ms").getD standardPollMs,
    if m.has "once" then some 1 else m.number? "cycles"⟩

def interface : Interface Order where
  main := mainCommand
  callables := [⟨lintCommand, lintOrder⟩, ⟨watchCommand, watchOrder⟩]
  help := helpCommand
  version := "peglint 0.1.0"

/-- Reads the command line of the program.  What is given to a command counts before what
    is given in front of it. -/
def invocation (args : List String) : Except Reply Invocation := do
  let (order, inner, outer) ← interface.parse args
  let format := (inner.text? "output" <|> outer.text? "output").bind Format.ofName?
  return ⟨order, format, inner.has "verbose" || outer.has "verbose"⟩

end GrammarLint.CommandLine
