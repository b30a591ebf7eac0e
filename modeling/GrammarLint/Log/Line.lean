/-
  GrammarLint/Log/Line.lean
  =========================
  **Log records as lines** — coloured for a terminal: the level, the message, and the
  values with their names, both as they are.
-/
import GrammarLint.Log.Record

namespace GrammarLint.Log

def esc : Char := Char.ofNat 0x1B

/-- Turns a terminal style on: the parameters of a `m` sequence. -/
def style (parameters : String) : String :=
  String.singleton esc ++ "[" ++ parameters ++ "m"

def styled (parameters text : String) : String :=
  style parameters ++ text ++ style "0"

def Level.colour : Level → String
  | .error => "31"
  | .warn => "33"
  | .info => "32"
  | .debug => "34"
  | .trace => "35"

/-- The name of a level, on five places. -/
def Level.padded (l : Level) : String :=
  String.ofList (List.replicate (5 - l.name.length) ' ') ++ l.name

def Record.line (r : Record) : String :=
  styled r.level.colour r.level.padded ++ " " ++ r.message ++
    String.join (r.fields.map fun (name, value) =>
      " " ++ styled "3" name ++ styled "2" "=" ++ value.show) ++ "\n"

end GrammarLint.Log
