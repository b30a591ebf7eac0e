/-
  GrammarLint/Sandbox/Script.lean
  ===============================
  **Programs that follow a script** — what a program does the first time it is run, the
  second time, and so on.
-/
import GrammarLint.Sandbox.Catenation
import GrammarLint.Sandbox.Machine

namespace GrammarLint.Sandbox

/-- How a program ends that asks to end with a number: a byte of it is kept. -/
def exitWith (n : Nat) : ExitStatus := .code (n % 256)

/-- The signals that are ignored by a program which does not handle them. -/
def harmlessSignals : List Nat := [0, 17, 18, 23, 28]

/-- How a program ends that sends a signal to itself as the last thing it does. -/
def killWith (n : Nat) : ExitStatus :=
  if harmlessSignals.contains n then .code 0 else .signal n

/-- What a program does when it is run once. -/
structure Turn where
  stdout : ByteArray
  stderr : ByteArray
  /-- Files that it writes or, without contents, removes. -/
  files : List (String × Option ByteArray)
  status : ExitStatus
  /-- Whether it reads what it is sent. -/
  reads : Bool

namespace Turn

/-- Writes or removes one file. -/
def change (d : Disk) (file : String × Option ByteArray) : Disk :=
  match file with
  | (path, none) => d.remove path
  | (path, some bytes) =>
    match d.write path bytes with
    | .ok d => d
    | .error _ => d

/-- What comes of a turn, and the disk after it. -/
def play (t : Turn) (d : Disk) : Launch × Disk :=
  (.ended t.status t.stdout t.stderr (if t.reads then .complete else .closed),
    t.files.foldl change d)

end Turn

/-- A program with a script; the last turn is repeated. -/
structure Scripted where
  program : Program
  first : Turn
  others : List Turn

namespace Scripted

/-- The turn of the run number `n`, from zero. -/
def turn (s : Scripted) (n : Nat) : Turn :=
  match n with
  | 0 => s.first
  | n + 1 => s.others.getD n (s.others.getLast?.getD s.first)

def runs (s : Scripted) (launches : Array (Program × String)) : Nat :=
  (launches.filter fun l => l.1 == s.program).size

end Scripted

/-- A machine with one program that has a script, if there is one, and with `cat`.  All
    attempts to change the disk are carried out. -/
def scriptedMachine (script : Option Scripted) : Machine where
  run launches disk program text :=
    let other : Launch × Disk :=
      if Catenation.callNames.contains program.name then
        (Catenation.run disk program text, disk)
      else (.notStarted FileError.notFound.message, disk)
    match script with
    | none => other
    | some s =>
      if program = s.program then (s.turn (s.runs launches)).play disk else other
  fate _ _ := .done

/-- The texts that the program with a script was sent, where it has read them. -/
def Scripted.received (s : Scripted) (launches : Array (Program × String)) :
    List (Option String) :=
  ((launches.toList.filter fun l => l.1 == s.program).zipIdx).map fun (l, n) =>
    if (s.turn n).reads then some l.2 else none

end GrammarLint.Sandbox
