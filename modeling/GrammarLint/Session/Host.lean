/-
  GrammarLint/Session/Host.lean
  =============================
  **The machine that a session runs on** — files, programs, a clock and two output
  streams, as a record of operations in some monad.

  Sessions are written against this record and against nothing else, so the same
  definitions run on a real machine and on one that is a value.
-/
import GrammarLint.Report.Stream
import GrammarLint.Text.Utf8

namespace GrammarLint

open Text

/-! ### Files -/

/-- Why a file could not be read or written. -/
inductive FileError where
  | notFound
  | notDirectory
  | isDirectory
  | nameTooLong
  | notUtf8
  | other (text : String)
deriving DecidableEq, Repr

namespace FileError

/-- What is the matter with a file, and the number of the error where it has one. -/
def reason : FileError → String × Option Nat
  | .notFound => ("No such file or directory", some 2)
  | .notDirectory => ("Not a directory", some 20)
  | .isDirectory => ("Is a directory", some 21)
  | .nameTooLong => ("File name too long", some 36)
  | .notUtf8 => ("stream did not contain valid UTF-8", none)
  | .other text => (text, none)

def message (e : FileError) : String :=
  match e.reason with
  | (text, some number) => text ++ " (os error " ++ toString number ++ ")"
  | (text, none) => text

end FileError

/-! ### Programs -/

/-- A program and its arguments. -/
structure Program where
  name : String
  arguments : List String
deriving DecidableEq, Repr

/-- How a program ended. -/
inductive ExitStatus where
  | code (n : Nat)
  | signal (n : Nat)
deriving DecidableEq, Repr

/-- What became of the text that was sent to a program. -/
inductive Delivery where
  | complete
  /-- The program closed its input before the end. -/
  | closed
  /-- Sending failed for another reason. -/
  | failed (reason : String)
deriving DecidableEq, Repr

/-- What came of running a program. -/
inductive Launch where
  | notStarted (reason : String)
  /-- It was started, but its end was not observed. -/
  | lost (reason : String)
  /-- It ended, and wrote to its two streams. -/
  | ended (status : ExitStatus) (stdout stderr : ByteArray) (delivery : Delivery)

/-! ### Machines -/

/-- The operations of a machine. -/
structure Host (m : Type → Type) where
  readFile : String → m (Except FileError ByteArray)
  /-- Whether there is a file or a directory. -/
  pathExists : String → m Bool
  /-- Writes a file in place of the one there was. -/
  writeFile : String → ByteArray → m (Except FileError Unit)
  /-- Puts the first file in place of the second. -/
  rename : String → String → m (Except FileError Unit)
  /-- Runs a program, sends it a text and waits for its end. -/
  launch : Program → String → m Launch
  now : m Nat
  sleep : Nat → m Unit
  /-- Writes to one of the output streams. -/
  write : Stream → String → m Unit

namespace Host

variable {m : Type → Type} [Monad m]

def readText (host : Host m) (path : String) : m (Except FileError String) := do
  match ← host.readFile path with
  | .error e => return .error e
  | .ok bytes =>
    match read? bytes with
    | some text => return .ok text
    | none => return .error .notUtf8

def writeText (host : Host m) (path text : String) : m (Except FileError Unit) :=
  host.writeFile path text.toUTF8

def writeAll (host : Host m) : List Chunk → m Unit
  | [] => return
  | chunk :: chunks => do
    host.write chunk.stream chunk.text
    host.writeAll chunks

end Host

end GrammarLint
