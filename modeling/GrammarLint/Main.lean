/-
  GrammarLint/Main.lean
  =====================
  **The program** — a session on the machine that it is started on.

  This is the only module with effects.  It gives a session the operations it needs and
  goes on for as long as files are watched; everything else is decided elsewhere.
-/
import GrammarLint.Session.Run

namespace GrammarLint

/-- Whether the code of an error is a given number, with either sign. -/
def isNumber (n code : UInt32) : Bool := code == n || code + n == 0

/-- The file error for an error of the machine. -/
def FileError.ofError : IO.Error → FileError
  | .noFileOrDirectory .. => .notFound
  | .inappropriateType _ code _ => if isNumber 20 code then .notDirectory else .isDirectory
  | e@(.invalidArgument _ code _) =>
    if isNumber 36 code then .nameTooLong else .other (toString e)
  | e => .other (toString e)

def attempt {α : Type} (action : IO α) : IO (Except FileError α) := do
  try return .ok (← action)
  catch e => return .error (.ofError e)

/-- The machine that the program is started on.  It does not start other programs. -/
def realHost : Host IO where
  readFile path := attempt (IO.FS.readBinFile path)
  pathExists path := do
    match ← attempt (IO.FS.Handle.mk path .read) with
    | .ok _ => return true
    | .error .notFound | .error .notDirectory | .error .nameTooLong => return false
    | .error _ => return true
  writeFile path bytes := attempt (IO.FS.writeBinFile path bytes)
  rename source target := attempt (IO.FS.rename source target)
  launch _ _ := return .notStarted "Operation not supported"
  now := IO.monoMsNow
  sleep ms := IO.sleep (UInt32.ofNat (min ms 4294967295))
  write
    | .out, text => do
      let stream ← IO.getStdout
      stream.putStr text
      stream.flush
    | .err, text => do
      let stream ← IO.getStderr
      stream.putStr text
      stream.flush

/-- The steps that a session is carried on by before it is asked whether to go on: as
    many as nobody waits for. -/
def steps : Nat := 4611686018427387904

end GrammarLint

open GrammarLint in
def main (arguments : List String) : IO UInt32 := do
  let log ← IO.getEnv "PEGLINT_LOG"
  let terminal ← (← IO.getStdout).isTty
  match ← Session.run realHost ⟨arguments, log, terminal⟩ steps with
  | some status => return UInt32.ofNat status
  | none => return 0
