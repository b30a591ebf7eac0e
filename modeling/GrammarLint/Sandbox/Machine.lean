/-
  GrammarLint/Sandbox/Machine.lean
  ================================
  **A machine that is a value** — a disk, a clock and everything that was written, as the
  state of a session, and programs that are functions.

  Every attempt to change the disk has a fate: it may fail before anything is written, or
  when part of it is.  A session is not alone on its machine.  Before each operation of
  the session others may change the disk and time may pass, as the machine says; unless
  it does, they leave the disk alone, and the clock stands still but for the waiting of
  the session itself.
-/
import GrammarLint.Sandbox.Disk

namespace GrammarLint.Sandbox

/-! ### Attempts to change the disk -/

/-- What is to become of an attempt to write or to rename. -/
inductive Fate where
  | done
  /-- It fails after so many bytes were written; a renaming is all or nothing. -/
  | cut (bytes : Nat)
  /-- It fails and changes nothing. -/
  | failed
deriving DecidableEq, Repr

/-- What is said about an attempt that was to fail. -/
def plannedError : FileError := .other "Input/output error (os error 5)"

/-- The disk after an attempt, and whether it was carried out. -/
def settled (d : Disk) : Except FileError Disk → Except FileError Unit × Disk
  | .ok changed => (.ok (), changed)
  | .error e => (.error e, d)

def Fate.write (fate : Fate) (d : Disk) (path : String) (bytes : ByteArray) :
    Except FileError Unit × Disk :=
  match fate with
  | .done => settled d (d.write path bytes)
  | .cut n => (.error plannedError, (settled d (d.write path (bytes.extract 0 n))).2)
  | .failed => (.error plannedError, d)

def Fate.rename (fate : Fate) (d : Disk) (source target : String) :
    Except FileError Unit × Disk :=
  match fate with
  | .done => settled d (d.rename source target)
  | _ => (.error plannedError, d)

/-! ### Machines -/

/-- The state of a machine. -/
structure World where
  disk : Disk
  clock : Nat
  /-- How often it was attempted to change the disk. -/
  attempts : Nat
  written : Array Chunk
  /-- The programs that were run, with what they were sent. -/
  launches : Array (Program × String)
  /-- How many operations were carried out. -/
  moment : Nat
  /-- How many attempts to change the disk failed. -/
  failures : Nat

namespace World

/-- The start of a machine with a given disk. -/
def ofDisk (disk : Disk) : World := ⟨disk, 0, 0, #[], #[], 0, 0⟩

def output (w : World) (s : Stream) : String := s.contents w.written.toList

/-- Carries out an attempt to change the disk. -/
def attempt (w : World) (change : Disk → Except FileError Unit × Disk) :
    Except FileError Unit × World :=
  let (result, disk) := change w.disk
  (result, { w with disk, attempts := w.attempts + 1,
                    failures := w.failures + match result with
                      | .ok _ => 0
                      | .error _ => 1 })

end World

/-- What a machine does that is not decided by its state: what comes of running a program
    and what it does to the disk, for the runs before it, the disk, the program and the
    text it is sent; the fate of every attempt to change what is at a path; and what
    happens before every operation of the session.  If all attempts fail from some number
    on, that is a session which was killed at that point, as far as the disk is
    concerned. -/
structure Machine where
  run : Array (Program × String) → Disk → Program → String → Launch × Disk
  fate : Nat → String → Fate
  /-- What others do to the disk before an operation, for its number. -/
  meanwhile : Nat → Disk → Disk := fun _ disk => disk
  /-- What the clock goes to before an operation, for its number. -/
  tick : Nat → Nat → Nat := fun _ clock => clock

namespace Machine

/-- What happens before an operation. -/
def turn (m : Machine) (w : World) : World :=
  { w with disk := m.meanwhile w.moment w.disk, clock := m.tick w.moment w.clock,
           moment := w.moment + 1 }

def host (m : Machine) : Host (StateM World) where
  readFile path := fun w =>
    let w := m.turn w
    (w.disk.read path, w)
  pathExists path := fun w =>
    let w := m.turn w
    (w.disk.pathExists path, w)
  writeFile path bytes := fun w =>
    let w := m.turn w
    w.attempt fun d => (m.fate w.attempts path).write d path bytes
  rename source target := fun w =>
    let w := m.turn w
    w.attempt fun d => (m.fate w.attempts target).rename d source target
  launch program text := fun w =>
    let w := m.turn w
    let (launch, disk) := m.run w.launches w.disk program text
    (launch, { w with disk, launches := w.launches.push (program, text) })
  now := fun w =>
    let w := m.turn w
    (w.clock, w)
  sleep ms := fun w =>
    let w := m.turn w
    ((), { w with clock := w.clock + ms })
  write stream text := fun w =>
    let w := m.turn w
    ((), { w with written := w.written.push ⟨stream, text⟩ })

end Machine

end GrammarLint.Sandbox
