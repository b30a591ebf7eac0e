/-
  GrammarLint/Sandbox/Disk.lean
  =============================
  **A disk that is a value** — directories and files with their contents, and what the
  operations on them do.

  A path is read from left to right, and everything in front of its last name has to be
  a directory that is there.  It starts at the root if a slash stands first, and in the
  working directory otherwise.  A slash at the end asks for a directory, so no file is
  ever read or made under such a path.
-/
import GrammarLint.Session.Host

namespace GrammarLint.Sandbox

/-- What can be on a disk under a name. -/
inductive Node where
  | file (bytes : ByteArray)
  | directory

/-- The names on the way from the root to a place. -/
abbrev Place := List String

/-- The place of the working directory.  No path leads there by name, as no name in a
    path is empty. -/
def workingDirectory : Place := [""]

/-- The files and directories that there are. -/
structure Disk where
  nodes : List (Place × Node)

namespace Disk

/-- A disk on which the working directory is empty.  Outside of it there is what could be
    named in place of a file on every machine; the devices count as empty files, which is
    what they are for a reader. -/
def empty : Disk :=
  ⟨[(["dev"], .directory), (["dev", "null"], .file .empty), (["dev", "stdin"], .file .empty),
    (["tmp"], .directory)]⟩

/-- What is at a place.  The root and the working directory are always there. -/
def at? (d : Disk) (p : Place) : Option Node :=
  if p.isEmpty ∨ p = workingDirectory then some .directory else d.nodes.lookup p

def erase (d : Disk) (p : Place) : Disk := ⟨d.nodes.filter (·.1 != p)⟩

def put (d : Disk) (p : Place) (n : Node) : Disk := ⟨(p, n) :: (d.erase p).nodes⟩

/-! ### Paths -/

def nameLimit : Nat := 255

def pathLimit : Nat := 4095

/-- The names of a path: what is left and right of its slashes, where that is something. -/
def names (path : String) : List String :=
  let parts := path.toList.foldr (fun c parts =>
    if c = '/' then [] :: parts
    else match parts with
      | [] => [[c]]
      | p :: ps => (c :: p) :: ps) [[]]
  (parts.filter (! ·.isEmpty)).map String.ofList

def start (path : String) : Place :=
  if path.toList.head? = some '/' then [] else workingDirectory

/-- Whether a path asks for a directory, by a slash at its end. -/
def asksDirectory (path : String) : Bool := path.toList.getLast? = some '/'

/-- Goes from a directory along one name. -/
def step (p : Place) (name : String) : Place :=
  if name = "." then p
  else if name = ".." then p.dropLast
  else p ++ [name]

/-- Looks for one name in a directory.  There need not be anything. -/
def find (p : Place) (name : String) : Except FileError Place :=
  if nameLimit < name.utf8ByteSize then .error .nameTooLong else .ok (step p name)

/-- Goes from a directory along names, all of which have to be those of directories. -/
def walk (d : Disk) (p : Place) : List String → Except FileError Place
  | [] => .ok p
  | name :: rest => do
    let q ← find p name
    match d.at? q with
    | none => .error .notFound
    | some (.file _) => .error .notDirectory
    | some .directory => d.walk q rest

/-- The directory that the last name of a path is looked for in. -/
def parent (d : Disk) (path : String) : Except FileError Place :=
  if path = "" then .error .notFound
  else if pathLimit < path.utf8ByteSize then .error .nameTooLong
  else d.walk (start path) (names path).dropLast

/-- The place that a path leads to.  There need not be anything. -/
def place (d : Disk) (path : String) : Except FileError Place := do
  let p ← d.parent path
  match (names path).getLast? with
  | none => return p
  | some name =>
    let q ← find p name
    match d.at? q with
    | some (.file _) => if asksDirectory path then throw .notDirectory else return q
    | _ => return q

/-- The place that a path leads to if a file is to be made there. -/
def newPlace (d : Disk) (path : String) : Except FileError Place := do
  let p ← d.parent path
  match (names path).getLast? with
  | none => throw .isDirectory
  | some name => if asksDirectory path then throw .isDirectory else find p name

/-! ### Operations -/

def pathExists (d : Disk) (path : String) : Bool :=
  match d.place path with
  | .ok p => (d.at? p).isSome
  | .error _ => false

def read (d : Disk) (path : String) : Except FileError ByteArray := do
  match d.at? (← d.place path) with
  | none => throw .notFound
  | some .directory => throw .isDirectory
  | some (.file bytes) => return bytes

/-- Writes a file in place of the one there was. -/
def write (d : Disk) (path : String) (bytes : ByteArray) : Except FileError Disk := do
  let p ← d.newPlace path
  match d.at? p with
  | some .directory => throw .isDirectory
  | _ => return d.put p (.file bytes)

/-- Puts a file in the place of another one.  Directories stay where they are. -/
def rename (d : Disk) (source target : String) : Except FileError Disk := do
  let p ← d.place source
  if asksDirectory target then throw .notDirectory
  let q ← d.place target
  match d.at? p, d.at? q with
  | none, _ => throw .notFound
  | some .directory, _ | _, some .directory => throw .isDirectory
  | some node, _ => return (d.erase p).put q node

def remove (d : Disk) (path : String) : Disk :=
  match d.place path with
  | .error _ => d
  | .ok p =>
    match d.at? p with
    | some (.file _) => d.erase p
    | _ => d

/-- Makes the directories along some names, where they are not there. -/
def makeDirectories (d : Disk) (p : Place) : List String → Disk
  | [] => d
  | name :: rest =>
    let q := step p name
    match d.at? q with
    | some _ => d.makeDirectories q rest
    | none => (d.put q .directory).makeDirectories q rest

/-- Makes the directories in front of the last name of a path. -/
def makeParents (d : Disk) (path : String) : Disk :=
  d.makeDirectories (start path) (names path).dropLast

/-- Makes a directory, and those in front of it. -/
def makeDirectory (d : Disk) (path : String) : Disk :=
  d.makeDirectories (start path) (names path)

end Disk

end GrammarLint.Sandbox
