/-
  GrammarLint/Session/Vault.lean
  ==============================
  **Where a session keeps its texts** — in memory, and in a state file if there is one.

  The state file is a JSON object of strings, one member a line in the order of the
  keys.  It is replaced as a whole: the new contents go to a file beside it, which then
  takes its place, so that at no moment half a file is there.  A value that is kept
  already is not written again as long as there is a file.
-/
import GrammarLint.Json.Reader
import GrammarLint.Json.Writer
import GrammarLint.Session.Host
import GrammarLint.Store.Entries
import GrammarLint.Store.Error

namespace GrammarLint

/-- Texts that are kept, and the path of the file they are kept in. -/
structure Vault where
  path : Option String
  entries : Entries
deriving DecidableEq

namespace Vault

def inMemory (entries : Entries) : Vault := ⟨none, entries⟩

def render (entries : Entries) : String := String.ofList (Json.prettyMap entries.toList)

def parse (text : String) : Except Json.Defect Entries :=
  (Json.parse Json.stringMap text).map Entries.ofList

/-- Why a state file could not be opened. -/
inductive OpenError where
  | unreadable (error : FileError)
  | malformed (defect : Json.Defect)
deriving DecidableEq, Repr

variable {m : Type → Type} [Monad m]

/-- Opens a state file; one that is not there yet counts as empty. -/
def openFile (host : Host m) (path : String) : m (Except OpenError Vault) := do
  if ← host.pathExists path then
    match ← host.readText path with
    | .error e => return .error (.unreadable e)
    | .ok text =>
      match parse text with
      | .error defect => return .error (.malformed defect)
      | .ok entries => return .ok ⟨some path, entries⟩
  else return .ok ⟨some path, .empty⟩

/-- The file that takes the place of a state file. -/
def temporary (path : String) : String := path ++ ".tmp"

def replaceFile (host : Host m) (path text : String) : m (Except FileError Unit) := do
  match ← host.writeText (temporary path) text with
  | .error e => return .error e
  | .ok _ => host.rename (temporary path) path

def get? (v : Vault) (key : String) : Option String := v.entries.get? key

/-- Keeps a value under a key.  It is kept in memory also if it cannot be written. -/
def set (host : Host m) (v : Vault) (key value : String) :
    m (Except StoreError Unit × Vault) := do
  match v.path with
  | none => return (.ok (), { v with entries := v.entries.insert key value })
  | some path =>
    let kept ← if v.get? key = some value then host.pathExists path else pure false
    if kept then return (.ok (), v)
    let v := { v with entries := v.entries.insert key value }
    match ← replaceFile host path (render v.entries) with
    | .ok _ => return (.ok (), v)
    | .error e => return (.error (.write key e.message), v)

end Vault

end GrammarLint
