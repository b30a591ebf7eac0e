/-
  GrammarLint/Sandbox/Bench.lean
  ==============================
  **A bench for the pipeline** — services that are a value: an analyzer that always
  answers the same until it is told otherwise, a store in memory that may refuse keys,
  and a list of what was logged.
-/
import GrammarLint.Pipeline.Controller
import GrammarLint.Store.Entries

namespace GrammarLint.Sandbox

/-- Which keys a store does not keep, and why. -/
structure Refusals where
  /-- Keys that the store does not want. -/
  rejected : List (String × String)
  /-- Keys that cannot be written. -/
  broken : List (String × String)
deriving DecidableEq, Repr

def Refusals.error? (r : Refusals) (key : String) : Option StoreError :=
  match r.rejected.lookup key with
  | some reason => some (.rejected key reason)
  | none => (r.broken.lookup key).map (.write key)

/-- The state of a bench. -/
structure Bench where
  answer : Except AnalyzerError String
  refusals : Refusals
  entries : Entries
  /-- The texts that the analyzer was called with. -/
  calls : Array (String × String)
  events : Array Event

namespace Bench

def analyze (b : Bench) (grammar code : String) : Except AnalyzerError String × Bench :=
  (b.answer, { b with calls := b.calls.push (grammar, code) })

def persist (b : Bench) (key text : String) : Except StoreError Unit × Bench :=
  match b.refusals.error? key with
  | some e => (.error e, b)
  | none => (.ok (), { b with entries := b.entries.insert key text })

end Bench

def benchServices : Services (StateM Bench) where
  analyze grammar code := fun b => b.analyze grammar code
  load key := fun b => (b.entries.get? key, b)
  persist key text := fun b => b.persist key text
  log event := fun b => ((), { b with events := b.events.push event })

end GrammarLint.Sandbox
