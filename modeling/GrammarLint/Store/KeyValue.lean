/-
  GrammarLint/Store/KeyValue.lean
  ===============================
  **Stores** — what reads the text that is kept under a key, and keeps another one.

  A store in memory is one.  So is a reference to a store, and a reference to that: it
  passes every call on to the store it refers to.
-/
import GrammarLint.Store.Entries
import GrammarLint.Store.Error

namespace GrammarLint

/-- A type of stores; keeping a text answers whether it was kept. -/
class KeyValueStore (σ : Type) where
  get? : σ → String → Option String
  set : σ → String → String → Except StoreError Unit × σ

/-- A store in memory keeps everything. -/
instance : KeyValueStore Entries where
  get? := Entries.get?
  set m key value := (.ok (), m.insert key value)

/-- A reference through which a store can be changed, with the store that it refers to;
    who lent the store has it back when the reference is gone. -/
structure Borrowed (σ : Type) where
  lent : σ

instance {σ : Type} [KeyValueStore σ] : KeyValueStore (Borrowed σ) where
  get? r key := KeyValueStore.get? r.lent key
  set r key value :=
    let (answer, lent) := KeyValueStore.set r.lent key value
    (answer, ⟨lent⟩)

end GrammarLint
