/-
  GrammarLint/Store/Entries.lean
  ==============================
  **Maps from strings to strings** — lists of entries in strictly increasing order of
  their keys.

  The order belongs to the type, so a map has one representation only: two maps are
  equal exactly if every key has the same value in both.
-/

namespace GrammarLint

/-- Whether the keys increase strictly. -/
def Ascending (entries : List (String × String)) : Prop :=
  entries.Pairwise fun a b => a.1 < b.1

/-- Puts a value under a key, in place of the one it had. -/
def insertEntry (key value : String) : List (String × String) → List (String × String)
  | [] => [(key, value)]
  | (k, v) :: rest =>
    if key < k then (key, value) :: (k, v) :: rest
    else if key = k then (key, value) :: rest
    else (k, v) :: insertEntry key value rest

theorem mem_insertEntry {key value : String} {entries : List (String × String)}
    {e : String × String} (h : e ∈ insertEntry key value entries) :
    e = (key, value) ∨ e ∈ entries := by
  induction entries with
  | nil => simpa [insertEntry] using h
  | cons head rest ih =>
    obtain ⟨k, v⟩ := head
    simp only [insertEntry] at h
    split at h
    · rcases List.mem_cons.mp h with h | h
      · exact Or.inl h
      · exact Or.inr h
    · split at h
      · rcases List.mem_cons.mp h with h | h
        · exact Or.inl h
        · exact Or.inr (List.mem_cons_of_mem _ h)
      · rcases List.mem_cons.mp h with h | h
        · exact Or.inr (h ▸ List.mem_cons_self)
        · rcases ih h with h | h
          · exact Or.inl h
          · exact Or.inr (List.mem_cons_of_mem _ h)

/-- Inserting keeps the keys in order. -/
theorem ascending_insertEntry {entries : List (String × String)} (h : Ascending entries)
    (key value : String) : Ascending (insertEntry key value entries) := by
  induction entries with
  | nil => exact List.pairwise_singleton _ _
  | cons head rest ih =>
    obtain ⟨k, v⟩ := head
    have hrest := List.pairwise_cons.mp h
    simp only [insertEntry]
    split
    · next hlt =>
      refine List.pairwise_cons.mpr ⟨fun e he => ?_, h⟩
      rcases List.mem_cons.mp he with rfl | he
      · exact hlt
      · exact String.lt_trans hlt (hrest.1 e he)
    · next hnlt =>
      split
      · next heq =>
        subst heq
        exact List.pairwise_cons.mpr ⟨hrest.1, hrest.2⟩
      · next hne =>
        refine List.pairwise_cons.mpr ⟨fun e he => ?_, ih hrest.2⟩
        rcases mem_insertEntry he with rfl | he
        · exact Decidable.byContradiction fun hge =>
            hne (String.le_antisymm (String.not_lt.mp hge) (String.not_lt.mp hnlt))
        · exact hrest.1 e he

/-- A map from strings to strings. -/
structure Entries where
  toList : List (String × String)
  ascending : Ascending toList

namespace Entries

instance : DecidableEq Entries := fun a b =>
  decidable_of_iff (a.toList = b.toList) <| by
    cases a; cases b; simp

def empty : Entries := ⟨[], List.Pairwise.nil⟩

def get? (m : Entries) (key : String) : Option String := m.toList.lookup key

def insert (m : Entries) (key value : String) : Entries :=
  ⟨insertEntry key value m.toList, ascending_insertEntry m.ascending key value⟩

/-- The map of a list of entries, later ones counting before earlier ones. -/
def ofList (entries : List (String × String)) : Entries :=
  entries.foldl (fun m e => m.insert e.1 e.2) empty

def size (m : Entries) : Nat := m.toList.length

def isEmpty (m : Entries) : Bool := m.toList.isEmpty

end Entries

end GrammarLint
