/-
  GrammarLint/Json/Record.lean
  ============================
  **Readers of records** — values with named fields, written as an object or as an
  array with the fields in order.

  The fields of a record are named by a type `ι`, and field `i` holds a `τ i`.  In an
  object the fields come in any order, each at most once; other members are skipped,
  or refused if the record is closed.  In an array the fields come in their declared
  order.  What a missing field is taken as may differ between the two forms.
-/
import GrammarLint.Json.Reader

namespace GrammarLint.Json

open Text

abbrev Slots {ι : Type} (τ : ι → Type) := (i : ι) → Option (τ i)

def Slots.set {ι : Type} [DecidableEq ι] {τ : ι → Type} (slots : Slots τ) (i : ι) (v : τ i) :
    Slots τ :=
  fun j => if h : i = j then some (h ▸ v) else slots j

/-- How a record is written. -/
structure Record (ι : Type) (τ : ι → Type) where
  /-- What the record is called in messages. -/
  title : String
  /-- The fields in their declared order. -/
  fields : List ι
  /-- Every field is declared. -/
  complete : ∀ i, i ∈ fields
  key : ι → String
  read : (i : ι) → Reader (τ i)
  /-- What a field without a member is taken as. -/
  absentMember : (i : ι) → Option (τ i)
  /-- What a field beyond the end of an array is taken as. -/
  absentElement : (i : ι) → Option (τ i)
  /-- Whether members with other keys are refused. -/
  closed : Bool

namespace Record

variable {ι : Type} [DecidableEq ι] {τ : ι → Type}

def keys (r : Record ι τ) : List String := r.fields.map r.key

def field? (r : Record ι τ) (key : String) : Option ι := r.fields.find? fun i => r.key i == key

/-- What a field holds at the end of an object. -/
def member? (r : Record ι τ) (slots : Slots τ) (i : ι) : Option (τ i) :=
  match slots i with
  | some v => some v
  | none => r.absentMember i

/-- The values of all fields, or the first field that has none. -/
def finish (r : Record ι τ) (slots : Slots τ) : Except ι ((i : ι) → τ i) :=
  match h : r.fields.find? fun i => (r.member? slots i).isNone with
  | some i => .error i
  | none => .ok fun i => (r.member? slots i).get (by
      have hi := List.find?_eq_none.mp h i (r.complete i)
      simpa [Option.isSome_iff_ne_none] using hi)

/-- The bytes unread after an offence of the record itself: blanks are skipped, and the
    closing bracket `closer` if it is next. -/
def unreadAfter (closer : Char) (s : List Char) : Nat :=
  match skipBlanks s with
  | [] => 0
  | c :: s => if c = closer then utf8Length s else utf8Length (c :: s)

/-- Reads the members that are left in an object.  The clock is that of a list: as long
    as the text, and one character shorter for every member. -/
def members (r : Record ι τ) : List Char → Bool → Slots τ → Reader ((i : ι) → τ i)
  | [], _, _, _ => .error (.atEnd .eofInObject)
  | _ :: clock, first, slots, s =>
    match nextMember first s with
    | .error e => .error e
    | .ok (.close s) =>
      match r.finish slots with
      | .ok values => .ok (values, s)
      | .error i => .error (.before (.missingField (r.key i)) s)
    | .ok (.more key s) =>
      match r.field? key with
      | some i =>
        if (slots i).isSome then .error ⟨.duplicateField key, unreadAfter '}' s⟩
        else
          match colon s with
          | .error e => .error e
          | .ok s =>
            match r.read i s with
            | .error e => .error e
            | .ok (v, s) => r.members clock false (slots.set i v) s
      | none =>
        if r.closed then .error ⟨.unknownField key r.keys, unreadAfter '}' s⟩
        else
          match colon s with
          | .error e => .error e
          | .ok s =>
            match skipValue s with
            | .error e => .error e
            | .ok s => r.members clock false slots s

/-- Takes the fields `is` as absent from an array of `length` elements; `s` is what is
    left behind the array. -/
def absent (r : Record ι τ) (s : List Char) : Nat → List ι → Slots τ → Except Failure (Slots τ)
  | _, [], slots => .ok slots
  | length, i :: is, slots =>
    match r.absentElement i with
    | some v => r.absent s (length + 1) is (slots.set i v)
    | none => .error (.before (.wrongLength length r.title r.fields.length) s)

/-- Skips the end of an array in which all fields are read. -/
def endArray (s : List Char) : Except Failure (List Char) :=
  match skipBlanks s with
  | [] => .error (.atEnd .eofInList)
  | c :: s =>
    if c = ']' then .ok s
    else if c = ',' then
      match skipBlanks s with
      | ']' :: s => .error (.inside .trailingComma (']' :: s))
      | s => .error (.inside .trailingCharacters s)
    else .error (.inside .trailingCharacters (c :: s))

/-- Reads the elements of an array into the fields, of which `length` are read. -/
def elements (r : Record ι τ) : Nat → List ι → Slots τ → Reader (Slots τ)
  | _, [], slots, s => (endArray s).map fun s => (slots, s)
  | length, i :: is, slots, s =>
    match nextElement (length == 0) s with
    | .error e => .error e
    | .ok (.close s) => (r.absent s length (i :: is) slots).map fun slots => (slots, s)
    | .ok (.more _ s) =>
      match r.read i s with
      | .error e => .error e
      | .ok (v, s) => r.elements (length + 1) is (slots.set i v) s

def reader (r : Record ι τ) : Reader ((i : ι) → τ i) := fun s =>
  match skipBlanks s with
  | [] => .error (.atEnd .eofInValue)
  | '{' :: s => r.members s true (fun _ => none) s
  | '[' :: s =>
    match r.elements 0 r.fields (fun _ => none) s with
    | .error e => .error e
    | .ok (slots, s) =>
      match r.finish slots with
      | .ok values => .ok (values, s)
      | .error i => .error (.before (.missingField (r.key i)) s)
  | s => .error (mismatch r.title s)

end Record

end GrammarLint.Json
