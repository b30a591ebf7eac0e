/-
  GrammarLint/Proofs/Json/Record.lean
  ===================================
  **Records** — a record is read from the objects and the arrays that have its fields, and
  from nothing else.

  Of an object only the occurrences of each key matter: a field occurs once, or not at all
  if it may be left out, and what stands under other keys is some value.  The loop over the
  members fills slots, so the induction needs what an object says when some slots are
  filled already (`Fills`); a member then either fills an empty slot or changes nothing.
-/
import GrammarLint.Json.Record
import GrammarLint.Proofs.Json.Skip

namespace GrammarLint.Json

/-! ### What objects and arrays say -/

/-- The values under a key, in order. -/
def occurrences (members : List (String × List Char)) (key : String) : List (List Char) :=
  (members.filter fun m => m.1 == key).map Prod.snd

theorem occurrences_cons_self (key : String) (v : List Char)
    (members : List (String × List Char)) :
    occurrences ((key, v) :: members) key = v :: occurrences members key := by
  simp [occurrences]

theorem occurrences_cons_of_ne {key key' : String} (h : key ≠ key') (v : List Char)
    (members : List (String × List Char)) :
    occurrences ((key, v) :: members) key' = occurrences members key' := by
  simp [occurrences, h]

/-- What a field holds: the value of its only occurrence, or what it is taken as without
    one. -/
inductive Holds {α : Type} (F : List Char → α → Prop) (absent : Option α) :
    List (List Char) → α → Prop
  | once {v : List Char} {x : α} (h : F v x) : Holds F absent [v] x
  | never {x : α} (h : absent = some x) : Holds F absent [] x

/-- A field that may not be left out occurs once. -/
theorem holds_none_iff {α : Type} {F : List Char → α → Prop} {occurrences : List (List Char)}
    {x : α} : Holds F none occurrences x ↔ ∃ v, occurrences = [v] ∧ F v x := by
  constructor
  · intro h
    cases h with
    | once h => exact ⟨_, rfl, h⟩
    | never h => cases h
  · rintro ⟨v, rfl, h⟩
    exact .once h

namespace Record

variable {ι : Type} {τ : ι → Type}

/-- Members with other keys are values of any kind, and there are none in a closed record. -/
def Others (r : Record ι τ) (members : List (String × List Char)) : Prop :=
  ∀ m ∈ members, (∀ i, r.key i ≠ m.1) → r.closed = false ∧ ValueText m.2

theorem not_mem_keys {r : Record ι τ} {key : String} : key ∉ r.keys ↔ ∀ i, r.key i ≠ key := by
  simp [keys, r.complete]

theorem others_iff {r : Record ι τ} (hclosed : r.closed = false)
    {members : List (String × List Char)} :
    r.Others members ↔ ∀ m ∈ members, m.1 ∉ r.keys → ValueText m.2 := by
  simp only [Others, hclosed, true_and, not_mem_keys]

/-- A closed record has members with its own keys only. -/
theorem others_closed_iff {r : Record ι τ} (hclosed : r.closed = true)
    {members : List (String × List Char)} :
    r.Others members ↔ ∀ m ∈ members, m.1 ∈ r.keys := by
  simp only [Others, hclosed, Bool.true_eq_false, false_and, ← not_mem_keys, imp_false, not_not]

/-- The members of an object that has the fields of `x`. -/
def Members (r : Record ι τ) (F : (i : ι) → List Char → τ i → Prop)
    (members : List (String × List Char)) (x : (i : ι) → τ i) : Prop :=
  (∀ i, Holds (F i) (r.absentMember i) (occurrences members (r.key i)) (x i)) ∧ r.Others members

/-- The elements of an array that has the fields `is` of `x`. -/
def Elements (r : Record ι τ) (F : (i : ι) → List Char → τ i → Prop) :
    List ι → List (List Char) → ((i : ι) → τ i) → Prop
  | [], [], _ => True
  | [], _ :: _, _ => False
  | i :: is, v :: vs, x => F i v (x i) ∧ r.Elements F is vs x
  | i :: is, [], x => r.absentElement i = some (x i) ∧ r.Elements F is [] x

/-- **The format of a record.** -/
def Text (r : Record ι τ) (F : (i : ι) → List Char → τ i → Prop) (w : List Char)
    (x : (i : ι) → τ i) : Prop :=
  (∃ members, ObjectText w members ∧ r.Members F members x) ∨
    ∃ elements, ListText w elements ∧ r.Elements F r.fields elements x

/-! ### Slots -/

theorem finish_eq_ok {r : Record ι τ} {slots : Slots τ} {x : (i : ι) → τ i} :
    r.finish slots = .ok x ↔ ∀ i, r.member? slots i = some (x i) := by
  unfold finish
  split
  · next i hi =>
    have hnone := List.find?_some hi
    constructor
    · intro h
      cases h
    · intro h
      rw [h i] at hnone
      cases hnone
  · constructor
    · intro h i
      cases h
      exact (Option.some_get _).symm
    · intro h
      congr 1
      funext i
      simp [h i]

theorem field?_eq_none {r : Record ι τ} {key : String} :
    r.field? key = none ↔ ∀ i, r.key i ≠ key := by
  rw [field?, List.find?_eq_none]
  constructor
  · intro h i hi
    exact h i (r.complete i) (by simp [hi])
  · intro h i _ hi
    exact h i (by simpa using hi)

theorem field?_eq_some {r : Record ι τ} (hkey : Function.Injective r.key) {key : String} {i : ι} :
    r.field? key = some i ↔ r.key i = key := by
  constructor
  · intro h
    simpa using List.find?_some h
  · intro h
    cases hj : r.field? key with
    | none => exact absurd h (field?_eq_none.mp hj i)
    | some j =>
      have hkeys : r.key j = key := by simpa using List.find?_some hj
      rw [hkey (hkeys.trans h.symm)]

/-! ### Objects -/

/-- What a slot holds in the end: it is filled already and its key does not occur any more,
    or it is still empty. -/
def Slot {α : Type} (F : List Char → α → Prop) (absent : Option α) (occurrences : List (List Char))
    (x : α) : Option α → Prop
  | some v => occurrences = [] ∧ v = x
  | none => Holds F absent occurrences x

/-- The members that are left, when the slots hold the fields that occurred before them. -/
def Fills (r : Record ι τ) (F : (i : ι) → List Char → τ i → Prop) (slots : Slots τ)
    (members : List (String × List Char)) (x : (i : ι) → τ i) : Prop :=
  (∀ i, Slot (F i) (r.absentMember i) (occurrences members (r.key i)) (x i) (slots i)) ∧
    r.Others members

variable {r : Record ι τ} {F : (i : ι) → List Char → τ i → Prop}

theorem others_cons {m : String × List Char} {members : List (String × List Char)} :
    r.Others (m :: members) ↔
      ((∀ i, r.key i ≠ m.1) → r.closed = false ∧ ValueText m.2) ∧ r.Others members :=
  List.forall_mem_cons

theorem fills_nil {slots : Slots τ} {x : (i : ι) → τ i} :
    r.Fills F slots [] x ↔ r.finish slots = .ok x := by
  have hothers : r.Others [] := by simp [Others]
  simp only [Fills, hothers, and_true, finish_eq_ok, member?]
  refine forall_congr' fun i => ?_
  cases slots i with
  | some v => simp [Slot, occurrences]
  | none =>
    constructor
    · intro h
      cases h with
      | never h => exact h
    · exact .never

/-- A member with another key changes nothing. -/
theorem fills_other {slots : Slots τ} {key : String} (hkey : ∀ i, r.key i ≠ key) {v : List Char}
    {members : List (String × List Char)} {x : (i : ι) → τ i} :
    r.Fills F slots ((key, v) :: members) x ↔
      (r.closed = false ∧ ValueText v) ∧ r.Fills F slots members x := by
  have hrest : ∀ i, occurrences ((key, v) :: members) (r.key i) = occurrences members (r.key i) :=
    fun i => occurrences_cons_of_ne (fun h => hkey i h.symm) v members
  simp only [Fills, hrest, others_cons, hkey, ne_eq, not_false_eq_true, implies_true, true_implies]
  exact and_left_comm

variable [DecidableEq ι]

theorem set_self (slots : Slots τ) (i : ι) (v : τ i) : slots.set i v i = some v := by
  simp [Slots.set]

theorem set_of_ne (slots : Slots τ) {i j : ι} (v : τ i) (h : i ≠ j) :
    slots.set i v j = slots j := by
  simp [Slots.set, h]

/-- A member with the key of a field fills its slot, which is empty. -/
theorem fills_field (hkey : Function.Injective r.key) {slots : Slots τ} {i : ι} {v : List Char}
    {members : List (String × List Char)} {x : (i : ι) → τ i} :
    r.Fills F slots ((r.key i, v) :: members) x ↔
      slots i = none ∧ ∃ y, F i v y ∧ r.Fills F (slots.set i y) members x := by
  have hothers : r.Others ((r.key i, v) :: members) ↔ r.Others members := by
    rw [others_cons]
    exact ⟨And.right, fun h => ⟨fun hne => absurd rfl (hne i), h⟩⟩
  have hrest : ∀ j, i ≠ j → occurrences ((r.key i, v) :: members) (r.key j) =
      occurrences members (r.key j) :=
    fun j hj => occurrences_cons_of_ne (fun h => hj (hkey h)) v members
  constructor
  · rintro ⟨hslots, hmembers⟩
    have hi := hslots i
    rw [occurrences_cons_self] at hi
    cases hempty : slots i with
    | some y =>
      rw [hempty] at hi
      cases hi.1
    | none =>
      rw [hempty] at hi
      generalize hocc : occurrences members (r.key i) = occ at hi
      cases hi with
      | once hv =>
        refine ⟨rfl, x i, hv, fun j => ?_, hothers.mp hmembers⟩
        by_cases hj : i = j
        · subst hj
          rw [set_self]
          exact ⟨hocc, rfl⟩
        · rw [set_of_ne _ _ hj, ← hrest j hj]
          exact hslots j
  · rintro ⟨hempty, y, hv, hslots, hmembers⟩
    refine ⟨fun j => ?_, hothers.mpr hmembers⟩
    have hj := hslots j
    by_cases hij : i = j
    · subst hij
      rw [set_self] at hj
      obtain ⟨hocc, rfl⟩ := hj
      rw [occurrences_cons_self, hocc, hempty]
      exact .once hv
    · rw [set_of_ne _ _ hij] at hj
      rwa [hrest j hij]

/-- **Soundness for objects.** -/
theorem eq_of_members (hkey : Function.Injective r.key) (hread : ∀ i, Reads (r.read i) (F i))
    {clock : List Char} {first : Bool} {slots : Slots τ} {s rest : List Char} {x : (i : ι) → τ i}
    (h : r.members clock first slots s = .ok (x, rest)) :
    ∃ row members, s = row ++ '}' :: rest ∧ Row MemberText first row members ∧
      r.Fills F slots members x := by
  induction clock generalizing first slots s with
  | nil => cases h
  | cons _ clock ih =>
    unfold Record.members at h
    split at h
    · cases h
    · next t hclose =>
      obtain ⟨b, rfl, hb⟩ := eq_of_nextMember_close hclose
      split at h
      · next hfinish =>
        cases h
        exact ⟨b, [], rfl, .nil hb, fills_nil.mpr hfinish⟩
      · cases h
    · next key t hmore =>
      obtain ⟨p, k, rfl, hp, hk⟩ := eq_of_nextMember_more hmore
      split at h
      · next i hfield =>
        obtain rfl := (field?_eq_some hkey).mp hfield
        split at h
        · cases h
        · next hempty =>
          split at h
          · cases h
          · next t' hcolon =>
            obtain ⟨a, rfl, ha⟩ := eq_of_colon hcolon
            split at h
            · cases h
            · next y t'' hvalue =>
              obtain ⟨b, v, rfl, hb, hv⟩ := (hread i).sound hvalue
              obtain ⟨row, members, rfl, hrow, hfills⟩ := ih h
              refine ⟨p ++ (k ++ (a ++ ':' :: (b ++ v)) ++ row), (r.key i, v) :: members, by simp,
                .cons hp (.mk hk ha hb) hrow, (fills_field hkey).mpr ⟨?_, y, hv, hfills⟩⟩
              simpa using hempty
      · next hfield =>
        split at h
        · cases h
        · next hclosed =>
          split at h
          · cases h
          · next t' hcolon =>
            obtain ⟨a, rfl, ha⟩ := eq_of_colon hcolon
            split at h
            · cases h
            · next t'' hskip =>
              obtain ⟨b, v, rfl, hb, hv⟩ := eq_of_skipValue hskip
              obtain ⟨row, members, rfl, hrow, hfills⟩ := ih h
              refine ⟨p ++ (k ++ (a ++ ':' :: (b ++ v)) ++ row), (key, v) :: members, by simp,
                .cons hp (.mk hk ha hb) hrow,
                (fills_other (field?_eq_none.mp hfield)).mpr ⟨⟨?_, hv⟩, hfills⟩⟩
              simpa using hclosed

/-- **Completeness for objects.** -/
theorem members_row (hkey : Function.Injective r.key) (hread : ∀ i, Reads (r.read i) (F i))
    {first : Bool} {row : List Char} {members : List (String × List Char)}
    (hrow : Row MemberText first row members) {slots : Slots τ} {x : (i : ι) → τ i}
    (hfills : r.Fills F slots members x) (clock rest : List Char)
    (hclock : row.length < clock.length) :
    r.members clock first slots (row ++ '}' :: rest) = .ok (x, rest) := by
  induction hrow generalizing slots clock with
  | @nil first b hb =>
    cases clock with
    | nil => cases hclock
    | cons _ clock => simp only [Record.members, nextMember_close _ hb, fills_nil.mp hfills]
  | @cons first p w s m members hp hm more ih =>
    cases clock with
    | nil => cases hclock
    | cons _ clock =>
      obtain ⟨hk, ha, hb⟩ := hm
      rename_i k a b v key
      have hrest : Ends (s ++ '}' :: rest) := more.ends (ends_cons (by simp) rest)
      have hlength : s.length < clock.length := by
        simp only [List.length_append, List.length_cons] at hclock
        omega
      have htext : p ++ (k ++ (a ++ ':' :: (b ++ v)) ++ s) ++ '}' :: rest =
          p ++ (k ++ (a ++ ':' :: (b ++ (v ++ (s ++ '}' :: rest))))) := by
        simp
      rw [htext, Record.members, nextMember_more hp hk]
      simp only [colon_append ha]
      cases hfield : r.field? key with
      | some i =>
        obtain rfl := (field?_eq_some hkey).mp hfield
        obtain ⟨hempty, y, hy, hfills⟩ := (fills_field hkey).mp hfills
        simp only [hempty, Option.isSome_none, Bool.false_eq_true, if_false,
          (hread i).complete hb hy hrest]
        exact ih hfills clock hlength
      | none =>
        obtain ⟨⟨hclosed, hv⟩, hfills⟩ := (fills_other (field?_eq_none.mp hfield)).mp hfills
        simp only [hclosed, Bool.false_eq_true, if_false, skipValue_append hb hv hrest]
        exact ih hfills clock hlength

/-! ### Arrays -/

theorem eq_of_endArray {s rest : List Char} (h : endArray s = .ok rest) :
    ∃ b, s = b ++ ']' :: rest ∧ Blanks b := by
  unfold endArray at h
  split at h
  · cases h
  · next c t hs =>
    obtain ⟨b, hb, rfl⟩ := eq_of_skipBlanks hs
    split at h
    · next hc =>
      subst hc
      cases h
      exact ⟨b, rfl, hb⟩
    · split at h
      · split at h <;> cases h
      · cases h

theorem endArray_append {b : List Char} (hb : Blanks b) (rest : List Char) :
    endArray (b ++ ']' :: rest) = .ok rest := by
  simp only [endArray, skipBlanks_append_cons hb (c := ']') rfl, if_true]

/-- The slots before and after the fields `is` are taken from the elements. -/
def Assigned (r : Record ι τ) (F : (i : ι) → List Char → τ i → Prop) :
    List ι → List (List Char) → Slots τ → Slots τ → Prop
  | [], [], slots, slots' => slots = slots'
  | [], _ :: _, _, _ => False
  | i :: is, v :: vs, slots, slots' => ∃ y, F i v y ∧ r.Assigned F is vs (slots.set i y) slots'
  | i :: is, [], slots, slots' =>
    ∃ y, r.absentElement i = some y ∧ r.Assigned F is [] (slots.set i y) slots'

theorem absent_eq_ok {s : List Char} {length : Nat} {is : List ι} {slots slots' : Slots τ} :
    r.absent s length is slots = .ok slots' ↔ r.Assigned F is [] slots slots' := by
  induction is generalizing length slots with
  | nil => simp [absent, Assigned]
  | cons i is ih =>
    unfold absent Assigned
    cases r.absentElement i with
    | none => simp
    | some y => simp [ih]

theorem eq_of_elements (hread : ∀ i, Reads (r.read i) (F i)) {length : Nat} {is : List ι}
    {slots slots' : Slots τ} {s rest : List Char}
    (h : r.elements length is slots s = .ok (slots', rest)) :
    ∃ row vs, s = row ++ ']' :: rest ∧ Row Eq (length == 0) row vs ∧
      r.Assigned F is vs slots slots' := by
  induction is generalizing length slots s with
  | nil =>
    unfold Record.elements at h
    obtain ⟨t, hend, heq⟩ := ok_of_map h
    cases heq
    obtain ⟨b, rfl, hb⟩ := eq_of_endArray hend
    exact ⟨b, [], rfl, .nil hb, rfl⟩
  | cons i is ih =>
    unfold Record.elements at h
    split at h
    · cases h
    · next t hclose =>
      obtain ⟨b, rfl, hb⟩ := eq_of_nextElement_close hclose
      obtain ⟨filled, habsent, heq⟩ := ok_of_map h
      cases heq
      exact ⟨b, [], rfl, .nil hb, absent_eq_ok.mp habsent⟩
    · next t hmore =>
      obtain ⟨p, rfl, hp⟩ := eq_of_nextElement_more hmore
      split at h
      · cases h
      · next y t' hvalue =>
        obtain ⟨a, v, rfl, ha, hv⟩ := (hread i).sound hvalue
        obtain ⟨row, vs, rfl, hrow, hassigned⟩ := ih h
        exact ⟨p ++ a ++ (v ++ row), v :: vs, by simp, .cons (hp.append ha) rfl hrow, y, hv,
          hassigned⟩

theorem elements_row (hread : ∀ i, Reads (r.read i) (F i)) {is : List ι} {vs : List (List Char)}
    {slots slots' : Slots τ} (hassigned : r.Assigned F is vs slots slots') (length : Nat)
    {row : List Char} (hrow : Row Eq (length == 0) row vs) (rest : List Char) :
    r.elements length is slots (row ++ ']' :: rest) = .ok (slots', rest) := by
  induction is generalizing length slots row vs with
  | nil =>
    cases hrow with
    | nil hb =>
      obtain rfl : slots = slots' := hassigned
      rw [Record.elements, endArray_append hb]
      rfl
    | cons => exact absurd hassigned id
  | cons i is ih =>
    cases hrow with
    | nil hb =>
      simp only [Record.elements, nextElement_close _ hb, absent_eq_ok.mpr hassigned]
      rfl
    | @cons _ p w s v vs hp hw more =>
      subst hw
      obtain ⟨y, hy, hassigned⟩ := hassigned
      have hrest : Ends (s ++ ']' :: rest) := more.ends (ends_cons (by simp) rest)
      have hvalue : r.read i (w ++ (s ++ ']' :: rest)) = .ok (y, s ++ ']' :: rest) :=
        (hread i).complete blanks_nil hy hrest
      rw [List.append_assoc, List.append_assoc]
      simp only [Record.elements, nextElement_more hp ((hread i).begins hy), hvalue]
      exact ih hassigned (length + 1) more

theorem isSome_of_assigned {is : List ι} {vs : List (List Char)} {slots slots' : Slots τ}
    (h : r.Assigned F is vs slots slots') {i : ι} (hi : i ∈ is ∨ (slots i).isSome = true) :
    (slots' i).isSome = true := by
  induction is generalizing slots vs with
  | nil =>
    cases vs with
    | nil =>
      obtain rfl : slots = slots' := h
      simpa using hi
    | cons v vs => exact absurd h id
  | cons j js ih =>
    -- Whether from an element or not, the slot of the first field is filled.
    obtain ⟨y, vs', h⟩ : ∃ y vs', r.Assigned F js vs' (slots.set j y) slots' := by
      cases vs with
      | nil =>
        obtain ⟨y, -, h⟩ := h
        exact ⟨y, [], h⟩
      | cons v vs =>
        obtain ⟨y, -, h⟩ := h
        exact ⟨y, vs, h⟩
    refine ih h ?_
    by_cases hj : j = i
    · subst hj
      rw [set_self]
      exact Or.inr rfl
    · rw [set_of_ne _ _ hj]
      rcases hi with hi | hi
      · exact Or.inl ((List.mem_cons.mp hi).resolve_left (Ne.symm hj))
      · exact Or.inr hi

theorem set_agrees {slots : Slots τ} {x : (i : ι) → τ i} {i : ι} {is : List ι} (hi : i ∉ is)
    (y : τ i) : (∀ j, j ∉ is → slots.set i y j = some (x j)) ↔
      y = x i ∧ ∀ j, j ∉ i :: is → slots j = some (x j) := by
  constructor
  · intro h
    refine ⟨?_, fun j hj => ?_⟩
    · have hself := h i hi
      rw [set_self] at hself
      exact Option.some.inj hself
    · rw [List.mem_cons, not_or] at hj
      rw [← set_of_ne slots y (Ne.symm hj.1)]
      exact h j hj.2
  · rintro ⟨rfl, h⟩ j hj
    by_cases hij : i = j
    · subst hij
      exact set_self slots i (x i)
    · rw [set_of_ne _ _ hij]
      exact h j (by simp [hj, Ne.symm hij])

/-- The slots are filled as the elements give the fields of `x`. -/
theorem assigned_iff {is : List ι} (hnodup : is.Nodup) {vs : List (List Char)} {slots : Slots τ}
    {x : (i : ι) → τ i} :
    r.Assigned F is vs slots (fun i => some (x i)) ↔
      r.Elements F is vs x ∧ ∀ i, i ∉ is → slots i = some (x i) := by
  induction is generalizing slots vs with
  | nil =>
    cases vs with
    | nil => simp [Assigned, Elements, funext_iff]
    | cons v vs => simp [Assigned, Elements]
  | cons i is ih =>
    obtain ⟨hi, hnodup⟩ := List.nodup_cons.mp hnodup
    cases vs with
    | nil =>
      simp only [Assigned, Elements, ih hnodup, set_agrees hi]
      constructor
      · rintro ⟨y, hy, helements, rfl, hslots⟩
        exact ⟨⟨hy, helements⟩, hslots⟩
      · rintro ⟨⟨hy, helements⟩, hslots⟩
        exact ⟨x i, hy, helements, rfl, hslots⟩
    | cons v vs =>
      simp only [Assigned, Elements, ih hnodup, set_agrees hi]
      constructor
      · rintro ⟨y, hy, helements, rfl, hslots⟩
        exact ⟨⟨hy, helements⟩, hslots⟩
      · rintro ⟨⟨hy, helements⟩, hslots⟩
        exact ⟨x i, hy, helements, rfl, hslots⟩

/-- The slots that the elements of a whole array fill. -/
theorem elements_iff (hnodup : r.fields.Nodup) {vs : List (List Char)} {slots : Slots τ}
    {x : (i : ι) → τ i} :
    r.Assigned F r.fields vs (fun _ => none) slots ∧ r.finish slots = .ok x ↔
      r.Elements F r.fields vs x ∧ slots = fun i => some (x i) := by
  have hx : r.Elements F r.fields vs x ↔
      r.Assigned F r.fields vs (fun _ => none) fun i => some (x i) := by
    rw [assigned_iff hnodup]
    exact (and_iff_left fun i hi => absurd (r.complete i) hi).symm
  rw [hx]
  constructor
  · rintro ⟨hassigned, hfinish⟩
    have hslots : slots = fun i => some (x i) := by
      funext i
      have hi := finish_eq_ok.mp hfinish i
      obtain ⟨y, hy⟩ := Option.isSome_iff_exists.mp
        (isSome_of_assigned hassigned (Or.inl (r.complete i)))
      simpa only [member?, hy] using hi
    exact ⟨hslots ▸ hassigned, hslots⟩
  · rintro ⟨hassigned, rfl⟩
    exact ⟨hassigned, finish_eq_ok.mpr fun i => rfl⟩

/-! ### Records -/

/-- **Records.**  A record with different keys for its fields is read from its format. -/
theorem reads (hkey : Function.Injective r.key) (hnodup : r.fields.Nodup)
    (hread : ∀ i, Reads (r.read i) (F i)) : Reads r.reader (r.Text F) where
  begins := by
    rintro w x (⟨members, hw, -⟩ | ⟨elements, hw, -⟩)
    · exact hw.begins (by decide)
    · exact hw.begins (by decide)
  sound := by
    intro s x rest h
    unfold Record.reader at h
    split at h
    · cases h
    · next t hs =>
      obtain ⟨a, ha, rfl⟩ := eq_of_skipBlanks hs
      obtain ⟨row, members, rfl, hrow, hfills⟩ := eq_of_members hkey hread h
      exact ⟨a, '{' :: (row ++ ['}']), by simp, ha, Or.inl ⟨members, ⟨row, rfl, hrow⟩, hfills⟩⟩
    · next t hs =>
      obtain ⟨a, ha, rfl⟩ := eq_of_skipBlanks hs
      split at h
      · cases h
      · next slots t' helements =>
        obtain ⟨row, vs, rfl, hrow, hassigned⟩ := eq_of_elements hread helements
        split at h
        · next values hfinish =>
          cases h
          exact ⟨a, '[' :: (row ++ [']']), by simp, ha,
            Or.inr ⟨vs, ⟨row, rfl, hrow⟩, ((elements_iff hnodup).mp ⟨hassigned, hfinish⟩).1⟩⟩
        · cases h
    · cases h
  complete := by
    rintro a w x rest ha (⟨members, ⟨row, rfl, hrow⟩, hmembers⟩ |
      ⟨vs, ⟨row, rfl, hrow⟩, helements⟩) -
    · have hfills : r.Fills F (fun _ => none) members x := hmembers
      simp only [Record.reader, List.cons_append, List.append_assoc,
        skipBlanks_append_cons ha (c := '{') rfl]
      exact members_row hkey hread hrow hfills _ rest (by simp)
    · obtain ⟨hassigned, hfinish⟩ := (elements_iff hnodup).mpr ⟨helements, rfl⟩
      simp only [Record.reader, List.cons_append, List.append_assoc, List.nil_append,
        skipBlanks_append_cons ha (c := '[') rfl, elements_row hread hassigned 0 hrow, hfinish]

end Record

end GrammarLint.Json
