/-
  GrammarLint/Proofs/Store/Entries.lean
  =====================================
  **Maps from strings to strings** — what is under a key after a value was put somewhere,
  or several one after another, and that a map is determined by its values, and made
  again from its entries.
-/
import GrammarLint.Store.Entries

namespace GrammarLint

/-! ### Lists of entries -/

theorem lookup_insertEntry (key value k : String) (entries : List (String × String)) :
    (insertEntry key value entries).lookup k =
      if k = key then some value else entries.lookup k := by
  induction entries with
  | nil =>
    by_cases hk : k = key
    · simp [insertEntry, hk]
    · simp [insertEntry, hk]
  | cons head rest ih =>
    obtain ⟨k', v'⟩ := head
    simp only [insertEntry]
    split
    · by_cases hk : k = key
      · simp [hk]
      · rw [if_neg hk, List.lookup_cons, beq_eq_false_iff_ne.mpr hk]
    · split
      · next heq =>
        subst heq
        by_cases hk : k = key
        · simp [hk]
        · simp [List.lookup_cons, beq_eq_false_iff_ne.mpr hk, hk]
      · next hne =>
        rw [List.lookup_cons, List.lookup_cons, ih]
        by_cases hk' : k = k'
        · subst hk'
          have hk : k ≠ key := fun h => hne h.symm
          simp [hk]
        · rw [beq_eq_false_iff_ne.mpr hk']

/-- A key behind all others comes to the end. -/
theorem insertEntry_of_forall_lt {key : String} {entries : List (String × String)}
    (h : ∀ e ∈ entries, e.1 < key) (value : String) :
    insertEntry key value entries = entries ++ [(key, value)] := by
  induction entries with
  | nil => rfl
  | cons head rest ih =>
    obtain ⟨k, v⟩ := head
    have hlt : k < key := h (k, v) List.mem_cons_self
    have hnlt : ¬ key < k := fun hgt => String.lt_irrefl k (String.lt_trans hlt hgt)
    have hne : key ≠ k := fun heq => String.lt_irrefl k (heq ▸ hlt)
    rw [insertEntry, if_neg hnlt, if_neg hne, ih fun e he => h e (List.mem_cons_of_mem _ he)]
    rfl

/-- Behind an entry there are larger keys only. -/
theorem lookup_behind {k v : String} {rest : List (String × String)}
    (hasc : Ascending ((k, v) :: rest)) {key : String} (h : ¬ k < key) :
    rest.lookup key = none := by
  rw [List.lookup_eq_none_iff]
  intro e he
  have hlt : k < e.1 := (List.pairwise_cons.mp hasc).1 e he
  exact bne_iff_ne.mpr fun heq => h (heq ▸ hlt)

theorem eq_of_lookup_eq {a b : List (String × String)} (ha : Ascending a) (hb : Ascending b)
    (h : ∀ k, a.lookup k = b.lookup k) : a = b := by
  induction a generalizing b with
  | nil =>
    cases b with
    | nil => rfl
    | cons e rest =>
      have hhead := h e.1
      rw [List.lookup_cons, beq_self_eq_true] at hhead
      cases hhead
  | cons e rest ih =>
    obtain ⟨k, v⟩ := e
    cases b with
    | nil =>
      have hhead := h k
      rw [List.lookup_cons, beq_self_eq_true] at hhead
      cases hhead
    | cons e' rest' =>
      obtain ⟨k', v'⟩ := e'
      have hat := h k
      have hat' := h k'
      simp only [List.lookup_cons, beq_self_eq_true] at hat hat'
      by_cases hk : k = k'
      · subst hk
        rw [beq_self_eq_true] at hat
        obtain rfl : v = v' := Option.some.inj hat
        rw [ih (List.pairwise_cons.mp ha).2 (List.pairwise_cons.mp hb).2]
        intro key
        have hkey := h key
        by_cases heq : key = k
        · subst heq
          rw [lookup_behind ha (String.lt_irrefl key), lookup_behind hb (String.lt_irrefl key)]
        · rw [List.lookup_cons, List.lookup_cons, beq_eq_false_iff_ne.mpr heq] at hkey
          exact hkey
      · -- The smaller of the two keys has no value on the other side.
        rw [beq_eq_false_iff_ne.mpr hk] at hat
        rw [beq_eq_false_iff_ne.mpr (Ne.symm hk)] at hat'
        by_cases hlt : k' < k
        · have hnlt : ¬ k < k' := fun hgt => String.lt_irrefl k (String.lt_trans hgt hlt)
          rw [lookup_behind ha hnlt] at hat'
          cases hat'
        · rw [lookup_behind hb hlt] at hat
          cases hat

/-- The value that is there already changes nothing. -/
theorem insertEntry_of_lookup {key value : String} {entries : List (String × String)}
    (hasc : Ascending entries) (h : entries.lookup key = some value) :
    insertEntry key value entries = entries := by
  induction entries with
  | nil => cases h
  | cons head rest ih =>
    obtain ⟨k, v⟩ := head
    obtain ⟨hhead, hrest⟩ := List.pairwise_cons.mp hasc
    rw [List.lookup_cons] at h
    by_cases hk : key = k
    · subst hk
      have hvalue : v = value := by simpa using h
      rw [insertEntry, if_neg (String.lt_irrefl key), if_pos rfl, hvalue]
    · rw [beq_eq_false_iff_ne.mpr hk] at h
      have hmem : (key, value) ∈ rest := by
        obtain ⟨before, after, rfl, -⟩ := List.lookup_eq_some_iff.mp h
        exact List.mem_append_right _ List.mem_cons_self
      have hlt : k < key := hhead _ hmem
      have hnlt : ¬ key < k := fun hgt => String.lt_irrefl k (String.lt_trans hlt hgt)
      rw [insertEntry, if_neg hnlt, if_neg hk, ih hrest h]

namespace Entries

@[ext] theorem ext_toList {a b : Entries} (h : a.toList = b.toList) : a = b := by
  cases a
  cases b
  cases h
  rfl

/-- **A map is determined by its values.** -/
theorem ext_get? {a b : Entries} (h : ∀ k, a.get? k = b.get? k) : a = b :=
  ext_toList (eq_of_lookup_eq a.ascending b.ascending h)

/-! ### Values -/

theorem get?_insert (m : Entries) (key value k : String) :
    (m.insert key value).get? k = if k = key then some value else m.get? k :=
  lookup_insertEntry key value k m.toList

theorem get?_insert_self (m : Entries) (key value : String) :
    (m.insert key value).get? key = some value := by
  rw [get?_insert, if_pos rfl]

theorem get?_insert_of_ne (m : Entries) {key k : String} (value : String) (h : k ≠ key) :
    (m.insert key value).get? k = m.get? k := by
  rw [get?_insert, if_neg h]

theorem insert_of_get? {m : Entries} {key value : String} (h : m.get? key = some value) :
    m.insert key value = m :=
  ext_toList (insertEntry_of_lookup m.ascending h)

/-! ### Several values -/

/-- A map with values put into it one after another. -/
def insertAll (m : Entries) (entries : List (String × String)) : Entries :=
  entries.foldl (fun m e => m.insert e.1 e.2) m

theorem insertAll_cons (m : Entries) (e : String × String) (entries : List (String × String)) :
    m.insertAll (e :: entries) = (m.insert e.1 e.2).insertAll entries := rfl

theorem insertAll_append (m : Entries) (first second : List (String × String)) :
    m.insertAll (first ++ second) = (m.insertAll first).insertAll second :=
  List.foldl_append

/-- **The last value counts**, and the one that was there where there is none. -/
theorem get?_insertAll (m : Entries) (entries : List (String × String)) (k : String) :
    (m.insertAll entries).get? k = (entries.reverse.lookup k).or (m.get? k) := by
  induction entries generalizing m with
  | nil => rfl
  | cons e entries ih =>
    obtain ⟨key, value⟩ := e
    rw [insertAll_cons, ih, get?_insert, List.reverse_cons, List.lookup_append, Option.or_assoc]
    congr 1
    by_cases hk : k = key
    · simp [hk]
    · simp [List.lookup_cons, hk, beq_eq_false_iff_ne.mpr hk]

/-- A key that is in none of the entries keeps its value. -/
theorem get?_insertAll_of_not_mem (m : Entries) {entries : List (String × String)} {k : String}
    (h : k ∉ entries.map Prod.fst) : (m.insertAll entries).get? k = m.get? k := by
  induction entries generalizing m with
  | nil => rfl
  | cons e entries ih =>
    rw [List.map_cons, List.mem_cons, not_or] at h
    rw [insertAll_cons, ih _ h.2, get?_insert_of_ne _ _ h.1]

theorem get?_ofList (entries : List (String × String)) (k : String) :
    (ofList entries).get? k = entries.reverse.lookup k := by
  have hlast := get?_insertAll empty entries k
  rwa [show empty.get? k = none from rfl, Option.or_none] at hlast

/-! ### A map and its entries -/

theorem toList_insertAll (entries : List (String × String)) (m : Entries)
    (hasc : Ascending (m.toList ++ entries)) :
    (m.insertAll entries).toList = m.toList ++ entries := by
  induction entries generalizing m with
  | nil => rw [List.append_nil]; rfl
  | cons e entries ih =>
    have hbefore : ∀ e' ∈ m.toList, e'.1 < e.1 := fun e' he' =>
      (List.pairwise_append.mp hasc).2.2 e' he' e List.mem_cons_self
    have hinsert : (m.insert e.1 e.2).toList = m.toList ++ [e] :=
      insertEntry_of_forall_lt hbefore e.2
    rw [insertAll_cons, ih, hinsert, List.append_assoc]
    · rfl
    · rw [hinsert, List.append_assoc]
      exact hasc

/-- **A map is made again from its entries.** -/
theorem ofList_toList (m : Entries) : ofList m.toList = m :=
  ext_toList (toList_insertAll m.toList empty m.ascending)

end Entries

end GrammarLint
