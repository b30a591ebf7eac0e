/-
  GrammarLint/Proofs/Store/Memory.lean
  ====================================
  **The store in memory** — it answers every call as the history of its entries does,
  those it was made with and those that were put into it, the later ones counting.

  A history is the list of all entries ever given to a store.  What a store can be seen
  to hold is what its history says last about every key, and nothing else of the history
  is left in it: histories that say the same last make equal stores.
-/
import GrammarLint.Proofs.Store.Entries
import GrammarLint.Store.KeyValue
import Mathlib.Data.Finset.Dedup
import Mathlib.Data.Finset.Card

namespace GrammarLint

/-! ### Histories -/

/-- The value of the last entry with a key. -/
def lastValue (history : List (String × String)) (key : String) : Option String :=
  (history.filter fun e => e.1 = key).getLast?.map Prod.snd

theorem lastValue_append (earlier later : List (String × String)) (key : String) :
    lastValue (earlier ++ later) key = (lastValue later key).or (lastValue earlier key) := by
  rw [lastValue, List.filter_append, List.getLast?_append, Option.map_or]
  rfl

theorem lastValue_singleton (e : String × String) (key : String) :
    lastValue [e] key = if key = e.1 then some e.2 else none := by
  by_cases hkey : key = e.1
  · simp [lastValue, hkey]
  · simp [lastValue, hkey, Ne.symm hkey]

theorem lastValue_cons (e : String × String) (later : List (String × String)) (key : String) :
    lastValue (e :: later) key =
      (lastValue later key).or (if key = e.1 then some e.2 else none) := by
  rw [← List.singleton_append, lastValue_append, lastValue_singleton]

theorem lastValue_eq_lookup (history : List (String × String)) (key : String) :
    lastValue history key = history.reverse.lookup key := by
  induction history with
  | nil => rfl
  | cons e later ih =>
    obtain ⟨k, v⟩ := e
    have hfirst : [(k, v)].lookup key = if key = k then some v else none := by
      by_cases hkey : key = k
      · simp [hkey]
      · simp [List.lookup_cons, hkey, beq_eq_false_iff_ne.mpr hkey]
    rw [lastValue_cons, ih, List.reverse_cons, List.lookup_append, hfirst]

theorem lastValue_eq_none_iff {history : List (String × String)} {key : String} :
    lastValue history key = none ↔ key ∉ history.map Prod.fst := by
  rw [lastValue, Option.map_eq_none_iff, List.getLast?_eq_none_iff, List.filter_eq_nil_iff]
  constructor
  · rintro h hkey
    obtain ⟨e, he, heq⟩ := List.mem_map.mp hkey
    exact h e he (decide_eq_true heq)
  · intro h e he heq
    exact h (List.mem_map.mpr ⟨e, he, of_decide_eq_true heq⟩)

/-- An entry says nothing that a later one with its key does not say. -/
theorem lastValue_overwritten {e : String × String} {later : List (String × String)}
    (h : e.1 ∈ later.map Prod.fst) (key : String) :
    lastValue (e :: later) key = lastValue later key := by
  rw [lastValue_cons]
  split
  · next hkey =>
    obtain ⟨value, hvalue⟩ : ∃ value, lastValue later key = some value :=
      Option.ne_none_iff_exists'.mp fun hnone => lastValue_eq_none_iff.mp hnone (hkey ▸ h)
    rw [hvalue, Option.some_or]
  · exact Option.or_none

/-- Which of two entries with different keys comes first does not matter. -/
theorem lastValue_swap {a b : String × String} (h : a.1 ≠ b.1)
    (later : List (String × String)) (key : String) :
    lastValue (a :: b :: later) key = lastValue (b :: a :: later) key := by
  rw [lastValue_cons, lastValue_cons, lastValue_cons, lastValue_cons, Option.or_assoc,
    Option.or_assoc]
  by_cases hkey : key = a.1
  · rw [if_neg (hkey ▸ h), Option.none_or, Option.or_none]
  · rw [if_neg hkey, Option.none_or, Option.or_none]

/-! ### Histories in the order of their keys -/

def keyLe (a b : String × String) : Bool := a.1 ≤ b.1

theorem keyLe_trans (a b c : String × String) (hab : keyLe a b = true) (hbc : keyLe b c = true) :
    keyLe a c = true :=
  decide_eq_true (String.le_trans (of_decide_eq_true hab) (of_decide_eq_true hbc))

theorem keyLe_total (a b : String × String) : (keyLe a b || keyLe b a) = true := by
  rw [Bool.or_eq_true]
  exact (String.le_total a.1 b.1).imp decide_eq_true decide_eq_true

/-- Of neighbours with one key, the last. -/
def lastOfRuns : List (String × String) → List (String × String)
  | [] => []
  | [e] => [e]
  | e :: next :: rest =>
    if e.1 = next.1 then lastOfRuns (next :: rest) else e :: lastOfRuns (next :: rest)

/-- What is left of a history that is brought into the order of the keys, entries with one
    key staying in theirs, if the last one is taken of every key. -/
def collect (history : List (String × String)) : List (String × String) :=
  lastOfRuns (history.mergeSort keyLe)

theorem lastOfRuns_sublist (l : List (String × String)) : (lastOfRuns l).Sublist l := by
  fun_induction lastOfRuns l with
  | case1 => exact .refl _
  | case2 e => exact .refl _
  | case3 e next rest _ ih => exact ih.cons e
  | case4 e next rest _ ih => exact ih.cons_cons e

theorem lastValue_lastOfRuns (l : List (String × String)) (key : String) :
    lastValue (lastOfRuns l) key = lastValue l key := by
  fun_induction lastOfRuns l with
  | case1 => rfl
  | case2 e => rfl
  | case3 e next rest heq ih =>
    have hlater : e.1 ∈ (next :: rest).map Prod.fst := heq ▸ List.mem_cons_self
    rw [ih, lastValue_overwritten hlater]
  | case4 e next rest _ ih => rw [lastValue_cons, ih, ← lastValue_cons]

theorem ascending_lastOfRuns {l : List (String × String)}
    (h : l.Pairwise fun a b => keyLe a b = true) : Ascending (lastOfRuns l) := by
  fun_induction lastOfRuns l with
  | case1 => exact List.Pairwise.nil
  | case2 e => exact List.pairwise_singleton _ _
  | case3 e next rest _ ih => exact ih (List.pairwise_cons.mp h).2
  | case4 e next rest hne ih =>
    obtain ⟨hhead, hrest⟩ := List.pairwise_cons.mp h
    refine List.pairwise_cons.mpr ⟨fun later hlater => ?_, ih hrest⟩
    have hlt : e.1 < next.1 :=
      Std.lt_of_le_of_ne (of_decide_eq_true (hhead next List.mem_cons_self)) hne
    rcases List.mem_cons.mp ((lastOfRuns_sublist _).mem hlater) with rfl | hmem
    · exact hlt
    · have hle : keyLe next later = true := (List.pairwise_cons.mp hrest).1 later hmem
      exact Std.lt_of_lt_of_le hlt (of_decide_eq_true hle)

/-- Entries with one key stay in their order. -/
theorem filter_mergeSort (history : List (String × String)) (key : String) :
    ((history.mergeSort keyLe).filter fun e => e.1 = key) =
      history.filter fun e => e.1 = key := by
  have hone : (history.filter fun e => e.1 = key).Pairwise fun a b => keyLe a b = true := by
    refine List.pairwise_of_forall_mem_list fun a ha b hb => ?_
    have hkeys : a.1 = b.1 :=
      (of_decide_eq_true (List.mem_filter.mp ha).2).trans
        (of_decide_eq_true (List.mem_filter.mp hb).2).symm
    exact decide_eq_true (hkeys ▸ String.le_refl a.1)
  have hsub := (List.sublist_mergeSort keyLe_trans keyLe_total hone List.filter_sublist).filter
    fun e => e.1 = key
  rw [List.filter_filter] at hsub
  simp only [Bool.and_self] at hsub
  exact (hsub.eq_of_length
    ((List.mergeSort_perm history keyLe).filter _).length_eq.symm).symm

theorem lastValue_collect (history : List (String × String)) (key : String) :
    lastValue (collect history) key = lastValue history key := by
  rw [collect, lastValue_lastOfRuns, lastValue, filter_mergeSort]
  rfl

theorem ascending_collect (history : List (String × String)) : Ascending (collect history) :=
  ascending_lastOfRuns (List.pairwise_mergeSort keyLe_trans keyLe_total history)

namespace Entries

/-! ### Maps and their histories -/

theorem ofList_concat (history : List (String × String)) (key value : String) :
    ofList (history ++ [(key, value)]) = (ofList history).insert key value :=
  List.foldl_append

/-- **What is under a key is what the history says last.** -/
theorem get?_ofList_eq_lastValue (history : List (String × String)) (key : String) :
    (ofList history).get? key = lastValue history key := by
  rw [get?_ofList, lastValue_eq_lookup]

/-- **Histories that say the same last make one map**, and no others do. -/
theorem ofList_eq_iff {history history' : List (String × String)} :
    ofList history = ofList history' ↔
      ∀ key, lastValue history key = lastValue history' key := by
  constructor
  · intro h key
    rw [← get?_ofList_eq_lastValue, h, get?_ofList_eq_lastValue]
  · intro h
    refine ext_get? fun key => ?_
    rw [get?_ofList_eq_lastValue, h, get?_ofList_eq_lastValue]

/-- Sorting a history and taking the last entry of every key makes the same map. -/
theorem toList_ofList (history : List (String × String)) :
    (ofList history).toList = collect history := by
  have hsorted : ofList (collect history) = ⟨collect history, ascending_collect history⟩ :=
    ofList_toList ⟨collect history, ascending_collect history⟩
  rw [ofList_eq_iff.mpr fun key => (lastValue_collect history key).symm, hsorted]

theorem nodup_keys (m : Entries) : (m.toList.map Prod.fst).Nodup := by
  refine List.pairwise_map.mpr (m.ascending.imp fun hlt heq => ?_)
  exact String.lt_irrefl _ (heq ▸ hlt)

theorem mem_keys_ofList {history : List (String × String)} {key : String} :
    key ∈ (ofList history).toList.map Prod.fst ↔ key ∈ history.map Prod.fst := by
  rw [← not_iff_not, ← lastValue_eq_none_iff, ← lastValue_eq_none_iff, toList_ofList,
    lastValue_collect]

theorem size_ofList (history : List (String × String)) :
    (ofList history).size = (history.map Prod.fst).toFinset.card := by
  have hkeys : (history.map Prod.fst).toFinset =
      ((ofList history).toList.map Prod.fst).toFinset := by
    ext key
    rw [List.mem_toFinset, List.mem_toFinset, mem_keys_ofList]
  rw [hkeys, List.toFinset_card_of_nodup (nodup_keys _), List.length_map]
  rfl

theorem isEmpty_ofList (history : List (String × String)) :
    (ofList history).isEmpty = true ↔ history = [] := by
  have hsize : (ofList history).isEmpty = true ↔ (ofList history).size = 0 := by
    rw [isEmpty, size, List.isEmpty_iff, List.length_eq_zero_iff]
  rw [hsize, size_ofList, Finset.card_eq_zero, List.toFinset_eq_empty_iff, List.map_eq_nil_iff]

/-- **Entries with different keys commute.** -/
theorem ofList_swap {a b : String × String} (h : a.1 ≠ b.1)
    (before after : List (String × String)) :
    ofList (before ++ a :: b :: after) = ofList (before ++ b :: a :: after) := by
  rw [ofList_eq_iff]
  intro key
  rw [lastValue_append, lastValue_append, lastValue_swap h]

/-- **An overwritten entry leaves no trace.** -/
theorem ofList_overwritten {e : String × String} {after : List (String × String)}
    (h : e.1 ∈ after.map Prod.fst) (before : List (String × String)) :
    ofList (before ++ e :: after) = ofList (before ++ after) := by
  rw [ofList_eq_iff]
  intro key
  rw [lastValue_append, lastValue_append, lastValue_overwritten h]

end Entries

/-! ### Calls of a store -/

namespace KeyValueStore

/-- Calls of a store, one after another. -/
inductive Calls where
  | done
  | get (key : String) (rest : Calls)
  | set (key value : String) (rest : Calls)
  /-- Some calls are made through a reference to the store. -/
  | lend (inner rest : Calls)

/-- What a store answers to a call. -/
inductive Answer where
  | found (value : Option String)
  | wrote (result : Except StoreError Unit)
deriving DecidableEq

/-- Makes calls of a store of any type. -/
def Calls.perform : Calls → {σ : Type} → [KeyValueStore σ] → σ → List Answer × σ
  | .done, _, _, s => ([], s)
  | .get key rest, _, _, s =>
    let (answers, s') := rest.perform s
    (.found (KeyValueStore.get? s key) :: answers, s')
  | .set key value rest, _, _, s =>
    let (result, s') := KeyValueStore.set s key value
    let (answers, s'') := rest.perform s'
    (.wrote result :: answers, s'')
  | .lend inner rest, _, _, s =>
    let (answers, reference) := inner.perform (Borrowed.mk s)
    let (more, s') := rest.perform reference.lent
    (answers ++ more, s')

/-- The entries that calls put into a store. -/
def Calls.writes : Calls → List (String × String)
  | .done => []
  | .get _ rest => rest.writes
  | .set key value rest => (key, value) :: rest.writes
  | .lend inner rest => inner.writes ++ rest.writes

/-- What calls are answered if everything is kept and the last value counts. -/
def Calls.answers : Calls → List (String × String) → List Answer
  | .done, _ => []
  | .get key rest, history => .found (lastValue history key) :: rest.answers history
  | .set key value rest, history => .wrote (.ok ()) :: rest.answers (history ++ [(key, value)])
  | .lend inner rest, history => inner.answers history ++ rest.answers (history ++ inner.writes)

variable {σ : Type} [KeyValueStore σ]

theorem get?_borrowed (s : σ) (key : String) :
    KeyValueStore.get? (Borrowed.mk s) key = KeyValueStore.get? s key := rfl

theorem set_borrowed (s : σ) (key value : String) :
    KeyValueStore.set (Borrowed.mk s) key value =
      ((KeyValueStore.set s key value).1, ⟨(KeyValueStore.set s key value).2⟩) := rfl

/-- **Calls through a reference are calls of the store it refers to.** -/
theorem perform_borrowed (calls : Calls) (s : σ) :
    calls.perform (Borrowed.mk s) = ((calls.perform s).1, ⟨(calls.perform s).2⟩) := by
  induction calls generalizing σ s with
  | done => rfl
  | get key rest ih => simp only [Calls.perform, get?_borrowed, ih]
  | set key value rest ih => simp only [Calls.perform, set_borrowed, ih]
  | lend inner rest ihinner ihrest => simp only [Calls.perform, ihinner, ihrest]

theorem perform_lend (inner rest : Calls) (s : σ) :
    (Calls.lend inner rest).perform s =
      ((inner.perform s).1 ++ (rest.perform (inner.perform s).2).1,
        (rest.perform (inner.perform s).2).2) := by
  rw [Calls.perform, perform_borrowed]

/-- **A store in memory answers as its history does.** -/
theorem perform_ofList (calls : Calls) (history : List (String × String)) :
    calls.perform (Entries.ofList history) =
      (calls.answers history, Entries.ofList (history ++ calls.writes)) := by
  induction calls generalizing history with
  | done => rw [Calls.writes, List.append_nil]; rfl
  | get key rest ih =>
    have hget : KeyValueStore.get? (Entries.ofList history) key = lastValue history key :=
      Entries.get?_ofList_eq_lastValue history key
    rw [Calls.perform, ih, hget]
    rfl
  | set key value rest ih =>
    have hset : KeyValueStore.set (Entries.ofList history) key value =
        (.ok (), Entries.ofList (history ++ [(key, value)])) :=
      Prod.ext rfl (Entries.ofList_concat history key value).symm
    rw [Calls.perform, hset]
    dsimp only
    rw [ih, List.append_assoc]
    rfl
  | lend inner rest ihinner ihrest =>
    rw [perform_lend, ihinner, ihrest, List.append_assoc]
    rfl

/-- What can be seen of a store in memory that has a history. -/
structure Reflects (history : List (String × String)) (m : Entries) : Prop where
  /-- The store is the one that is made with all entries at once. -/
  made : m = Entries.ofList history
  /-- Nothing is stored but the last entry of every key, in the order of the keys. -/
  stored : m.toList = collect history
  get : ∀ key, KeyValueStore.get? m key = lastValue history key
  size : m.size = (history.map Prod.fst).toFinset.card
  isEmpty : m.isEmpty = true ↔ history = []
  ext : ∀ other : Entries,
    m = other ↔ ∀ key, KeyValueStore.get? m key = KeyValueStore.get? other key
  commute : ∀ before a b after, history = before ++ a :: b :: after → a.1 ≠ b.1 →
    m = Entries.ofList (before ++ b :: a :: after)
  traceless : ∀ before e after, history = before ++ e :: after → e.1 ∈ after.map Prod.fst →
    m = Entries.ofList (before ++ after)

theorem reflects_ofList (history : List (String × String)) :
    Reflects history (Entries.ofList history) where
  made := rfl
  stored := Entries.toList_ofList history
  get := Entries.get?_ofList_eq_lastValue history
  size := Entries.size_ofList history
  isEmpty := Entries.isEmpty_ofList history
  ext _ := ⟨fun h key => congrArg (KeyValueStore.get? · key) h, Entries.ext_get?⟩
  commute before _ _ after heq hne := heq ▸ Entries.ofList_swap hne before after
  traceless before _ _ heq hmem := heq ▸ Entries.ofList_overwritten hmem before

/-- **The store in memory is the map of the values written last.**  Whatever is called,
    directly or through references, it keeps every entry, finds what the entries so far say
    last, and is afterwards the store of all entries it was ever given. -/
theorem memory_reflects_history (entries : List (String × String)) (calls : Calls) :
    (calls.perform (Entries.ofList entries)).1 = calls.answers entries ∧
      Reflects (entries ++ calls.writes) (calls.perform (Entries.ofList entries)).2 := by
  rw [perform_ofList]
  exact ⟨rfl, reflects_ofList _⟩

/-- What is put into a store through a reference is there when the reference is gone. -/
example :
    (Calls.perform (.lend (.set "codeText" "a" .done) (.get "codeText" .done))
      (Entries.ofList [("grammarText", "G"), ("codeText", "b")])).1 =
      [.wrote (.ok ()), .found (some "a")] := by
  decide

end KeyValueStore

end GrammarLint
