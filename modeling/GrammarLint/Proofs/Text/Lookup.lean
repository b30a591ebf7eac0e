/-
  GrammarLint/Proofs/Text/Lookup.lean
  ===================================
  **From bytes to lines and columns** — the line of an offset is looked up among the starts of
  the lines, and nothing about the offset is lost.

  The starts increase, so the number of those up to an offset is that of the line feeds before
  it (`countP_behindNewlines`), and the line is the last one that starts no later
  (`lineCol_of_start`).  `lineCol?` looks for it as from the bytes alone: it halves the starts
  until one of them is left.  It has no answer where a start is missing; but it always has one,
  and it is the line and the column (`lineCol?_eq`).  All that the look-up has to be is
  `Located`: it finds the number, or the place where it belongs.
-/
import GrammarLint.Proofs.Text.Lines
import Mathlib.Data.Prod.Lex
import Mathlib.Order.Monotone.Defs

namespace GrammarLint.Text

/-- The bytes of a text are those that it is stored as. -/
theorem bytes_toList (text : String) : bytes text.toList = text.toUTF8.data.toList := by
  have hbytes := congrArg (·.data.toList) (toByteArray_bytes text.toList)
  simpa using hbytes

/-! ### The starts increase -/

theorem mem_behindNewlines {n m : Nat} {bs : List UInt8} (h : m ∈ behindNewlines n bs) :
    n < m ∧ m ≤ n + bs.length := by
  induction bs generalizing n with
  | nil => cases h
  | cons b bs ih =>
    rw [behindNewlines] at h
    rw [List.length_cons]
    have hlater : m ∈ behindNewlines (n + 1) bs → n < m ∧ m ≤ n + (bs.length + 1) := by
      intro hm
      obtain ⟨hlt, hle⟩ := ih hm
      omega
    split at h
    · rcases List.mem_cons.mp h with rfl | hm
      · omega
      · exact hlater hm
    · exact hlater h

theorem pairwise_behindNewlines (n : Nat) (bs : List UInt8) :
    (behindNewlines n bs).Pairwise (· < ·) := by
  induction bs generalizing n with
  | nil => exact List.Pairwise.nil
  | cons b bs ih =>
    rw [behindNewlines]
    split
    · exact List.pairwise_cons.mpr ⟨fun m hm => (mem_behindNewlines hm).1, ih (n + 1)⟩
    · exact ih (n + 1)

theorem pairwise_starts (cs : List Char) : (starts cs).Pairwise (· < ·) :=
  List.pairwise_cons.mpr ⟨fun _ hm => (mem_behindNewlines hm).1, pairwise_behindNewlines 0 _⟩

theorem le_length_of_mem_starts {cs : List Char} {m : Nat} (h : m ∈ starts cs) :
    m ≤ (bytes cs).length := by
  rcases List.mem_cons.mp h with rfl | hm
  · exact Nat.zero_le _
  · have hle := (mem_behindNewlines hm).2
    omega

/-- **A line feed among the first bytes is a start among these.** -/
theorem countP_behindNewlines (k n : Nat) (bs : List UInt8) :
    (behindNewlines k bs).countP (fun m => m ≤ n) = (bs.take (n - k)).count 0x0A := by
  induction bs generalizing k with
  | nil => simp [behindNewlines]
  | cons b bs ih =>
    by_cases hk : n ≤ k
    · -- All starts lie behind `k`.
      have hnone : ∀ m ∈ behindNewlines k (b :: bs), ¬ m ≤ n := by
        intro m hm
        have hlt := (mem_behindNewlines hm).1
        omega
      rw [Nat.sub_eq_zero_of_le hk, List.take_zero, List.count_nil, List.countP_eq_zero]
      simpa using hnone
    · have hsub : n - k = (n - (k + 1)) + 1 := by omega
      rw [hsub, List.take_succ_cons, behindNewlines, List.count_cons, ← ih]
      by_cases hb : b = 0x0A
      · have hle : k + 1 ≤ n := by omega
        simp [hb, hle]
      · simp [hb]

/-! ### The line of an offset -/

theorem lt_of_pairwise {xs : List Nat} (h : xs.Pairwise (· < ·)) {i j x y : Nat}
    (hx : xs[i]? = some x) (hy : xs[j]? = some y) (hij : i < j) : x < y := by
  obtain ⟨hi, rfl⟩ := List.getElem?_eq_some_iff.mp hx
  obtain ⟨hj, rfl⟩ := List.getElem?_eq_some_iff.mp hy
  exact List.pairwise_iff_getElem.mp h i j hi hj hij

/-- **The line of an offset** is the last one that starts no later. -/
theorem lineCol_of_start {cs : List Char} {n i start : Nat} (hstart : (starts cs)[i]? = some start)
    (hle : start ≤ n) (hnext : ∀ next, (starts cs)[i + 1]? = some next → n < next) :
    (LineIndex.ofChars cs).lineCol n = (i, n - start) := by
  have hi : i < (starts cs).length := (List.getElem?_eq_some_iff.mp hstart).1
  rw [length_starts] at hi
  obtain ⟨before, here, after, h⟩ := exists_lineOf (Nat.le_of_lt_succ hi)
  have hbefore : utf8Length before = start := by
    rw [getElem?_starts, h.lineStart] at hstart
    exact Option.some.inj hstart
  rw [← hbefore] at hle ⊢
  refine h.lineCol hle ?_
  by_cases hafter : after = []
  · exact Or.inr hafter
  · rw [getElem?_starts, h.lineStart_succ, if_neg hafter] at hnext
    exact Or.inl (Nat.le_of_lt_succ (hnext _ rfl))

/-- What is larger than `n` is all that follows a first number larger than `n`. -/
theorem lt_of_next {xs : List Nat} (hsorted : xs.Pairwise (· < ·)) {n i : Nat}
    (hnext : ∀ next, xs[i + 1]? = some next → n < next) {j x : Nat} (hij : i < j)
    (hx : xs[j]? = some x) : n < x := by
  have hj : j < xs.length := (List.getElem?_eq_some_iff.mp hx).1
  have hfirst := List.getElem?_eq_getElem (show i + 1 < xs.length by omega)
  have hn := hnext _ hfirst
  rcases Nat.eq_or_lt_of_le (Nat.succ_le_of_lt hij) with rfl | hlater
  · rw [hfirst] at hx
    cases hx
    exact hn
  · exact Nat.lt_trans hn (lt_of_pairwise hsorted hfirst hx hlater)

/-- Up to the last number that is not larger than `n` there are all that are not. -/
theorem countP_le_of_last {xs : List Nat} (hsorted : xs.Pairwise (· < ·)) {n i x : Nat}
    (hx : xs[i]? = some x) (hle : x ≤ n) (hnext : ∀ next, xs[i + 1]? = some next → n < next) :
    xs.countP (fun m => m ≤ n) = i + 1 := by
  have hi : i < xs.length := (List.getElem?_eq_some_iff.mp hx).1
  have hbefore : ∀ m ∈ xs.take (i + 1), m ≤ n := by
    intro m hm
    obtain ⟨j, hj⟩ := List.mem_iff_getElem?.mp hm
    rw [List.getElem?_take, Option.ite_none_right_eq_some] at hj
    obtain ⟨hji, hj⟩ := hj
    rcases Nat.lt_or_eq_of_le (Nat.le_of_lt_succ hji) with hlt | rfl
    · exact Nat.le_trans (Nat.le_of_lt (lt_of_pairwise hsorted hj hx hlt)) hle
    · rw [hx] at hj
      cases hj
      exact hle
  have hbehind : ∀ m ∈ xs.drop (i + 1), ¬ m ≤ n := by
    intro m hm
    obtain ⟨j, hj⟩ := List.mem_iff_getElem?.mp hm
    rw [List.getElem?_drop] at hj
    exact Nat.not_le_of_lt (lt_of_next hsorted hnext (by omega) hj)
  rw [← List.take_append_drop (i + 1) xs, List.countP_append,
    List.countP_eq_length.mpr (by simpa using hbefore),
    List.countP_eq_zero.mpr (by simpa using hbehind), List.length_take]
  omega

/-- As many line feeds are before an offset as there are lines before its line. -/
theorem count_of_start {cs : List Char} {n i start : Nat} (hstart : (starts cs)[i]? = some start)
    (hle : start ≤ n) (hnext : ∀ next, (starts cs)[i + 1]? = some next → n < next) :
    ((bytes cs).take n).count 0x0A = i := by
  have hcount := countP_le_of_last (pairwise_starts cs) hstart hle hnext
  have hfirst : (starts cs).countP (fun m => m ≤ n) =
      (behindNewlines 0 (bytes cs)).countP (fun m => m ≤ n) + 1 := by
    rw [starts, List.countP_cons, if_pos (by simp)]
  rw [hfirst, countP_behindNewlines, Nat.sub_zero] at hcount
  exact Nat.succ.inj hcount

/-! ### Halving -/

/-- One of the `size` places from `base` on, by halves: the last one whose number is not larger
    than `n`. -/
def narrow (xs : List Nat) (n base size : Nat) : Option Nat :=
  if size ≤ 1 then some base
  else do
    let middle := base + size / 2
    let x ← xs[middle]?
    narrow xs n (if n < x then base else middle) (size - size / 2)
termination_by size
decreasing_by omega

/-- Where `n` is among `xs` or, as an error, the place where it could be put in. -/
def search (xs : List Nat) (n : Nat) : Option (Except Nat Nat) :=
  if xs.isEmpty then some (.error 0)
  else do
    let i ← narrow xs n 0 xs.length
    let x ← xs[i]?
    return if x = n then .ok i else .error (if x < n then i + 1 else i)

/-- The line that a search leads to: the one that starts there, or else the one before. -/
def searched : Except Nat Nat → Nat
  | .ok exact => exact
  | .error next => next - 1

/-- The line and the column of an offset, with all that might go wrong: a start may be looked
    up where there is none. -/
def lineCol? (cs : List Char) (n : Nat) : Option (Nat × Nat) := do
  let line := searched (← search (starts cs) n)
  let start ← (starts cs)[line]?
  return (line, n - start)

/-- What is asked of a search among increasing numbers: it finds the number, or the place
    behind all smaller and before all larger ones. -/
def Located (xs : List Nat) (n : Nat) : Except Nat Nat → Prop
  | .ok i => xs[i]? = some n
  | .error i => i ≤ xs.length ∧ ∀ j x, xs[j]? = some x → if j < i then x < n else n < x

/-- Between what is known to be no larger and what is known to be larger, the place is found. -/
theorem narrow_spec {xs : List Nat} (hsorted : xs.Pairwise (· < ·)) (n base size : Nat)
    (hsize : 0 < size) (hlength : base + size ≤ xs.length)
    (hbase : ∀ x, xs[base]? = some x → base = 0 ∨ x ≤ n)
    (hbehind : ∀ j x, base + size ≤ j → xs[j]? = some x → n < x) :
    ∃ i, narrow xs n base size = some i ∧ i < xs.length ∧
      (∀ x, xs[i]? = some x → i = 0 ∨ x ≤ n) ∧ ∀ j x, i < j → xs[j]? = some x → n < x := by
  fun_induction narrow xs n base size with
  | case1 base size hone =>
    exact ⟨base, rfl, by omega, hbase, fun j x hj hx => hbehind j x (by omega) hx⟩
  | case2 base size hmore middle ih =>
    have hmiddle : middle < xs.length := by omega
    have hx := List.getElem?_eq_getElem hmiddle
    rw [hx]
    refine ih xs[middle] (by omega) ?_ ?_ ?_
    · split <;> omega
    · split
      · exact hbase
      · next hge =>
        intro y hy
        rw [hx] at hy
        cases hy
        exact Or.inr (Nat.not_lt.mp hge)
    · intro j y hj hy
      split at hj
      · next hlt =>
        -- What lies behind the middle is larger than it.
        rcases Nat.eq_or_lt_of_le (show middle ≤ j by omega) with rfl | hlater
        · rw [hx] at hy
          cases hy
          exact hlt
        · exact Nat.lt_trans hlt (lt_of_pairwise hsorted hx hy hlater)
      · exact hbehind j y (by omega) hy

/-- If all behind a number are larger than `n`, and it is the first or no larger itself, then
    `n` belongs there or right behind. -/
theorem located_of_last {xs : List Nat} (hsorted : xs.Pairwise (· < ·)) {n i x : Nat}
    (hx : xs[i]? = some x) (hat : i = 0 ∨ x ≤ n)
    (hbehind : ∀ j y, i < j → xs[j]? = some y → n < y) :
    Located xs n (if x = n then .ok i else .error (if x < n then i + 1 else i)) := by
  have hlength : i < xs.length := (List.getElem?_eq_some_iff.mp hx).1
  by_cases heq : x = n
  · rw [if_pos heq, ← heq]
    exact hx
  rw [if_neg heq]
  by_cases hlt : x < n
  · rw [if_pos hlt]
    refine ⟨hlength, fun j y hy => ?_⟩
    rcases Nat.lt_trichotomy j i with hj | rfl | hj
    · rw [if_pos (by omega)]
      exact Nat.lt_trans (lt_of_pairwise hsorted hy hx hj) hlt
    · rw [if_pos (Nat.lt_succ_self j)]
      rw [hx] at hy
      cases hy
      exact hlt
    · rw [if_neg (by omega)]
      exact hbehind j y hj hy
  · -- Only the first number can be larger than `n`.
    obtain rfl : i = 0 := hat.resolve_right (by omega)
    rw [if_neg hlt]
    refine ⟨Nat.zero_le _, fun j y hy => ?_⟩
    rw [if_neg (Nat.not_lt_zero j)]
    rcases Nat.eq_zero_or_pos j with rfl | hj
    · rw [hx] at hy
      cases hy
      omega
    · exact hbehind j y hj hy

/-- **The search by halves finds the number or its place.** -/
theorem search_located {xs : List Nat} (hsorted : xs.Pairwise (· < ·)) (n : Nat) :
    ∃ r, search xs n = some r ∧ Located xs n r := by
  rw [search]
  split
  · next hnil =>
    obtain rfl := List.isEmpty_iff.mp hnil
    exact ⟨_, rfl, Nat.le_refl 0, fun j x hx => by simp at hx⟩
  · next hmore =>
    have hpos : 0 < xs.length := List.length_pos_iff.mpr (mt List.isEmpty_iff.mpr hmore)
    obtain ⟨i, hi, hlength, hat, hbehind⟩ := narrow_spec hsorted n 0 xs.length hpos (by omega)
      (fun _ _ => Or.inl rfl) fun j x hj hx => by
        rw [List.getElem?_eq_none (by omega)] at hx
        cases hx
    have hx := List.getElem?_eq_getElem hlength
    simp only [hi, hx, Option.bind_eq_bind, Option.bind_some, Option.pure_def]
    exact ⟨_, rfl, located_of_last hsorted hx (hat _ hx) hbehind⟩

/-- The line that a search leads to is the last one that starts no later. -/
theorem start_of_located {cs : List Char} {n : Nat} {r : Except Nat Nat}
    (h : Located (starts cs) n r) : ∃ start, (starts cs)[searched r]? = some start ∧ start ≤ n ∧
      ∀ next, (starts cs)[searched r + 1]? = some next → n < next := by
  cases r with
  | ok i =>
    have hstart : (starts cs)[i]? = some n := h
    exact ⟨n, hstart, Nat.le_refl n, fun next hnext =>
      lt_of_pairwise (pairwise_starts cs) hstart hnext (Nat.lt_succ_self i)⟩
  | error i =>
    obtain ⟨hlength, hplace⟩ := h
    cases i with
    | zero =>
      have hfirst := hplace 0 0 rfl
      rw [if_neg (Nat.lt_irrefl 0)] at hfirst
      omega
    | succ i =>
      have hstart := List.getElem?_eq_getElem hlength
      have hlt := hplace i _ hstart
      rw [if_pos (Nat.lt_succ_self i)] at hlt
      refine ⟨_, hstart, Nat.le_of_lt hlt, fun next hnext => ?_⟩
      have hgt := hplace (i + 1) next hnext
      rwa [if_neg (Nat.lt_irrefl _)] at hgt

/-- **The line and the column can be computed from the bytes**, and nothing goes wrong. -/
theorem lineCol?_eq (cs : List Char) (n : Nat) :
    lineCol? cs n = some ((LineIndex.ofChars cs).lineCol n) := by
  obtain ⟨r, hr, hlocated⟩ := search_located (pairwise_starts cs) n
  obtain ⟨start, hstart, hle, hnext⟩ := start_of_located hlocated
  simp only [lineCol?, hr, Option.bind_eq_bind, Option.bind_some, hstart,
    lineCol_of_start hstart hle hnext, Option.pure_def]

/-- Every offset has a line, the last one that starts no later. -/
theorem exists_start (cs : List Char) (n : Nat) :
    ∃ start, (starts cs)[((LineIndex.ofChars cs).lineCol n).1]? = some start ∧
      start + ((LineIndex.ofChars cs).lineCol n).2 = n ∧
      (∀ next, (starts cs)[((LineIndex.ofChars cs).lineCol n).1 + 1]? = some next → n < next) ∧
      ((bytes cs).take n).count 0x0A = ((LineIndex.ofChars cs).lineCol n).1 := by
  obtain ⟨r, -, hlocated⟩ := search_located (pairwise_starts cs) n
  obtain ⟨start, hstart, hle, hnext⟩ := start_of_located hlocated
  rw [lineCol_of_start hstart hle hnext]
  exact ⟨start, hstart, Nat.add_sub_cancel' hle, hnext, count_of_start hstart hle hnext⟩

/-- Of two offsets, the later one is on a later line, or in a later column of the same one. -/
theorem lineCol_strictMono (cs : List Char) :
    StrictMono fun n => toLex ((LineIndex.ofChars cs).lineCol n) := by
  intro n m hnm
  obtain ⟨start, hstart, hcolumn, -, hcount⟩ := exists_start cs n
  obtain ⟨start', hstart', hcolumn', -, hcount'⟩ := exists_start cs m
  have hlines : ((bytes cs).take n).count 0x0A ≤ ((bytes cs).take m).count 0x0A :=
    (List.take_prefix_take_left (Nat.le_of_lt hnm)).sublist.count_le _
  rw [hcount, hcount'] at hlines
  refine Prod.Lex.toLex_lt_toLex'.mpr ⟨hlines, fun hsame => ?_⟩
  rw [hsame, hstart'] at hstart
  cases hstart
  omega

/-! ### The law -/

/-- **Lines and columns keep all of an offset.**  For every text there is one line more than
    there are line feeds; exactly these lines have a start, the first one at zero, and the
    starts increase and do not leave the text.

    For every offset, in the text or not, the line and the column can be computed from the
    bytes without anything going wrong.  So many of the bytes before the offset are line feeds
    as the line says, and the start of the line and the column add up to the offset; the next
    line, if there is one, starts behind it.  So lines and columns go forward with the
    offset. -/
theorem lineCol_lossless (text : String) :
    let bs := text.toUTF8.data.toList
    let ix := LineIndex.ofText text
    (ix.lineCount = text.toList.count '\n' + 1 ∧
      (∀ i, (ix.lineStart i).isSome ↔ i < ix.lineCount) ∧
      ix.lineStart 0 = some 0 ∧
      (∀ i j s t, ix.lineStart i = some s → ix.lineStart j = some t → (s < t ↔ i < j)) ∧
      ∀ i s, ix.lineStart i = some s → s ≤ text.utf8ByteSize) ∧
    (∀ n, lineCol? text.toList n = some (ix.lineCol n) ∧
      let line := (ix.lineCol n).1
      line = (bs.take (min n text.utf8ByteSize)).count 0x0A ∧
      (∃ start, ix.lineStart line = some start ∧ start ≤ n ∧ start + (ix.lineCol n).2 = n) ∧
      (line + 1 = ix.lineCount ∨ ∃ next, ix.lineStart (line + 1) = some next ∧ n < next)) ∧
    StrictMono fun n => toLex (ix.lineCol n) := by
  intro bs ix
  have hlookup : ∀ i, ix.lineStart i = (starts text.toList)[i]? := fun i =>
    (getElem?_starts text.toList i).symm
  have hcount : ix.lineCount = (starts text.toList).length := by
    rw [length_starts]
    exact LineIndex.lineCount_ofChars text.toList
  have hbytes : bs = bytes text.toList := (bytes_toList text).symm
  have hsize : text.utf8ByteSize = bs.length := by
    rw [hbytes, length_bytes, utf8Length_toList]
  refine ⟨⟨LineIndex.lineCount_ofChars text.toList, ?_, hlookup 0, ?_, ?_⟩, ?_,
    lineCol_strictMono text.toList⟩
  · intro i
    rw [hlookup, hcount]
    simp
  · intro i j s t hs ht
    rw [hlookup] at hs ht
    have hsorted := pairwise_starts text.toList
    refine ⟨fun hlt => ?_, lt_of_pairwise hsorted hs ht⟩
    by_contra hge
    rcases Nat.lt_or_eq_of_le (Nat.not_lt.mp hge) with hgt | rfl
    · exact Nat.lt_asymm hlt (lt_of_pairwise hsorted ht hs hgt)
    · rw [hs] at ht
      cases ht
      exact Nat.lt_irrefl s hlt
  · intro i s hs
    rw [hlookup] at hs
    rw [hsize, hbytes]
    exact le_length_of_mem_starts (List.mem_of_getElem? hs)
  · intro n
    obtain ⟨start, hstart, hcolumn, hnext, hfeeds⟩ := exists_start text.toList n
    refine ⟨lineCol?_eq text.toList n, ?_, ⟨start, ?_, ?_, hcolumn⟩, ?_⟩
    · rw [hsize, ← List.take_eq_take_min, hbytes]
      exact hfeeds.symm
    · rw [hlookup]
      exact hstart
    · exact Nat.le_of_add_right_le (Nat.le_of_eq hcolumn)
    · cases hlater : (starts text.toList)[(ix.lineCol n).1 + 1]? with
      | none =>
        have hlast := List.getElem?_eq_none_iff.mp hlater
        have hline := (List.getElem?_eq_some_iff.mp hstart).1
        left
        rw [hcount]
        exact Nat.le_antisymm hline hlast
      | some next => exact Or.inr ⟨next, (hlookup _).trans hlater, hnext next hlater⟩

/-- Inside a character and behind the text an offset has a line and a column, too. -/
example : let ix := LineIndex.ofText "a€\r\nb"
    ix.lineCol 2 = (0, 2) ∧ ix.lineCol 5 = (0, 5) ∧ ix.lineCol 6 = (1, 0) ∧
      ix.lineCol 90 = (1, 84) := by
  decide

end GrammarLint.Text
