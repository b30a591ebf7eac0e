/-
  GrammarLint/Proofs/Text/Lines.lean
  ==================================
  **Lines of a text** — where they are, and which of them a byte is on.

  `LineOf` says what a line of a text is without splitting the text: it is what lies between
  two line feeds, or between one of them and an end of the text, and its number is that of the
  line feeds before it.  There is one such line for every number up to that of all line feeds
  (`exists_lineOf`, `LineOf.unique`), and it is the one that the index has, with its start
  (`LineOf.lines`).  All else about lines is read off this.

  The starts of the lines can be told from the bytes alone: they are the places behind the
  bytes of line feeds (`getElem?_starts`).
-/
import GrammarLint.Proofs.Text.Bytes
import GrammarLint.Text.LineIndex
import Mathlib.Data.List.Induction

namespace GrammarLint.Text

/-! ### Lines of a text -/

/-- Line `i` of a text: what is before it, the line without its line feed, and what is
    behind it. -/
structure LineOf (cs : List Char) (i : Nat) (before here after : List Char) : Prop where
  text : cs = before ++ (here ++ after)
  number : before.count '\n' = i
  begins : before = [] ∨ before.getLast? = some '\n'
  whole : '\n' ∉ here
  ends : after = [] ∨ after.head? = some '\n'

/-- Around every place there is a line, and its number is that of the line feeds before. -/
theorem lineOf_around (a b : List Char) : ∃ before within tail after,
    a = before ++ within ∧ b = tail ++ after ∧
      LineOf (a ++ b) (a.count '\n') before (within ++ tail) after := by
  have hleft : ∃ before within, a = before ++ within ∧ '\n' ∉ within ∧
      (before = [] ∨ before.getLast? = some '\n') := by
    induction a using List.reverseRecOn with
    | nil => exact ⟨[], [], rfl, by simp, Or.inl rfl⟩
    | append_singleton a c ih =>
      by_cases hc : c = '\n'
      · exact ⟨a ++ [c], [], by simp, by simp, Or.inr (by simp [hc])⟩
      · obtain ⟨before, within, rfl, hwithin, hbegins⟩ := ih
        refine ⟨before, within ++ [c], List.append_assoc .., ?_, hbegins⟩
        simp [hwithin, Ne.symm hc]
  have hright : ∃ tail after, b = tail ++ after ∧ '\n' ∉ tail ∧
      (after = [] ∨ after.head? = some '\n') := by
    induction b with
    | nil => exact ⟨[], [], rfl, by simp, Or.inl rfl⟩
    | cons c b ih =>
      by_cases hc : c = '\n'
      · exact ⟨[], c :: b, rfl, by simp, Or.inr (by simp [hc])⟩
      · obtain ⟨tail, after, rfl, htail, hends⟩ := ih
        exact ⟨c :: tail, after, rfl, by simp [htail, Ne.symm hc], hends⟩
  obtain ⟨before, within, rfl, hwithin, hbegins⟩ := hleft
  obtain ⟨tail, after, rfl, htail, hends⟩ := hright
  refine ⟨before, within, tail, after, rfl, rfl, ?_, ?_, hbegins, ?_, hends⟩
  · simp only [List.append_assoc]
  · rw [List.count_append, List.count_eq_zero_of_not_mem hwithin, Nat.add_zero]
  · simp [hwithin, htail]

namespace LineOf

variable {cs before here after before' here' after' : List Char} {i i' : Nat}

/-- What begins behind a line begins behind its line feed. -/
theorem before_of_lt (h : LineOf cs i before here after)
    (h' : LineOf cs i' before' here' after') (hlt : i < i') :
    ∃ rest, before' = before ++ (here ++ '\n' :: rest) := by
  have hcount : (before ++ here).count '\n' = i := by
    rw [List.count_append, h.number, List.count_eq_zero_of_not_mem h.whole, Nat.add_zero]
  have htext : (before ++ here) ++ after = before' ++ (here' ++ after') := by
    rw [List.append_assoc, ← h.text, ← h'.text]
  rcases List.append_eq_append_iff.mp htext with ⟨m, hbefore', hafter⟩ | ⟨m, hbefore, -⟩
  · cases m with
    | nil =>
      have hnumber := h'.number
      rw [hbefore', List.append_nil, hcount] at hnumber
      omega
    | cons c m =>
      have hc : c = '\n' := by
        have hends := h.ends
        rw [hafter] at hends
        simpa using hends
      exact ⟨m, by rw [hbefore', hc, List.append_assoc]⟩
  · have hnumber := congrArg (List.count '\n') hbefore
    rw [hcount, List.count_append, h'.number] at hnumber
    omega

/-- The text before a line cannot be longer without a line feed more. -/
theorem eq_nil_of_begins {m : List Char} (hcount : m.count '\n' = 0)
    (hbegins : before ++ m = [] ∨ (before ++ m).getLast? = some '\n') : m = [] := by
  by_contra hm
  rcases hbegins with hnil | hlast
  · exact hm (List.append_eq_nil_iff.mp hnil).2
  · obtain ⟨c, hc⟩ := Option.ne_none_iff_exists'.mp (mt List.getLast?_eq_none_iff.mp hm)
    rw [List.getLast?_append, hc, Option.some_or, Option.some.injEq] at hlast
    rw [hlast] at hc
    exact List.count_eq_zero.mp hcount (List.mem_of_getLast? hc)

theorem eq_nil_of_ends {m : List Char} (hwhole : '\n' ∉ m)
    (hends : m ++ after = [] ∨ (m ++ after).head? = some '\n') : m = [] := by
  cases m with
  | nil => rfl
  | cons c m =>
    have hc : c = '\n' := by simpa using hends
    simp [hc] at hwhole

theorem unique (h : LineOf cs i before here after) (h' : LineOf cs i before' here' after') :
    before = before' ∧ here = here' ∧ after = after' := by
  have hbefore : before = before' := by
    have hnumber := h.number
    have hnumber' := h'.number
    rcases List.append_eq_append_iff.mp (h.text.symm.trans h'.text) with ⟨m, rfl, -⟩ | ⟨m, rfl, -⟩
    · rw [List.count_append] at hnumber'
      rw [eq_nil_of_begins (by omega) h'.begins, List.append_nil]
    · rw [List.count_append] at hnumber
      rw [eq_nil_of_begins (by omega) h.begins, List.append_nil]
  subst hbefore
  have htext : here ++ after = here' ++ after' :=
    List.append_cancel_left (h.text.symm.trans h'.text)
  have hwhole := h.whole
  have hwhole' := h'.whole
  rcases List.append_eq_append_iff.mp htext with ⟨m, rfl, rfl⟩ | ⟨m, rfl, rfl⟩
  · obtain rfl := eq_nil_of_ends (fun hm => hwhole' (List.mem_append_right _ hm)) h.ends
    simp
  · obtain rfl := eq_nil_of_ends (fun hm => hwhole (List.mem_append_right _ hm)) h'.ends
    simp

end LineOf

/-! ### The lines of an index -/

namespace LineIndex

@[simp] theorem ofChars_nil : ofChars [] = ⟨[], []⟩ := rfl

@[simp] theorem ofChars_cons (c : Char) (cs : List Char) :
    ofChars (c :: cs) = push c (ofChars cs) := rfl

theorem lineCount_ofChars (cs : List Char) : (ofChars cs).lineCount = cs.count '\n' + 1 := by
  induction cs with
  | nil => rfl
  | cons c cs ih =>
    rw [ofChars_cons, push]
    by_cases hc : c = '\n'
    · subst hc
      rw [if_pos rfl, List.count_cons_self, ← ih]
      rfl
    · rw [if_neg hc, List.count_cons_of_ne hc, ← ih]
      rfl

@[simp] theorem bytesOf_nil : bytesOf [] = 0 := rfl

@[simp] theorem bytesOf_cons (l : List Char) (ls : List (List Char)) :
    bytesOf (l :: ls) = utf8Length l + 1 + bytesOf ls := by
  have hfoldl : ∀ n, ls.foldl (fun n l => n + (utf8Length l + 1)) n = n + bytesOf ls := by
    induction ls with
    | nil => intro n; rfl
    | cons l ls ih =>
      intro n
      have hzero := ih (utf8Length l + 1)
      simp only [bytesOf, List.foldl_cons, Nat.zero_add] at ih hzero ⊢
      rw [ih, hzero]
      omega
  rw [bytesOf, List.foldl_cons, hfoldl, Nat.zero_add]

theorem bytesOf_append (ls ls' : List (List Char)) :
    bytesOf (ls ++ ls') = bytesOf ls + bytesOf ls' := by
  induction ls with
  | nil => simp
  | cons l ls ih => simp [ih, Nat.add_assoc]

/-- The lines of an index are lines of the text, and the lines before them take up as many
    bytes as the text before them. -/
theorem lineOf_of_getElem? {cs here : List Char} {i : Nat}
    (h : (ofChars cs).lines[i]? = some here) : ∃ before after,
      LineOf cs i before here after ∧ bytesOf ((ofChars cs).lines.take i) = utf8Length before := by
  induction cs generalizing i here with
  | nil =>
    cases i with
    | zero =>
      cases h
      exact ⟨[], [], ⟨rfl, rfl, Or.inl rfl, by simp, Or.inl rfl⟩, rfl⟩
    | succ i => simp [lines] at h
  | cons c cs ih =>
    by_cases hc : c = '\n'
    · subst hc
      have hlines : (ofChars ('\n' :: cs)).lines = [] :: (ofChars cs).lines := rfl
      rw [hlines] at h ⊢
      cases i with
      | zero =>
        cases h
        exact ⟨[], '\n' :: cs, ⟨rfl, rfl, Or.inl rfl, by simp, Or.inr rfl⟩, rfl⟩
      | succ i =>
        obtain ⟨before, after, hline, hbytes⟩ := ih h
        refine ⟨'\n' :: before, after, ⟨?_, ?_, ?_, hline.whole, hline.ends⟩, ?_⟩
        · rw [hline.text]
          rfl
        · rw [List.count_cons_self, hline.number]
        · right
          rcases hline.begins with rfl | hlast
          · rfl
          · rw [List.getLast?_cons, hlast]
            rfl
        · rw [List.take_succ_cons, bytesOf_cons, hbytes, utf8Length_cons]
          rfl
    · have hlines : (ofChars (c :: cs)).lines =
          (c :: (ofChars cs).first) :: (ofChars cs).others := by
        rw [ofChars_cons, push, if_neg hc]
        rfl
      rw [hlines] at h ⊢
      cases i with
      | zero =>
        cases h
        obtain ⟨before, after, hline, -⟩ := @ih _ 0 rfl
        obtain rfl := @LineOf.eq_nil_of_begins [] before hline.number hline.begins
        refine ⟨[], after, ⟨?_, rfl, Or.inl rfl, ?_, hline.ends⟩, rfl⟩
        · exact congrArg (c :: ·) hline.text
        · simp [hline.whole, Ne.symm hc]
      | succ i =>
        obtain ⟨before, after, hline, hbytes⟩ := @ih _ (i + 1) h
        have hbefore : before ≠ [] := by
          rintro rfl
          cases hline.number
        refine ⟨c :: before, after, ⟨?_, ?_, ?_, hline.whole, hline.ends⟩, ?_⟩
        · exact congrArg (c :: ·) hline.text
        · rw [List.count_cons_of_ne hc, hline.number]
        · right
          rw [List.getLast?_cons, hline.begins.resolve_left hbefore]
          rfl
        · have htake : (ofChars cs).lines.take (i + 1) =
              (ofChars cs).first :: (ofChars cs).others.take i := rfl
          rw [htake, bytesOf_cons] at hbytes
          rw [List.take_succ_cons, bytesOf_cons, utf8Length_cons, utf8Length_cons, ← hbytes]
          omega

end LineIndex

/-- There is a line for every number up to that of the line feeds. -/
theorem exists_lineOf {cs : List Char} {i : Nat} (h : i ≤ cs.count '\n') :
    ∃ before here after, LineOf cs i before here after := by
  have hi : i < (LineIndex.ofChars cs).lines.length := by
    have hcount := LineIndex.lineCount_ofChars cs
    rw [LineIndex.lineCount] at hcount
    omega
  obtain ⟨before, after, hline, -⟩ :=
    LineIndex.lineOf_of_getElem? (List.getElem?_eq_getElem hi)
  exact ⟨before, _, after, hline⟩

namespace LineOf

variable {cs before here after before' here' after' : List Char} {i i' : Nat}

theorem number_le (h : LineOf cs i before here after) : i ≤ cs.count '\n' := by
  have hcount := congrArg (List.count '\n') h.text
  rw [List.count_append, h.number] at hcount
  omega

/-- **The lines of an index are the lines of the text.** -/
theorem lines (h : LineOf cs i before here after) :
    (LineIndex.ofChars cs).lines[i]? = some here ∧
      LineIndex.bytesOf ((LineIndex.ofChars cs).lines.take i) = utf8Length before := by
  have hi : i < (LineIndex.ofChars cs).lines.length := by
    have hcount := LineIndex.lineCount_ofChars cs
    have hle := h.number_le
    rw [LineIndex.lineCount] at hcount
    omega
  have hget := List.getElem?_eq_getElem hi
  obtain ⟨before', after', hline, hbytes⟩ := LineIndex.lineOf_of_getElem? hget
  obtain ⟨rfl, rfl, rfl⟩ := h.unique hline
  exact ⟨hget, hbytes⟩

theorem lineStart (h : LineOf cs i before here after) :
    (LineIndex.ofChars cs).lineStart i = some (utf8Length before) := by
  have hi : i < (LineIndex.ofChars cs).lineCount := by
    have hle := h.number_le
    rw [LineIndex.lineCount_ofChars]
    omega
  rw [LineIndex.lineStart, if_pos hi, h.lines.2]

/-- The last line is the one with nothing behind it. -/
theorem after_eq_nil_iff (h : LineOf cs i before here after) :
    after = [] ↔ i = cs.count '\n' := by
  have hcount := congrArg (List.count '\n') h.text
  rw [List.count_append, List.count_append, h.number, List.count_eq_zero_of_not_mem h.whole,
    Nat.zero_add] at hcount
  cases after with
  | nil => simpa using hcount.symm
  | cons c after =>
    have hc : c = '\n' := by simpa using h.ends
    rw [hc, List.count_cons_self] at hcount
    simp only [reduceCtorEq, false_iff]
    omega

/-- Behind a line and its line feed the next one starts. -/
theorem bytesOf_succ (h : LineOf cs i before here after) :
    LineIndex.bytesOf ((LineIndex.ofChars cs).lines.take (i + 1)) =
      utf8Length before + utf8Length here + 1 := by
  obtain ⟨hhere, hbytes⟩ := h.lines
  rw [List.take_add_one, hhere, LineIndex.bytesOf_append, hbytes, Option.toList_some,
    LineIndex.bytesOf_cons, LineIndex.bytesOf_nil]
  rfl

theorem lineStart_succ (h : LineOf cs i before here after) :
    (LineIndex.ofChars cs).lineStart (i + 1) =
      if after = [] then none else some (utf8Length before + utf8Length here + 1) := by
  have hle := h.number_le
  have hlast := h.after_eq_nil_iff
  rw [LineIndex.lineStart, LineIndex.lineCount_ofChars, h.bytesOf_succ]
  by_cases hafter : after = []
  · have hi := hlast.mp hafter
    rw [if_pos hafter, if_neg (by omega)]
  · have hi := mt hlast.mpr hafter
    rw [if_neg hafter, if_pos (by omega)]

end LineOf

namespace LineIndex

/-! ### The line of an offset -/

/-- Line `j` is found for the offsets from its start to the start of the next one. -/
theorem seek_eq (n line start j : Nat) (here : List Char) (others : List (List Char))
    (hj : j ≤ others.length) (hstart : start + bytesOf ((here :: others).take j) ≤ n)
    (hnext : j < others.length → n < start + bytesOf ((here :: others).take (j + 1))) :
    seek n line start here others =
      (line + j, n - (start + bytesOf ((here :: others).take j))) := by
  induction others generalizing line start here j with
  | nil =>
    obtain rfl : j = 0 := by simpa using hj
    rfl
  | cons next others ih =>
    cases j with
    | zero =>
      have hlt := hnext (by simp)
      simp only [List.take_succ_cons, List.take_zero, bytesOf_cons, bytesOf_nil] at hlt
      rw [seek, if_pos (by omega)]
      rfl
    | succ j =>
      simp only [List.take_succ_cons, bytesOf_cons] at hstart hnext ⊢
      have hge : ¬ n < start + utf8Length here + 1 := by omega
      have hsum : ∀ m, start + (utf8Length here + 1 + m) = start + utf8Length here + 1 + m := by
        intro m
        omega
      simp only [hsum] at hstart hnext ⊢
      rw [seek, if_neg hge, ih _ _ j _ (by simpa using hj) hstart fun h => by
        simpa only [List.take_succ_cons, bytesOf_cons] using hnext (by simpa using h)]
      simp only [Prod.mk.injEq, and_true]
      omega

end LineIndex

/-- **The line of an offset** is the one between whose start and end it is; behind the end of
    the text it is the last one. -/
theorem LineOf.lineCol {cs before here after : List Char} {i : Nat}
    (h : LineOf cs i before here after) {n : Nat} (hstart : utf8Length before ≤ n)
    (hend : n ≤ utf8Length before + utf8Length here ∨ after = []) :
    (LineIndex.ofChars cs).lineCol n = (i, n - utf8Length before) := by
  have hcount : (LineIndex.ofChars cs).others.length + 1 = cs.count '\n' + 1 :=
    LineIndex.lineCount_ofChars cs
  have hle := h.number_le
  have hnext : i < (LineIndex.ofChars cs).others.length →
      n < LineIndex.bytesOf ((LineIndex.ofChars cs).lines.take (i + 1)) := by
    intro hmore
    have hafter : after ≠ [] := by
      rw [ne_eq, h.after_eq_nil_iff]
      omega
    have hwithin := hend.resolve_right hafter
    rw [h.bytesOf_succ]
    omega
  rw [← h.lines.2] at hstart ⊢
  have hseek := LineIndex.seek_eq n 0 0 i (LineIndex.ofChars cs).first
    (LineIndex.ofChars cs).others (by omega)
  simp only [Nat.zero_add] at hseek
  exact hseek hstart hnext

/-! ### The starts of lines, from the bytes -/

/-- The places behind the line feeds among some bytes, of which the first one is byte `n`. -/
def behindNewlines (n : Nat) : List UInt8 → List Nat
  | [] => []
  | b :: bs =>
    if b = 0x0A then (n + 1) :: behindNewlines (n + 1) bs else behindNewlines (n + 1) bs

/-- The starts of the lines of a text, by its bytes. -/
def starts (cs : List Char) : List Nat := 0 :: behindNewlines 0 (bytes cs)

theorem behindNewlines_append (n : Nat) (as bs : List UInt8) :
    behindNewlines n (as ++ bs) = behindNewlines n as ++ behindNewlines (n + as.length) bs := by
  induction as generalizing n with
  | nil => rfl
  | cons b as ih =>
    have hlength : n + (b :: as).length = n + 1 + as.length := by
      rw [List.length_cons]
      omega
    rw [List.cons_append, behindNewlines, behindNewlines, ih, hlength]
    split <;> rfl

theorem behindNewlines_eq_nil {bs : List UInt8} (h : 0x0A ∉ bs) (n : Nat) :
    behindNewlines n bs = [] := by
  induction bs generalizing n with
  | nil => rfl
  | cons b bs ih =>
    rw [List.mem_cons, not_or] at h
    rw [behindNewlines, if_neg (Ne.symm h.1), ih h.2]

/-- There is one such place for each line feed, and it is right behind it. -/
theorem behindNewlines_bytes_cons (n : Nat) (c : Char) (cs : List Char) :
    behindNewlines n (bytes (c :: cs)) =
      (if c = '\n' then [n + 1] else []) ++ behindNewlines (n + c.utf8Size) (bytes cs) := by
  have hbytes : bytes (c :: cs) = String.utf8EncodeChar c ++ bytes cs := rfl
  rw [hbytes, behindNewlines_append, String.length_utf8EncodeChar]
  congr 1
  split
  · next hc =>
    rw [hc]
    rfl
  · next hc => exact behindNewlines_eq_nil (mt newline_mem_utf8EncodeChar_iff.mp hc) n

namespace LineIndex

theorem lineStart_newline (cs : List Char) (i : Nat) :
    (ofChars ('\n' :: cs)).lineStart (i + 1) = ((ofChars cs).lineStart i).map (1 + ·) := by
  have hlines : (ofChars ('\n' :: cs)).lines = [] :: (ofChars cs).lines := rfl
  have hcount : (ofChars ('\n' :: cs)).lineCount = (ofChars cs).lineCount + 1 := rfl
  simp only [lineStart, hlines, hcount, Nat.add_lt_add_iff_right, List.take_succ_cons,
    bytesOf_cons, utf8Length_nil]
  split <;> simp

theorem lineStart_cons_of_ne {c : Char} (hc : c ≠ '\n') (cs : List Char) (i : Nat) :
    (ofChars (c :: cs)).lineStart (i + 1) =
      ((ofChars cs).lineStart (i + 1)).map (c.utf8Size + ·) := by
  have hlines : (ofChars (c :: cs)).lines = (c :: (ofChars cs).first) :: (ofChars cs).others := by
    rw [ofChars_cons, push, if_neg hc]
    rfl
  have hlines' : (ofChars cs).lines = (ofChars cs).first :: (ofChars cs).others := rfl
  simp only [lineStart, lineCount, hlines, hlines', List.length_cons, List.take_succ_cons,
    bytesOf_cons, utf8Length_cons]
  split
  · rw [Option.map_some, Option.some.injEq]
    omega
  · rfl

end LineIndex

theorem getElem?_behindNewlines (n : Nat) (cs : List Char) (i : Nat) :
    (n :: behindNewlines n (bytes cs))[i]? = ((LineIndex.ofChars cs).lineStart i).map (n + ·) := by
  induction cs generalizing n i with
  | nil =>
    cases i with
    | zero => rfl
    | succ i => rfl
  | cons c cs ih =>
    rw [behindNewlines_bytes_cons]
    cases i with
    | zero => rfl
    | succ i =>
      by_cases hc : c = '\n'
      · subst hc
        rw [LineIndex.lineStart_newline, if_pos rfl, List.getElem?_cons_succ, Option.map_map]
        refine (ih (n + 1) i).trans (congrArg (Option.map · _) ?_)
        funext m
        exact Nat.add_assoc n 1 m
      · rw [LineIndex.lineStart_cons_of_ne hc, if_neg hc, List.getElem?_cons_succ, Option.map_map]
        refine (ih (n + c.utf8Size) (i + 1)).trans (congrArg (Option.map · _) ?_)
        funext m
        exact Nat.add_assoc n c.utf8Size m

/-- **The starts by the bytes are those by the lines.** -/
theorem getElem?_starts (cs : List Char) (i : Nat) :
    (starts cs)[i]? = (LineIndex.ofChars cs).lineStart i := by
  rw [starts, getElem?_behindNewlines]
  simp

theorem length_starts (cs : List Char) : (starts cs).length = cs.count '\n' + 1 := by
  have hle : ∀ i, (starts cs).length ≤ i ↔ cs.count '\n' + 1 ≤ i := by
    intro i
    rw [← List.getElem?_eq_none_iff, getElem?_starts, LineIndex.lineStart,
      LineIndex.lineCount_ofChars]
    simp only [ite_eq_right_iff, reduceCtorEq, imp_false, Nat.not_lt]
  exact Nat.le_antisymm ((hle _).mpr (Nat.le_refl _)) ((hle _).mp (Nat.le_refl _))

end GrammarLint.Text
