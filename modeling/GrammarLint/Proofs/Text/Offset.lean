/-
  GrammarLint/Proofs/Text/Offset.lean
  ===================================
  **From lines and columns to bytes** — which byte a line and a column are clamped to, and how
  they come back from it.

  `offset?` computes the byte as from the bytes alone: the line is cut out of the text between
  its start and the start of the next one.  It has no answer where a start is missing or where
  the text would be cut inside a character; but it always has one, and it is the offset
  (`offset?_eq`).

  From an offset the line comes back, and the column too, with one exception.  A carriage
  return at the end of a line is not counted to it, so behind that there is no column.
-/
import GrammarLint.Proofs.Text.Lines
import Mathlib.Data.Nat.PSub

namespace GrammarLint.Text

/-! ### The offset of a line and a column -/

/-- How many characters of a line a column can stand before: all of them but for one carriage
    return at its end. -/
def width (here : List Char) : Nat :=
  here.length - if here.getLast? = some '\r' then 1 else 0

theorem lt_length_of_lt_width {here : List Char} {column : Nat} (h : column < width here) :
    column < here.length :=
  Nat.lt_of_lt_of_le h (Nat.sub_le _ _)

theorem visible_eq (here : List Char) : LineIndex.visible here = here.take (width here) := by
  unfold LineIndex.visible width
  split
  · rw [List.dropLast_eq_take]
  · rw [Nat.sub_zero, List.take_length]

/-- The number of the line that a line number is clamped to. -/
def clamped (cs : List Char) (line : Nat) : Nat :=
  min line ((LineIndex.ofChars cs).lineCount - 1)

theorem clamped_eq (cs : List Char) (line : Nat) : clamped cs line = min line (cs.count '\n') := by
  rw [clamped, LineIndex.lineCount_ofChars, Nat.add_sub_cancel]

theorem exists_lineOf_clamped (cs : List Char) (line : Nat) :
    ∃ before here after, LineOf cs (clamped cs line) before here after := by
  apply exists_lineOf
  rw [clamped_eq]
  exact Nat.min_le_right _ _

/-- **The offset is clamped to the text**: to its lines, and to the columns of the line. -/
theorem LineOf.offset {cs before here after : List Char} {line : Nat}
    (h : LineOf cs (clamped cs line) before here after) (column : Nat) :
    (LineIndex.ofChars cs).offset line column =
      utf8Length before + utf8Length (here.take (min column (width here))) := by
  obtain ⟨hhere, hbytes⟩ := h.lines
  rw [clamped] at hhere hbytes
  rw [LineIndex.offset, List.getD_eq_getElem?_getD, hhere, hbytes, Option.getD_some, visible_eq,
    List.take_take]

/-! ### The offset, from the bytes -/

/-- Where a line ends: before the line feed that the next one starts behind, or with the
    text. -/
def stop? (cs : List Char) (i : Nat) : Option Nat :=
  match (starts cs)[i + 1]? with
  | some next => next.ppred
  | none => some (bytes cs).length

/-- The offset of a line and a column, with all that might go wrong: there may be no last
    line, a line may have no start, it may end before it starts, and the text may be cut
    inside a character. -/
def offset? (cs : List Char) (line column : Nat) : Option Nat := do
  let last ← (starts cs).length.ppred
  let start ← (starts cs)[min line last]?
  let stop ← stop? cs (min line last)
  let here ← slice? cs start stop
  return start + utf8Length ((LineIndex.visible here).take column)

theorem LineOf.stop? {cs before here after : List Char} {i : Nat}
    (h : LineOf cs i before here after) :
    stop? cs i = some (utf8Length before + utf8Length here) := by
  rw [Text.stop?, getElem?_starts, h.lineStart_succ]
  by_cases hafter : after = []
  · rw [if_pos hafter, length_bytes, h.text, hafter, List.append_nil, utf8Length_append]
  · rw [if_neg hafter]
    rfl

/-- **The offset can be computed from the bytes**, and nothing goes wrong. -/
theorem offset?_eq (cs : List Char) (line column : Nat) :
    offset? cs line column = some ((LineIndex.ofChars cs).offset line column) := by
  obtain ⟨before, here, after, h⟩ := exists_lineOf_clamped cs line
  have hlast : (starts cs).length.ppred = some (cs.count '\n') := by
    rw [length_starts]
    rfl
  have hcut : slice? cs (utf8Length before) (utf8Length before + utf8Length here) = some here := by
    rw [h.text]
    exact slice?_append before here after
  simp only [offset?, hlast, Option.bind_eq_bind, Option.bind_some, ← clamped_eq, getElem?_starts,
    h.lineStart, h.stop?, hcut, h.offset, visible_eq, List.take_take]
  rfl

/-! ### Where an offset is -/

theorem utf8Length_take_le (cs : List Char) {m n : Nat} (h : m ≤ n) :
    utf8Length (cs.take m) ≤ utf8Length (cs.take n) := by
  obtain ⟨rest, hrest⟩ := List.take_prefix_take_left (l := cs) h
  rw [← hrest, utf8Length_append]
  omega

theorem utf8Length_take_le_self (cs : List Char) (m : Nat) :
    utf8Length (cs.take m) ≤ utf8Length cs := by
  have hsplit := congrArg utf8Length (List.take_append_drop m cs)
  rw [utf8Length_append] at hsplit
  omega

theorem LineOf.offset_append {cs before here after : List Char} {line : Nat}
    (h : LineOf cs (clamped cs line) before here after) (column : Nat) :
    let columns := min column (width here)
    cs = (before ++ here.take columns) ++ (here.drop columns ++ after) ∧
      utf8Length (before ++ here.take columns) = (LineIndex.ofChars cs).offset line column := by
  intro columns
  constructor
  · rw [List.append_assoc, ← List.append_assoc (here.take columns), List.take_append_drop]
    exact h.text
  · rw [utf8Length_append, h.offset]

theorem lineCol_offset (cs : List Char) (line column : Nat) :
    ((LineIndex.ofChars cs).lineCol ((LineIndex.ofChars cs).offset line column)).1 =
      clamped cs line := by
  obtain ⟨before, here, after, h⟩ := exists_lineOf_clamped cs line
  have hle := utf8Length_take_le_self here (min column (width here))
  rw [h.offset, h.lineCol (by omega) (Or.inl (by omega))]

/-- Offsets go forward with the line, and within a line with the column. -/
theorem offset_le_offset (cs : List Char) {line column line' column' : Nat}
    (hle : clamped cs line < clamped cs line' ∨
      clamped cs line = clamped cs line' ∧ column ≤ column') :
    (LineIndex.ofChars cs).offset line column ≤ (LineIndex.ofChars cs).offset line' column' := by
  obtain ⟨before, here, after, h⟩ := exists_lineOf_clamped cs line
  obtain ⟨before', here', after', h'⟩ := exists_lineOf_clamped cs line'
  rw [h.offset, h'.offset]
  rcases hle with hlt | ⟨heq, hcolumn⟩
  · obtain ⟨rest, rfl⟩ := h.before_of_lt h' hlt
    have hwithin := utf8Length_take_le_self here (min column (width here))
    simp only [utf8Length_append]
    omega
  · rw [heq] at h
    obtain ⟨rfl, rfl, rfl⟩ := h.unique h'
    have hcolumns : min column (width here) ≤ min column' (width here) := by omega
    have htake := utf8Length_take_le here hcolumns
    omega

/-! ### Back from a place -/

theorem width_of_ne {here : List Char} (h : here.getLast? ≠ some '\r') :
    width here = here.length := by
  rw [width, if_neg h, Nat.sub_zero]

theorem width_append_return (most : List Char) : width (most ++ ['\r']) = most.length := by
  rw [width, List.getLast?_concat, if_pos rfl, List.length_append]
  rfl

theorem le_width_append (within tail : List Char) (h : tail ≠ []) :
    within.length ≤ width (within ++ tail) := by
  have hpos := List.length_pos_iff.mpr h
  rw [width, List.length_append]
  split <;> omega

/-- **A place comes back from its line and column**, unless it is the end of the line, behind
    a carriage return. -/
theorem offset_of_place {cs before within tail after : List Char} {i : Nat}
    (h : LineOf cs i before (within ++ tail) after) :
    if tail = [] ∧ within.getLast? = some '\r' then
      (LineIndex.ofChars cs).offset i within.length + 1 = utf8Length (before ++ within)
    else (LineIndex.ofChars cs).offset i within.length = utf8Length (before ++ within) := by
  have hclamped : clamped cs i = i := by
    rw [clamped_eq, Nat.min_eq_left h.number_le]
  have hline : LineOf cs (clamped cs i) before (within ++ tail) after := by rwa [hclamped]
  rw [hline.offset, utf8Length_append]
  by_cases htail : tail = []
  · subst htail
    rw [List.append_nil]
    by_cases hreturn : within.getLast? = some '\r'
    · obtain ⟨most, rfl⟩ := List.getLast?_eq_some_iff.mp hreturn
      have hone : utf8Length ['\r'] = 1 := rfl
      rw [if_pos ⟨rfl, hreturn⟩, width_append_return, Nat.min_eq_right (by simp), List.take_left,
        utf8Length_append, hone]
      rfl
    · rw [if_neg (fun h => hreturn h.2), width_of_ne hreturn, Nat.min_self, List.take_length]
  · rw [if_neg (fun h => htail h.1), Nat.min_eq_left (le_width_append within tail htail),
      List.take_left]

/-! ### The law -/

/-- **Offsets are clamped, and come back.**  For every text, line and column the line counts as
    the last one if there are not so many.  The offset can be computed from the bytes without
    anything going wrong; it is the start of the line and as many characters of the line as
    the column says, but no more than there are before its end and a carriage return there.
    So it is a place in the text where a character begins or the text ends, it is on that
    line, and it goes forward with the line and the column.

    Every place in the text comes back from its line and its column, the number of characters
    from the start of the line; but if it is the end of the line, and behind a carriage return
    of the line, then the place before that comes back. -/
theorem offset_clamped (text : String) :
    let cs := text.toList
    let ix := LineIndex.ofText text
    let last := ix.lineCount - 1
    (∀ line column, ∃ before here after, LineOf cs (min line last) before here after ∧
      offset? cs line column = some (ix.offset line column) ∧
      ix.lineStart (min line last) = some (utf8Length before) ∧
      ix.offset line column =
        utf8Length before + utf8Length (here.take (min column (width here))) ∧
      (⟨ix.offset line column⟩ : String.Pos.Raw).IsValid text ∧
      ix.offset line column ≤ text.utf8ByteSize ∧
      (ix.lineCol (ix.offset line column)).1 = min line last) ∧
    (∀ line column line' column',
      min line last < min line' last ∨ min line last = min line' last ∧ column ≤ column' →
        ix.offset line column ≤ ix.offset line' column') ∧
    ∀ p, (⟨p⟩ : String.Pos.Raw).IsValid text → ∃ before within tail after,
      let i := (ix.lineCol p).1
      LineOf cs i before (within ++ tail) after ∧ utf8Length before + utf8Length within = p ∧
        if tail = [] ∧ within.getLast? = some '\r' then ix.offset i within.length + 1 = p
        else ix.offset i within.length = p := by
  intro cs ix last
  refine ⟨?_, fun line column line' column' => offset_le_offset cs, ?_⟩
  · intro line column
    obtain ⟨before, here, after, h⟩ := exists_lineOf_clamped cs line
    obtain ⟨htext, hlength⟩ := h.offset_append column
    have hvalid : (⟨ix.offset line column⟩ : String.Pos.Raw).IsValid text :=
      isValid_iff.mpr ⟨_, _, htext, hlength⟩
    refine ⟨before, here, after, h, offset?_eq cs line column, h.lineStart, h.offset column, hvalid,
      hvalid.le_rawEndPos, lineCol_offset cs line column⟩
  · intro p hp
    obtain ⟨a, b, htext, rfl⟩ := isValid_iff.mp hp
    obtain ⟨before, within, tail, after, rfl, rfl, h⟩ := lineOf_around a b
    rw [← htext] at h
    have hstart : utf8Length before ≤ utf8Length (before ++ within) := by simp
    have hend : utf8Length (before ++ within) ≤
        utf8Length before + utf8Length (within ++ tail) := by simp
    have hline : (ix.lineCol (utf8Length (before ++ within))).1 =
        (before ++ within).count '\n' :=
      congrArg Prod.fst (h.lineCol hstart (Or.inl hend))
    refine ⟨before, within, tail, after, ?_, (utf8Length_append _ _).symm, ?_⟩
    · rw [hline]
      exact h
    · rw [hline]
      exact offset_of_place h

/-- Behind the carriage return at the end of a line there is no column; before it there is
    one. -/
example : let ix := LineIndex.ofText "a€\r\nb\r"
    (ix.lineCol 5 = (0, 5) ∧ ix.offset 0 3 = 4) ∧ ix.lineCol 4 = (0, 4) ∧ ix.offset 0 2 = 4 := by
  decide

end GrammarLint.Text
