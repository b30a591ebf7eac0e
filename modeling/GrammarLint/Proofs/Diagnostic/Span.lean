/-
  GrammarLint/Proofs/Diagnostic/Span.lean
  =======================================
  **What a finding covers** — one character of the text, or nothing.

  Whatever line and column a finding has, its span begins where these are clamped to.  The
  span covers the character in that column; but the end of a line, and any carriage return,
  is not covered (`coverable`).  So spans lie on characters, and two of them that are not
  empty meet only on the same character, that is for the same line and column.

  `spanIn?` computes the span with all that might go wrong: there may be no offset, and the
  text may be cut inside a character.
-/
import GrammarLint.Diagnostic.Basic
import GrammarLint.Proofs.Text.Offset

namespace GrammarLint

open Text

/-! ### The place of a finding -/

theorem toNat_predecessor (n : UInt32) : (predecessor n).toNat = n.toNat - 1 := by
  unfold predecessor
  split
  · next h =>
    rw [h]
    rfl
  · next h =>
    have hpos : 1 ≤ n := by
      rw [UInt32.le_iff_toNat_le]
      exact Nat.one_le_iff_ne_zero.mpr fun h0 => h (UInt32.toNat_inj.mp h0)
    rw [UInt32.toNat_sub_of_le _ _ hpos]
    rfl

namespace Diagnostic

/-- The line of a text that a finding is about. -/
def lineIn (d : Diagnostic) (cs : List Char) : Nat := clamped cs (d.line.toNat - 1)

/-- The column that a finding is about, from zero. -/
def place (d : Diagnostic) : Nat := d.column.toNat - 1

theorem offset_target (d : Diagnostic) (ix : LineIndex) :
    ix.offset d.target.line.toNat d.target.column.toNat =
      ix.offset (d.line.toNat - 1) d.place := by
  rw [target, toNat_predecessor, toNat_predecessor]
  rfl

end Diagnostic

/-! ### The character in a column -/

/-- The character that a text goes on with, unless a line ends with it. -/
def shownFirst (behind : List Char) : Option Char :=
  behind.head?.filter fun c => c ≠ '\n' ∧ c ≠ '\r'

theorem shownFirst_of_head? {behind : List Char} {c : Char} (h : behind.head? = some c) :
    shownFirst behind = if c = '\n' ∨ c = '\r' then none else some c := by
  by_cases hc : c = '\n' ∨ c = '\r'
  · simp [shownFirst, h, Option.filter, ← not_or, hc]
  · simp [shownFirst, h, Option.filter, ← not_or, hc]

theorem exists_eq_append_of_shownFirst (behind : List Char) :
    ∃ rest, behind = (shownFirst behind).toList ++ rest := by
  cases behind with
  | nil => exact ⟨[], rfl⟩
  | cons c behind =>
    rw [shownFirst_of_head? rfl]
    split
    · exact ⟨c :: behind, rfl⟩
    · exact ⟨behind, rfl⟩

/-- The character of a line that is covered in a column: there is none behind the end, and a
    carriage return is not. -/
def coverable (here : List Char) (column : Nat) : Option Char :=
  if column < width here then here[column]?.filter (· ≠ '\r') else none

theorem coverable_eq_some_iff {here : List Char} {column : Nat} {c : Char} :
    coverable here column = some c ↔ column < width here ∧ here[column]? = some c ∧ c ≠ '\r' := by
  unfold coverable
  split
  · next hlt => simp [hlt, Option.filter_eq_some_iff]
  · next hge => simp [hge]

theorem isSome_coverable_iff {here : List Char} {column : Nat} :
    (coverable here column).isSome ↔ column < width here ∧ here[column]? ≠ some '\r' := by
  rw [Option.isSome_iff_exists]
  constructor
  · rintro ⟨c, hc⟩
    obtain ⟨hwidth, hget, hreturn⟩ := coverable_eq_some_iff.mp hc
    refine ⟨hwidth, ?_⟩
    rw [hget, ne_eq, Option.some.injEq]
    exact hreturn
  · rintro ⟨hwidth, hreturn⟩
    have hget := List.getElem?_eq_getElem (lt_length_of_lt_width hwidth)
    rw [hget, ne_eq, Option.some.injEq] at hreturn
    exact ⟨_, coverable_eq_some_iff.mpr ⟨hwidth, hget, hreturn⟩⟩

/-- The character that is covered is what the text goes on with behind the columns before,
    unless a line ends there. -/
theorem shownFirst_behind {cs before here after : List Char} {i : Nat}
    (h : LineOf cs i before here after) (column : Nat) :
    shownFirst (here.drop (min column (width here)) ++ after) = coverable here column := by
  unfold coverable
  split
  · next hlt =>
    have hlength : column < here.length := lt_length_of_lt_width hlt
    have hnewline : here[column] ≠ '\n' := by
      intro heq
      exact h.whole (heq ▸ List.getElem_mem hlength)
    rw [Nat.min_eq_left (Nat.le_of_lt hlt), List.drop_eq_getElem_cons hlength, List.cons_append,
      List.getElem?_eq_getElem hlength]
    simp [shownFirst, Option.filter, hnewline]
  · next hge =>
    rw [Nat.min_eq_right (Nat.not_lt.mp hge)]
    by_cases hreturn : here.getLast? = some '\r'
    · obtain ⟨most, rfl⟩ := List.getLast?_eq_some_iff.mp hreturn
      rw [width_append_return, List.drop_left]
      rfl
    · rw [width_of_ne hreturn, List.drop_length, List.nil_append]
      rcases h.ends with rfl | hhead
      · rfl
      · rw [shownFirst_of_head? hhead]
        rfl

/-! ### The span of a finding -/

namespace Diagnostic

/-- The span of a finding, with all that might go wrong. -/
def spanIn? (d : Diagnostic) (cs : List Char) : Option (Nat × Nat) := do
  let first ← offset? cs d.target.line.toNat d.target.column.toNat
  let (_, behind) ← cut? cs first
  return (first, ((shownFirst behind).map (first + ·.utf8Size)).getD first)

/-- The text in parts: what is before the span of a finding, what it covers, and what is
    behind it. -/
structure Covers (d : Diagnostic) (cs front covered rest : List Char) : Prop where
  text : cs = front ++ (covered ++ rest)
  span : d.spanIn cs (.ofChars cs) = (utf8Length front, utf8Length front + utf8Length covered)

variable {cs before here after : List Char} {d d' : Diagnostic}

/-- **A span begins at its offset** and covers the character there, unless a line ends with
    it; and nothing goes wrong on the way. -/
theorem spanIn_append {front behind : List Char} (htext : cs = front ++ behind)
    (hstart : utf8Length front =
      (LineIndex.ofChars cs).offset d.target.line.toNat d.target.column.toNat) :
    d.spanIn cs (.ofChars cs) =
        (utf8Length front, utf8Length front + utf8Length (shownFirst behind).toList) ∧
      d.spanIn? cs = some (d.spanIn cs (.ofChars cs)) := by
  have hspan : d.spanIn cs (.ofChars cs) =
      (utf8Length front, utf8Length front + utf8Length (shownFirst behind).toList) := by
    have hchar : charAt? cs (utf8Length front) = behind.head? := by
      rw [htext, charAt?_append]
    rw [spanIn, ← hstart, hchar]
    cases hhead : behind.head? with
    | none => simp [shownFirst, hhead]
    | some c =>
      rw [shownFirst_of_head? hhead]
      by_cases hc : c = '\n' ∨ c = '\r'
      · simp [hc]
      · simp [hc]
  have hcut : cut? cs (utf8Length front) = some (front, behind) := by
    rw [htext, cut?_append]
  refine ⟨hspan, ?_⟩
  rw [hspan, spanIn?, offset?_eq, ← hstart]
  simp only [Option.bind_eq_bind, Option.bind_some, hcut]
  cases shownFirst behind with
  | none => simp
  | some c => simp

/-- **A finding covers what is in its column.** -/
theorem covers_coverable (d : Diagnostic) (h : LineOf cs (d.lineIn cs) before here after) :
    d.spanIn? cs = some (d.spanIn cs (.ofChars cs)) ∧
      ∃ rest, Covers d cs (before ++ here.take (min d.place (width here)))
        (coverable here d.place).toList rest := by
  obtain ⟨htext, hlength⟩ := h.offset_append d.place
  obtain ⟨hspan, hspan?⟩ := spanIn_append htext (hlength.trans (d.offset_target _).symm)
  obtain ⟨rest, hrest⟩ := exists_eq_append_of_shownFirst
    (here.drop (min d.place (width here)) ++ after)
  rw [shownFirst_behind h] at hspan hrest
  exact ⟨hspan?, rest, htext.trans (congrArg _ hrest), hspan⟩

namespace Covers

variable {front covered rest : List Char}

theorem lt_iff (h : Covers d cs front covered rest) :
    (d.spanIn cs (.ofChars cs)).1 < (d.spanIn cs (.ofChars cs)).2 ↔ covered ≠ [] := by
  rw [h.span, ne_eq, ← utf8Length_eq_zero_iff]
  dsimp only
  omega

theorem covered_eq {text : String} (h : Covers d text.toList front covered rest) :
    d.covered text = String.ofList covered := by
  have hspan : d.span text = _ := h.span
  rw [Diagnostic.covered, hspan]
  dsimp only
  rw [h.text, slice_append]

theorem isValid {text : String} (h : Covers d text.toList front covered rest) :
    (⟨(d.span text).1⟩ : String.Pos.Raw).IsValid text ∧
      (⟨(d.span text).2⟩ : String.Pos.Raw).IsValid text := by
  have hspan : d.span text = _ := h.span
  rw [hspan, isValid_iff, isValid_iff]
  refine ⟨⟨front, _, h.text, rfl⟩, front ++ covered, rest, ?_, utf8Length_append _ _⟩
  rw [List.append_assoc]
  exact h.text

end Covers

/-! ### Two findings -/

/-- The character that a finding covers, and its place in the line and in the text. -/
structure Spot (d : Diagnostic) (cs before here after : List Char) (c : Char) (rest : List Char) :
    Prop where
  line : LineOf cs (d.lineIn cs) before here after
  column : d.place < here.length
  covers : Covers d cs (before ++ here.take d.place) [c] rest

theorem exists_spot (h : (d.spanIn cs (.ofChars cs)).1 < (d.spanIn cs (.ofChars cs)).2) :
    ∃ before here after c rest, Spot d cs before here after c rest := by
  obtain ⟨before, here, after, hline⟩ := exists_lineOf_clamped cs (d.line.toNat - 1)
  obtain ⟨-, rest, hcovers⟩ := d.covers_coverable hline
  have hcovered := hcovers.lt_iff.mp h
  cases hc : coverable here d.place with
  | none =>
    rw [hc] at hcovered
    exact absurd rfl hcovered
  | some c =>
    obtain ⟨hwidth, -, -⟩ := coverable_eq_some_iff.mp hc
    rw [hc, Nat.min_eq_left (Nat.le_of_lt hwidth)] at hcovers
    exact ⟨before, here, after, c, rest, hline, lt_length_of_lt_width hwidth, hcovers⟩

namespace Spot

variable {before' here' after' rest rest' : List Char} {c c' : Char}

/-- Of two characters of a text one is in front of the other, or they are the same. -/
theorem apart (h : Spot d cs before here after c rest)
    (h' : Spot d' cs before' here' after' c' rest') :
    d.spanIn cs (.ofChars cs) = d'.spanIn cs (.ofChars cs) ∨
      (d.spanIn cs (.ofChars cs)).2 ≤ (d'.spanIn cs (.ofChars cs)).1 ∨
      (d'.spanIn cs (.ofChars cs)).2 ≤ (d.spanIn cs (.ofChars cs)).1 := by
  rw [h.covers.span, h'.covers.span]
  have htext := h.covers.text.symm.trans h'.covers.text
  generalize before ++ here.take d.place = front at htext ⊢
  generalize before' ++ here'.take d'.place = front' at htext ⊢
  rcases List.append_eq_append_iff.mp htext with ⟨m, rfl, hm⟩ | ⟨m, rfl, hm⟩
  · rcases List.cons_eq_append_iff.mp hm with ⟨rfl, hcons⟩ | ⟨m, rfl, -⟩
    · cases hcons
      simp
    · simp
  · rcases List.cons_eq_append_iff.mp hm with ⟨rfl, hcons⟩ | ⟨m, rfl, -⟩
    · cases hcons
      simp
    · simp

theorem lineIn_eq (h : Spot d cs before here after c rest) :
    (before ++ here.take d.place).count '\n' = d.lineIn cs := by
  have hnone : '\n' ∉ here.take d.place := mt List.mem_of_mem_take h.line.whole
  rw [List.count_append, h.line.number, List.count_eq_zero_of_not_mem hnone, Nat.add_zero]

/-- The place of a character in the text tells its line and its column. -/
theorem eq_of_span_eq (h : Spot d cs before here after c rest)
    (h' : Spot d' cs before' here' after' c' rest')
    (hspan : d.spanIn cs (.ofChars cs) = d'.spanIn cs (.ofChars cs)) :
    d.lineIn cs = d'.lineIn cs ∧ d.place = d'.place := by
  rw [h.covers.span, h'.covers.span, Prod.mk.injEq] at hspan
  obtain ⟨hfront, -⟩ :=
    eq_of_utf8Length_eq (h.covers.text.symm.trans h'.covers.text) hspan.1
  have hline : d.lineIn cs = d'.lineIn cs := by
    rw [← h.lineIn_eq, ← h'.lineIn_eq, hfront]
  refine ⟨hline, ?_⟩
  have hsame := h.line
  rw [hline] at hsame
  obtain ⟨rfl, rfl, -⟩ := hsame.unique h'.line
  have hlength := congrArg List.length (List.append_cancel_left hfront)
  have hcolumn := h.column
  have hcolumn' := h'.column
  rw [List.length_take, List.length_take] at hlength
  omega

end Spot

/-! ### The law -/

/-- **A finding covers one character, or nothing.**  For every text and every finding, whatever
    its line and column are, the span can be computed without anything going wrong, its first
    byte is not behind its last one, and both are places in the text where it may be cut.
    What is covered is nothing, or one character that is no line feed and no carriage return.
    It is the character of the line in the column, if there is one before the end of the line
    and a carriage return there, and it is no carriage return itself; the line is the last one
    if there are not so many.

    The spans of two findings that cover something are the same or apart, and they are the same
    for the same line and column only. -/
theorem span_covers_character (text : String) :
    let cs := text.toList
    let ix := LineIndex.ofText text
    let line (d : Diagnostic) := min (d.line.toNat - 1) (ix.lineCount - 1)
    let column (d : Diagnostic) := d.column.toNat - 1
    (∀ d : Diagnostic, ∃ before here after front covered rest,
      LineOf cs (line d) before here after ∧
      d.spanIn? cs = some (d.span text) ∧
      cs = front ++ (covered ++ rest) ∧
      d.span text = (utf8Length front, utf8Length front + utf8Length covered) ∧
      d.covered text = String.ofList covered ∧
      (d.span text).1 ≤ (d.span text).2 ∧ (d.span text).2 ≤ text.utf8ByteSize ∧
      (⟨(d.span text).1⟩ : String.Pos.Raw).IsValid text ∧
      (⟨(d.span text).2⟩ : String.Pos.Raw).IsValid text ∧
      (covered = [] ∨ ∃ c, covered = [c] ∧ c ≠ '\n' ∧ c ≠ '\r') ∧
      ((d.span text).1 < (d.span text).2 ↔
        column d < width here ∧ here[column d]? ≠ some '\r') ∧
      ((d.span text).1 < (d.span text).2 →
        front = before ++ here.take (column d) ∧ covered = here[column d]?.toList)) ∧
    ∀ d d' : Diagnostic, (d.span text).1 < (d.span text).2 → (d'.span text).1 < (d'.span text).2 →
      (d.span text = d'.span text ∨ (d.span text).2 ≤ (d'.span text).1 ∨
        (d'.span text).2 ≤ (d.span text).1) ∧
      (d.span text = d'.span text → line d = line d' ∧ column d = column d') := by
  intro cs ix line column
  constructor
  · intro d
    obtain ⟨before, here, after, h⟩ := exists_lineOf_clamped cs (d.line.toNat - 1)
    obtain ⟨hspan?, rest, hcovers⟩ := d.covers_coverable h
    obtain ⟨hfirst, hlast⟩ := hcovers.isValid
    have hsome : (d.span text).1 < (d.span text).2 ↔ (coverable here d.place).isSome := by
      refine hcovers.lt_iff.trans ?_
      cases coverable here d.place <;> simp
    refine ⟨before, here, after, _, _, rest, h, hspan?, hcovers.text, hcovers.span,
      hcovers.covered_eq, ?_, hlast.le_rawEndPos, hfirst, hlast, ?_,
      hsome.trans isSome_coverable_iff, ?_⟩
    · have hspan : d.span text = _ := hcovers.span
      rw [hspan]
      exact Nat.le_add_right _ _
    · cases hc : coverable here d.place with
      | none => exact Or.inl rfl
      | some c =>
        obtain ⟨-, hget, hreturn⟩ := coverable_eq_some_iff.mp hc
        refine Or.inr ⟨c, rfl, ?_, hreturn⟩
        rintro rfl
        exact h.whole (List.mem_of_getElem? hget)
    · intro hlt
      obtain ⟨c, hc⟩ := Option.isSome_iff_exists.mp (hsome.mp hlt)
      obtain ⟨hwidth, hget, -⟩ := coverable_eq_some_iff.mp hc
      rw [hc, ← hget]
      exact ⟨congrArg (before ++ here.take ·) (Nat.min_eq_left (Nat.le_of_lt hwidth)), rfl⟩
  · intro d d' hd hd'
    obtain ⟨before, here, after, c, rest, h⟩ := exists_spot hd
    obtain ⟨before', here', after', c', rest', h'⟩ := exists_spot hd'
    exact ⟨h.apart h', h.eq_of_span_eq h'⟩

end Diagnostic

end GrammarLint
