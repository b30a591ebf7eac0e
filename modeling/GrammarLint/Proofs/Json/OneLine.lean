/-
  GrammarLint/Proofs/Json/OneLine.lean
  ====================================
  **A compact document is one line** — nothing below a space is written in it, whatever it
  is written from.

  Lines that are written one after another come apart again at their ends
  (`splitOn_lines`).  For this it is enough that no line has an end in it, and a compact
  document has no controls of any kind.  A map of strings that is written over several
  lines has no other ends of lines than those (`splitOn_prettyMap`), as the ones in its
  keys and values are escaped.
-/
import GrammarLint.Proofs.Json.Writer

namespace GrammarLint.Json

/-! ### Texts without controls -/

/-- Nothing in a text is below a space. -/
def Printable (w : List Char) : Prop := ∀ c ∈ w, ¬ c < ' '

theorem printable_nil : Printable [] := by
  intro c hc
  cases hc

@[simp] theorem printable_cons {c : Char} {w : List Char} :
    Printable (c :: w) ↔ ¬ c < ' ' ∧ Printable w :=
  List.forall_mem_cons

@[simp] theorem printable_append {v w : List Char} :
    Printable (v ++ w) ↔ Printable v ∧ Printable w :=
  List.forall_mem_append

theorem printable_flatMap {α : Type} {f : α → List Char} {xs : List α}
    (h : ∀ x ∈ xs, Printable (f x)) : Printable (xs.flatMap f) := by
  intro c hc
  obtain ⟨x, hx, hcx⟩ := List.mem_flatMap.mp hc
  exact h x hx c hcx

theorem Printable.newline_not_mem {w : List Char} (h : Printable w) : '\n' ∉ w := by
  intro hmem
  exact h '\n' hmem (by decide)

/-! ### What is written -/

theorem not_lt_space_hexDigit : ∀ n < 16, ¬ hexDigit n < ' ' := by decide

theorem printable_escaped (c : Char) : Printable (escaped c) := by
  have hletter : ∀ letter : Char, ¬ letter < ' ' → Printable ['\\', letter] := by
    intro letter hletter
    simp only [printable_cons, hletter, printable_nil, not_false_eq_true, and_true]
    decide
  unfold escaped
  split
  · exact hletter '"' (by decide)
  · split
    · exact hletter '\\' (by decide)
    · split
      · next hc =>
        have hhigh := not_lt_space_hexDigit (c.toNat / 16)
          (by have := toNat_lt_of_lt_space hc; omega)
        have hlow := not_lt_space_hexDigit (c.toNat % 16) (by omega)
        repeat' split
        · exact hletter 'b' (by decide)
        · exact hletter 'f' (by decide)
        · exact hletter 'n' (by decide)
        · exact hletter 'r' (by decide)
        · exact hletter 't' (by decide)
        · simp only [printable_cons, hhigh, hlow, printable_nil, not_false_eq_true, and_true]
          decide
      · next hc =>
        simp only [printable_cons, hc, printable_nil, not_false_eq_true, and_true]

theorem printable_literal (s : String) : Printable (literal s) := by
  have hbody : Printable (s.toList.flatMap escaped) :=
    printable_flatMap fun c _ => printable_escaped c
  have hquote : ¬ '"' < ' ' := by decide
  simp [literal, hbody, hquote, printable_nil]

theorem printable_digits (n : Nat) : Printable (digits n) := by
  intro c hc hlt
  have hdigit : c.isDigit = true := Nat.isDigit_of_mem_toDigits (by decide) (by decide) hc
  have hzero : 48 ≤ c.toNat := by
    simp only [Char.isDigit, Bool.and_eq_true, decide_eq_true_eq] at hdigit
    exact hdigit.1
  have hspace := toNat_lt_of_lt_space hlt
  omega

theorem printable_separated {separator : List Char} (hseparator : Printable separator)
    {parts : List (List Char)} (h : ∀ part ∈ parts, Printable part) :
    Printable (separated separator parts) := by
  cases parts with
  | nil => exact printable_nil
  | cons part parts =>
    obtain ⟨hpart, hparts⟩ := List.forall_mem_cons.mp h
    rw [separated_cons, printable_append]
    refine ⟨hpart, printable_flatMap ?_⟩
    intro part' hpart'
    exact printable_append.mpr ⟨hseparator, hparts part' hpart'⟩

theorem printable_comma : Printable [','] := by
  simp only [printable_cons, printable_nil, and_true]
  decide

theorem printable_array {items : List (List Char)} (h : ∀ item ∈ items, Printable item) :
    Printable (array items) := by
  have hitems := printable_separated printable_comma h
  have hopening : ¬ '[' < ' ' := by decide
  have hclosing : ¬ ']' < ' ' := by decide
  simp [array, hitems, hopening, hclosing, printable_nil]

theorem printable_object {entries : List (String × List Char)}
    (h : ∀ e ∈ entries, Printable e.2) : Printable (object entries) := by
  have hmembers : ∀ part ∈ entries.map (fun e => member e.1 e.2), Printable part := by
    intro part hpart
    obtain ⟨e, he, rfl⟩ := List.mem_map.mp hpart
    have hcolon : ¬ ':' < ' ' := by decide
    exact printable_append.mpr ⟨printable_literal e.1, printable_cons.mpr ⟨hcolon, h e he⟩⟩
  have hentries := printable_separated printable_comma hmembers
  have hopening : ¬ '{' < ' ' := by decide
  have hclosing : ¬ '}' < ' ' := by decide
  simp [object, hentries, hopening, hclosing, printable_nil]

/-! ### Lines -/

/-- **Lines come apart at their ends**, and so does what stands behind the last one. -/
theorem splitOn_lines_append {lines : List (List Char)} (h : ∀ line ∈ lines, '\n' ∉ line)
    {last : List Char} (hlast : '\n' ∉ last) :
    (lines.flatMap (· ++ ['\n']) ++ last).splitOn '\n' = lines ++ [last] := by
  induction lines with
  | nil => exact List.splitOn_eq_singleton hlast
  | cons line lines ih =>
    obtain ⟨hline, hlines⟩ := List.forall_mem_cons.mp h
    rw [List.flatMap_cons, List.append_assoc, List.append_assoc, List.singleton_append,
      List.splitOn_append_cons_self_of_not_mem hline, ih hlines]
    rfl

theorem splitOn_lines {lines : List (List Char)} (h : ∀ line ∈ lines, '\n' ∉ line) :
    (lines.flatMap (· ++ ['\n'])).splitOn '\n' = lines ++ [[]] := by
  rw [← splitOn_lines_append h List.not_mem_nil, List.append_nil]

/-! ### A map over several lines -/

/-- The lines of the members of a map, with a comma at the end of all but the last one. -/
def memberLines : List (String × String) → List (List Char)
  | [] => []
  | [e] => [memberLine e.1 e.2]
  | e :: e' :: entries => (memberLine e.1 e.2 ++ [',']) :: memberLines (e' :: entries)

/-- The lines of a map: its members between those of the brackets, which are one line if
    there is no member. -/
def prettyLines (entries : List (String × String)) : List (List Char) :=
  if entries.isEmpty then [['{', '}']] else ['{'] :: memberLines entries ++ [['}']]

theorem printable_memberLine (key value : String) : Printable (memberLine key value) := by
  have hblank : ¬ ' ' < ' ' := by decide
  have hcolon : ¬ ':' < ' ' := by decide
  have hvalue : Printable (':' :: ' ' :: literal value) :=
    printable_cons.mpr ⟨hcolon, printable_cons.mpr ⟨hblank, printable_literal value⟩⟩
  have hkey := printable_append.mpr ⟨printable_literal key, hvalue⟩
  exact printable_cons.mpr ⟨hblank, printable_cons.mpr ⟨hblank, hkey⟩⟩

theorem printable_of_mem_memberLines {entries : List (String × String)} {line : List Char}
    (h : line ∈ memberLines entries) : Printable line := by
  induction entries using memberLines.induct with
  | case1 => cases h
  | case2 e =>
    obtain rfl := List.mem_singleton.mp h
    exact printable_memberLine e.1 e.2
  | case3 e e' entries ih =>
    rcases List.mem_cons.mp h with rfl | h
    · exact printable_append.mpr ⟨printable_memberLine e.1 e.2, printable_comma⟩
    · exact ih h

theorem separated_memberLine {entries : List (String × String)} (h : entries ≠ []) :
    separated [',', '\n'] (entries.map fun e => memberLine e.1 e.2) ++ ['\n'] =
      (memberLines entries).flatMap (· ++ ['\n']) := by
  induction entries using memberLines.induct with
  | case1 => exact absurd rfl h
  | case2 e => simp [separated, memberLines]
  | case3 e e' entries ih =>
    have hrest := ih (List.cons_ne_nil e' entries)
    rw [memberLines, List.flatMap_cons, ← hrest]
    simp [separated]

/-- **The lines of a map of strings.** -/
theorem splitOn_prettyMap (entries : List (String × String)) :
    (prettyMap entries).splitOn '\n' = prettyLines entries := by
  unfold prettyMap prettyLines
  split
  · exact List.splitOn_eq_singleton (by decide)
  · next hempty =>
    have hne : entries ≠ [] := fun heq => hempty (heq ▸ rfl)
    have hlines : ∀ line ∈ ['{'] :: memberLines entries, '\n' ∉ line := by
      intro line hline
      rcases List.mem_cons.mp hline with rfl | hmember
      · decide
      · exact (printable_of_mem_memberLines hmember).newline_not_mem
    rw [List.cons_append, ← List.cons_append, ← splitOn_lines_append hlines (by decide),
      List.flatMap_cons, ← separated_memberLine hne]
    simp

end GrammarLint.Json
