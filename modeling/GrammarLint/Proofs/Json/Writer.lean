/-
  GrammarLint/Proofs/Json/Writer.lean
  ===================================
  **What is written is of the grammar** — numbers, arrays and objects, whatever they are
  written from.
-/
import GrammarLint.Json.Writer
import GrammarLint.Proofs.Json.Reader

namespace GrammarLint.Json

/-! ### Numbers -/

theorem digits_head {n : Nat} (hn : 0 < n) : ∃ c s, digits n = c :: s ∧ c ≠ '0' := by
  unfold digits
  induction n using Nat.strongRecOn with
  | ind n ih =>
    by_cases hlt : n < 10
    · rw [Nat.toDigits_of_lt_base hlt]
      have hnonzero : ∀ m < 10, 0 < m → Nat.digitChar m ≠ '0' := by decide
      exact ⟨_, [], rfl, hnonzero n hlt hn⟩
    · obtain ⟨c, s, hdigits, hc⟩ := ih (n / 10) (by omega) (by omega)
      rw [Nat.toDigits_of_base_le (by decide) (by omega), hdigits]
      exact ⟨c, _, rfl, hc⟩

theorem wholeText_digits (n : Nat) : WholeText (digits n) := by
  rcases Nat.eq_zero_or_pos n with rfl | hn
  · exact .zero
  · have hrun : DigitRun (digits n) := ⟨Nat.toDigits_ne_nil, fun _ hc =>
      Nat.isDigit_of_mem_toDigits (by decide) (by decide) hc⟩
    obtain ⟨c, s, hdigits, hc⟩ := digits_head hn
    rw [hdigits] at hrun ⊢
    exact .digits hc hrun

theorem naturalText_digits (n : Nat) : NaturalText (digits n) n :=
  ⟨wholeText_digits n, Nat.ofDigitChars_toDigits (by decide) (by decide)⟩

/-! ### Entries between brackets -/

theorem separated_cons (separator part : List Char) (parts : List (List Char)) :
    separated separator (part :: parts) = part ++ parts.flatMap (separator ++ ·) := by
  induction parts generalizing part with
  | nil => simp [separated]
  | cons part' parts ih =>
    have hrest := ih part'
    simp only [separated] at hrest ⊢
    rw [List.intersperse_cons_cons, List.flatten_cons, List.flatten_cons, hrest,
      List.flatMap_cons, List.append_assoc]

/-- Parts with commas between them are a row of what they are written for.  There may be
    blanks behind the commas, in front of the parts and behind the last one. -/
theorem row_separated {ε : Type} {E : List Char → ε → Prop} {write : ε → List Char} {xs : List ε}
    (h : ∀ x ∈ xs, E (write x) x) {a l b : List Char} (ha : Blanks a) (hl : Blanks l)
    (hb : Blanks b) :
    Row E true (separated (',' :: a) (xs.map fun x => l ++ write x) ++ b) xs := by
  have hfurther : ∀ ys : List ε, (∀ x ∈ ys, E (write x) x) →
      Row E false ((ys.map fun x => l ++ write x).flatMap ((',' :: a) ++ ·) ++ b) ys := by
    intro ys hys
    induction ys with
    | nil => exact .nil hb
    | cons y ys ih =>
      obtain ⟨hy, hys⟩ := List.forall_mem_cons.mp hys
      have hcomma : Separator false (',' :: a) := ⟨[], a, rfl, blanks_nil, ha⟩
      simpa using Row.cons (hcomma.append hl) hy (ih hys)
  cases xs with
  | nil => exact .nil hb
  | cons x xs =>
    obtain ⟨hx, hxs⟩ := List.forall_mem_cons.mp h
    have hleading : Separator true l := hl
    rw [List.map_cons, separated_cons]
    simpa using Row.cons hleading hx (hfurther xs hxs)

/-- Blanks behind the opening bracket. -/
theorem Row.blanks_append {ε : Type} {E : List Char → ε → Prop} {row : List Char} {xs : List ε}
    (h : Row E true row xs) {b : List Char} (hb : Blanks b) : Row E true (b ++ row) xs := by
  cases h with
  | nil hrow => exact .nil (hb.append hrow)
  | cons hp hx more =>
    have hleading : Separator true (b ++ _) := hb.append hp
    rw [← List.append_assoc]
    exact .cons hleading hx more

theorem row_compact {ε : Type} {E : List Char → ε → Prop} {write : ε → List Char} {xs : List ε}
    (h : ∀ x ∈ xs, E (write x) x) : Row E true (separated [','] (xs.map write)) xs := by
  simpa using row_separated h blanks_nil blanks_nil blanks_nil

theorem bracketed_array {ε : Type} {E : List Char → ε → Prop} {write : ε → List Char} {xs : List ε}
    (h : ∀ x ∈ xs, E (write x) x) : Bracketed '[' ']' E (array (xs.map write)) xs :=
  ⟨separated [','] (xs.map write), rfl, row_compact h⟩

theorem memberText_member (key : String) (value : List Char) :
    MemberText (member key value) (key, value) :=
  .mk (a := []) (b := []) (literalText_literal key) blanks_nil blanks_nil

theorem objectText_object (entries : List (String × List Char)) :
    ObjectText (object entries) entries :=
  ⟨_, rfl, row_compact fun e _ => memberText_member e.1 e.2⟩

end GrammarLint.Json
