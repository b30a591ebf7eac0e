/-
  GrammarLint/Proofs/Json/Scan.lean
  =================================
  **Blanks, words and numbers** — the small scanners take exactly what the grammar says.

  Every scanner has a lemma for each direction.  What it took is a text of the grammar; and
  a text of the grammar is taken whole if what follows cannot belong to it.  For a number
  the follow-up shrinks from part to part: no digit behind the whole part, no point behind
  the fraction, no exponent at the end.
-/
import GrammarLint.Proofs.Json.Grammar
import Mathlib.Data.List.TakeWhile

namespace GrammarLint.Json

/-! ### Attempts -/

section Attempts

variable {α β : Type} {x : Except Failure α} {y : β}

/-- What follows an attempt is reached only if the attempt succeeds. -/
theorem ok_of_bind {f : α → Except Failure β} (h : (x >>= f) = .ok y) :
    ∃ a, x = .ok a ∧ f a = .ok y := by
  cases x with
  | error e => cases h
  | ok a => exact ⟨a, rfl, h⟩

theorem ok_of_map {f : α → β} (h : x.map f = .ok y) : ∃ a, x = .ok a ∧ f a = y := by
  cases x with
  | error e => cases h
  | ok a =>
    cases h
    exact ⟨a, rfl, rfl⟩

end Attempts

/-! ### Blanks -/

theorem blanks_nil : Blanks [] := by
  intro c hc
  cases hc

theorem Blanks.append {a b : List Char} (ha : Blanks a) (hb : Blanks b) : Blanks (a ++ b) := by
  intro c hc
  rcases List.mem_append.mp hc with h | h
  · exact ha c h
  · exact hb c h

@[simp] theorem skipBlanks_nil : skipBlanks [] = [] := rfl

theorem skipBlanks_append {b : List Char} (hb : Blanks b) (s : List Char) :
    skipBlanks (b ++ s) = skipBlanks s :=
  List.dropWhile_append_of_pos fun c hc => isBlank_iff.mpr (hb c hc)

theorem skipBlanks_cons {c : Char} (hc : isBlank c = false) (s : List Char) :
    skipBlanks (c :: s) = c :: s := by
  rw [skipBlanks, List.dropWhile_cons_of_neg (by simp [hc])]

theorem skipBlanks_append_cons {b : List Char} (hb : Blanks b) {c : Char} (hc : isBlank c = false)
    (s : List Char) : skipBlanks (b ++ c :: s) = c :: s := by
  rw [skipBlanks_append hb, skipBlanks_cons hc]

theorem eq_append_skipBlanks (s : List Char) : ∃ b, Blanks b ∧ s = b ++ skipBlanks s :=
  ⟨s.takeWhile isBlank, fun _ hc => isBlank_iff.mp (List.mem_takeWhile_imp hc),
    List.takeWhile_append_dropWhile.symm⟩

/-- What is left once blanks are skipped stood behind them. -/
theorem eq_of_skipBlanks {s t : List Char} (h : skipBlanks s = t) :
    ∃ b, Blanks b ∧ s = b ++ t := by
  obtain ⟨b, hb, hs⟩ := eq_append_skipBlanks s
  rw [h] at hs
  exact ⟨b, hb, hs⟩

theorem Begins.skipBlanks {w : List Char} (h : Begins w) {b : List Char} (hb : Blanks b)
    (rest : List Char) : skipBlanks (b ++ (w ++ rest)) = w ++ rest := by
  obtain ⟨c, s, rfl, hc, -⟩ := h
  exact skipBlanks_append_cons hb hc (s ++ rest)

/-! ### What ends a value -/

theorem ends_nil : Ends [] := by
  intro c hc
  cases hc

theorem ends_cons {c : Char} (h : isBlank c = true ∨ c = ',' ∨ c = ']' ∨ c = '}')
    (s : List Char) : Ends (c :: s) := by
  intro d hd
  obtain rfl : c = d := by simpa using hd
  exact h

/-- Behind a value there may be blanks. -/
theorem Ends.blanks {rest : List Char} (h : Ends rest) {b : List Char} (hb : Blanks b) :
    Ends (b ++ rest) := by
  cases b with
  | nil => exact h
  | cons c b => exact ends_cons (Or.inl (isBlank_iff.mpr (hb c (by simp)))) _

/-- Behind a value there may be more entries. -/
theorem Row.ends {ε : Type} {E : List Char → ε → Prop} {row : List Char} {xs : List ε}
    (h : Row E false row xs) {rest : List Char} (hrest : Ends rest) : Ends (row ++ rest) := by
  cases h with
  | nil hb => exact hrest.blanks hb
  | cons hp hx more =>
    obtain ⟨b, a, rfl, hb, -⟩ := hp
    rw [List.append_assoc, List.append_assoc, List.cons_append]
    exact (ends_cons (Or.inr (Or.inl rfl)) _).blanks hb

theorem startsWithDigit_of_ends {rest : List Char} (h : Ends rest) :
    startsWithDigit rest = false := by
  cases rest with
  | nil => rfl
  | cons c s =>
    have hc := h c rfl
    simp only [isBlank, Bool.or_eq_true, beq_iff_eq] at hc
    rcases hc with (((rfl | rfl) | rfl) | rfl) | rfl | rfl | rfl <;> rfl

/-! ### Words -/

theorem scanWord_append (word rest : List Char) : scanWord word (word ++ rest) = .ok rest := by
  induction word with
  | nil => rfl
  | cons c word ih =>
    rw [List.cons_append, scanWord, if_pos rfl]
    exact ih

theorem eq_of_scanWord {word s rest : List Char} (h : scanWord word s = .ok rest) :
    s = word ++ rest := by
  induction word generalizing s with
  | nil =>
    cases h
    rfl
  | cons w word ih =>
    cases s with
    | nil => cases h
    | cons c s =>
      rw [scanWord] at h
      split at h
      · next hc =>
        subst hc
        rw [ih h]
        rfl
      · cases h

/-! ### Runs of digits -/

theorem startsWithDigit_of_run {ds : List Char} (h : DigitRun ds) (rest : List Char) :
    startsWithDigit (ds ++ rest) = true := by
  obtain ⟨hne, hall⟩ := h
  cases ds with
  | nil => exact absurd rfl hne
  | cons d ds => exact hall d (by simp)

theorem scanDigits_append {ds rest : List Char} (hall : ∀ c ∈ ds, c.isDigit = true)
    (hrest : startsWithDigit rest = false) : scanDigits (ds ++ rest) = (ds, rest) := by
  have htake : rest.takeWhile Char.isDigit = [] ∧ rest.dropWhile Char.isDigit = rest := by
    cases rest with
    | nil => exact ⟨rfl, rfl⟩
    | cons c s =>
      have hc : c.isDigit = false := hrest
      simp [hc]
  rw [scanDigits, List.takeWhile_append_of_pos hall, List.dropWhile_append_of_pos hall,
    htake.1, htake.2, List.append_nil]

/-- What is scanned behind a digit is a run, and no digit follows it. -/
theorem run_scanDigits {s : List Char} (h : startsWithDigit s = true) :
    DigitRun (scanDigits s).1 ∧ s = (scanDigits s).1 ++ (scanDigits s).2 := by
  refine ⟨⟨?_, ?_⟩, List.takeWhile_append_dropWhile.symm⟩
  · cases s with
    | nil => cases h
    | cons c s =>
      have hc : c.isDigit = true := h
      simp [scanDigits, hc]
  · intro c hc
    exact List.mem_takeWhile_imp hc

/-! ### Numbers -/

theorem eq_of_scanWhole {cutOff : Fault} {s ds rest : List Char}
    (h : scanWhole cutOff s = .ok (ds, rest)) : s = ds ++ rest ∧ WholeText ds := by
  unfold scanWhole at h
  split at h
  · cases h
  · split at h
    · cases h
    · cases h
      exact ⟨rfl, .zero⟩
  · next hempty hzero =>
    split at h
    · next hdigit =>
      obtain ⟨hrun, heq⟩ := run_scanDigits hdigit
      rw [show scanDigits s = (ds, rest) by injection h] at hrun heq
      refine ⟨heq, ?_⟩
      cases ds with
      | nil => exact absurd rfl hrun.1
      | cons d ds => exact .digits (fun hd => hzero (ds ++ rest) (by rw [heq, hd]; rfl)) hrun
    · cases h

theorem scanWhole_append (cutOff : Fault) {ds rest : List Char} (h : WholeText ds)
    (hrest : startsWithDigit rest = false) : scanWhole cutOff (ds ++ rest) = .ok (ds, rest) := by
  cases h with
  | zero => simp [scanWhole, hrest]
  | @digits c s hzero hrun =>
    rw [scanWhole.eq_def]
    split
    · next heq => cases heq
    · next heq =>
      rw [List.cons_append] at heq
      injection heq with hc
      exact absurd hc hzero
    · rw [if_pos (startsWithDigit_of_run hrun rest), scanDigits_append hrun.2 hrest]

theorem eq_of_scanFraction {cutOff : Fault} {s rest : List Char} {fraction : Option (List Char)}
    (h : scanFraction cutOff s = .ok (fraction, rest)) :
    ∃ w, s = w ++ rest ∧ FractionText w fraction := by
  unfold scanFraction at h
  split at h
  · next s =>
    split at h
    · next hdigit =>
      obtain ⟨hrun, heq⟩ := run_scanDigits hdigit
      cases h
      exact ⟨'.' :: (scanDigits s).1, by rw [List.cons_append]; exact congrArg _ heq, .some hrun⟩
    · cases h
  · cases h
    exact ⟨[], rfl, .none⟩

theorem scanFraction_append (cutOff : Fault) {w rest : List Char} {fraction : Option (List Char)}
    (h : FractionText w fraction) (hdigit : startsWithDigit rest = false)
    (hpoint : rest.head? ≠ some '.') : scanFraction cutOff (w ++ rest) = .ok (fraction, rest) := by
  cases h with
  | none =>
    rw [List.nil_append, scanFraction]
    rintro s rfl
    exact hpoint rfl
  | some hrun =>
    rw [List.cons_append, scanFraction, if_pos (startsWithDigit_of_run hrun rest),
      scanDigits_append hrun.2 hdigit]
    rfl

theorem scanSign_append {w : List Char} {negative : Bool} (h : SignText w negative)
    {s : List Char} (hs : startsWithDigit s = true) : scanSign (w ++ s) = (negative, s) := by
  cases h with
  | none =>
    cases s with
    | nil => cases hs
    | cons c s =>
      have hdigit : c.isDigit = true := hs
      have hplus : c ≠ '+' := by rintro rfl; cases hdigit
      have hminus : c ≠ '-' := by rintro rfl; cases hdigit
      rw [List.nil_append, scanSign]
      · simpa using hplus
      · simpa using hminus
  | plus => rfl
  | minus => rfl

theorem eq_of_scanSign (s : List Char) :
    ∃ w, s = w ++ (scanSign s).2 ∧ SignText w (scanSign s).1 := by
  unfold scanSign
  split
  · exact ⟨['+'], rfl, .plus⟩
  · exact ⟨['-'], rfl, .minus⟩
  · exact ⟨[], rfl, .none⟩

theorem eq_of_scanExponent {cutOff : Fault} {s rest : List Char}
    {exponent : Option (Bool × List Char)} (h : scanExponent cutOff s = .ok (exponent, rest)) :
    ∃ w, s = w ++ rest ∧ ExponentText w exponent := by
  cases s with
  | nil =>
    cases h
    exact ⟨[], rfl, .none⟩
  | cons c s =>
    simp only [scanExponent] at h
    split at h
    · next hc =>
      split at h
      · next hdigit =>
        obtain ⟨sign, hs, hsign⟩ := eq_of_scanSign s
        obtain ⟨hrun, heq⟩ := run_scanDigits hdigit
        cases h
        refine ⟨c :: (sign ++ (scanDigits (scanSign s).2).1), ?_, .some hc hsign hrun⟩
        rw [List.cons_append, List.append_assoc]
        exact congrArg _ (hs.trans (congrArg _ heq))
      · cases h
    · cases h
      exact ⟨[], rfl, .none⟩

theorem scanExponent_append (cutOff : Fault) {w rest : List Char}
    {exponent : Option (Bool × List Char)} (h : ExponentText w exponent)
    (hdigit : startsWithDigit rest = false) (hmark : ∀ c ∈ rest.head?, ¬ (c = 'e' ∨ c = 'E')) :
    scanExponent cutOff (w ++ rest) = .ok (exponent, rest) := by
  cases h with
  | none =>
    cases rest with
    | nil => rfl
    | cons c s => rw [List.nil_append, scanExponent, if_neg (hmark c rfl)]
  | some he hsign hrun =>
    have hstart := startsWithDigit_of_run hrun rest
    rw [List.cons_append, List.append_assoc, scanExponent, if_pos he, scanSign_append hsign hstart]
    simp only [hstart, if_true, scanDigits_append hrun.2 hdigit]
    rfl

/-- The scanner of a number behind its sign. -/
def scanUnsigned (cutOff : Fault) (negative : Bool) (s : List Char) :
    Except Failure (Numeral × List Char) := do
  let (whole, s) ← scanWhole cutOff s
  let (fraction, s) ← scanFraction cutOff s
  let (exponent, s) ← scanExponent cutOff s
  return (⟨negative, whole, fraction, exponent⟩, s)

theorem scanNumeral_minus (cutOff : Fault) (s : List Char) :
    scanNumeral cutOff ('-' :: s) = scanUnsigned cutOff true s := rfl

theorem scanNumeral_of_unsigned (cutOff : Fault) {s : List Char} (h : ∀ t, s ≠ '-' :: t) :
    scanNumeral cutOff s = scanUnsigned cutOff false s := by
  rw [scanNumeral]
  · rfl
  · exact h

theorem eq_of_scanUnsigned {cutOff : Fault} {negative : Bool} {s rest : List Char} {u : Numeral}
    (h : scanUnsigned cutOff negative s = .ok (u, rest)) :
    ∃ whole point power, s = whole ++ (point ++ (power ++ rest)) ∧ u.negative = negative ∧
      WholeText whole ∧ u.whole = whole ∧ FractionText point u.fraction ∧
      ExponentText power u.exponent := by
  obtain ⟨⟨whole, s₁⟩, hwhole, h⟩ := ok_of_bind h
  obtain ⟨⟨fraction, s₂⟩, hfraction, h⟩ := ok_of_bind h
  obtain ⟨⟨exponent, s₃⟩, hexponent, h⟩ := ok_of_bind h
  cases h
  obtain ⟨rfl, hw⟩ := eq_of_scanWhole hwhole
  obtain ⟨point, rfl, hf⟩ := eq_of_scanFraction hfraction
  obtain ⟨power, rfl, he⟩ := eq_of_scanExponent hexponent
  exact ⟨whole, point, power, rfl, rfl, hw, rfl, hf, he⟩

/-- **What is scanned as a number is one.** -/
theorem eq_of_scanNumeral {cutOff : Fault} {s rest : List Char} {u : Numeral}
    (h : scanNumeral cutOff s = .ok (u, rest)) : ∃ w, s = w ++ rest ∧ NumberText w u := by
  obtain ⟨negative, whole, fraction, exponent⟩ := u
  by_cases hminus : ∃ t, s = '-' :: t
  · obtain ⟨t, rfl⟩ := hminus
    rw [scanNumeral_minus] at h
    obtain ⟨_, point, power, rfl, hneg, hw, rfl, hf, he⟩ := eq_of_scanUnsigned h
    exact ⟨['-'] ++ (whole ++ (point ++ power)), by simp,
      .mk (Or.inr ⟨rfl, hneg⟩) hw hf he⟩
  · rw [scanNumeral_of_unsigned cutOff (fun t ht => hminus ⟨t, ht⟩)] at h
    obtain ⟨_, point, power, rfl, hneg, hw, rfl, hf, he⟩ := eq_of_scanUnsigned h
    exact ⟨[] ++ (whole ++ (point ++ power)), by simp, .mk (Or.inl ⟨rfl, hneg⟩) hw hf he⟩

/-- Behind the digits of a number there are no more digits, whatever parts follow. -/
theorem startsWithDigit_point {point : List Char} {fraction : Option (List Char)}
    (h : FractionText point fraction) {s : List Char} (hs : startsWithDigit s = false) :
    startsWithDigit (point ++ s) = false := by
  cases h with
  | none => exact hs
  | some hrun => rfl

theorem head_power {power : List Char} {exponent : Option (Bool × List Char)}
    (h : ExponentText power exponent) {s : List Char} (hs : Ends s) :
    startsWithDigit (power ++ s) = false ∧ (power ++ s).head? ≠ some '.' := by
  cases h with
  | none => exact ⟨startsWithDigit_of_ends hs, fun hpoint => absurd (hs _ hpoint) (by decide)⟩
  | some he hsign hrun => rcases he with rfl | rfl <;> exact ⟨rfl, by simp⟩

theorem scanUnsigned_append (cutOff : Fault) {negative : Bool} {whole point power rest : List Char}
    {fraction : Option (List Char)} {exponent : Option (Bool × List Char)}
    (hwhole : WholeText whole) (hfraction : FractionText point fraction)
    (hexponent : ExponentText power exponent) (hrest : Ends rest) :
    scanUnsigned cutOff negative (whole ++ (point ++ (power ++ rest))) =
      .ok (⟨negative, whole, fraction, exponent⟩, rest) := by
  obtain ⟨hdigit, hpoint⟩ := head_power hexponent hrest
  have hmark : ∀ c ∈ rest.head?, ¬ (c = 'e' ∨ c = 'E') := by
    intro c hc he
    have hends := hrest c hc
    rcases he with rfl | rfl <;> exact absurd hends (by decide)
  rw [scanUnsigned, scanWhole_append cutOff hwhole (startsWithDigit_point hfraction hdigit)]
  simp only [bind, Except.bind, scanFraction_append cutOff hfraction hdigit hpoint,
    scanExponent_append cutOff hexponent (startsWithDigit_of_ends hrest) hmark]
  rfl

theorem WholeText.head {w : List Char} (h : WholeText w) :
    ∃ c s, w = c :: s ∧ c.isDigit = true := by
  cases h with
  | zero => exact ⟨'0', [], rfl, rfl⟩
  | @digits c s hzero hrun => exact ⟨c, s, rfl, hrun.2 c (by simp)⟩

/-- **A number is scanned whole.** -/
theorem scanNumeral_append (cutOff : Fault) {w rest : List Char} {u : Numeral}
    (h : NumberText w u) (hrest : Ends rest) : scanNumeral cutOff (w ++ rest) = .ok (u, rest) := by
  obtain ⟨hsign, hwhole, hfraction, hexponent⟩ := h
  rcases hsign with ⟨rfl, rfl⟩ | ⟨rfl, rfl⟩
  · rw [List.nil_append, List.append_assoc, List.append_assoc, scanNumeral_of_unsigned]
    · exact scanUnsigned_append cutOff hwhole hfraction hexponent hrest
    · intro t ht
      obtain ⟨c, s, rfl, hc⟩ := hwhole.head
      injection ht with hminus
      subst hminus
      cases hc
  · rw [List.append_assoc, List.append_assoc, List.append_assoc, List.singleton_append,
      scanNumeral_minus]
    exact scanUnsigned_append cutOff hwhole hfraction hexponent hrest

/-- A number begins as the readers look for one. -/
theorem NumberText.head {w : List Char} {u : Numeral} (h : NumberText w u) :
    ∃ c s, w = c :: s ∧ (c = '-' ∨ c.isDigit = true) := by
  obtain ⟨hsign, hwhole, hfraction, hexponent⟩ := h
  rcases hsign with ⟨rfl, rfl⟩ | ⟨rfl, rfl⟩
  · obtain ⟨c, s, rfl, hc⟩ := hwhole.head
    exact ⟨c, _, rfl, Or.inr hc⟩
  · exact ⟨'-', _, rfl, Or.inl rfl⟩

/-! ### The value of an integer -/

theorem gather_cons (limit acc : Nat) (d : Char) (ds : List Char) :
    gather limit acc (d :: ds) =
      if limit < 10 * acc + (d.toNat - '0'.toNat) then (acc, d :: ds)
      else gather limit (10 * acc + (d.toNat - '0'.toNat)) ds := by
  rw [gather, digitValue, Nat.mul_comm acc 10]

theorem le_ofDigitChars (acc : Nat) (ds : List Char) : acc ≤ Nat.ofDigitChars 10 ds acc := by
  induction ds generalizing acc with
  | nil => exact Nat.le_refl acc
  | cons d ds ih =>
    rw [Nat.ofDigitChars_cons]
    exact Nat.le_trans (by omega) (ih _)

/-- Digits that stay within the limit are all taken. -/
theorem gather_of_le {limit acc : Nat} {ds : List Char}
    (h : Nat.ofDigitChars 10 ds acc ≤ limit) :
    gather limit acc ds = (Nat.ofDigitChars 10 ds acc, []) := by
  induction ds generalizing acc with
  | nil => rfl
  | cons d ds ih =>
    rw [Nat.ofDigitChars_cons] at h ⊢
    have hnext := Nat.le_trans (le_ofDigitChars _ ds) h
    rw [gather_cons, if_neg (Nat.not_lt.mpr hnext), ih h]

theorem eq_of_gather {limit acc n : Nat} {ds : List Char} (h : gather limit acc ds = (n, [])) :
    Nat.ofDigitChars 10 ds acc = n := by
  induction ds generalizing acc with
  | nil =>
    cases h
    rfl
  | cons d ds ih =>
    rw [gather_cons] at h
    split at h
    · cases h
    · rw [Nat.ofDigitChars_cons]
      exact ih h

theorem ofDecimal_ne_integer (negative : Bool) (significand : Nat) (e n : Int) :
    Number.ofDecimal negative significand e ≠ .integer n := by
  unfold Number.ofDecimal
  split <;> simp

theorem ofInteger_eq {negative : Bool} {m : Nat} {n : Int}
    (h : Number.ofInteger negative m = .integer n) (hn : 0 ≤ n) : negative = false ∧ n = m := by
  unfold Number.ofInteger at h
  split at h
  · next hpositive =>
    cases h
    exact ⟨by simpa using hpositive, rfl⟩
  · split at h
    · cases h
      omega
    · exact absurd h (ofDecimal_ne_integer true m 0 n)

/-- Only a numeral without fraction and exponent has an integer as its value. -/
theorem eq_of_value {u : Numeral} {n : Int} (h : u.value = .integer n) :
    u.fraction = none ∧ u.exponent = none ∧ ∃ m, Number.ofInteger u.negative m = .integer n ∧
      gather maxSignificand 0 u.whole = (m, []) := by
  obtain ⟨negative, whole, fraction, exponent⟩ := u
  cases exponent with
  | some exponent =>
    cases fraction <;> simp only [Numeral.value] at h <;> split at h
    · exact absurd h (ofDecimal_ne_integer _ _ _ n)
    · split at h <;> cases h
    · exact absurd h (ofDecimal_ne_integer _ _ _ n)
    · split at h <;> cases h
  | none =>
    cases fraction with
    | some ds =>
      simp only [Numeral.value, Option.isNone_some, Bool.false_eq_true, false_and, if_false] at h
      exact absurd h (ofDecimal_ne_integer _ _ _ n)
    | none =>
      simp only [Numeral.value, Option.isNone_none, true_and, List.isEmpty_iff] at h
      split at h
      · next hdropped => exact ⟨rfl, rfl, _, h, Prod.ext rfl hdropped⟩
      · exact absurd h (ofDecimal_ne_integer _ _ _ n)

/-- An integer without sign is written by the digits of its whole part alone. -/
theorem natural_of_value {w : List Char} {u : Numeral} {n : Int} (hw : NumberText w u)
    (h : u.value = .integer n) (hn : 0 ≤ n) : NaturalText w n.toNat := by
  obtain ⟨hsign, hwhole, hfraction, hexponent⟩ := hw
  obtain ⟨rfl, rfl, m, hinteger, hgather⟩ := eq_of_value h
  obtain ⟨rfl, rfl⟩ := ofInteger_eq hinteger hn
  obtain ⟨rfl, -⟩ | ⟨-, hminus⟩ := hsign
  · cases hfraction
    cases hexponent
    rw [List.nil_append, List.append_nil, List.append_nil]
    exact ⟨hwhole, eq_of_gather hgather⟩
  · cases hminus

/-- The value of an integer that fits. -/
theorem value_of_natural {w : List Char} {n : Nat} (h : NaturalText w n) (hn : n ≤ maxSignificand) :
    (Numeral.mk false w none none).value = .integer n := by
  obtain ⟨hwhole, rfl⟩ := h
  simp only [Numeral.value, gather_of_le hn]
  rfl

end GrammarLint.Json
