/-
  GrammarLint/Proofs/Json/Literal.lean
  ====================================
  **Literals are read as they are spelled** — the reader of literals takes exactly the
  spellings of a string, the skipper exactly the well-formed literals, and what is written
  for a string is one of its spellings.

  Both scanners go from escape to escape, so there is one lemma for a single spelling and
  then an induction over the pieces; in the other direction the induction is along the
  scanner itself, which meets one piece in each of its cases.
-/
import GrammarLint.Proofs.Json.Grammar
import Mathlib.Tactic.SplitIfs

namespace GrammarLint.Json

/-! ### Escapes -/

theorem shortEscape?_eq_some_iff {letter c : Char} :
    shortEscape? letter = some c ↔ (letter, c) ∈ shortEscapes := by
  constructor
  · intro h
    unfold shortEscape? at h
    split_ifs at h with hletter hletter hletter hletter hletter hletter hletter hletter
    all_goals
      cases h
      rw [hletter]
      decide
  · have hall : ∀ p ∈ shortEscapes, shortEscape? p.1 = some p.2 := by decide
    exact hall (letter, c)

theorem hexValue?_eq_some_iff {c : Char} {n : Nat} :
    hexValue? c = some n ↔ (c, n) ∈ hexDigits := by
  constructor
  · intro h
    have hlow : c.toNat < 128 := by
      have hlast : '9'.toNat = 57 ∧ 'F'.toNat = 70 ∧ 'f'.toNat = 102 := by decide
      unfold hexValue? at h
      grind
    have hall : ∀ k < 128, ∀ v ∈ hexValue? (Char.ofNat k), (Char.ofNat k, v) ∈ hexDigits := by
      decide +kernel
    have hc := hall c.toNat hlow n
    rw [Char.ofNat_toNat] at hc
    exact hc h
  · have hall : ∀ p ∈ hexDigits, hexValue? p.1 = some p.2 := by decide
    exact hall (c, n)

theorem hexQuad?_eq_some_iff {a b c d : Char} {n : Nat} :
    hexQuad? a b c d = some n ↔ Quad a b c d n := by
  constructor
  · intro h
    obtain ⟨i, hi, h⟩ := Option.bind_eq_some_iff.mp h
    obtain ⟨j, hj, h⟩ := Option.bind_eq_some_iff.mp h
    obtain ⟨k, hk, h⟩ := Option.bind_eq_some_iff.mp h
    obtain ⟨l, hl, h⟩ := Option.bind_eq_some_iff.mp h
    exact ⟨i, j, k, l, hexValue?_eq_some_iff.mp hi, hexValue?_eq_some_iff.mp hj,
      hexValue?_eq_some_iff.mp hk, hexValue?_eq_some_iff.mp hl, (Option.some.inj h).symm⟩
  · rintro ⟨i, j, k, l, hi, hj, hk, hl, rfl⟩
    simp only [← hexValue?_eq_some_iff] at hi hj hk hl
    simp only [hexQuad?, hi, hj, hk, hl, Option.bind_eq_bind, Option.bind_some, Option.pure_def]

theorem isLeading_iff {n : Nat} : isLeading n = true ↔ 0xD800 ≤ n ∧ n ≤ 0xDBFF := by
  simp [isLeading]

theorem isTrailing_iff {n : Nat} : isTrailing n = true ↔ 0xDC00 ≤ n ∧ n ≤ 0xDFFF := by
  simp [isTrailing]

/-- No half of a pair of surrogates. -/
theorem not_surrogate_iff {n : Nat} :
    (isLeading n = false ∧ isTrailing n = false) ↔ n < 0xD800 ∨ 0xDFFF < n := by
  rw [← Bool.not_eq_true, ← Bool.not_eq_true, isLeading_iff, isTrailing_iff]
  omega

theorem pairChar_eq (n m : Nat) :
    pairChar n m = Char.ofNat (0x10000 + (n - 0xD800) * 0x400 + (m - 0xDC00)) := by
  have hnumber : (n - 0xD800) * 0x400 + (m - 0xDC00) + 0x10000 =
      0x10000 + (n - 0xD800) * 0x400 + (m - 0xDC00) := by omega
  rw [pairChar, hnumber]

/-! ### Reading a body -/

/-- A character that is not escaped stands for itself. -/
theorem readBody_plain (acc rest : List Char) {c : Char} (hquote : c ≠ '"') (hslash : c ≠ '\\')
    (hspace : ¬ c < ' ') : readBody acc (c :: rest) = readBody (c :: acc) rest := by
  rw [readBody]
  · exact if_neg hspace
  all_goals simp [hquote, hslash]

/-- A character in front of which no escape is read is no backslash. -/
theorem ne_slash_of_forall {c : Char} {s : List Char}
    (hescape : ∀ d t, c = '\\' → s = d :: t → False) (hend : c = '\\' → s = [] → False) :
    c ≠ '\\' := by
  intro hc
  cases s with
  | nil => exact hend hc rfl
  | cons d t => exact hescape d t hc rfl

theorem readBody_short (acc rest : List Char) {letter c : Char} (h : (letter, c) ∈ shortEscapes) :
    readBody acc ('\\' :: letter :: rest) = readBody (c :: acc) rest := by
  rw [← shortEscape?_eq_some_iff] at h
  have hu : letter ≠ 'u' := by
    rintro rfl
    cases h
  rw [readBody]
  · simp only [h]
  all_goals simp [hu]

/-- **One spelling** is read as the character it stands for. -/
theorem readBody_spelling (acc rest : List Char) {w : List Char} {c : Char} (h : Spelling w c) :
    readBody acc (w ++ rest) = readBody (c :: acc) rest := by
  cases h with
  | plain hquote hslash hcontrol => exact readBody_plain acc rest hquote hslash hcontrol
  | short h => exact readBody_short acc rest h
  | unit h hwhole =>
    obtain ⟨hleading, htrailing⟩ := not_surrogate_iff.mpr hwhole
    simp only [List.cons_append, List.nil_append]
    rw [readBody]
    simp only [hexQuad?_eq_some_iff.mpr h, hleading, htrailing, Bool.false_eq_true, if_false]
  | @pair _ _ _ _ _ _ _ _ n m h h' hleading htrailing =>
    have hboth : isTrailing n = false := by
      rw [← Bool.not_eq_true, isTrailing_iff]
      omega
    simp only [List.cons_append, List.nil_append]
    rw [readBody]
    simp only [hexQuad?_eq_some_iff.mpr h, hexQuad?_eq_some_iff.mpr h', hboth,
      isLeading_iff.mpr hleading, isTrailing_iff.mpr htrailing, pairChar_eq, Bool.false_eq_true,
      if_false, if_true]

/-- A body is read to its closing quote. -/
theorem readBody_pieces (acc rest : List Char) {pieces : List (List Char)} {text : List Char}
    (h : List.Forall₂ Spelling pieces text) :
    readBody acc (pieces.flatten ++ '"' :: rest) = .ok (acc.reverse ++ text, rest) := by
  induction h generalizing acc with
  | nil => rw [List.append_nil]; rfl
  | cons hc _ ih =>
    rw [List.flatten_cons, List.append_assoc, readBody_spelling acc _ hc, ih, List.reverse_cons,
      List.append_assoc]
    rfl

/-- A piece in front of a body that is spelled. -/
theorem spelled_cons {w s acc cs rest : List Char} {c : Char} (hc : Spelling w c)
    (h : ∃ pieces text, s = pieces.flatten ++ '"' :: rest ∧ cs = (c :: acc).reverse ++ text ∧
      List.Forall₂ Spelling pieces text) :
    ∃ pieces text, w ++ s = pieces.flatten ++ '"' :: rest ∧ cs = acc.reverse ++ text ∧
      List.Forall₂ Spelling pieces text := by
  obtain ⟨pieces, text, rfl, rfl, hpieces⟩ := h
  exact ⟨w :: pieces, c :: text, by simp, by simp, .cons hc hpieces⟩

/-- **What is read is spelled.**  By induction along the reader: every call that goes on has
    read one spelling. -/
theorem eq_of_readBody {acc s cs rest : List Char} (h : readBody acc s = .ok (cs, rest)) :
    ∃ pieces text, s = pieces.flatten ++ '"' :: rest ∧ cs = acc.reverse ++ text ∧
      List.Forall₂ Spelling pieces text := by
  fun_induction readBody acc s with
  | case2 =>
    cases h
    exact ⟨[], [], rfl, (List.append_nil _).symm, .nil⟩
  | case6 acc a b c d n hn _ hleading a' b' c' d' s m hm htrailing ih =>
    rw [pairChar_eq] at ih h
    exact spelled_cons (.pair (hexQuad?_eq_some_iff.mp hn) (hexQuad?_eq_some_iff.mp hm)
      (isLeading_iff.mp hleading) (isTrailing_iff.mp htrailing)) (ih h)
  | case9 acc a b c d s n hn htrailing hleading ih =>
    have hwhole := not_surrogate_iff.mp ⟨by simpa using hleading, by simpa using htrailing⟩
    exact spelled_cons (.unit (hexQuad?_eq_some_iff.mp hn) hwhole) (ih h)
  | case11 acc letter s _ _ x hx ih =>
    exact spelled_cons (.short (shortEscape?_eq_some_iff.mp hx)) (ih h)
  | case15 acc c s hquote _ _ hescape hend hcontrol ih =>
    exact spelled_cons (.plain hquote (ne_slash_of_forall hescape hend) hcontrol) (ih h)
  | _ => cases h

/-! ### Skipping a body -/

theorem skipBody_piece (rest : List Char) {p : List Char} (h : Piece p) :
    skipBody (p ++ rest) = skipBody rest := by
  cases h with
  | plain hquote hslash hcontrol =>
    rw [List.singleton_append, skipBody]
    · exact if_neg hcontrol
    all_goals simp [hquote, hslash]
  | @short letter c h =>
    rw [← shortEscape?_eq_some_iff] at h
    have hu : letter ≠ 'u' := by
      rintro rfl
      cases h
    simp only [List.cons_append, List.nil_append]
    rw [skipBody]
    · exact if_pos (h ▸ rfl)
    all_goals simp [hu]
  | unit h =>
    rw [← hexQuad?_eq_some_iff] at h
    simp only [List.cons_append, List.nil_append]
    rw [skipBody]
    exact if_pos (h ▸ rfl)

theorem skipBody_pieces (rest : List Char) {pieces : List (List Char)}
    (h : ∀ p ∈ pieces, Piece p) : skipBody (pieces.flatten ++ '"' :: rest) = .ok rest := by
  induction pieces with
  | nil => rfl
  | cons p pieces ih =>
    rw [List.flatten_cons, List.append_assoc, skipBody_piece _ (h p (by simp))]
    exact ih fun q hq => h q (by simp [hq])

theorem wellFormed_cons {p s rest : List Char} (hp : Piece p)
    (h : ∃ pieces : List (List Char), s = pieces.flatten ++ '"' :: rest ∧ ∀ q ∈ pieces, Piece q) :
    ∃ pieces : List (List Char), p ++ s = pieces.flatten ++ '"' :: rest ∧
      ∀ q ∈ pieces, Piece q := by
  obtain ⟨pieces, rfl, hpieces⟩ := h
  exact ⟨p :: pieces, by simp, List.forall_mem_cons.mpr ⟨hp, hpieces⟩⟩

theorem eq_of_skipBody {s rest : List Char} (h : skipBody s = .ok rest) :
    ∃ pieces : List (List Char), s = pieces.flatten ++ '"' :: rest ∧ ∀ p ∈ pieces, Piece p := by
  fun_induction skipBody s with
  | case2 =>
    cases h
    exact ⟨[], rfl, by simp⟩
  | case3 a b c d s hquad ih =>
    obtain ⟨n, hn⟩ := Option.isSome_iff_exists.mp hquad
    exact wellFormed_cons (.unit (hexQuad?_eq_some_iff.mp hn)) (ih h)
  | case6 letter s _ _ hescape ih =>
    obtain ⟨c, hc⟩ := Option.isSome_iff_exists.mp hescape
    exact wellFormed_cons (.short (shortEscape?_eq_some_iff.mp hc)) (ih h)
  | case10 c s hquote _ _ hescape hend hcontrol ih =>
    exact wellFormed_cons (.plain hquote (ne_slash_of_forall hescape hend) hcontrol) (ih h)
  | _ => cases h

/-! ### Writing -/

theorem hexDigit_mem : ∀ n < 16, (hexDigit n, n) ∈ hexDigits := by decide

/-- Four digits of which two are zeros stand for a byte. -/
theorem quad_zeros {n : Nat} (h : n < 256) :
    Quad '0' '0' (hexDigit (n / 16)) (hexDigit (n % 16)) n :=
  ⟨0, 0, n / 16, n % 16, by decide, by decide, hexDigit_mem _ (by omega), hexDigit_mem _ (by omega),
    by omega⟩

theorem toNat_lt_of_lt_space {c : Char} (h : c < ' ') : c.toNat < 32 := h

/-- The four digits of a control character. -/
theorem spelling_digits {c : Char} (h : c < ' ') :
    Spelling ['\\', 'u', '0', '0', hexDigit (c.toNat / 16), hexDigit (c.toNat % 16)] c := by
  have hlt := toNat_lt_of_lt_space h
  have hspelling := Spelling.unit (quad_zeros (n := c.toNat) (by omega)) (.inl (by omega))
  rwa [Char.ofNat_toNat] at hspelling

/-- **One character.**  What is written for it spells it. -/
theorem spelling_escaped (c : Char) : Spelling (escaped c) c := by
  unfold escaped
  by_cases hquote : c = '"'
  · rw [if_pos hquote]
    exact .short (by rw [hquote]; decide)
  by_cases hslash : c = '\\'
  · rw [if_neg hquote, if_pos hslash]
    exact .short (by rw [hslash]; decide)
  rw [if_neg hquote, if_neg hslash]
  by_cases hspace : c < ' '
  · rw [if_pos hspace]
    -- Of the control characters five have an escape of their own.
    split
    · next hc => exact .short (by rw [hc]; decide)
    split
    · next hc => exact .short (by rw [hc]; decide)
    split
    · next hc => exact .short (by rw [hc]; decide)
    split
    · next hc => exact .short (by rw [hc]; decide)
    split
    · next hc => exact .short (by rw [hc]; decide)
    · exact spelling_digits hspace
  · rw [if_neg hspace]
    exact .plain hquote hslash hspace

theorem spelled_written (text : List Char) :
    List.Forall₂ Spelling (text.map escaped) text := by
  induction text with
  | nil => exact .nil
  | cons c text ih => exact .cons (spelling_escaped c) ih

/-- What is written for a string is a literal of it. -/
theorem literalText_literal (text : String) : LiteralText (literal text) text :=
  ⟨text.toList.map escaped, by rw [literal, List.flatMap_def, List.cons_append],
    spelled_written text.toList⟩

end GrammarLint.Json
