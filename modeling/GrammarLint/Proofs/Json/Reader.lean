/-
  GrammarLint/Proofs/Json/Reader.lean
  ===================================
  **Readers and formats** — a reader `Reads` a format if it takes the texts of the format
  off a document, with the blanks in front of them, and nothing else.

  The two directions are the two ways in which a reader can be wrong: what it accepted is
  not of the format (`sound`), or a text of the format is refused or read as something else
  (`complete`).  Strings, integers and lists are covered here, and the parts that objects of
  all kinds are read by.  A list is read entry by entry with a clock; the clock never runs
  out, for a text is longer than it has entries.
-/
import GrammarLint.Json.Reader
import GrammarLint.Proofs.Json.Literal
import GrammarLint.Proofs.Json.Scan

namespace GrammarLint.Json

/-! ### Formats -/

/-- The reader and the format `F`, which says what the texts are and what they stand for. -/
structure Reads {α : Type} (read : Reader α) (F : List Char → α → Prop) : Prop where
  begins : ∀ {w x}, F w x → Begins w
  sound : ∀ {s x rest}, read s = .ok (x, rest) →
    ∃ a w, s = a ++ (w ++ rest) ∧ Blanks a ∧ F w x
  complete : ∀ {a w x rest}, Blanks a → F w x → Ends rest →
    read (a ++ (w ++ rest)) = .ok (x, rest)

theorem Reads.congr {α : Type} {read : Reader α} {F G : List Char → α → Prop}
    (h : Reads read F) (hFG : ∀ w x, F w x ↔ G w x) : Reads read G := by
  have hF : F = G := by
    funext w x
    exact propext (hFG w x)
  rwa [← hF]

/-- A reader that goes on with a change of form. -/
theorem Reads.map {α β : Type} {read : Reader α} {F : List Char → α → Prop} (h : Reads read F)
    {f : α → β} {g : β → α} (hfg : ∀ y, f (g y) = y) (hgf : ∀ w x, F w x → g (f x) = x) :
    Reads (read.map f) fun w y => F w (g y) where
  begins hy := h.begins hy
  sound := by
    intro s y rest hread
    unfold Reader.map at hread
    split at hread
    · cases hread
    · next x t hx =>
      cases hread
      obtain ⟨a, w, hs, ha, hw⟩ := h.sound hx
      exact ⟨a, w, hs, ha, by rwa [hgf w x hw]⟩
  complete := by
    intro a w y rest ha hy hrest
    simp only [Reader.map, h.complete ha hy hrest, hfg]

/-! ### Strings -/

theorem LiteralText.begins {w : List Char} {text : String} (h : LiteralText w text) : Begins w := by
  obtain ⟨pieces, rfl, -⟩ := h
  exact ⟨'"', _, rfl, rfl, by decide⟩

theorem skipBlanks_literal {a : List Char} (ha : Blanks a) {w : List Char} {text : String}
    (h : LiteralText w text) (rest : List Char) :
    ∃ s, skipBlanks (a ++ (w ++ rest)) = '"' :: s ∧ readBody [] s = .ok (text.toList, rest) := by
  obtain ⟨pieces, rfl, hpieces⟩ := h
  refine ⟨pieces.flatten ++ '"' :: rest, ?_, readBody_pieces [] rest hpieces⟩
  rw [List.cons_append, skipBlanks_append_cons ha rfl, List.append_assoc]
  rfl

theorem literalText_of_readBody {s cs rest : List Char} (h : readBody [] s = .ok (cs, rest)) :
    ∃ w, '"' :: s = w ++ rest ∧ LiteralText w (String.ofList cs) := by
  obtain ⟨pieces, text, rfl, rfl, hpieces⟩ := eq_of_readBody h
  exact ⟨'"' :: (pieces.flatten ++ ['"']), by simp, pieces, rfl, by simpa using hpieces⟩

theorem reads_stringAs (expected : String) : Reads (stringAs expected) LiteralText where
  begins := LiteralText.begins
  sound := by
    intro s x rest h
    unfold stringAs at h
    split at h
    · cases h
    · next t hs =>
      split at h
      · cases h
      · next cs t' hbody =>
        cases h
        obtain ⟨a, ha, rfl⟩ := eq_of_skipBlanks hs
        obtain ⟨w, hw, htext⟩ := literalText_of_readBody hbody
        exact ⟨a, w, by rw [hw], ha, htext⟩
    · cases h
  complete := by
    intro a w x rest ha hw _
    obtain ⟨s, hs, hbody⟩ := skipBlanks_literal ha hw rest
    simp only [stringAs, hs, hbody, String.ofList_toList]

theorem reads_string : Reads string LiteralText := reads_stringAs _

/-- A variant is read from its name. -/
theorem variant_append {α : Type} {variants : List (String × α)} {name : String} {x : α}
    (h : variants.lookup name = some x) {w rest : List Char} (hw : LiteralText w name)
    (hrest : Ends rest) : variant variants (w ++ rest) = .ok (x, rest) := by
  have hread := (reads_stringAs "variant identifier").complete blanks_nil hw hrest
  obtain ⟨pieces, rfl, -⟩ := hw
  rw [List.nil_append] at hread
  have hname : variant variants ('"' :: (pieces.flatten ++ ['"']) ++ rest) =
      variantName variants ('"' :: (pieces.flatten ++ ['"']) ++ rest) := rfl
  simp only [hname, variantName, hread, h]

/-! ### Integers -/

theorem isBlank_of_isDigit {c : Char} (h : c.isDigit = true) : isBlank c = false := by
  by_contra hblank
  simp only [Bool.not_eq_false, isBlank, Bool.or_eq_true, beq_iff_eq] at hblank
  rcases hblank with ((rfl | rfl) | rfl) | rfl <;> cases h

theorem begins_of_number {c : Char} (h : c = '-' ∨ c.isDigit = true) (s : List Char) :
    Begins (c :: s) := by
  refine ⟨c, s, rfl, ?_, ?_⟩
  · rcases h with rfl | h
    · rfl
    · exact isBlank_of_isDigit h
  · rintro rfl
    rcases h with h | h <;> cases h

theorem NumberText.begins {w : List Char} {u : Numeral} (h : NumberText w u) : Begins w := by
  obtain ⟨c, s, rfl, hc⟩ := h.head
  exact begins_of_number hc s

/-- The number that an integer without sign is. -/
theorem NaturalText.number {w : List Char} {n : Nat} (h : NaturalText w n) :
    NumberText w ⟨false, w, none, none⟩ := by
  simpa using NumberText.mk (Or.inl ⟨rfl, rfl⟩) h.1 .none .none

theorem reads_natural {max : Nat} (hmax : max ≤ maxSignificand) (expected : String) :
    Reads (natural max expected) fun w n => NaturalText w n ∧ n ≤ max where
  begins h := h.1.number.begins
  sound := by
    intro s n rest h
    unfold natural at h
    split at h
    · cases h
    · next c t hs =>
      split at h
      · split at h
        · cases h
        · next u t' hscan =>
          split at h
          · next m hvalue =>
            split at h
            · next hrange =>
              cases h
              obtain ⟨a, ha, rfl⟩ := eq_of_skipBlanks hs
              obtain ⟨w, hw, hnumber⟩ := eq_of_scanNumeral hscan
              exact ⟨a, w, by rw [hw], ha, natural_of_value hnumber hvalue hrange.1, by omega⟩
            · cases h
          · cases h
          · cases h
      · cases h
  complete := by
    rintro a w n rest ha ⟨hw, hn⟩ hrest
    have hnumber := hw.number
    have hblanks := hnumber.begins.skipBlanks ha rest
    have hscan := scanNumeral_append .eofInValue hnumber hrest
    obtain ⟨c, s, rfl, hc⟩ := hnumber.head
    simp only [List.cons_append] at hblanks hscan ⊢
    have hvalue := value_of_natural hw (Nat.le_trans hn hmax)
    simp only [natural, hblanks, if_pos hc, hscan, hvalue]
    rw [if_pos ⟨Int.natCast_nonneg n, by omega⟩, Int.toNat_natCast]

/-- Integers of 32 bits without sign. -/
theorem reads_uint32 : Reads uint32 fun w n => NaturalText w n.toNat := by
  have hnat : ∀ n : UInt32, UInt32.ofNat n.toNat = n := fun _ => UInt32.ofNat_toNat
  have hfits : ∀ w n, NaturalText w n ∧ n ≤ 4294967295 → (UInt32.ofNat n).toNat = n := by
    rintro w n ⟨-, hn⟩
    exact UInt32.toNat_ofNat_of_lt' (by simp only [UInt32.size]; omega)
  refine ((reads_natural (by decide) "u32").map hnat hfits).congr fun w n => ?_
  have hlt := n.toNat_lt
  exact and_iff_left (by omega)

/-- Integers of 64 bits without sign. -/
theorem reads_uint64 :
    Reads uint64 fun w n => NaturalText w n ∧ n ≤ 18446744073709551615 :=
  reads_natural (by decide) "u64"

/-! ### Null -/

/-- **Values that may be null.**  The format must not have texts that look like `null`. -/
theorem Reads.nullable {α : Type} {read : Reader α} {F : List Char → α → Prop}
    (h : Reads read F) (hletter : ∀ {w x}, F w x → w.head? ≠ some 'n') :
    Reads (nullable read) (NullableText F) where
  begins := by
    intro w x hw
    rcases hw with _ | hw
    · exact ⟨'n', _, rfl, rfl, by decide⟩
    · exact h.begins hw
  sound := by
    intro s x rest hread
    unfold Json.nullable at hread
    split at hread
    · next t hs =>
      split at hread
      · cases hread
      · next t' hword =>
        cases hread
        obtain ⟨a, ha, rfl⟩ := eq_of_skipBlanks hs
        rw [eq_of_scanWord hword]
        exact ⟨a, _, rfl, ha, .null⟩
    · unfold Reader.map at hread
      split at hread
      · cases hread
      · next y t hy =>
        cases hread
        obtain ⟨b, hb, hs⟩ := eq_append_skipBlanks s
        obtain ⟨a, w, hskipped, ha, hw⟩ := h.sound hy
        rw [hskipped, ← List.append_assoc] at hs
        exact ⟨b ++ a, w, hs, hb.append ha, .given hw⟩
  complete := by
    intro a w x rest ha hw hrest
    rcases hw with _ | hw
    · have hblanks := skipBlanks_append_cons ha (c := 'n') rfl ("ull".toList ++ rest)
      have hword := scanWord_append "ull".toList rest
      simp only [Json.nullable]
      rw [show a ++ (['n', 'u', 'l', 'l'] ++ rest) = a ++ 'n' :: ("ull".toList ++ rest) from rfl,
        hblanks]
      simp only [hword]
    · have hblanks := (h.begins hw).skipBlanks ha rest
      have hread := h.complete blanks_nil hw hrest
      have hhead := hletter hw
      obtain ⟨c, s, rfl, -⟩ := h.begins hw
      have hc : c ≠ 'n' := fun heq => hhead (heq ▸ rfl)
      rw [List.nil_append] at hread
      unfold Json.nullable
      rw [hblanks]
      split
      · next hs => exact absurd (List.cons.inj hs).1 hc
      · rw [Reader.map, hread]

/-! ### Separators -/

/-- Blanks behind a separator belong to it. -/
theorem Separator.append {first : Bool} {p : List Char} (h : Separator first p) {a : List Char}
    (ha : Blanks a) : Separator first (p ++ a) := by
  cases first with
  | true => exact Blanks.append h ha
  | false =>
    obtain ⟨b, a', rfl, hb, ha'⟩ := h
    exact ⟨b, a' ++ a, by simp, hb, ha'.append ha⟩

theorem eq_of_nextElement_close {first : Bool} {s rest : List Char}
    (h : nextElement first s = .ok (.close rest)) : ∃ b, s = b ++ ']' :: rest ∧ Blanks b := by
  unfold nextElement at h
  split at h
  · cases h
  · next c t hs =>
    split at h
    · next hc =>
      subst hc
      cases h
      obtain ⟨b, hb, rfl⟩ := eq_of_skipBlanks hs
      exact ⟨b, rfl, hb⟩
    · split at h
      · cases h
      · split at h
        · split at h
          · cases h
          · split at h <;> cases h
        · cases h

theorem eq_of_nextElement_more {first : Bool} {s rest : List Char}
    (h : nextElement first s = .ok (.more () rest)) :
    ∃ p, s = p ++ rest ∧ Separator first p := by
  unfold nextElement at h
  split at h
  · cases h
  · next c t hs =>
    obtain ⟨b, hb, rfl⟩ := eq_of_skipBlanks hs
    split at h
    · cases h
    · cases first with
      | true =>
        cases h
        exact ⟨b, rfl, hb⟩
      | false =>
        simp only [Bool.false_eq_true, if_false] at h
        split at h
        · next hc =>
          subst hc
          split at h
          · cases h
          · next d t' ht =>
            obtain ⟨a, ha, rfl⟩ := eq_of_skipBlanks ht
            split at h
            · cases h
            · cases h
              exact ⟨b ++ ',' :: a, by simp, b, a, rfl, hb, ha⟩
        · cases h

theorem nextElement_close (first : Bool) {b : List Char} (hb : Blanks b) (rest : List Char) :
    nextElement first (b ++ ']' :: rest) = .ok (.close rest) := by
  simp only [nextElement, skipBlanks_append_cons hb (c := ']') rfl, if_true]

theorem nextElement_more {first : Bool} {p w : List Char} (hp : Separator first p)
    (hw : Begins w) (rest : List Char) :
    nextElement first (p ++ (w ++ rest)) = .ok (.more () (w ++ rest)) := by
  cases first with
  | true =>
    have hblanks := hw.skipBlanks hp rest
    obtain ⟨c, s, rfl, -, hc⟩ := hw
    rw [List.cons_append] at hblanks ⊢
    simp only [nextElement, hblanks, if_neg hc, if_true]
  | false =>
    obtain ⟨b, a, rfl, hb, ha⟩ := hp
    have hblanks := hw.skipBlanks ha rest
    obtain ⟨c, s, rfl, -, hc⟩ := hw
    have hcomma : (',' : Char) ≠ ']' := by decide
    simp only [nextElement, List.append_assoc, List.cons_append,
      skipBlanks_append_cons hb (c := ',') rfl] at hblanks ⊢
    simp only [if_neg hcomma, if_true, Bool.false_eq_true, if_false, hblanks, if_neg hc]

/-! ### Lists -/

theorem eq_of_elements {α : Type} {read : Reader α} {F : List Char → α → Prop}
    (hread : Reads read F) {clock : List Char} {first : Bool} {acc xs : List α}
    {s rest : List Char} (h : elements read clock first acc s = .ok (xs, rest)) :
    ∃ row ys, s = row ++ ']' :: rest ∧ xs = acc.reverse ++ ys ∧ Row F first row ys := by
  induction clock generalizing first acc s with
  | nil => cases h
  | cons _ clock ih =>
    unfold elements at h
    split at h
    · cases h
    · next t hclose =>
      cases h
      obtain ⟨b, rfl, hb⟩ := eq_of_nextElement_close hclose
      exact ⟨b, [], rfl, (List.append_nil _).symm, .nil hb⟩
    · next t hmore =>
      split at h
      · cases h
      · next x t' hx =>
        obtain ⟨p, rfl, hp⟩ := eq_of_nextElement_more hmore
        obtain ⟨a, w, rfl, ha, hw⟩ := hread.sound hx
        obtain ⟨row, ys, rfl, rfl, hrow⟩ := ih h
        exact ⟨p ++ a ++ (w ++ row), x :: ys, by simp, by simp, .cons (hp.append ha) hw hrow⟩

theorem Begins.length_pos {w : List Char} (h : Begins w) : 0 < w.length := by
  obtain ⟨c, s, rfl, -⟩ := h
  exact Nat.succ_pos _

theorem elements_row {α : Type} {read : Reader α} {F : List Char → α → Prop}
    (hread : Reads read F) {first : Bool} {row : List Char} {ys : List α}
    (hrow : Row F first row ys) (clock : List Char) (acc : List α) (rest : List Char)
    (hclock : row.length < clock.length) :
    elements read clock first acc (row ++ ']' :: rest) = .ok (acc.reverse ++ ys, rest) := by
  induction hrow generalizing clock acc with
  | nil hb =>
    cases clock with
    | nil => cases hclock
    | cons _ clock => simp only [elements, nextElement_close _ hb, List.append_nil]
  | @cons first p w s x xs hp hx more ih =>
    cases clock with
    | nil => cases hclock
    | cons _ clock =>
      have hpos := (hread.begins hx).length_pos
      have hrest : Ends (s ++ ']' :: rest) := more.ends (ends_cons (by simp) rest)
      have hvalue : read (w ++ (s ++ ']' :: rest)) = .ok (x, s ++ ']' :: rest) :=
        hread.complete blanks_nil hx hrest
      have hlength : s.length < clock.length := by
        simp only [List.length_append, List.length_cons] at hclock
        omega
      rw [List.append_assoc, List.append_assoc]
      simp only [elements, nextElement_more hp (hread.begins hx), hvalue, ih clock _ hlength]
      simp

theorem Bracketed.begins {ε : Type} {closing : Char} {E : List Char → ε → Prop} {w : List Char}
    {xs : List ε} {opening : Char} (h : Bracketed opening closing E w xs)
    (hopening : isBlank opening = false ∧ opening ≠ ']') : Begins w := by
  obtain ⟨row, rfl, -⟩ := h
  exact ⟨opening, _, rfl, hopening⟩

/-- **Lists.**  A list is read with the reader of its elements. -/
theorem Reads.list {α : Type} {read : Reader α} {F : List Char → α → Prop}
    (h : Reads read F) : Reads (list read) (Bracketed '[' ']' F) where
  begins hw := hw.begins (by decide)
  sound := by
    intro s xs rest hread
    unfold Json.list at hread
    split at hread
    · cases hread
    · next t hs =>
      obtain ⟨a, ha, rfl⟩ := eq_of_skipBlanks hs
      obtain ⟨row, ys, rfl, rfl, hrow⟩ := eq_of_elements h hread
      exact ⟨a, '[' :: (row ++ [']']), by simp, ha, row, rfl, hrow⟩
    · cases hread
  complete := by
    rintro a w xs rest ha ⟨row, rfl, hrow⟩ -
    have hclock : row.length < (row ++ ']' :: rest).length := by simp
    simp only [Json.list, List.cons_append, List.append_assoc,
      skipBlanks_append_cons ha (c := '[') rfl]
    exact elements_row h hrow _ [] rest hclock

/-! ### Members -/

theorem eq_of_memberKey {s rest : List Char} {key : String}
    (h : memberKey s = .ok (.more key rest)) : ∃ k, s = k ++ rest ∧ LiteralText k key := by
  unfold memberKey at h
  split at h
  · cases h
  · split at h
    · cases h
    · next hbody =>
      cases h
      exact literalText_of_readBody hbody
  · cases h
  · cases h

theorem memberKey_ne_close {s rest : List Char} : memberKey s ≠ .ok (.close rest) := by
  intro h
  unfold memberKey at h
  split at h
  · cases h
  · split at h <;> cases h
  · cases h
  · cases h

theorem memberKey_append {k : List Char} {key : String} (h : LiteralText k key)
    (rest : List Char) : memberKey (k ++ rest) = .ok (.more key rest) := by
  obtain ⟨s, hs, hbody⟩ := skipBlanks_literal blanks_nil h rest
  have hk : k ++ rest = '"' :: s := by
    obtain ⟨pieces, rfl, -⟩ := h
    exact hs
  simp only [hk, memberKey, hbody, String.ofList_toList]

theorem eq_of_nextMember_close {first : Bool} {s rest : List Char}
    (h : nextMember first s = .ok (.close rest)) : ∃ b, s = b ++ '}' :: rest ∧ Blanks b := by
  unfold nextMember at h
  split at h
  · cases h
  · next c t hs =>
    split at h
    · next hc =>
      subst hc
      cases h
      obtain ⟨b, hb, rfl⟩ := eq_of_skipBlanks hs
      exact ⟨b, rfl, hb⟩
    · split at h
      · exact absurd h memberKey_ne_close
      · split at h
        · exact absurd h memberKey_ne_close
        · cases h

theorem eq_of_nextMember_more {first : Bool} {s rest : List Char} {key : String}
    (h : nextMember first s = .ok (.more key rest)) :
    ∃ p k, s = p ++ (k ++ rest) ∧ Separator first p ∧ LiteralText k key := by
  unfold nextMember at h
  split at h
  · cases h
  · next c t hs =>
    obtain ⟨b, hb, rfl⟩ := eq_of_skipBlanks hs
    split at h
    · cases h
    · cases first with
      | true =>
        obtain ⟨k, hk, hkey⟩ := eq_of_memberKey h
        exact ⟨b, k, by rw [hk], hb, hkey⟩
      | false =>
        simp only [Bool.false_eq_true, if_false] at h
        split at h
        · next hc =>
          subst hc
          obtain ⟨a, ha, ht⟩ := eq_append_skipBlanks t
          obtain ⟨k, hk, hkey⟩ := eq_of_memberKey h
          exact ⟨b ++ ',' :: a, k, by rw [ht, hk]; simp, ⟨b, a, rfl, hb, ha⟩, hkey⟩
        · cases h

theorem nextMember_close (first : Bool) {b : List Char} (hb : Blanks b) (rest : List Char) :
    nextMember first (b ++ '}' :: rest) = .ok (.close rest) := by
  simp only [nextMember, skipBlanks_append_cons hb (c := '}') rfl, if_true]

theorem nextMember_more {first : Bool} {p k : List Char} {key : String} (hp : Separator first p)
    (hk : LiteralText k key) (rest : List Char) :
    nextMember first (p ++ (k ++ rest)) = .ok (.more key rest) := by
  have hkey := memberKey_append hk rest
  cases first with
  | true =>
    have hblanks := hk.begins.skipBlanks hp rest
    obtain ⟨pieces, rfl, -⟩ := hk
    rw [List.cons_append] at hblanks hkey ⊢
    have hquote : ('"' : Char) ≠ '}' := by decide
    simp only [nextMember, hblanks, if_neg hquote, if_true, hkey]
  | false =>
    obtain ⟨b, a, rfl, hb, ha⟩ := hp
    have hblanks := hk.begins.skipBlanks ha rest
    have hcomma : (',' : Char) ≠ '}' := by decide
    simp only [nextMember, List.append_assoc, List.cons_append,
      skipBlanks_append_cons hb (c := ',') rfl, if_neg hcomma, if_true, Bool.false_eq_true,
      if_false, hblanks, hkey]

theorem eq_of_colon {s rest : List Char} (h : colon s = .ok rest) :
    ∃ a, s = a ++ ':' :: rest ∧ Blanks a := by
  unfold colon at h
  split at h
  · cases h
  · next hs =>
    cases h
    obtain ⟨a, ha, rfl⟩ := eq_of_skipBlanks hs
    exact ⟨a, rfl, ha⟩
  · cases h

theorem colon_append {a : List Char} (ha : Blanks a) (rest : List Char) :
    colon (a ++ ':' :: rest) = .ok rest := by
  simp only [colon, skipBlanks_append_cons ha (c := ':') rfl]

/-! ### Whole documents -/

/-- **A document is accepted if it holds a text of the format and blanks around it**, and
    only then. -/
theorem Reads.parse_eq_ok {α : Type} {read : Reader α} {F : List Char → α → Prop}
    (h : Reads read F) {text : String} {x : α} : parse read text = .ok x ↔ Document F text x := by
  have hparse : parse read text = .ok x ↔ readAll read text.toList = .ok x := by
    unfold parse
    cases readAll read text.toList <;> simp [Except.mapError]
  rw [hparse]
  constructor
  · intro hread
    unfold readAll at hread
    split at hread
    · cases hread
    · next y t hy =>
      obtain ⟨a, w, hs, ha, hw⟩ := h.sound hy
      split at hread
      · next hblanks =>
        cases hread
        obtain ⟨b, hb, rfl⟩ := eq_of_skipBlanks hblanks
        exact ⟨a, w, b, by simpa using hs, ha, hb, hw⟩
      · cases hread
  · rintro ⟨a, w, b, hs, ha, hb, hw⟩
    have hends : Ends b := by simpa using ends_nil.blanks hb
    have hblanks : skipBlanks b = [] := by simpa using skipBlanks_append hb []
    simp only [readAll, hs, h.complete ha hw hends, hblanks]

end GrammarLint.Json
