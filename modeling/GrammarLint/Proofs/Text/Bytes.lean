/-
  GrammarLint/Proofs/Text/Bytes.lean
  ==================================
  **Places in a text** — the bytes of a text, the offsets at which its characters begin, and
  what is cut out between two of them.

  A text may be cut at an offset if some characters at its front take just so many bytes.
  `cut?` cuts there and nowhere else: inside a character, and past the end, there is no
  answer (`cut?_eq_some_iff`).  So a computation that cuts with it and has an answer has cut
  at such places only.  `charAt?`, `dropBytes` and `takeBytes` have an answer everywhere, and
  the same one where a text may be cut.

  A line feed is one byte, and no other character has this byte in it.
-/
import GrammarLint.Text.Utf8

namespace GrammarLint.Text

/-! ### Lengths -/

theorem utf8Length_eq_zero_iff {cs : List Char} : utf8Length cs = 0 ↔ cs = [] := by
  cases cs with
  | nil => simp
  | cons c cs =>
    have hpos := c.utf8Size_pos
    simp only [utf8Length_cons, reduceCtorEq, iff_false]
    omega

/-- Two beginnings of a text that have as many bytes are the same. -/
theorem eq_of_utf8Length_eq {a b a' b' : List Char} (htext : a ++ b = a' ++ b')
    (hlength : utf8Length a = utf8Length a') : a = a' ∧ b = b' := by
  rcases List.append_eq_append_iff.mp htext with ⟨m, rfl, rfl⟩ | ⟨m, rfl, rfl⟩
  all_goals
    have hm : utf8Length m = 0 := by
      rw [utf8Length_append] at hlength
      omega
    obtain rfl := utf8Length_eq_zero_iff.mp hm
    simp

theorem utf8Length_toList (text : String) : utf8Length text.toList = text.utf8ByteSize := by
  have hofList : ∀ cs : List Char, utf8Length cs = (String.ofList cs).utf8ByteSize := by
    intro cs
    induction cs with
    | nil => simp
    | cons c cs ih =>
      rw [utf8Length_cons, ih, String.ofList_cons, String.utf8ByteSize_append,
        String.utf8ByteSize_singleton]
  rw [hofList, String.ofList_toList]

/-- The places at which a text may be cut. -/
theorem isValid_iff {text : String} {n : Nat} :
    (⟨n⟩ : String.Pos.Raw).IsValid text ↔ ∃ a b, text.toList = a ++ b ∧ utf8Length a = n := by
  rw [String.Pos.Raw.isValid_iff_exists_append]
  constructor
  · rintro ⟨a, b, rfl, hn⟩
    refine ⟨a.toList, b.toList, String.toList_append, ?_⟩
    rw [utf8Length_toList]
    exact (congrArg String.Pos.Raw.byteIdx hn).symm
  · rintro ⟨a, b, htext, rfl⟩
    refine ⟨String.ofList a, String.ofList b, ?_, ?_⟩
    · rw [← String.ofList_append, ← htext, String.ofList_toList]
    · rw [← String.toList_ofList (l := a), utf8Length_toList, String.ofList_toList]
      rfl

/-! ### Cutting -/

/-- The first `n` bytes of a text and what is behind them, if these are whole characters. -/
def cut? : List Char → Nat → Option (List Char × List Char)
  | cs, 0 => some ([], cs)
  | [], _ + 1 => none
  | c :: cs, n + 1 =>
    if n + 1 < c.utf8Size then none
    else (cut? cs (n + 1 - c.utf8Size)).map fun parts => (c :: parts.1, parts.2)

theorem cut?_append (a b : List Char) : cut? (a ++ b) (utf8Length a) = some (a, b) := by
  induction a with
  | nil => cases b <;> rfl
  | cons c a ih =>
    have hpos := c.utf8Size_pos
    obtain ⟨n, hn⟩ : ∃ n, utf8Length (c :: a) = n + 1 := by
      refine Nat.exists_eq_add_one.mpr ?_
      rw [utf8Length_cons]
      omega
    have hlength : n + 1 = c.utf8Size + utf8Length a := by rw [← hn, utf8Length_cons]
    rw [hn, List.cons_append, cut?, if_neg (by omega), hlength, Nat.add_sub_cancel_left, ih]
    rfl

/-- **A text is cut between its characters only.** -/
theorem cut?_eq_some_iff {cs a b : List Char} {n : Nat} :
    cut? cs n = some (a, b) ↔ cs = a ++ b ∧ utf8Length a = n := by
  constructor
  · intro h
    fun_induction cut? cs n generalizing a with
    | case1 cs =>
      cases h
      exact ⟨rfl, rfl⟩
    | case2 => cases h
    | case3 => cases h
    | case4 c cs n hfits ih =>
      obtain ⟨⟨a', b'⟩, hcut, hparts⟩ := Option.map_eq_some_iff.mp h
      cases hparts
      obtain ⟨rfl, hlength⟩ := ih hcut
      refine ⟨rfl, ?_⟩
      rw [utf8Length_cons, hlength]
      omega
  · rintro ⟨rfl, rfl⟩
    exact cut?_append a b

/-- The text from byte `first` up to byte `last`, if it may be cut there. -/
def slice? (cs : List Char) (first last : Nat) : Option (List Char) :=
  if last < first then none
  else (cut? cs first).bind fun parts => (cut? parts.2 (last - first)).map (·.1)

theorem slice?_append (a m b : List Char) :
    slice? (a ++ (m ++ b)) (utf8Length a) (utf8Length a + utf8Length m) = some m := by
  rw [slice?, if_neg (by omega), cut?_append, Option.bind_some, Nat.add_sub_cancel_left,
    cut?_append]
  rfl

/-! ### Cutting anywhere -/

theorem charAt?_append (a b : List Char) : charAt? (a ++ b) (utf8Length a) = b.head? := by
  induction a with
  | nil => cases b <;> rfl
  | cons c a ih =>
    have hpos := c.utf8Size_pos
    rw [List.cons_append, charAt?, utf8Length_cons, if_neg (by omega), Nat.add_sub_cancel_left, ih]

theorem dropBytes_append (a b : List Char) : dropBytes (a ++ b) (utf8Length a) = b := by
  induction a with
  | nil => cases b <;> rfl
  | cons c a ih =>
    have hpos := c.utf8Size_pos
    rw [List.cons_append, dropBytes, utf8Length_cons, if_neg (by omega), Nat.add_sub_cancel_left,
      ih]

theorem takeBytes_append (acc a b : List Char) :
    takeBytes acc (a ++ b) (utf8Length a) = acc.reverse ++ a := by
  induction a generalizing acc with
  | nil =>
    cases b with
    | nil => simp [takeBytes]
    | cons c b => simp [takeBytes, c.utf8Size_pos]
  | cons c a ih =>
    rw [List.cons_append, takeBytes, utf8Length_cons, if_neg (by omega), Nat.add_sub_cancel_left,
      ih, List.reverse_cons, List.append_assoc]
    rfl

theorem slice_append (a m b : List Char) :
    slice (a ++ (m ++ b)) (utf8Length a) (utf8Length a + utf8Length m) = m := by
  rw [slice, dropBytes_append, Nat.add_sub_cancel_left, takeBytes_append]
  rfl

/-! ### Bytes -/

def bytes (cs : List Char) : List UInt8 := cs.flatMap String.utf8EncodeChar

/-- The bytes of a text are those that it is stored as. -/
theorem toByteArray_bytes (cs : List Char) : (bytes cs).toByteArray = (String.ofList cs).toUTF8 :=
  String.toByteArray_ofList.symm

theorem length_bytes (cs : List Char) : (bytes cs).length = utf8Length cs := by
  induction cs with
  | nil => rfl
  | cons c cs ih =>
    rw [utf8Length_cons, ← ih, ← String.length_utf8EncodeChar c, ← List.length_append]
    rfl

/-- **Only a line feed has the byte of a line feed in it.** -/
theorem newline_mem_utf8EncodeChar_iff {c : Char} :
    0x0A ∈ String.utf8EncodeChar c ↔ c = '\n' := by
  constructor
  · intro h
    -- The bytes of a longer character are 0x80 at least.
    have hvalue : c.val.toNat = 0x0A := by
      unfold String.utf8EncodeChar at h
      dsimp only at h
      repeat' split at h
      all_goals
        simp only [List.mem_cons, List.not_mem_nil, or_false, ← UInt8.toNat_inj,
          UInt8.toNat_ofNat', UInt8.reduceToNat] at h
        omega
    exact Char.ext (UInt32.toNat_inj.mp hvalue)
  · rintro rfl
    decide

end GrammarLint.Text
