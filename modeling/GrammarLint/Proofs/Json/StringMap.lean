/-
  GrammarLint/Proofs/Json/StringMap.lean
  ======================================
  **Maps of strings** — the objects whose values are strings are read as the list of their
  members, and what is written for a list of members, one on each line, is such an object.
-/
import GrammarLint.Proofs.Json.Writer

namespace GrammarLint.Json

/-- A member whose value is a string. -/
inductive StringMember : List Char → String × String → Prop
  | mk {w v : List Char} {key value : String} (hmember : MemberText w (key, v))
    (hvalue : LiteralText v value) : StringMember w (key, value)

/-! ### Reading -/

theorem eq_of_members {clock : List Char} {first : Bool} {acc entries : List (String × String)}
    {s rest : List Char} (h : members clock first acc s = .ok (entries, rest)) :
    ∃ row es, s = row ++ '}' :: rest ∧ entries = acc.reverse ++ es ∧
      Row StringMember first row es := by
  induction clock generalizing first acc s with
  | nil => cases h
  | cons _ clock ih =>
    unfold members at h
    split at h
    · cases h
    · next t hclose =>
      cases h
      obtain ⟨b, rfl, hb⟩ := eq_of_nextMember_close hclose
      exact ⟨b, [], rfl, (List.append_nil _).symm, .nil hb⟩
    · next key t hmore =>
      obtain ⟨p, k, rfl, hp, hk⟩ := eq_of_nextMember_more hmore
      split at h
      · cases h
      · next t' hcolon =>
        obtain ⟨a, rfl, ha⟩ := eq_of_colon hcolon
        split at h
        · cases h
        · next value t'' hvalue =>
          obtain ⟨b, v, rfl, hb, hv⟩ := reads_string.sound hvalue
          obtain ⟨row, es, rfl, rfl, hrow⟩ := ih h
          exact ⟨p ++ (k ++ (a ++ ':' :: (b ++ v)) ++ row), (key, value) :: es, by simp, by simp,
            .cons hp (.mk (.mk hk ha hb) hv) hrow⟩

theorem members_row {first : Bool} {row : List Char} {es : List (String × String)}
    (hrow : Row StringMember first row es) (clock : List Char) (acc : List (String × String))
    (rest : List Char) (hclock : row.length < clock.length) :
    members clock first acc (row ++ '}' :: rest) = .ok (acc.reverse ++ es, rest) := by
  induction hrow generalizing clock acc with
  | nil hb =>
    cases clock with
    | nil => cases hclock
    | cons _ clock => simp only [members, nextMember_close _ hb, List.append_nil]
  | @cons first p w s e es hp he more ih =>
    cases clock with
    | nil => cases hclock
    | cons _ clock =>
      obtain ⟨⟨hk, ha, hb⟩, hv⟩ := he
      rename_i v key value k a b
      have hrest : Ends (s ++ '}' :: rest) := more.ends (ends_cons (by simp) rest)
      have hlength : s.length < clock.length := by
        simp only [List.length_append, List.length_cons] at hclock
        omega
      have htext : p ++ (k ++ (a ++ ':' :: (b ++ v)) ++ s) ++ '}' :: rest =
          p ++ (k ++ (a ++ ':' :: (b ++ (v ++ (s ++ '}' :: rest))))) := by
        simp
      rw [htext, members, nextMember_more hp hk]
      simp only [colon_append ha, reads_string.complete hb hv hrest, ih clock _ hlength]
      simp

/-- **Maps of strings.** -/
theorem reads_stringMap : Reads stringMap (Bracketed '{' '}' StringMember) where
  begins hw := hw.begins (by decide)
  sound := by
    intro s entries rest h
    unfold stringMap at h
    split at h
    · cases h
    · next t hs =>
      obtain ⟨a, ha, rfl⟩ := eq_of_skipBlanks hs
      obtain ⟨row, es, rfl, rfl, hrow⟩ := eq_of_members h
      exact ⟨a, '{' :: (row ++ ['}']), by simp, ha, row, rfl, hrow⟩
    · cases h
  complete := by
    rintro a w entries rest ha ⟨row, rfl, hrow⟩ -
    have hclock : row.length < (row ++ '}' :: rest).length := by simp
    simp only [stringMap, List.cons_append, List.append_assoc,
      skipBlanks_append_cons ha (c := '{') rfl]
    exact members_row hrow _ [] rest hclock

/-! ### Writing -/

theorem stringMember_line (key value : String) :
    StringMember (literal key ++ ':' :: ' ' :: literal value) (key, value) := by
  have hblank : Blanks [' '] := by simp [Blanks]
  exact .mk (.mk (a := []) (literalText_literal key) blanks_nil hblank) (literalText_literal value)

theorem bracketed_prettyMap (entries : List (String × String)) :
    Bracketed '{' '}' StringMember (prettyMap entries) entries := by
  cases entries with
  | nil => exact ⟨[], rfl, .nil blanks_nil⟩
  | cons e entries =>
    have hbreak : Blanks ['\n'] := by simp [Blanks]
    have hindent : Blanks [' ', ' '] := by simp [Blanks]
    have hlines : ∀ e' ∈ e :: entries,
        StringMember (literal e'.1 ++ ':' :: ' ' :: literal e'.2) e' :=
      fun e' _ => stringMember_line e'.1 e'.2
    have hrow := (row_separated hlines hbreak hindent hbreak).blanks_append hbreak
    exact ⟨_, by simp [prettyMap, memberLine], hrow⟩

/-- The document of a map of strings holds that map. -/
theorem parse_prettyMap (entries : List (String × String)) :
    parse stringMap (String.ofList (prettyMap entries)) = .ok entries :=
  reads_stringMap.parse_eq_ok.mpr ⟨[], prettyMap entries, [], by simp, blanks_nil, blanks_nil,
    bracketed_prettyMap entries⟩

/-- A compact object of strings holds its members. -/
theorem parse_object_literals (entries : List (String × String)) :
    parse stringMap (String.ofList (object (entries.map fun e => (e.1, literal e.2)))) =
      .ok entries := by
  have hrow : Row StringMember true
      (separated [','] (entries.map fun e => member e.1 (literal e.2))) entries :=
    row_compact fun e _ => .mk (memberText_member e.1 (literal e.2)) (literalText_literal e.2)
  have hobject : Bracketed '{' '}' StringMember
      (object (entries.map fun e => (e.1, literal e.2))) entries := by
    rw [object, List.map_map]
    exact ⟨_, rfl, hrow⟩
  generalize object (entries.map fun e => (e.1, literal e.2)) = text at hobject ⊢
  exact reads_stringMap.parse_eq_ok.mpr
    ⟨[], text, [], by simp, blanks_nil, blanks_nil, hobject⟩

end GrammarLint.Json
