/-
  GrammarLint/Proofs/Json/Skip.lean
  =================================
  **Values that are skipped** — `skipValue` goes past the values of JSON and past nothing
  else.

  The skipper has a stack of open brackets where the grammar has a tree.  What may follow
  a value inside open brackets is `Closes`: for each of them, innermost first, more entries
  and the closing bracket.  Whatever the skipper accepts has that form, by induction on its
  steps.  The other way round, a value takes the skipper from in front of it to behind it
  with the same brackets open, by induction on the value.
-/
import GrammarLint.Proofs.Json.Reader

namespace GrammarLint.Json

/-! ### Frames -/

def Frame.opener : Frame → Char
  | .list => '['
  | .object => '{'

/-- The entries of a frame, with the values in them. -/
def Frame.Entry : Frame → List Char → List Char → Prop
  | .list => Eq
  | .object => SkippedMember

theorem ValueText.ofFrame {frame : Frame} {w : List Char} {xs : List (List Char)}
    (h : Bracketed frame.opener frame.closer frame.Entry w xs) (all : ∀ v ∈ xs, ValueText v) :
    ValueText w := by
  cases frame with
  | list => exact .list h all
  | object => exact .object h all

theorem QuotedText.head {w : List Char} (h : QuotedText w) :
    ∃ s, w = '"' :: s ∧ ∀ rest, skipBody (s ++ rest) = .ok rest := by
  obtain ⟨pieces, rfl, hpieces⟩ := h
  refine ⟨_, rfl, fun rest => ?_⟩
  rw [List.append_assoc]
  exact skipBody_pieces rest hpieces

theorem quotedText_of_skipBody {s rest : List Char} (h : skipBody s = .ok rest) :
    ∃ w, '"' :: s = w ++ rest ∧ QuotedText w := by
  obtain ⟨pieces, rfl, hpieces⟩ := eq_of_skipBody h
  exact ⟨'"' :: (pieces.flatten ++ ['"']), by simp, pieces, rfl, hpieces⟩

theorem QuotedText.begins {w : List Char} (h : QuotedText w) : Begins w := by
  obtain ⟨s, rfl, -⟩ := h.head
  exact ⟨'"', s, rfl, by decide⟩

theorem ValueText.begins {v : List Char} (h : ValueText v) : Begins v := by
  cases h with
  | null => exact ⟨'n', _, rfl, by decide⟩
  | true => exact ⟨'t', _, rfl, by decide⟩
  | false => exact ⟨'f', _, rfl, by decide⟩
  | quoted h => exact h.begins
  | number h => exact h.begins
  | list h => exact h.begins (by decide)
  | object h => exact h.begins (by decide)

/-- An entry begins like one, and its value ends it. -/
theorem Frame.Entry.head {frame : Frame} {w v : List Char} (h : frame.Entry w v) (hv : Begins v) :
    ∃ c s, w = c :: s ∧ isBlank c = false ∧ c ≠ frame.closer := by
  cases frame with
  | list =>
    obtain rfl : w = v := h
    exact hv
  | object =>
    obtain ⟨hkey, -, -⟩ := h
    obtain ⟨s, rfl, -⟩ := hkey.head
    exact ⟨'"', _, rfl, by decide⟩

theorem eq_of_skipToValue {frame : Frame} {s a v tail : List Char}
    (h : skipToValue frame s = .ok (a ++ (v ++ tail))) (ha : Blanks a) :
    ∃ l w, s = l ++ (w ++ tail) ∧ Blanks l ∧ frame.Entry w v := by
  cases frame with
  | list =>
    cases h
    exact ⟨a, v, rfl, ha, rfl⟩
  | object =>
    simp only [skipToValue, skipKey] at h
    split at h
    · cases h
    · next t hs =>
      obtain ⟨l, hl, rfl⟩ := eq_of_skipBlanks hs
      obtain ⟨t', hbody, h⟩ := ok_of_bind h
      split at h
      · cases h
      · next hcolon =>
        cases h
        obtain ⟨a', ha', rfl⟩ := eq_of_skipBlanks hcolon
        obtain ⟨k, hk, hkey⟩ := quotedText_of_skipBody hbody
        refine ⟨l, k ++ (a' ++ ':' :: (a ++ v)), ?_, hl, .mk hkey ha' ha⟩
        rw [hk]
        simp
      · cases h
    · cases h

theorem skipToValue_entry {frame : Frame} {w v : List Char} (h : frame.Entry w v) {l : List Char}
    (hl : Blanks l) (tail : List Char) :
    ∃ a, Blanks a ∧ (a ++ v).length ≤ (l ++ w).length ∧
      skipToValue frame (l ++ (w ++ tail)) = .ok (a ++ (v ++ tail)) := by
  cases frame with
  | list =>
    obtain rfl : w = v := h
    exact ⟨l, hl, Nat.le_refl _, rfl⟩
  | object =>
    obtain ⟨hkey, ha, hb⟩ := h
    rename_i k a b
    obtain ⟨s, rfl, hbody⟩ := hkey.head
    refine ⟨b, hb, by simp only [List.length_append, List.length_cons]; omega, ?_⟩
    have hquote : skipBlanks (l ++ ('"' :: s ++ (a ++ ':' :: (b ++ v)) ++ tail)) =
        '"' :: (s ++ (a ++ ':' :: (b ++ (v ++ tail)))) := by
      simpa using skipBlanks_append_cons hl (c := '"') rfl (s ++ (a ++ ':' :: (b ++ (v ++ tail))))
    simp only [skipToValue, skipKey, hquote, hbody, bind, Except.bind,
      skipBlanks_append_cons ha (c := ':') rfl]
    rfl

/-! ### What is skipped is a value -/

/-- What stands behind a value inside open brackets: for each of them the rest of its
    entries and its end, and `rest` in the end. -/
inductive Closes : List Frame → List Char → List Char → Prop
  | done {rest : List Char} : Closes [] rest rest
  | frame {frame : Frame} {stack : List Frame} {row tail rest : List Char} {xs : List (List Char)}
    (hrow : Row frame.Entry false row xs) (all : ∀ v ∈ xs, ValueText v)
    (h : Closes stack tail rest) : Closes (frame :: stack) (row ++ frame.closer :: tail) rest

/-- What stands where a value has to follow. -/
def Awaits (stack : List Frame) (s rest : List Char) : Prop :=
  ∃ a v tail, s = a ++ (v ++ tail) ∧ Blanks a ∧ ValueText v ∧ Closes stack tail rest

/-- What is still unread is as it should be, up to `rest`. -/
def Progress.Leads (rest : List Char) : Progress → Prop
  | .done t => t = rest
  | .value stack s => Awaits stack s rest

/-- An entry in front of others, when the skipping goes on at its value. -/
theorem row_of_awaits {frame : Frame} {stack : List Frame} {first : Bool} {p s s' rest : List Char}
    (hp : Separator first p) (hvalue : skipToValue frame s = .ok s')
    (h : Awaits (frame :: stack) s' rest) :
    ∃ row xs tail, p ++ s = row ++ frame.closer :: tail ∧ Row frame.Entry first row xs ∧
      (∀ v ∈ xs, ValueText v) ∧ Closes stack tail rest := by
  obtain ⟨a, v, tail, rfl, ha, hv, hcloses⟩ := h
  obtain ⟨l, w, rfl, hl, hw⟩ := eq_of_skipToValue hvalue ha
  cases hcloses with
  | frame hrow all hcloses =>
    rename_i row tail xs
    exact ⟨p ++ l ++ (w ++ row), v :: xs, tail, by simp, .cons (hp.append hl) hw hrow,
      List.forall_mem_cons.mpr ⟨hv, all⟩, hcloses⟩

theorem closes_of_afterValue {stack : List Frame} {s rest : List Char} {p : Progress}
    (h : afterValue stack s = .ok p) (hp : p.Leads rest) : Closes stack s rest := by
  induction stack generalizing s with
  | nil =>
    cases h
    cases hp
    exact .done
  | cons frame stack ih =>
    unfold afterValue at h
    split at h
    · cases h
    · next c t hs =>
      obtain ⟨b, hb, rfl⟩ := eq_of_skipBlanks hs
      split at h
      · next hc =>
        subst hc
        obtain ⟨t', hvalue, rfl⟩ := ok_of_map h
        have hseparator : Separator false (b ++ [',']) := ⟨b, [], rfl, hb, blanks_nil⟩
        obtain ⟨row, xs, tail, heq, hrow, all, hcloses⟩ := row_of_awaits hseparator hvalue hp
        rw [List.append_assoc] at heq
        rw [show b ++ ',' :: t = row ++ frame.closer :: tail from heq]
        exact .frame hrow all hcloses
      · split at h
        · next hc =>
          subst hc
          exact .frame (.nil hb) (by simp) (ih h)
        · cases h

theorem row_of_afterOpen {frame : Frame} {stack : List Frame} {s rest : List Char} {p : Progress}
    (h : afterOpen frame stack s = .ok p) (hp : p.Leads rest) :
    ∃ row xs tail, s = row ++ frame.closer :: tail ∧ Row frame.Entry true row xs ∧
      (∀ v ∈ xs, ValueText v) ∧ Closes stack tail rest := by
  unfold afterOpen at h
  split at h
  · cases h
  · next c t hs =>
    obtain ⟨b, hb, rfl⟩ := eq_of_skipBlanks hs
    split at h
    · next hc =>
      subst hc
      exact ⟨b, [], t, rfl, .nil hb, by simp, closes_of_afterValue h hp⟩
    · obtain ⟨t', hvalue, rfl⟩ := ok_of_map h
      have hseparator : Separator true b := hb
      exact row_of_awaits hseparator hvalue hp

/-- A scalar in front of what closes the brackets. -/
theorem awaits_scalar {stack : List Frame} {a v s t rest : List Char} {p : Progress}
    (ha : Blanks a) (hs : s = v ++ t) (hv : ValueText v) (h : afterValue stack t = .ok p)
    (hp : p.Leads rest) : Awaits stack (a ++ s) rest :=
  ⟨a, v, t, by rw [hs], ha, hv, closes_of_afterValue h hp⟩

theorem awaits_open (frame : Frame) {stack : List Frame} {a s rest : List Char} {p : Progress}
    (ha : Blanks a) (h : afterOpen frame stack s = .ok p) (hp : p.Leads rest) :
    Awaits stack (a ++ frame.opener :: s) rest := by
  obtain ⟨row, xs, tail, rfl, hrow, all, hcloses⟩ := row_of_afterOpen h hp
  exact ⟨a, frame.opener :: (row ++ [frame.closer]), tail, by simp, ha,
    .ofFrame ⟨row, rfl, hrow⟩ all, hcloses⟩

theorem awaits_word {stack : List Frame} {a s rest word : List Char} {c : Char} {p : Progress}
    (ha : Blanks a) (hword : ValueText (c :: word))
    (h : (scanWord word s >>= afterValue stack) = .ok p) (hp : p.Leads rest) :
    Awaits stack (a ++ c :: s) rest := by
  obtain ⟨t, hscan, h⟩ := ok_of_bind h
  exact awaits_scalar ha (by rw [eq_of_scanWord hscan, List.cons_append]) hword h hp

theorem awaits_of_skipStep {stack : List Frame} {s rest : List Char} {p : Progress}
    (h : skipStep stack s = .ok p) (hp : p.Leads rest) : Awaits stack s rest := by
  obtain ⟨a, ha, hs⟩ := eq_append_skipBlanks s
  rw [hs]
  unfold skipStep at h
  split at h <;> rename_i ht
  · cases h
  · rw [ht]
    exact awaits_word ha .null h hp
  · rw [ht]
    exact awaits_word ha .true h hp
  · rw [ht]
    exact awaits_word ha .false h hp
  · rw [ht]
    obtain ⟨t, hbody, h⟩ := ok_of_bind h
    obtain ⟨w, hw, hquoted⟩ := quotedText_of_skipBody hbody
    exact awaits_scalar ha hw (.quoted hquoted) h hp
  · rw [ht]
    exact awaits_open .list ha h hp
  · rw [ht]
    exact awaits_open .object ha h hp
  · rw [ht]
    split at h
    · obtain ⟨⟨u, t⟩, hscan, h⟩ := ok_of_bind h
      obtain ⟨w, hw, hnumber⟩ := eq_of_scanNumeral hscan
      exact awaits_scalar ha hw (.number hnumber) h hp
    · cases h

theorem awaits_of_skipFrom {clock : List Char} {stack : List Frame} {s rest : List Char}
    (h : skipFrom clock stack s = .ok rest) : Awaits stack s rest := by
  induction clock generalizing stack s with
  | nil => cases h
  | cons _ clock ih =>
    unfold skipFrom at h
    split at h
    · cases h
    · next hstep =>
      cases h
      exact awaits_of_skipStep hstep rfl
    · next hstep => exact awaits_of_skipStep hstep (ih h)

/-- **What is skipped is a value**, with blanks in front of it. -/
theorem eq_of_skipValue {s rest : List Char} (h : skipValue s = .ok rest) :
    ∃ a v, s = a ++ (v ++ rest) ∧ Blanks a ∧ ValueText v := by
  obtain ⟨a, v, tail, rfl, ha, hv, hcloses⟩ := awaits_of_skipFrom h
  cases hcloses
  exact ⟨a, v, rfl, ha, hv⟩

/-! ### Every value is skipped -/

/-- How the skipping goes on from what a step came to. -/
def resume (clock : List Char) : Except Failure Progress → Except Failure (List Char)
  | .error e => .error e
  | .ok (.done rest) => .ok rest
  | .ok (.value stack rest) => skipFrom clock stack rest

/-- The skipper gets from in front of `v` to behind it, and keeps as long a clock as it may
    need there. -/
def Passes (v : List Char) : Prop :=
  ∀ (clock : List Char) (stack : List Frame) (a tail : List Char), Blanks a → Ends tail →
    (a ++ (v ++ tail)).length ≤ clock.length →
    ∃ clock', tail.length ≤ clock'.length ∧
      skipFrom clock stack (a ++ (v ++ tail)) = resume clock' (afterValue stack tail)

theorem skipStep_blanks (stack : List Frame) {a : List Char} (ha : Blanks a) (s : List Char) :
    skipStep stack (a ++ s) = skipStep stack s := by
  unfold skipStep
  rw [skipBlanks_append ha]

/-- A value that takes one step. -/
theorem passes_of_step {v : List Char} (hpos : 0 < v.length)
    (h : ∀ stack tail, Ends tail → skipStep stack (v ++ tail) = afterValue stack tail) :
    Passes v := by
  intro clock stack a tail ha htail hclock
  simp only [List.length_append] at hclock
  cases clock with
  | nil =>
    rw [List.length_nil] at hclock
    omega
  | cons _ clock =>
    refine ⟨clock, by rw [List.length_cons] at hclock; omega, ?_⟩
    unfold skipFrom
    rw [skipStep_blanks stack ha, h stack tail htail]
    rfl

theorem passes_word {c : Char} {word : List Char}
    (h : ∀ stack s, skipStep stack (c :: s) = (scanWord word s >>= afterValue stack)) :
    Passes (c :: word) := by
  refine passes_of_step (by simp) fun stack tail _ => ?_
  rw [List.cons_append, h, scanWord_append]
  rfl

theorem passes_quoted {w : List Char} (h : QuotedText w) : Passes w := by
  refine passes_of_step h.begins.length_pos fun stack tail _ => ?_
  obtain ⟨s, rfl, hbody⟩ := h.head
  have hstep : ∀ t, skipStep stack ('"' :: t) = (skipBody t >>= afterValue stack) := fun _ => rfl
  rw [List.cons_append, hstep, hbody]
  rfl

theorem skipStep_number (stack : List Frame) {c : Char} (hc : c = '-' ∨ c.isDigit = true)
    (s : List Char) : skipStep stack (c :: s) =
      (scanNumeral .invalidNumber (c :: s) >>= fun r => afterValue stack r.2) := by
  obtain ⟨d, t, heq, hblank, -⟩ := begins_of_number hc s
  cases heq
  unfold skipStep
  rw [skipBlanks_cons hblank]
  -- None of the characters that the other cases begin with begins a number.
  split
  case h_8 heq =>
    cases heq
    rw [if_pos hc]
  case h_1 heq => cases heq
  all_goals
    next heq =>
      injection heq with hfirst
      subst hfirst
      rcases hc with hc | hc <;> cases hc

theorem passes_number {w : List Char} {u : Numeral} (h : NumberText w u) : Passes w := by
  refine passes_of_step h.begins.length_pos fun stack tail htail => ?_
  have hscan := scanNumeral_append .invalidNumber h htail
  obtain ⟨c, s, rfl, hc⟩ := h.head
  rw [List.cons_append] at hscan ⊢
  rw [skipStep_number stack hc, hscan]
  rfl

/-- Behind the separator of an entry its value is passed. -/
theorem resume_value {frame : Frame} {w v : List Char} (hentry : frame.Entry w v)
    (hv : Passes v) {l : List Char} (hl : Blanks l) {clock : List Char} (stack : List Frame)
    {rest : List Char} (hrest : Ends rest) (hclock : (l ++ (w ++ rest)).length ≤ clock.length) :
    ∃ clock', rest.length ≤ clock'.length ∧
      resume clock ((skipToValue frame (l ++ (w ++ rest))).map (.value stack)) =
        resume clock' (afterValue stack rest) := by
  obtain ⟨a, ha, hlength, hvalue⟩ := skipToValue_entry hentry hl rest
  rw [hvalue]
  refine hv clock stack a rest ha hrest ?_
  simp only [List.length_append] at hclock hlength ⊢
  omega

/-- The entries that are left in an open frame are passed, and its end. -/
theorem resume_row {frame : Frame} {first : Bool} {row : List Char} {xs : List (List Char)}
    (hrow : Row frame.Entry first row xs) (hfirst : first = false)
    (all : ∀ v ∈ xs, Passes v) {clock : List Char} (stack : List Frame) {tail : List Char}
    (hclock : (row ++ frame.closer :: tail).length ≤ clock.length) :
    ∃ clock', tail.length ≤ clock'.length ∧
      resume clock (afterValue (frame :: stack) (row ++ frame.closer :: tail)) =
        resume clock' (afterValue stack tail) := by
  have hcloser : isBlank frame.closer = false ∧ frame.closer ≠ ',' := by cases frame <;> decide
  have hends : Ends (frame.closer :: tail) :=
    ends_cons (by cases frame <;> simp [Frame.closer]) tail
  induction hrow generalizing clock with
  | @nil first b hb =>
    refine ⟨clock, ?_, ?_⟩
    · simp only [List.length_append, List.length_cons] at hclock
      omega
    · rw [afterValue, skipBlanks_append_cons hb hcloser.1]
      simp only [if_neg hcloser.2, if_true]
  | @cons first p w s x xs hp hx more ih =>
    subst hfirst
    obtain ⟨b, l, rfl, hb, hl⟩ := hp
    have hlength : (l ++ (w ++ (s ++ frame.closer :: tail))).length ≤ clock.length := by
      simp only [List.length_append, List.length_cons] at hclock ⊢
      omega
    obtain ⟨clock₁, hclock₁, hvalue⟩ := resume_value hx (all x (by simp)) hl (frame :: stack)
      (more.ends hends) hlength
    obtain ⟨clock₂, hclock₂, hmore⟩ := ih rfl (fun v hv => all v (by simp [hv])) hclock₁
    refine ⟨clock₂, hclock₂, ?_⟩
    rw [← hmore, ← hvalue]
    have hblanks : skipBlanks (b ++ ',' :: l ++ (w ++ s) ++ frame.closer :: tail) =
        ',' :: (l ++ (w ++ (s ++ frame.closer :: tail))) := by
      simpa using skipBlanks_append_cons hb (c := ',') rfl (l ++ (w ++ (s ++ frame.closer :: tail)))
    rw [afterValue, hblanks]
    rfl

/-- What opens a frame is passed with the entries and the end of the frame. -/
theorem resume_open {frame : Frame} {row : List Char} {xs : List (List Char)}
    (hrow : Row frame.Entry true row xs) (all : ∀ v ∈ xs, ValueText v)
    (pass : ∀ v ∈ xs, Passes v) {clock : List Char} (stack : List Frame) {tail : List Char}
    (hclock : (row ++ frame.closer :: tail).length ≤ clock.length) :
    ∃ clock', tail.length ≤ clock'.length ∧
      resume clock (afterOpen frame stack (row ++ frame.closer :: tail)) =
        resume clock' (afterValue stack tail) := by
  have hcloser : isBlank frame.closer = false := by cases frame <;> decide
  have hends : Ends (frame.closer :: tail) :=
    ends_cons (by cases frame <;> simp [Frame.closer]) tail
  cases hrow with
  | nil hb =>
    refine ⟨clock, ?_, ?_⟩
    · simp only [List.length_append, List.length_cons] at hclock
      omega
    · rw [afterOpen, skipBlanks_append_cons hb hcloser]
      simp only [if_true]
  | @cons _ p w s x xs hp hx more =>
    have hlength : ([] ++ (w ++ (s ++ frame.closer :: tail))).length ≤ clock.length := by
      simp only [List.length_append, List.length_cons, List.length_nil] at hclock ⊢
      omega
    obtain ⟨clock₁, hclock₁, hvalue⟩ := resume_value hx (pass x (by simp)) blanks_nil
      (frame :: stack) (more.ends hends) hlength
    obtain ⟨clock₂, hclock₂, hmore⟩ :=
      resume_row more rfl (fun v hv => pass v (by simp [hv])) stack hclock₁
    refine ⟨clock₂, hclock₂, ?_⟩
    rw [← hmore, ← hvalue]
    obtain ⟨c, t, rfl, hblank, hc⟩ := Frame.Entry.head hx (all x (by simp)).begins
    have hblanks : skipBlanks (p ++ (c :: t ++ s) ++ frame.closer :: tail) =
        c :: t ++ (s ++ frame.closer :: tail) := by
      simpa using skipBlanks_append_cons hp hblank (t ++ (s ++ frame.closer :: tail))
    rw [afterOpen, hblanks, List.cons_append]
    simp only [if_neg hc]
    rfl

/-- A list or an object is passed if every value in it is. -/
theorem passes_frame (frame : Frame) {w : List Char} {xs : List (List Char)}
    (h : Bracketed frame.opener frame.closer frame.Entry w xs)
    (all : ∀ v ∈ xs, ValueText v) (pass : ∀ v ∈ xs, Passes v) : Passes w := by
  obtain ⟨row, rfl, hrow⟩ := h
  intro clock stack a tail ha _ hclock
  simp only [List.cons_append, List.append_assoc, List.length_append, List.length_cons] at hclock ⊢
  cases clock with
  | nil =>
    rw [List.length_nil] at hclock
    omega
  | cons _ clock =>
    have hlength : (row ++ frame.closer :: tail).length ≤ clock.length := by
      simp only [List.length_append, List.length_cons] at hclock ⊢
      omega
    obtain ⟨clock', hclock', hopen⟩ := resume_open hrow all pass stack hlength
    refine ⟨clock', hclock', ?_⟩
    have hstep : ∀ s, skipStep stack (frame.opener :: s) = afterOpen frame stack s := by
      cases frame <;> exact fun _ => rfl
    rw [← hopen, ← hstep, ← skipStep_blanks stack ha]
    rfl

theorem passes_of_valueText {v : List Char} (h : ValueText v) : Passes v := by
  induction h with
  | null => exact passes_word (fun _ _ => rfl)
  | true => exact passes_word (fun _ _ => rfl)
  | false => exact passes_word (fun _ _ => rfl)
  | quoted h => exact passes_quoted h
  | number h => exact passes_number h
  | list h all pass => exact passes_frame .list h all pass
  | object h all pass => exact passes_frame .object h all pass

/-- **Every value is skipped.** -/
theorem skipValue_append {a v rest : List Char} (ha : Blanks a) (hv : ValueText v)
    (hrest : Ends rest) : skipValue (a ++ (v ++ rest)) = .ok rest := by
  obtain ⟨clock, -, h⟩ := passes_of_valueText hv _ [] a rest ha hrest (Nat.le_refl _)
  rw [skipValue, h]
  rfl

end GrammarLint.Json
