/-
  GrammarLint/Proofs/Settings.lean
  ================================
  **Which settings are accepted** — the documents that settings are read from, and what can be
  wrong with the settings in them.

  A document gives every setting once or not at all, and `null` is the same as not giving it
  (`GivenText`).  What is given may offend in four ways (`Offends`), each of which is said
  without the others; the check reports the one that stands first in the order of
  `Rejection.rank`, and accepts what does not offend at all (`check_eq_ok_iff`,
  `check_eq_error_iff`).
-/
import GrammarLint.Proofs.Json.Record
import GrammarLint.Settings

namespace GrammarLint

open Json Text

/-! ### Blank texts -/

namespace Text

/-- The code points with the Unicode property `White_Space`. -/
def whiteSpace : List Nat :=
  [0x0009, 0x000A, 0x000B, 0x000C, 0x000D, 0x0020, 0x0085, 0x00A0, 0x1680, 0x2000, 0x2001, 0x2002,
    0x2003, 0x2004, 0x2005, 0x2006, 0x2007, 0x2008, 0x2009, 0x200A, 0x2028, 0x2029, 0x202F, 0x205F,
    0x3000]

/-- Nothing but white space, so that nothing is left when it is taken off the ends. -/
def White (text : String) : Prop := ∀ c ∈ text.toList, c.toNat ∈ whiteSpace

theorem isBlank_iff_mem {c : Char} : isBlank c = true ↔ c.toNat ∈ whiteSpace := by
  simp only [isBlank, blankRanges, whiteSpace, List.any_cons, List.any_nil, Bool.or_false,
    Bool.or_eq_true, Bool.and_eq_true, decide_eq_true_eq, List.mem_cons, List.not_mem_nil, or_false]
  omega

theorem isBlankText_iff {text : String} : isBlankText text = true ↔ White text := by
  simp only [isBlankText, List.all_eq_true, isBlank_iff_mem, White]

end Text

namespace Settings

/-! ### Documents -/

/-- A number of milliseconds of 64 bits, or `null`. -/
abbrev WaitText : List Char → Option Nat → Prop :=
  NullableText fun w n => NaturalText w n ∧ n ≤ 18446744073709551615

abbrev KeyText : List Char → Option String → Prop := NullableText LiteralText

/-- **The texts of settings.**  There are no other members than those of the three fields. -/
inductive GivenText : List Char → Given → Prop
  | object {w : List Char} {members : List (String × List Char)} {g : Given}
    (hw : ObjectText w members)
    (wait : Holds WaitText (some none) (occurrences members "debounceMs") g.debounceMs)
    (grammar : Holds KeyText (some none) (occurrences members "grammarKey") g.grammarKey)
    (code : Holds KeyText (some none) (occurrences members "codeKey") g.codeKey)
    (known : ∀ m ∈ members, m.1 ∈ ["debounceMs", "grammarKey", "codeKey"]) : GivenText w g
  | array {w ms k c : List Char} {g : Given} (hw : ListText w [ms, k, c])
    (wait : WaitText ms g.debounceMs) (grammar : KeyText k g.grammarKey)
    (code : KeyText c g.codeKey) : GivenText w g

def Field.Format : (f : Field) → List Char → f.Content → Prop
  | .debounceMs => WaitText
  | .grammarKey => KeyText
  | .codeKey => KeyText

/-- The values of the fields as they are given. -/
def Given.value (g : Given) : (f : Field) → f.Content
  | .debounceMs => g.debounceMs
  | .grammarKey => g.grammarKey
  | .codeKey => g.codeKey

theorem key_injective : Function.Injective record.key := by
  intro f g
  cases f <;> cases g <;> simp [record, Field.name]

theorem text_iff {w : List Char} {g : Given} :
    record.Text Field.Format w g.value ↔ GivenText w g := by
  constructor
  · rintro (⟨members, hw, hmembers, hothers⟩ | ⟨elements, hw, helements⟩)
    · exact .object hw (hmembers .debounceMs) (hmembers .grammarKey) (hmembers .codeKey)
        ((record.others_closed_iff rfl).mp hothers)
    -- An array has all three fields and nothing behind them.
    · rcases elements with _ | ⟨ms, _ | ⟨k, _ | ⟨c, _ | ⟨v, elements⟩⟩⟩⟩
      · cases helements.1
      · cases helements.2.1
      · cases helements.2.2.1
      · exact .array hw helements.1 helements.2.1 helements.2.2.1
      · exact absurd helements.2.2.2 id
  · rintro (⟨hw, wait, grammar, code, known⟩ | ⟨hw, wait, grammar, code⟩)
    · refine Or.inl ⟨_, hw, ?_, (record.others_closed_iff rfl).mpr known⟩
      rintro (_ | _ | _)
      · exact wait
      · exact grammar
      · exact code
    · exact Or.inr ⟨_, hw, wait, grammar, code, trivial⟩

theorem reads_wait : Reads (nullable uint64) WaitText := by
  refine reads_uint64.nullable ?_
  rintro w n ⟨hw, -⟩ hhead
  obtain ⟨c, s, rfl, hc⟩ := hw.number.head
  obtain rfl : c = 'n' := Option.some.inj hhead
  rcases hc with hc | hc <;> cases hc

theorem reads_key : Reads (nullable string) KeyText := by
  refine reads_string.nullable ?_
  rintro w text ⟨pieces, rfl, -⟩ hhead
  cases hhead

/-- **Settings are read from their texts**, and from nothing else. -/
theorem Given.reads_reader : Reads Given.reader GivenText := by
  have hread : ∀ f, Reads (record.read f) f.Format := by
    rintro (_ | _ | _)
    · exact reads_wait
    · exact reads_key
    · exact reads_key
  have hvalue : ∀ w x, record.Text Field.Format w x →
      Given.value ⟨x .debounceMs, x .grammarKey, x .codeKey⟩ = x := by
    intro w x _
    funext f
    cases f <;> rfl
  exact ((record.reads key_injective (by decide) hread).map (g := Given.value) (fun _ => rfl)
    hvalue).congr fun _ _ => text_iff

/-! ### What can be wrong -/

/-- What is given, and the standard settings for everything else. -/
def Given.filled (g : Given) : Settings :=
  ⟨g.debounceMs.getD 750, g.grammarKey.getD "grammarText", g.codeKey.getD "codeText"⟩

/-- **The offences of settings**, each with the field that it is reported for. -/
inductive Offends (g : Given) : Field → Rejection → Prop
  | zeroDebounce (h : g.debounceMs = some 0) : Offends g .debounceMs .zeroDebounce
  | blankGrammarKey {key : String} (h : g.grammarKey = some key) (hblank : White key) :
    Offends g .grammarKey (.blankKey .grammar)
  | blankCodeKey {key : String} (h : g.codeKey = some key) (hblank : White key) :
    Offends g .codeKey (.blankKey .code)
  | sameKey (h : g.filled.grammarKey = g.filled.codeKey) :
    Offends g .codeKey (.sameKey g.filled.grammarKey)

/-- The order in which offences are looked for. -/
def Rejection.rank : Rejection → Nat
  | .zeroDebounce => 0
  | .blankKey .grammar => 1
  | .blankKey .code => 2
  | .sameKey _ => 3

/-- An offence in front of which there is none. -/
def FirstOffence (g : Given) (r : Rejection) : Prop :=
  Offends g r.field r ∧ ∀ f r', Offends g f r' → r.rank ≤ r'.rank

/-! ### Checking -/

theorem chosenKey_eq_ok {stage : Stage} {given : Option String} {key : String}
    (h : chosenKey stage given = .ok key) :
    key = given.getD (standard.key stage) ∧ ∀ k, given = some k → ¬ White k := by
  unfold chosenKey at h
  split at h
  · cases h
    exact ⟨rfl, nofun⟩
  · split at h
    · cases h
    · next hblank =>
      cases h
      refine ⟨rfl, ?_⟩
      intro k hk
      cases hk
      rwa [isBlankText_iff] at hblank

theorem chosenKey_eq_error {stage : Stage} {given : Option String} {r : Rejection}
    (h : chosenKey stage given = .error r) :
    r = .blankKey stage ∧ ∃ k, given = some k ∧ White k := by
  unfold chosenKey at h
  split at h
  · cases h
  · split at h
    · next hblank =>
      cases h
      exact ⟨rfl, _, rfl, isBlankText_iff.mp hblank⟩
    · cases h

theorem check_eq (g : Given) :
    check g = if g.debounceMs = some 0 then .error .zeroDebounce else
      match chosenKey .grammar g.grammarKey, chosenKey .code g.codeKey with
      | .error r, _ => .error r
      | .ok _, .error r => .error r
      | .ok grammarKey, .ok codeKey =>
        if grammarKey = codeKey then .error (.sameKey grammarKey)
        else .ok ⟨g.debounceMs.getD 750, grammarKey, codeKey⟩ := by
  unfold check
  split
  · rfl
  · cases chosenKey .grammar g.grammarKey with
    | error r => rfl
    | ok grammarKey =>
      cases chosenKey .code g.codeKey with
      | error r => rfl
      | ok codeKey =>
        simp only [bind, Except.bind]
        split <;> rfl

/-- Accepted settings are those that were given and do not offend. -/
theorem check_ok {g : Given} {s : Settings} (h : check g = .ok s) :
    (∀ f r, ¬ Offends g f r) ∧ s = g.filled := by
  rw [check_eq] at h
  split at h
  · cases h
  · next hwait =>
    split at h
    · cases h
    · cases h
    · next grammarKey codeKey hgrammar hcode =>
      split at h
      · cases h
      · next hne =>
        cases h
        obtain ⟨rfl, hgrammarKey⟩ := chosenKey_eq_ok hgrammar
        obtain ⟨rfl, hcodeKey⟩ := chosenKey_eq_ok hcode
        refine ⟨?_, rfl⟩
        rintro f r (hzero | ⟨hkey, hblank⟩ | ⟨hkey, hblank⟩ | hsame)
        · exact hwait hzero
        · exact hgrammarKey _ hkey hblank
        · exact hcodeKey _ hkey hblank
        · exact hne hsame

/-- Refused settings are refused for their first offence. -/
theorem check_error {g : Given} {r : Rejection} (h : check g = .error r) : FirstOffence g r := by
  rw [check_eq] at h
  split at h
  · next hzero =>
    cases h
    exact ⟨.zeroDebounce hzero, fun _ _ _ => Nat.zero_le _⟩
  · next hwait =>
    split at h
    · next hgrammar =>
      cases h
      obtain ⟨rfl, key, hkey, hblank⟩ := chosenKey_eq_error hgrammar
      refine ⟨.blankGrammarKey hkey hblank, ?_⟩
      rintro f r' (hzero | - | - | -)
      · exact absurd hzero hwait
      · exact Nat.le_refl _
      · exact (by decide : 1 ≤ 2)
      · exact (by decide : 1 ≤ 3)
    · next hgrammar hcode =>
      cases h
      obtain ⟨-, hgrammar⟩ := chosenKey_eq_ok hgrammar
      obtain ⟨rfl, key, hkey, hblank⟩ := chosenKey_eq_error hcode
      refine ⟨.blankCodeKey hkey hblank, ?_⟩
      rintro f r' (hzero | ⟨hkey', hblank'⟩ | - | -)
      · exact absurd hzero hwait
      · exact absurd hblank' (hgrammar _ hkey')
      · exact Nat.le_refl _
      · exact (by decide : 2 ≤ 3)
    · next hgrammar hcode =>
      split at h
      · next hsame =>
        cases h
        obtain ⟨rfl, hgrammarKey⟩ := chosenKey_eq_ok hgrammar
        obtain ⟨rfl, hcodeKey⟩ := chosenKey_eq_ok hcode
        refine ⟨.sameKey hsame, ?_⟩
        rintro f r' (hzero | ⟨hkey, hblank⟩ | ⟨hkey, hblank⟩ | -)
        · exact absurd hzero hwait
        · exact absurd hblank (hgrammarKey _ hkey)
        · exact absurd hblank (hcodeKey _ hkey)
        · exact Nat.le_refl _
      · cases h

/-- No two offences of the same settings have the same place in the order. -/
theorem Offends.eq_of_rank {g : Given} {f f' : Field} {r r' : Rejection} (h : Offends g f r)
    (h' : Offends g f' r') (hrank : r.rank = r'.rank) : r = r' := by
  -- Of two offences of one rank both are made by the same constructor.
  cases h <;> cases h' <;> first | rfl | cases hrank

theorem check_eq_ok_iff {g : Given} {s : Settings} :
    check g = .ok s ↔ (∀ f r, ¬ Offends g f r) ∧ s = g.filled := by
  constructor
  · exact check_ok
  · rintro ⟨hnone, rfl⟩
    cases hcheck : check g with
    | ok s => rw [(check_ok hcheck).2]
    | error r => exact absurd (check_error hcheck).1 (hnone _ _)

theorem check_eq_error_iff {g : Given} {r : Rejection} :
    check g = .error r ↔ FirstOffence g r := by
  constructor
  · exact check_error
  · intro h
    cases hcheck : check g with
    | ok s => exact absurd h.1 ((check_ok hcheck).1 _ _)
    | error r' =>
      have h' := check_error hcheck
      have hrank := Nat.le_antisymm (h'.2 _ _ h.1) (h.2 _ _ h'.1)
      rw [h'.1.eq_of_rank h.1 hrank]

/-! ### Accepted settings -/

/-- What a pipeline relies on in its settings. -/
structure Sound (s : Settings) : Prop where
  waits : 0 < s.debounceMs
  grammarKey_filled : ¬ White s.grammarKey
  codeKey_filled : ¬ White s.codeKey
  keys_ne : s.grammarKey ≠ s.codeKey

theorem sound_standard : standard.Sound where
  waits := by decide
  grammarKey_filled h := absurd (isBlankText_iff.mpr h) (by decide)
  codeKey_filled h := absurd (isBlankText_iff.mpr h) (by decide)
  keys_ne := by decide

/-- A key is not blank if the given one is not and the standard one is not. -/
theorem not_white_getD {given : Option String} {key : String}
    (hgiven : ∀ k, given = some k → ¬ White k) (hkey : ¬ White key) : ¬ White (given.getD key) := by
  cases given with
  | none => exact hkey
  | some k => exact hgiven k rfl

theorem sound_of_check {g : Given} {s : Settings} (h : check g = .ok s) : s.Sound := by
  obtain ⟨hnone, rfl⟩ := check_ok h
  refine ⟨?_, not_white_getD ?_ sound_standard.grammarKey_filled,
    not_white_getD ?_ sound_standard.codeKey_filled, fun hsame => hnone _ _ (.sameKey hsame)⟩
  · rcases hms : g.debounceMs with _ | ms
    · simp [Given.filled, hms]
    · have hne : ms ≠ 0 := by
        rintro rfl
        exact hnone _ _ (.zeroDebounce hms)
      simpa [Given.filled, hms] using Nat.pos_of_ne_zero hne
  · intro key hkey hblank
    exact hnone _ _ (.blankGrammarKey hkey hblank)
  · intro key hkey hblank
    exact hnone _ _ (.blankCodeKey hkey hblank)

/-! ### Loading -/

theorem parse_given {text : String} {g : Given} :
    parse Given.reader text = .ok g ↔ Document GivenText text g :=
  Given.reads_reader.parse_eq_ok

/-- **Settings are accepted** if there is a document of them that does not offend. -/
theorem load_eq_ok_iff {text : String} {s : Settings} :
    load text = .ok s ↔
      ∃ g, Document GivenText text g ∧ (∀ f r, ¬ Offends g f r) ∧ s = g.filled := by
  simp only [← parse_given, ← check_eq_ok_iff, load]
  cases parse Given.reader text with
  | error defect => simp
  | ok g =>
    rcases hcheck : check g with r | s <;> simp [hcheck, Except.mapError]

/-- **A malformed document** is none of settings at all. -/
theorem load_malformed_iff {text : String} :
    (∃ defect, load text = .error (.malformed defect)) ↔ ∀ g, ¬ Document GivenText text g := by
  simp only [← parse_given, load]
  cases parse Given.reader text with
  | error defect => simp
  | ok g =>
    rcases hcheck : check g with r | s <;> simp [hcheck, Except.mapError]

/-- **Settings are refused** for the first offence of what their document gives. -/
theorem load_rejected_iff {text : String} {r : Rejection} :
    load text = .error (.rejected r) ↔ ∃ g, Document GivenText text g ∧ FirstOffence g r := by
  simp only [← parse_given, ← check_eq_error_iff, load]
  cases parse Given.reader text with
  | error defect => simp
  | ok g =>
    rcases hcheck : check g with r | s <;> simp [hcheck, Except.mapError]

theorem sound_of_load {text : String} {s : Settings} (h : load text = .ok s) : s.Sound := by
  obtain ⟨g, -, hg⟩ := load_eq_ok_iff.mp h
  exact sound_of_check (check_eq_ok_iff.mpr hg)

-- Both keys are blank and the same, and there is no time to wait.
example : load "[0, \"\\u0085\", \"\\u0085\"]" = .error (.rejected .zeroDebounce) := by
  decide +kernel

end Settings

end GrammarLint
