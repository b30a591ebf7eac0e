/-
  GrammarLint/Proofs/CommandLine.lean
  ===================================
  **What a command line asks for** — the order of a command is made of what was given to it,
  and nothing was given to it that its arguments do not take.

  Values are looked at while the line is read: an argument waits for its value, and the value
  is read once it is there.  `Fits` says of what is read so far that all values are such that
  an argument of the command takes them; every step of the reading keeps it.
-/
import GrammarLint.CommandLine.Program

namespace GrammarLint.CommandLine

variable {args : List String}

/-- A computation that gives something went well at every step. -/
theorem bind_eq_ok {ε α β : Type} {x : Except ε α} {f : α → Except ε β} {b : β} :
    x.bind f = .ok b ↔ ∃ a, x = .ok a ∧ f a = .ok b := by
  cases x with
  | error e => simp [Except.bind]
  | ok a => simp [Except.bind]

/-! ### What was given -/

namespace Matches

variable {m : Matches} {name : String}

/-- Whether an argument was given. -/
def Names (m : Matches) (name : String) : Prop := ∃ g ∈ m, g.argument.name = name

/-- The numbers that were given for an argument. -/
def numbers (m : Matches) (name : String) : List Nat :=
  ((m.find? (·.argument.name == name)).toList.flatMap (·.values)).filterMap fun
    | .number n => some n
    | _ => none

theorem has_iff : m.has name = true ↔ m.Names name := by
  simp [has, Names]

theorem number?_eq : m.number? name = (m.numbers name).head? := by
  rw [number?, numbers, List.head?_filterMap, values]
  cases m.find? (·.argument.name == name) with
  | none => rfl
  | some g =>
    have hvalues : (some g).toList.flatMap (·.values) = g.values := by simp
    exact congrArg (List.findSome? _) hvalues.symm

end Matches

/-! ### Values that fit -/

/-- A value that an argument takes: one that can be read from a text, or none at all. -/
def Argument.Takes (a : Argument) (v : Value) : Prop :=
  v = .on ∨ ∃ kind text, a.kind? = some kind ∧ kind.read text = .ok v

/-- All values were given for arguments of the command that take them. -/
def Matches.Fits (c : Command) (m : Matches) : Prop :=
  ∀ g ∈ m, ∀ v ∈ g.values, ∃ a ∈ c.arguments, a.name = g.argument.name ∧ a.Takes v

namespace Matches

variable {c : Command} {m : Matches} {a : Argument}

theorem Fits.add (h : m.Fits c) (ha : a ∈ c.arguments) {values : List Value}
    (hvalues : ∀ v ∈ values, a.Takes v) : (m.add a values).Fits c := by
  intro g hg v hv
  unfold Matches.add at hg
  split at hg
  · rcases List.mem_map.mp hg with ⟨g₀, hg₀, rfl⟩
    split at hv
    · next hname =>
      rw [if_pos hname]
      rcases List.mem_append.mp hv with hv | hv
      · exact h g₀ hg₀ v hv
      · exact ⟨a, ha, (beq_iff_eq.mp hname).symm, hvalues v hv⟩
    · next hname =>
      rw [if_neg hname]
      exact h g₀ hg₀ v hv
  · rcases List.mem_append.mp hg with hg | hg
    · exact h g hg v hv
    · obtain rfl := List.mem_singleton.mp hg
      exact ⟨a, ha, rfl, hvalues v hv⟩

theorem Fits.remove (h : m.Fits c) (a : Argument) : (m.remove a).Fits c :=
  fun g hg => h g (List.mem_filter.mp hg).1

/-- **A number that was given** is one that its argument allows. -/
theorem Fits.number? (h : m.Fits c) {name : String} {n : Nat} (hn : m.number? name = some n) :
    ∃ a ∈ c.arguments, a.name = name ∧ ∃ least, a.kind? = some (.number least) ∧ least ≤ n := by
  obtain ⟨v, hv, hvalue⟩ := List.exists_of_findSome?_eq_some hn
  obtain rfl : v = .number n := by
    cases v <;> cases hvalue
    rfl
  unfold values at hv
  split at hv
  · next g hfound =>
    obtain ⟨a, ha, hname, htakes⟩ := h g (List.mem_of_find?_eq_some hfound) _ hv
    have hcalled : g.argument.name = name := by simpa using List.find?_some hfound
    refine ⟨a, ha, hname.trans hcalled, ?_⟩
    rcases htakes with hon | ⟨kind, text, hkind, hread⟩
    · cases hon
    · -- Of all kinds of values only numbers are read as numbers, and those too small are not.
      rcases kind with _ | _ | least | options
      · cases hread
      · simp only [ValueKind.read] at hread
        split at hread <;> cases hread
      · simp only [ValueKind.read] at hread
        split at hread
        · cases hread
        · split at hread
          · next hle =>
            cases hread
            exact ⟨least, hkind, hle⟩
          · cases hread
      · simp only [ValueKind.read] at hread
        split at hread
        · cases hread
        · split at hread <;> cases hread
  · cases hv

end Matches

def Open.argument : Open → Argument
  | .waiting a => a
  | .given a _ => a

/-- What is read so far fits, and so does what is still to come. -/
structure Progress.Fits (c : Command) (p : Progress) : Prop where
  matched : p.matched.Fits c
  pending : ∀ o ∈ p.pending, o.argument ∈ c.arguments
  places : ∀ a ∈ p.places, a ∈ c.arguments

namespace Level

variable {l : Level} {p p' : Progress} {a : Argument}

theorem mem_arguments_of_named? {c : Command} {name : String} (h : c.named? name = some a) :
    a ∈ c.arguments :=
  (List.mem_filter.mp (List.mem_of_find?_eq_some h)).1

theorem mem_arguments_of_short? {c : Command} {letter : Char} (h : c.short? letter = some a) :
    a ∈ c.arguments :=
  (List.mem_filter.mp (List.mem_of_find?_eq_some h)).1

theorem fits_start : l.start.Fits l.command where
  matched := by
    intro g hg
    cases hg
  pending := by
    intro o ho
    cases ho
  places _ ha := (List.mem_filter.mp ha).1

theorem fits_take {m : Matches} (h : m.Fits l.command) (ha : a ∈ l.command.arguments)
    (text : String) {value : Except ValueFault Value} (hvalue : ∀ v, value = .ok v → a.Takes v) :
    (l.take m a text value).1.Fits l.command := by
  unfold take
  split
  · exact h.remove a
  · split
    · refine h.add ha ?_
      intro v hv
      obtain rfl := List.mem_singleton.mp hv
      exact hvalue _ rfl
    · exact h.add ha fun v hv => by cases hv

theorem fits_settle (h : p.Fits l.command) : (l.settle p).1.Fits l.command := by
  unfold settle
  split
  · exact h
  · refine ⟨h.matched, ?_, h.places⟩
    intro o ho
    cases ho
  · next a text hpending =>
    have ha : a ∈ l.command.arguments := h.pending _ hpending
    refine ⟨fits_take h.matched ha text ?_, ?_, h.places⟩
    · intro v hv
      split at hv
      · next kind hkind => exact Or.inr ⟨kind, text, hkind, hv⟩
      · cases hv
        exact Or.inl rfl
    · intro o ho
      cases ho

theorem fits_settled (h : p.Fits l.command) (hsettled : l.settled p = .ok p') :
    p'.Fits l.command := by
  have hfits := fits_settle h
  unfold settled at hsettled
  split at hsettled
  · next hsettle =>
    cases hsettled
    rwa [hsettle] at hfits
  · cases hsettled

theorem fits_flag (h : p.Fits l.command) (ha : a ∈ l.command.arguments)
    (hflag : l.flag p a = .ok p') : p'.Fits l.command := by
  obtain ⟨p₁, hsettled, hflag⟩ := bind_eq_ok.mp hflag
  have hfits := fits_settled h hsettled
  have hon : ∀ v : Value, (.ok .on : Except ValueFault Value) = .ok v → a.Takes v := by
    intro v hv
    cases hv
    exact Or.inl rfl
  have htake := fits_take hfits.matched ha "" hon
  split at hflag
  · cases hflag
  · cases hflag
  · split at hflag
    · next htaken =>
      cases hflag
      rw [htaken] at htake
      exact ⟨htake, hfits.pending, hfits.places⟩
    · cases hflag

theorem fits_long (h : p.Fits l.command) {name : String} {value : Option String}
    {rest : List String} (hlong : l.long p name value rest = .ok p') : p'.Fits l.command := by
  unfold long at hlong
  split at hlong
  · cases hlong
  · next a hnamed =>
    have ha := mem_arguments_of_named? hnamed
    have hopen : ∀ {p₁ : Progress} (o : Open), p₁.Fits l.command → o.argument = a →
        ({ p₁ with pending := some o } : Progress).Fits l.command := by
      intro p₁ o hfits ho
      refine ⟨hfits.matched, ?_, hfits.places⟩
      rintro o' ⟨⟩
      rwa [ho]
    split at hlong
    · obtain ⟨p₁, hsettled, hlong⟩ := bind_eq_ok.mp hlong
      exact fits_settled (hopen (.given a _) (fits_settled h hsettled) rfl) hlong
    · obtain ⟨p₁, hsettled, hlong⟩ := bind_eq_ok.mp hlong
      cases hlong
      exact hopen (.waiting a) (fits_settled h hsettled) rfl
    · cases hlong
    · exact fits_flag h ha hlong

theorem fits_letters {cs : List Char} (h : p.Fits l.command) (hletters : l.letters p cs = .ok p') :
    p'.Fits l.command := by
  induction cs generalizing p with
  | nil =>
    cases hletters
    exact h
  | cons c cs ih =>
    unfold letters at hletters
    split at hletters
    · next a hshort =>
      obtain ⟨p₁, hflag, hletters⟩ := bind_eq_ok.mp hletters
      exact ih (fits_flag h (mem_arguments_of_short? hshort) hflag) hletters
    · cases hletters

theorem fits_plain (h : p.Fits l.command) {text : String} (hplain : l.plain p text = .ok p') :
    p'.Fits l.command := by
  unfold plain at hplain
  split at hplain
  · next a places hplaces =>
    obtain ⟨p₁, hsettled, hplain⟩ := bind_eq_ok.mp hplain
    cases hplain
    have hall := h.places
    rw [hplaces] at hall
    refine ⟨(fits_settled h hsettled).matched, ?_, fun b hb => hall b (List.mem_cons_of_mem _ hb)⟩
    rintro o ⟨⟩
    exact hall a List.mem_cons_self
  · cases hplain

theorem fits_waiting (h : p.Fits l.command) (hpending : p.pending = some (.waiting a))
    (text : String) : ({ p with pending := some (.given a text) } : Progress).Fits l.command := by
  refine ⟨h.matched, ?_, h.places⟩
  rintro o ⟨⟩
  exact h.pending (.waiting a) hpending

theorem fits_named (h : p.Fits l.command) {text : String} {rest : List String}
    (hnamed : l.named p text rest = .ok p') : p'.Fits l.command := by
  unfold named at hnamed
  split at hnamed
  · cases hnamed
    exact ⟨h.matched, h.pending, h.places⟩
  · exact fits_long h hnamed
  · exact fits_letters h hnamed
  · split at hnamed
    · next hpending =>
      cases hnamed
      exact fits_waiting h hpending text
    · exact fits_plain h hnamed

theorem fits_accept (h : p.Fits l.command) {text : String} {rest : List String}
    (haccept : l.accept p text rest = .ok p') : p'.Fits l.command := by
  unfold accept at haccept
  split at haccept
  · exact fits_plain h haccept
  · split at haccept
    · next hpending =>
      split at haccept
      · cases haccept
        exact fits_waiting h hpending text
      · exact fits_named h haccept
    · exact fits_named h haccept

/-- **What is read of a command line fits**, argument by argument. -/
theorem fits_scan {args : List String} {next : Option (Command × List String)}
    (h : p.Fits l.command) (hscan : l.scan p args = .ok (p', next)) : p'.Fits l.command := by
  induction args generalizing p with
  | nil =>
    cases hscan
    exact h
  | cons text rest ih =>
    unfold scan at hscan
    split at hscan
    · cases hscan
      exact h
    · obtain ⟨p₁, haccept, hscan⟩ := bind_eq_ok.mp hscan
      exact ih (fits_accept h haccept) hscan

end Level

/-! ### Orders -/

namespace Interface

variable {α : Type} {i : Interface α} {x : α} {inner outer : Matches}

theorem build_of_call {c : Callable α} (h : i.call c args = .ok (x, inner)) :
    c.build inner = some x ∧ inner.Fits c.command := by
  obtain ⟨⟨p, next⟩, hscan, h⟩ := bind_eq_ok.mp h
  obtain ⟨p', hsettled, h⟩ := bind_eq_ok.mp h
  have hfits := Level.fits_settled (Level.fits_scan Level.fits_start hscan) hsettled
  dsimp only at h
  split at h
  · cases h
  · split at h
    · next hbuild =>
      cases h
      exact ⟨hbuild, hfits.matched⟩
    · cases h

theorem build_of_parse (h : i.parse args = .ok (x, inner, outer)) :
    ∃ c ∈ i.callables, c.build inner = some x ∧ inner.Fits c.command := by
  obtain ⟨⟨p, next⟩, -, h⟩ := bind_eq_ok.mp h
  rcases next with _ | ⟨command, rest⟩
  · obtain ⟨p, -, h⟩ := bind_eq_ok.mp h
    split at h <;> cases h
  · dsimp only at h
    split at h
    · cases h
    · rename_i c hc
      obtain ⟨⟨x, m⟩, hcall, h⟩ := bind_eq_ok.mp h
      obtain ⟨p, -, h⟩ := bind_eq_ok.mp h
      cases h
      exact ⟨c, List.mem_of_find?_eq_some hc, build_of_call hcall⟩

end Interface

/-- **How many cycles are asked for**: one if it is to be once, and else what the number says
    that was given, if there is one. -/
theorem cycles_of_watch {w : WatchJob} {i : Invocation} (h : invocation args = .ok i)
    (horder : i.order = .watch w) :
    ∃ inner outer, interface.parse args = .ok (.watch w, inner, outer) ∧
      (inner.Names "once" → w.cycles = some 1) ∧
      (¬ inner.Names "once" → w.cycles = (inner.numbers "cycles").head?) := by
  obtain ⟨⟨order, inner, outer⟩, hparse, h⟩ := bind_eq_ok.mp h
  cases h
  obtain rfl : order = .watch w := horder
  have hcycles : w.cycles = if inner.has "once" then some 1 else inner.number? "cycles" := by
    obtain ⟨c, hc, hbuild, -⟩ := Interface.build_of_parse hparse
    simp only [interface, List.mem_cons, List.not_mem_nil, or_false] at hc
    rcases hc with rfl | rfl
    · obtain ⟨job, -, hjob⟩ := Option.map_eq_some_iff.mp hbuild
      cases hjob
    · obtain ⟨job, -, hjob⟩ := Option.bind_eq_some_iff.mp hbuild
      cases hjob
      rfl
  rw [Matches.number?_eq] at hcycles
  refine ⟨inner, outer, hparse, ?_, ?_⟩
  · intro honce
    rw [hcycles, if_pos (Matches.has_iff.mpr honce)]
  · intro hnot
    rw [hcycles, if_neg (mt Matches.has_iff.mp hnot)]

/-- A waiting time that fits a command is not zero. -/
theorem debounce_pos {c : Command} (hown : ∀ a ∈ c.arguments, a.name = "debounce-ms" →
    a = debounceArgument) {m : Matches} (hfits : m.Fits c) {ms : Nat}
    (hms : m.number? "debounce-ms" = some ms) : 0 < ms := by
  obtain ⟨a, ha, hname, least, hkind, hle⟩ := hfits.number? hms
  obtain rfl := hown a ha hname
  cases hkind
  exact hle

theorem debounceMs_of_job {m : Matches} {j : Job} (h : job m = some j) :
    j.debounceMs = m.number? "debounce-ms" := by
  obtain ⟨grammar, -, h⟩ := Option.bind_eq_some_iff.mp h
  obtain ⟨code, -, h⟩ := Option.bind_eq_some_iff.mp h
  obtain ⟨analyzer, -, h⟩ := Option.bind_eq_some_iff.mp h
  cases h
  rfl

/-- **No waiting time is zero** that is given with an order. -/
theorem debounceMs_pos {i : Invocation} {j : Job} {ms : Nat} (h : invocation args = .ok i)
    (horder : i.order = .lint j ∨ ∃ w : WatchJob, i.order = .watch w ∧ w.job = j)
    (hms : j.debounceMs = some ms) : 0 < ms := by
  obtain ⟨⟨order, inner, outer⟩, hparse, h⟩ := bind_eq_ok.mp h
  cases h
  obtain ⟨c, hc, hbuild, hfits⟩ := Interface.build_of_parse hparse
  simp only [interface, List.mem_cons, List.not_mem_nil, or_false] at hc
  rcases hc with rfl | rfl
  · obtain ⟨j', hj', rfl⟩ := Option.map_eq_some_iff.mp hbuild
    rcases horder with hlint | ⟨w, hwatch, -⟩
    · cases hlint
      rw [debounceMs_of_job hj'] at hms
      exact debounce_pos (by decide) hfits hms
    · cases hwatch
  · obtain ⟨j', hj', hbuild⟩ := Option.bind_eq_some_iff.mp hbuild
    cases hbuild
    rcases horder with hlint | ⟨w, hwatch, rfl⟩
    · cases hlint
    · cases hwatch
      rw [debounceMs_of_job hj'] at hms
      exact debounce_pos (by decide) hfits hms

end GrammarLint.CommandLine
