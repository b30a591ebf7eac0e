/-
  GrammarLint/Proofs/Pipeline/Window.lean
  =======================================
  **The quiet window after an edit** — which polls run a cycle, said of the operations so
  far and without the debouncer.

  `awaited` is the last edit after the last poll that fired, if there is one.  Whatever the
  operations and their times were, the debouncer of a pipeline is set to that edit and to
  nothing else (`debouncer_current`); times need not increase, so the deadline may also
  move backwards.  The law on polls follows from there, and from what the debouncer does
  when something is due.
-/
import GrammarLint.Proofs.Pipeline.Calls

namespace GrammarLint.Controller

variable {σ : Type} (services : Services (StateM σ))

/-! ### Edits and polls of the past -/

/-- The stage and the time of an edit. -/
def Operation.editAt? : Operation → Option (Stage × Nat)
  | .edit stage _ now => some (stage, now)
  | _ => none

/-- The stage and the time of the latest edit, whichever stage it is of. -/
def latestEdit (ops : List Operation) : Option (Stage × Nat) :=
  (ops.filterMap (·.editAt?)).getLast?

/-- Whether a moment is a poll that ran a cycle. -/
def Moment.fired (m : Moment) : Bool :=
  match m.answer with
  | .polled (some _) => true
  | _ => false

/-- What happened after the last poll that fired. -/
def sinceFired (moments : List Moment) : List Moment :=
  moments.rtakeWhile fun m => !m.fired

/-- The latest edit after the last poll that fired. -/
def awaited (moments : List Moment) : Option (Stage × Nat) :=
  latestEdit ((sinceFired moments).map (·.operation))

/-- How many cycles were run by polls. -/
def History.pollCycles (h : History σ) : Nat := h.moments.countP Moment.fired

theorem latestEdit_append (ops more : List Operation) :
    latestEdit (ops ++ more) = (latestEdit more).or (latestEdit ops) := by
  rw [latestEdit, List.filterMap_append, List.getLast?_append]
  rfl

theorem latestEdit_eq_none_iff {ops : List Operation} :
    latestEdit ops = none ↔ ∀ op ∈ ops, op.editAt? = none := by
  rw [latestEdit, List.getLast?_eq_none_iff, List.filterMap_eq_nil_iff]

theorem awaited_concat (moments : List Moment) (m : Moment) :
    awaited (moments ++ [m]) =
      if m.fired then none else m.operation.editAt?.or (awaited moments) := by
  cases hm : m.fired with
  | true =>
    rw [awaited, sinceFired, List.rtakeWhile_concat_neg _ _ _ (by simp [hm])]
    rfl
  | false =>
    rw [awaited, sinceFired, List.rtakeWhile_concat_pos _ _ _ (by simp [hm]), List.map_append,
      latestEdit_append]
    rcases h : m.operation.editAt? with _ | edit <;> simp [latestEdit, awaited, sinceFired, h]

/-- As long as no poll fires, the latest edit is awaited. -/
theorem awaited_append {moments more : List Moment} (h : ∀ m ∈ more, m.fired = false) :
    awaited (moments ++ more) =
      (latestEdit (more.map (·.operation))).or (awaited moments) := by
  induction more using List.reverseRecOn with
  | nil => simp [latestEdit]
  | append_singleton more m ih =>
    have hm : m.fired = false := h m (by simp)
    have hmore := ih fun m' hm' => h m' (by simp [hm'])
    rw [← List.append_assoc, awaited_concat, hmore, hm, List.map_append, latestEdit_append]
    rcases he : m.operation.editAt? with _ | edit <;> simp [latestEdit, he]

/-- The edit that is awaited is the latest of all, and exists if there was one since. -/
theorem awaited_eq_some_iff {moments : List Moment} {edit : Stage × Nat} :
    awaited moments = some edit ↔
      (∃ m ∈ sinceFired moments, m.operation.editAt?.isSome) ∧
        latestEdit (moments.map (·.operation)) = some edit := by
  have hsplit : moments.map (·.operation) =
      (moments.rdropWhile fun m => !m.fired).map (·.operation) ++
        (sinceFired moments).map (·.operation) := by
    rw [← List.map_append, sinceFired, List.rdropWhile_append_rtakeWhile]
  rw [hsplit, latestEdit_append, ← awaited]
  rcases ha : awaited moments with _ | other
  · have hnone := latestEdit_eq_none_iff.mp ha
    constructor
    · intro h
      cases h
    · rintro ⟨⟨m, hm, hsome⟩, -⟩
      rw [hnone _ (List.mem_map_of_mem hm)] at hsome
      cases hsome
  · constructor
    · rintro ⟨⟩
      refine ⟨?_, rfl⟩
      by_contra hno
      have hnone : awaited moments = none := by
        refine latestEdit_eq_none_iff.mpr fun op hop => ?_
        obtain ⟨m, hm, rfl⟩ := List.mem_map.mp hop
        by_contra hne
        exact hno ⟨m, hm, Option.isSome_iff_ne_none.mpr hne⟩
      rw [ha] at hnone
      cases hnone
    · exact fun h => h.2

/-! ### The debouncer is set to the awaited edit -/

/-- What the debouncer is set to for an edit: its stage, the version that the buffer of
    the stage has, and its time put off by the delay. -/
def armedFor (c : Controller) (delay : Nat) (edit : Stage × Nat) : Pending Trigger :=
  ⟨⟨edit.1, (c.buffer edit.1).version⟩, edit.2 + delay⟩

/-- One operation sets the debouncer to the edit that is awaited after it. -/
theorem debouncer_react (c : Controller)
    (answer : Option (Except AnalysisError AnalysisResult)) (op : Operation)
    (moments : List Moment) (delay : Nat)
    (h : c.debouncer = ⟨delay, (awaited moments).map (c.armedFor delay)⟩) :
    (c.react answer op).2.debouncer =
      ⟨delay, (awaited (moments ++ [⟨op, (c.react answer op).1⟩])).map
        ((c.react answer op).2.armedFor delay)⟩ := by
  have hr := reaction_react c answer op
  generalize (c.react answer op).1 = a at hr ⊢
  generalize (c.react answer op).2 = c' at hr ⊢
  rw [awaited_concat]
  cases hr with
  | start | runCycle =>
    have hsame : (c.cycled answer).2.armedFor delay = c.armedFor delay := by
      funext edit
      simp only [armedFor, cycled_buffer]
    simp only [Moment.fired, Operation.editAt?, Option.none_or, hsame, cycled_debouncer]
    exact h
  | edit stage text now =>
    simp [Moment.fired, Operation.editAt?, armedFor, h]
  | early now hdue => exact h
  | due now hdue => simp [Moment.fired, disarmed, Debouncer.disarmed, h]
  | activate _ _ _ _ hsame | follow _ _ _ _ hsame =>
    have harmed : c'.armedFor delay = c.armedFor delay := by
      funext edit
      simp only [armedFor, hsame.version]
    simp only [Moment.fired, Operation.editAt?, Option.none_or, harmed, hsame.debouncer]
    exact h

/-- **The debouncer is set to the awaited edit**, after all operations at all times. -/
theorem debouncer_current (settings : Settings) (ops : List Operation) (s : σ) :
    let h := history services settings ops s
    h.current.debouncer =
      ⟨settings.debounceMs, (awaited h.moments).map (h.current.armedFor settings.debounceMs)⟩ := by
  induction ops using List.reverseRecOn with
  | nil => rfl
  | append_singleton ops op ih =>
    obtain ⟨answer, outside, hh, -⟩ := history_react services settings ops op s
    rw [hh]
    exact debouncer_react _ answer op _ _ ih

/-! ### When a poll fires -/

/-- The law's condition on a time: there was an edit after the last poll that fired, and
    the delay after the latest edit of all is over. -/
def QuietAt (delay : Nat) (moments : List Moment) (t : Nat) : Prop :=
  (∃ m ∈ sinceFired moments, m.operation.editAt?.isSome) ∧
    ∃ stage e, latestEdit (moments.map (·.operation)) = some (stage, e) ∧ e + delay ≤ t

theorem quietAt_iff_awaited {delay : Nat} {moments : List Moment} {t : Nat} :
    QuietAt delay moments t ↔ ∃ stage e, awaited moments = some (stage, e) ∧ e + delay ≤ t := by
  constructor
  · rintro ⟨hsince, stage, e, hlatest, hle⟩
    exact ⟨stage, e, awaited_eq_some_iff.mpr ⟨hsince, hlatest⟩, hle⟩
  · rintro ⟨stage, e, hawaited, hle⟩
    obtain ⟨hsince, hlatest⟩ := awaited_eq_some_iff.mp hawaited
    exact ⟨hsince, stage, e, hlatest, hle⟩

theorem due_iff_quietAt (settings : Settings) (ops : List Operation) (s : σ) (t : Nat) :
    let h := history services settings ops s
    h.current.debouncer.Due t ↔ QuietAt settings.debounceMs h.moments t := by
  intro h
  have hset : h.current.debouncer = _ := debouncer_current services settings ops s
  rw [quietAt_iff_awaited, Debouncer.Due, hset]
  constructor
  · rintro ⟨p, hp, hle⟩
    obtain ⟨⟨stage, e⟩, hawaited, rfl⟩ := Option.map_eq_some_iff.mp hp
    exact ⟨stage, e, hawaited, hle⟩
  · rintro ⟨stage, e, hawaited, hle⟩
    exact ⟨_, Option.map_eq_some_iff.mpr ⟨_, hawaited, rfl⟩, hle⟩

/-- A poll that comes too early does nothing. -/
theorem poll_of_not_due {c : Controller} {t : Nat} (h : ¬ c.debouncer.Due t) :
    c.poll services t = pure (none, c) := by
  unfold poll
  rw [Debouncer.takeDue_of_not_due h]

/-- A poll that is due says what it waited for and runs a cycle. -/
theorem poll_of_pending {c : Controller} {p : Pending Trigger} {t : Nat}
    (hp : c.debouncer.pending = some p) (hle : p.deadline ≤ t) :
    c.poll services t = do
      services.log (.elapsed p.action.stage p.action.version)
      let (outcome, c) ← c.disarmed.runCycle services
      return (some outcome, c) := by
  unfold poll
  rw [Debouncer.takeDue_of_pending hp hle]
  rfl

theorem isSome_poll_iff_due (c : Controller) (t : Nat) (s : σ) :
    ((c.poll services t).run s).1.1.isSome ↔ c.debouncer.Due t := by
  by_cases h : c.debouncer.Due t
  · have hd := h
    obtain ⟨p, hp, hle⟩ := hd
    rw [poll_of_pending services hp hle]
    exact ⟨fun _ => h, fun _ => rfl⟩
  · rw [poll_of_not_due services h]
    exact ⟨fun hs => (Bool.noConfusion hs), fun hd => absurd hd h⟩

/-! ### How often polls fire -/

/-- Every poll that fired used up an edit, and an edit that is awaited is not used up. -/
theorem pollCycles_le_edits (settings : Settings) (ops : List Operation) (s : σ) :
    let h := history services settings ops s
    h.pollCycles + (if (awaited h.moments).isSome then 1 else 0) ≤
      ops.countP (·.editAt?.isSome) := by
  induction ops using List.reverseRecOn with
  | nil => exact Nat.le_refl 0
  | append_singleton ops op ih =>
    have hset := debouncer_current services settings ops s
    obtain ⟨answer, outside, hh, -⟩ := history_react services settings ops op s
    rw [hh]
    generalize history services settings ops s = h at *
    simp only [History.pollCycles, History.extend, List.countP_append, List.countP_singleton,
      awaited_concat] at ih ⊢
    generalize ops.countP (·.editAt?.isSome) = edits at ih ⊢
    have hr := reaction_react h.current answer op
    generalize (h.current.react answer op).1 = a at hr ⊢
    generalize (h.current.react answer op).2 = c' at hr ⊢
    cases hr with
    | start | runCycle | early | activate | follow =>
      simpa [Moment.fired, Operation.editAt?] using ih
    | edit stage text now =>
      simp only [Moment.fired, Operation.editAt?, Option.some_or, Option.isSome_some, if_true,
        Bool.false_eq_true, if_false]
      omega
    | due now hdue =>
      -- Something was due, so an edit was awaited: it makes room for this poll.
      have hawaited : (awaited h.moments).isSome = true := by
        obtain ⟨p, hp, -⟩ := hdue
        rw [hset] at hp
        obtain ⟨edit, hedit, -⟩ := Option.map_eq_some_iff.mp hp
        exact Option.isSome_of_eq_some hedit
      simpa [Moment.fired, Operation.editAt?, hawaited] using ih

/-! ### Bursts of edits -/

theorem History.moments_append (settings : Settings) (ops more : List Operation) (s : σ) :
    ∃ moments, (history services settings (ops ++ more) s).moments =
        (history services settings ops s).moments ++ moments ∧
      moments.map (·.operation) = more := by
  induction more using List.reverseRecOn with
  | nil => exact ⟨[], by simp, rfl⟩
  | append_singleton more op ih =>
    obtain ⟨moments, hmoments, hops⟩ := ih
    obtain ⟨answer, outside, hh, -⟩ := history_react services settings (ops ++ more) op s
    rw [← List.append_assoc ops, hh, History.extend, hmoments, List.append_assoc]
    refine ⟨_, rfl, ?_⟩
    rw [List.map_append, hops]
    rfl

/-- After a burst of edits in which no poll fired, its last edit is awaited. -/
theorem awaited_burst {settings : Settings} {ops burst : List Operation} {s : σ}
    {edit : Stage × Nat} (hedit : latestEdit burst = some edit)
    (hquiet : (history services settings (ops ++ burst) s).pollCycles =
      (history services settings ops s).pollCycles) :
    awaited (history services settings (ops ++ burst) s).moments = some edit := by
  obtain ⟨moments, hmoments, hops⟩ := History.moments_append services settings ops burst s
  rw [History.pollCycles, History.pollCycles, hmoments, List.countP_append] at hquiet
  have hnone : moments.countP Moment.fired = 0 := by omega
  rw [hmoments, awaited_append, hops, hedit]
  · rfl
  · intro m hm
    have hfired := List.countP_eq_zero.mp hnone m hm
    simpa using hfired

/-- What polls make of a history if one of them fires, or none does. -/
structure Polled (fired : Bool) (h h' : History σ) : Prop where
  texts : h'.textsAfter h'.moments = h.textsAfter h.moments
  pollCycles : h'.pollCycles = h.pollCycles + fired.toNat
  awaited : awaited h'.moments = if fired then none else awaited h.moments
  cycleTexts : h'.cycleTexts = h.cycleTexts ++ if fired then [h.textsAfter h.moments] else []

theorem Polled.refl (h : History σ) : Polled false h h :=
  ⟨rfl, rfl, rfl, (List.append_nil _).symm⟩

/-- At most one of two polls fires, if nothing is awaited after the first did. -/
theorem Polled.trans {first second : Bool} {h h' h'' : History σ}
    (hone : first = true → second = false) (hfirst : Polled first h h')
    (hsecond : Polled second h' h'') :
    Polled (first || second) h h'' := by
  constructor
  case texts => rw [hsecond.texts, hfirst.texts]
  case pollCycles =>
    rw [hsecond.pollCycles, hfirst.pollCycles]
    cases first <;> cases second <;> simp at hone ⊢
  case awaited =>
    rw [hsecond.awaited, hfirst.awaited]
    cases first <;> cases second <;> rfl
  case cycleTexts =>
    rw [hsecond.cycleTexts, hfirst.cycleTexts, hfirst.texts]
    cases first <;> cases second <;> simp at hone ⊢

/-- One poll fires exactly if the window after the latest edit is over. -/
theorem history_poll (settings : Settings) (ops : List Operation) (t : Nat) (s : σ) {fired : Bool}
    (hfired : fired = true ↔
      QuietAt settings.debounceMs (history services settings ops s).moments t) :
    Polled fired (history services settings ops s)
      (history services settings (ops ++ [.poll t]) s) := by
  obtain ⟨answer, outside, hh, -⟩ := history_react services settings ops (.poll t) s
  have hdue : _ ↔ _ := due_iff_quietAt services settings ops s t
  rw [← hdue] at hfired
  rw [hh]
  generalize history services settings ops s = h at *
  have hr := reaction_react h.current answer (.poll t)
  generalize (h.current.react answer (.poll t)).1 = a at hr ⊢
  generalize (h.current.react answer (.poll t)).2 = c' at hr ⊢
  have htexts : (h.extend ⟨.poll t, a⟩ c' outside).textsAfter
      (h.extend ⟨.poll t, a⟩ c' outside).moments = h.textsAfter h.moments := by
    simp only [History.textsAfter, History.textAfter, History.extend, lastEdit_concat]
    rfl
  cases hr with
  | early _ hno =>
    obtain rfl : fired = false := by
      rw [← Bool.not_eq_true, hfired]
      exact hno
    refine ⟨htexts, ?_, ?_, cycleTexts_extend h _ _ _⟩
    · exact List.countP_append
    · exact awaited_concat h.moments _
  | due _ hyes =>
    obtain rfl : fired = true := hfired.mpr hyes
    refine ⟨htexts, ?_, ?_, cycleTexts_extend h _ _ _⟩
    · exact List.countP_append
    · exact awaited_concat h.moments _

/-- **Polls after an edit.**  As long as all of them come too early nothing happens; the
    first that does not runs a cycle on the texts as they are, and then no other does. -/
theorem polls_after_edit {settings : Settings} {ops : List Operation} {s : σ}
    {stage : Stage} {e : Nat}
    (hawaited : awaited (history services settings ops s).moments = some (stage, e))
    (times : List Nat) :
    Polled (times.any fun t => e + settings.debounceMs ≤ t) (history services settings ops s)
      (history services settings (ops ++ times.map .poll) s) := by
  induction times using List.reverseRecOn with
  | nil =>
    rw [List.map_nil, List.append_nil]
    exact .refl _
  | append_singleton times t ih =>
    rw [List.map_append, ← List.append_assoc, List.any_append, List.any_cons, List.any_nil,
      Bool.or_false]
    -- After a poll that fired nothing is awaited, so that the last poll is early.
    cases hbefore : times.any fun t => decide (e + settings.debounceMs ≤ t) with
    | true =>
      rw [hbefore] at ih
      have hlast : Polled false _ _ :=
        history_poll services settings (ops ++ times.map .poll) t s (by
          rw [quietAt_iff_awaited, ih.awaited]
          simp)
      have hboth := ih.trans (fun _ => rfl) hlast
      exact hboth
    | false =>
      rw [hbefore] at ih
      have hlast : Polled (e + settings.debounceMs ≤ t) _ _ :=
        history_poll services settings (ops ++ times.map .poll) t s (by
          rw [quietAt_iff_awaited, ih.awaited, hawaited]
          simp)
      exact ih.trans (fun hf => by cases hf) hlast

/-- **A burst of edits causes one cycle**, on the last texts, as soon as a poll is due. -/
theorem burst_runs_one_cycle {settings : Settings} {ops burst : List Operation} {s : σ}
    {stage : Stage} {e : Nat} {times : List Nat} (hedit : latestEdit burst = some (stage, e))
    (hquiet : (history services settings (ops ++ burst) s).pollCycles =
      (history services settings ops s).pollCycles)
    (hdue : ∃ t ∈ times, e + settings.debounceMs ≤ t) :
    let before := history services settings (ops ++ burst) s
    let after := history services settings (ops ++ burst ++ times.map .poll) s
    after.pollCycles = (history services settings ops s).pollCycles + 1 ∧
      after.cycleTexts = before.cycleTexts ++ [before.textsAfter before.moments] := by
  intro before after
  have hpolled : Polled _ before after :=
    polls_after_edit services (awaited_burst services hedit hquiet) times
  have hany : (times.any fun t => decide (e + settings.debounceMs ≤ t)) = true := by
    obtain ⟨t, ht, hle⟩ := hdue
    exact List.any_eq_true.mpr ⟨t, ht, decide_eq_true hle⟩
  rw [hany] at hpolled
  constructor
  · rw [hpolled.pollCycles, Bool.toNat_true, ← hquiet]
  · rw [hpolled.cycleTexts, if_pos rfl]

/-! ### The law -/

/-- **The debounce law.**  For all services, settings and operations at all times, and for
    every time `t`: a poll at `t` runs a cycle exactly if there was an edit after the last
    poll that fired and the delay after the latest edit of all is over at `t`; otherwise
    it does nothing.  That is also what the time until due says.  A poll that fires names
    the stage of the latest edit and the version that its buffer has now.  So there are no
    more cycles by polls than edits, and a burst of edits causes one. -/
theorem polls_debounced (settings : Settings) (ops : List Operation) (s : σ) :
    let h := history services settings ops s
    let delay := settings.debounceMs
    h.moments.map (·.operation) = ops ∧
      (∀ t s', ((h.current.poll services t).run s').1.1.isSome ↔ QuietAt delay h.moments t) ∧
      (∀ t, ¬ QuietAt delay h.moments t → h.current.poll services t = pure (none, h.current)) ∧
      (∀ t, h.current.timeUntilDue t = some 0 ↔ QuietAt delay h.moments t) ∧
      (∀ t left, h.current.timeUntilDue t = some left →
        QuietAt delay h.moments (t + left) ∧
          (0 < left → ∀ t' < t + left, ¬ QuietAt delay h.moments t')) ∧
      (∀ t, QuietAt delay h.moments t → ∃ stage e, latestEdit ops = some (stage, e) ∧
        h.current.poll services t = do
          services.log (.elapsed stage (h.current.buffer stage).version)
          let (outcome, c) ← h.current.disarmed.runCycle services
          return (some outcome, c)) ∧
      h.pollCycles ≤ ops.countP (·.editAt?.isSome) ∧
      (∀ stage, (h.current.buffer stage).text = h.textAfter h.moments stage) ∧
      ∀ burst stage e (times : List Nat), latestEdit burst = some (stage, e) →
        (history services settings (ops ++ burst) s).pollCycles = h.pollCycles →
        (∃ t ∈ times, e + delay ≤ t) →
        let before := history services settings (ops ++ burst) s
        let after := history services settings (ops ++ burst ++ times.map .poll) s
        after.pollCycles = h.pollCycles + 1 ∧
          after.cycleTexts = before.cycleTexts ++ [before.textsAfter before.moments] := by
  intro h delay
  have hset : h.current.debouncer = _ := debouncer_current services settings ops s
  have hoperations : h.moments.map (·.operation) = ops :=
    operations_history services settings ops s
  have hdue : ∀ t, h.current.debouncer.Due t ↔ QuietAt delay h.moments t :=
    due_iff_quietAt services settings ops s
  refine ⟨hoperations, ?_, ?_, ?_, ?_, ?_, ?_, text_current services settings ops s, ?_⟩
  · intro t s'
    rw [← hdue]
    exact isSome_poll_iff_due services h.current t s'
  · intro t hno
    rw [← hdue] at hno
    exact poll_of_not_due services hno
  · intro t
    rw [← hdue]
    exact Debouncer.timeUntilDue_eq_zero_iff
  · intro t left hleft
    obtain ⟨hthen, hbefore⟩ := Debouncer.due_add_timeUntilDue hleft
    refine ⟨(hdue _).mp hthen, fun hpos t' ht' hquiet => ?_⟩
    exact hbefore hpos t' ht' ((hdue t').mpr hquiet)
  · intro t hquiet
    obtain ⟨stage, e, hawaited, hle⟩ := quietAt_iff_awaited.mp hquiet
    obtain ⟨-, hlatest⟩ := awaited_eq_some_iff.mp hawaited
    rw [hoperations] at hlatest
    refine ⟨stage, e, hlatest, ?_⟩
    have hpending : h.current.debouncer.pending = some (h.current.armedFor delay (stage, e)) := by
      rw [hset, hawaited]
      rfl
    have hpoll := poll_of_pending services hpending hle
    exact hpoll
  · have hle : h.pollCycles + _ ≤ _ := pollCycles_le_edits services settings ops s
    exact Nat.le_of_add_right_le hle
  · intro burst stage e times hedit hquiet hdueTime
    exact burst_runs_one_cycle services hedit hquiet hdueTime

/-- Services of an outside that stores nothing and whose analyzer finds nothing. -/
def contented : Services (StateM Unit) where
  analyze _ _ := pure (.ok "[[],[]]")
  load _ := pure none
  persist _ _ := pure (.ok ())
  log _ := pure ()

/-- Three edits of both texts at times that go back, with a poll in between that is too
    early: one of the three polls that follow runs the one cycle. -/
theorem polls_debounced_burst :
    let burst : List Operation :=
      [.edit .grammar "a" 0, .poll 700, .edit .code "b" 90, .edit .grammar "c" 50]
    let h := history contented .standard (burst ++ [799, 800, 2000].map .poll) ()
    h.pollCycles = 1 ∧ h.cycleTexts = [("c", "b")] := by
  intro burst
  obtain ⟨-, -, -, -, -, -, -, -, hburst⟩ := polls_debounced contented .standard [] ()
  have honce := hburst burst .grammar 50 [799, 800, 2000] (by decide) (by decide) (by decide)
  exact honce

end GrammarLint.Controller
