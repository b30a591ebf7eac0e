/-
  GrammarLint/Proofs/Session/Transcript.lean
  ==========================================
  **What a session does on its machine, written down** — every operation of the machine
  with what came of it, in order.

  A host is any record of operations on any state, so nothing is assumed of files, clocks
  or programs: what is read may change from one reading to the next.  `Host.recording` is
  a host that does what another one does and writes it down.  `Records x' x P` says that
  `x'`, on the recording host, does what `x` does on the host itself, and that what it
  writes down is as `P` says for what it answers.  This goes through `bind`, so there is one
  lemma for each part of a session, put together as the session is.

  Much of what a session does does not matter to anyone but itself: it logs, it keeps its
  state file, it looks at the clock.  Such deeds are `Minor`, and all that is said about
  them is that they are.
-/
import GrammarLint.Proofs.Pipeline.Calls
import GrammarLint.Proofs.Session.Vault
import GrammarLint.Session.Watch

namespace GrammarLint

open Text

variable {σ α β : Type}

/-! ### Deeds -/

/-- An operation of a machine, with what came of it. -/
inductive Deed where
  | read (path : String) (answer : Except FileError ByteArray)
  | sought (path : String) (there : Bool)
  | wrote (path : String) (bytes : ByteArray) (result : Except FileError Unit)
  | renamed (source target : String) (result : Except FileError Unit)
  | launched (program : Program) (text : String) (launch : Launch)
  | told (time : Nat)
  | slept (ms : Nat)
  | printed (chunk : Chunk)

namespace Deed

/-- Deeds that matter to the session only: keeping its state file, looking at the clock, and
    logging. -/
inductive Minor : Deed → Prop
  | sought (path : String) (there : Bool) : Minor (.sought path there)
  | wrote (path : String) (bytes : ByteArray) (result : Except FileError Unit) :
    Minor (.wrote path bytes result)
  | renamed (source target : String) (result : Except FileError Unit) :
    Minor (.renamed source target result)
  | told (time : Nat) : Minor (.told time)
  | logged (r : Log.Record) : Minor (.printed ⟨.err, r.line⟩)

/-- Deeds of a session that has not begun yet: it also reads files then. -/
inductive Opening : Deed → Prop
  | minor {d : Deed} (h : d.Minor) : Opening d
  | read (path : String) (answer : Except FileError ByteArray) : Opening (.read path answer)

/-- The program that was run, what it was sent and what came of it. -/
def launch? : Deed → Option (Program × String × Launch)
  | .launched program text launch => some (program, text, launch)
  | _ => none

theorem Minor.launch? {d : Deed} (h : d.Minor) : d.launch? = none := by
  cases h <;> rfl

theorem Opening.launch? {d : Deed} (h : d.Opening) : d.launch? = none := by
  cases h with
  | minor h => exact h.launch?
  | read path answer => rfl

end Deed

/-- The programs that were run, what they were sent and what came of them. -/
def launches (deeds : List Deed) : List (Program × String × Launch) :=
  deeds.filterMap (·.launch?)

theorem launches_append (k l : List Deed) : launches (k ++ l) = launches k ++ launches l :=
  List.filterMap_append

theorem launches_of_minor {deeds : List Deed} (h : ∀ d ∈ deeds, d.Minor) : launches deeds = [] :=
  List.filterMap_eq_nil_iff.mpr fun d hd => (h d hd).launch?

theorem launches_of_opening {deeds : List Deed} (h : ∀ d ∈ deeds, d.Opening) :
    launches deeds = [] :=
  List.filterMap_eq_nil_iff.mpr fun d hd => (h d hd).launch?

theorem launches_printed (chunks : List Chunk) : launches (chunks.map .printed) = [] := by
  rw [launches, List.filterMap_map]
  exact List.filterMap_eq_nil_iff.mpr fun _ _ => rfl

/-! ### Writing down -/

/-- Carries out an operation and writes it down. -/
def recorded (deed : α → Deed) (x : StateM σ α) : StateM (List Deed × σ) α := fun (deeds, s) =>
  ((x.run s).1, (deeds ++ [deed (x.run s).1], (x.run s).2))

/-- A host that does what another one does, and writes it down. -/
def Host.recording (host : Host (StateM σ)) : Host (StateM (List Deed × σ)) where
  readFile path := recorded (.read path) (host.readFile path)
  pathExists path := recorded (.sought path) (host.pathExists path)
  writeFile path bytes := recorded (.wrote path bytes) (host.writeFile path bytes)
  rename source target := recorded (.renamed source target) (host.rename source target)
  launch program text := recorded (.launched program text) (host.launch program text)
  now := recorded .told host.now
  sleep ms := recorded (fun _ => .slept ms) (host.sleep ms)
  write stream text := recorded (fun _ => .printed ⟨stream, text⟩) (host.write stream text)

/-- `x'` does what `x` does, and what it writes down is as `P` says for its answer. -/
def Records (x' : StateM (List Deed × σ) α) (x : StateM σ α) (P : α → List Deed → Prop) : Prop :=
  ∀ deeds s, ∃ new, P (x.run s).1 new ∧
    x'.run (deeds, s) = ((x.run s).1, (deeds ++ new, (x.run s).2))

/-- `x'` does what `x` does, and every single deed is as `p` says. -/
def Within (p : Deed → Prop) (x' : StateM (List Deed × σ) α) (x : StateM σ α) : Prop :=
  Records x' x fun _ deeds => ∀ d ∈ deeds, p d

section Laws

variable {x' : StateM (List Deed × σ) α} {x : StateM σ α} {f' : α → StateM (List Deed × σ) β}
  {f : α → StateM σ β} {P : α → List Deed → Prop} {p : Deed → Prop}

theorem records_recorded (deed : α → Deed) (x : StateM σ α) :
    Records (recorded deed x) x fun a deeds => deeds = [deed a] := by
  intro deeds s
  exact ⟨[deed (x.run s).1], rfl, rfl⟩

theorem records_pure {a : α} (h : P a []) :
    Records (pure a : StateM (List Deed × σ) α) (pure a : StateM σ α) P := by
  intro deeds s
  refine ⟨[], h, ?_⟩
  rw [List.append_nil]
  rfl

theorem Records.mono {Q : α → List Deed → Prop} (hx : Records x' x P)
    (h : ∀ a deeds, P a deeds → Q a deeds) : Records x' x Q := by
  intro deeds s
  obtain ⟨new, hnew, hrun⟩ := hx deeds s
  exact ⟨new, h _ _ hnew, hrun⟩

/-- What is written down in a run. -/
theorem Records.run_eq (hx : Records x' x P) {s s' : σ} {a : α} (h : x.run s = (a, s'))
    (deeds : List Deed) : ∃ new, P a new ∧ x'.run (deeds, s) = (a, (deeds ++ new, s')) := by
  obtain ⟨new, hnew, hrun⟩ := hx deeds s
  rw [h] at hnew hrun
  exact ⟨new, hnew, hrun⟩

/-- What two computations write down one after the other. -/
theorem Records.bind {R : β → List Deed → Prop} (hx : Records x' x P)
    (hf : ∀ a k, P a k → Records (f' a) (f a) fun b l => R b (k ++ l)) :
    Records (x' >>= f') (x >>= f) R := by
  intro deeds s
  obtain ⟨k, hk, hrun⟩ := hx deeds s
  obtain ⟨l, hl, hrun'⟩ := hf _ k hk (deeds ++ k) (x.run s).2
  refine ⟨k ++ l, hl, ?_⟩
  rw [run_bind_state, hrun, hrun', List.append_assoc]
  rfl

theorem within_pure (a : α) :
    Within p (pure a : StateM (List Deed × σ) α) (pure a : StateM σ α) :=
  records_pure fun _ h => nomatch h

theorem within_recorded {deed : α → Deed} (h : ∀ a, p (deed a)) (x : StateM σ α) :
    Within p (recorded deed x) x := by
  apply (records_recorded deed x).mono
  rintro a _ rfl d hd
  rw [List.mem_singleton.mp hd]
  exact h a

theorem Within.mono {q : Deed → Prop} (hx : Within p x' x) (h : ∀ d, p d → q d) :
    Within q x' x :=
  Records.mono hx fun _ _ hall d hd => h d (hall d hd)

theorem Within.bind (hx : Within p x' x) (hf : ∀ a, Within p (f' a) (f a)) :
    Within p (x' >>= f') (x >>= f) := by
  apply Records.bind hx
  intro a k hk
  apply Records.mono (hf a)
  intro b l hl d hd
  exact (List.mem_append.mp hd).elim (hk d) (hl d)

end Laws

/-- The same for computations that have a vault; what becomes of the vault is not said. -/
def RecordsIn (x' : StateT Vault (StateM (List Deed × σ)) α) (x : StateT Vault (StateM σ) α)
    (P : α → List Deed → Prop) : Prop :=
  ∀ v, Records (x'.run v) (x.run v) fun r deeds => P r.1 deeds

/-- The same for computations that have a vault, and deeds one by one. -/
def WithinIn (p : Deed → Prop) (x' : StateT Vault (StateM (List Deed × σ)) α)
    (x : StateT Vault (StateM σ) α) : Prop :=
  RecordsIn x' x fun _ deeds => ∀ d ∈ deeds, p d

section VaultLaws

variable {x' : StateT Vault (StateM (List Deed × σ)) α} {x : StateT Vault (StateM σ) α}
  {f' : α → StateT Vault (StateM (List Deed × σ)) β} {f : α → StateT Vault (StateM σ) β}
  {P : α → List Deed → Prop} {p : Deed → Prop}

theorem recordsIn_pure {a : α} (h : P a []) :
    RecordsIn (pure a : StateT Vault (StateM (List Deed × σ)) α)
      (pure a : StateT Vault (StateM σ) α) P :=
  fun _ => records_pure h

theorem Records.lift {y' : StateM (List Deed × σ) α} {y : StateM σ α} (h : Records y' y P) :
    RecordsIn (StateT.lift y') (StateT.lift y) P :=
  fun _ => h.bind fun _ _ hk => records_pure (by rwa [List.append_nil])

theorem RecordsIn.mono {Q : α → List Deed → Prop} (hx : RecordsIn x' x P)
    (h : ∀ a deeds, P a deeds → Q a deeds) : RecordsIn x' x Q :=
  fun v => (hx v).mono fun r => h r.1

theorem RecordsIn.bind {R : β → List Deed → Prop} (hx : RecordsIn x' x P)
    (hf : ∀ a k, P a k → RecordsIn (f' a) (f a) fun b l => R b (k ++ l)) :
    RecordsIn (x' >>= f') (x >>= f) R :=
  fun v => (hx v).bind fun r k hk => hf r.1 k hk r.2

theorem withinIn_pure (a : α) :
    WithinIn p (pure a : StateT Vault (StateM (List Deed × σ)) α)
      (pure a : StateT Vault (StateM σ) α) :=
  recordsIn_pure fun _ h => nomatch h

theorem WithinIn.bind (hx : WithinIn p x' x) (hf : ∀ a, WithinIn p (f' a) (f a)) :
    WithinIn p (x' >>= f') (x >>= f) := by
  apply RecordsIn.bind hx
  intro a k hk
  apply RecordsIn.mono (hf a)
  intro b l hl d hd
  exact (List.mem_append.mp hd).elim (hk d) (hl d)

end VaultLaws

/-! ### The machine -/

section Host

variable (host : Host (StateM σ))

/-- The text that a reading of a file comes to, if it is one. -/
def textRead : Except FileError ByteArray → Option String
  | .ok bytes => String.fromUTF8? bytes
  | .error _ => none

theorem records_readText (path : String) :
    Records (host.recording.readText path) (host.readText path) fun result deeds =>
      ∃ answer, deeds = [.read path answer] ∧ textRead answer = result.toOption := by
  apply (records_recorded (.read path) (host.readFile path)).bind
  rintro answer _ rfl
  cases answer with
  | error e =>
    apply records_pure
    exact ⟨.error e, rfl, rfl⟩
  | ok bytes =>
    cases htext : read? bytes with
    | none =>
      dsimp only
      rw [htext]
      apply records_pure
      exact ⟨.ok bytes, rfl, htext⟩
    | some text =>
      dsimp only
      rw [htext]
      apply records_pure
      exact ⟨.ok bytes, rfl, htext⟩

theorem within_readText (path : String) :
    Within Deed.Opening (host.recording.readText path) (host.readText path) := by
  apply (records_readText host path).mono
  rintro result _ ⟨answer, rfl, -⟩ d hd
  rw [List.mem_singleton.mp hd]
  exact .read path answer

theorem records_writeAll (chunks : List Chunk) :
    Records (host.recording.writeAll chunks) (host.writeAll chunks) fun _ deeds =>
      deeds = chunks.map .printed := by
  induction chunks with
  | nil => exact records_pure rfl
  | cons chunk chunks ih =>
    apply (records_recorded (fun _ => .printed chunk) (host.write chunk.stream chunk.text)).bind
    rintro _ _ rfl
    apply ih.mono
    rintro _ _ rfl
    rfl

theorem within_replaceFile (path text : String) :
    Within Deed.Minor (Vault.replaceFile host.recording path text)
      (Vault.replaceFile host path text) := by
  have hwrite : Within Deed.Minor (host.recording.writeText (Vault.temporary path) text)
      (host.writeText (Vault.temporary path) text) :=
    within_recorded (Deed.Minor.wrote _ _) _
  apply hwrite.bind
  intro result
  cases result with
  | error e => exact within_pure _
  | ok _ => exact within_recorded (Deed.Minor.renamed _ _) _

theorem within_set (v : Vault) (key value : String) :
    Within Deed.Minor (v.set host.recording key value) (v.set host key value) := by
  have hoverwrite : ∀ path, Within Deed.Minor (v.overwrite host.recording path key value)
      (v.overwrite host path key value) := by
    intro path
    apply (within_replaceFile host path _).bind
    intro result
    cases result <;> exact within_pure _
  cases hpath : v.path with
  | none =>
    simp only [Vault.set, hpath]
    exact within_pure _
  | some path =>
    rw [Vault.set_eq _ hpath, Vault.set_eq _ hpath]
    split
    · apply (within_recorded (Deed.Minor.sought path) (host.pathExists path)).bind
      intro there
      cases there with
      | true => exact within_pure _
      | false => exact hoverwrite path
    · exact hoverwrite path

end Host

/-! ### Cycles -/

/-- **How the analyzer is consulted about two texts**, and what it answers: not at all if
    there is no grammar, and otherwise by one run. -/
inductive Consulted (program : Program) (texts : String × String) :
    Option (Except AnalysisError AnalysisResult) → List Deed → Prop
  | spared (h : texts.1 = "") : Consulted program texts none []
  | asked (h : texts.1 ≠ "") (launch : Launch) :
    Consulted program texts (some (interpret (launch.answer program.name)))
      [.launched program (request texts.1 texts.2) launch]

/-- A cycle on two texts: the analyzer is consulted, and nothing else that matters is done. -/
inductive Attended (program : Program) (texts : String × String)
    (answer : Option (Except AnalysisError AnalysisResult)) : List Deed → Prop
  | intro {before asked after : List Deed} (hbefore : ∀ d ∈ before, d.Minor)
    (hasked : Consulted program texts answer asked) (hafter : ∀ d ∈ after, d.Minor) :
    Attended program texts answer (before ++ asked ++ after)

namespace Attended

variable {program : Program} {texts : String × String}
  {answer : Option (Except AnalysisError AnalysisResult)} {k l : List Deed}

theorem prepend (h : Attended program texts answer l) (hk : ∀ d ∈ k, d.Minor) :
    Attended program texts answer (k ++ l) := by
  obtain ⟨hbefore, hasked, hafter⟩ := h
  rw [← List.append_assoc, ← List.append_assoc]
  refine ⟨?_, hasked, hafter⟩
  intro d hd
  exact (List.mem_append.mp hd).elim (hk d) (hbefore d)

theorem append (h : Attended program texts answer k) (hl : ∀ d ∈ l, d.Minor) :
    Attended program texts answer (k ++ l) := by
  obtain ⟨hbefore, hasked, hafter⟩ := h
  rw [List.append_assoc]
  refine ⟨hbefore, hasked, ?_⟩
  intro d hd
  exact (List.mem_append.mp hd).elim (hafter d) (hl d)

/-- The analyzer is run at most once in a cycle, and exactly if there is a grammar. -/
theorem launch (h : Attended program texts answer l) :
    ∃ launch : Option Launch, answer = launch.map (fun l => interpret (l.answer program.name)) ∧
      launches l = launch.toList.map (program, request texts.1 texts.2, ·) ∧
      (launch.isSome ↔ texts.1 ≠ "") := by
  obtain ⟨hbefore, hasked, hafter⟩ := h
  rw [launches_append, launches_append, launches_of_minor hbefore, launches_of_minor hafter,
    List.nil_append, List.append_nil]
  cases hasked with
  | spared hempty => exact ⟨none, rfl, rfl, by simp [hempty]⟩
  | asked hne launch => exact ⟨some launch, rfl, rfl, by simp [hne]⟩

end Attended

def Session.recording (s : Session (StateM σ)) : Session (StateM (List Deed × σ)) :=
  ⟨s.host.recording, s.filter⟩

namespace Session

variable (s : Session (StateM σ)) (program : Program)

theorem within_note (r : Log.Record) :
    Within Deed.Minor (s.recording.note r) (s.note r) := by
  have hfilter : s.recording.filter = s.filter := rfl
  unfold note
  rw [hfilter]
  split
  · exact within_recorded (fun _ => Deed.Minor.logged r) _
  · exact within_pure _

theorem withinIn_log (event : Event) :
    WithinIn Deed.Minor ((s.recording.services program).log event)
      ((s.services program).log event) :=
  Records.lift (s.within_note event.record)

theorem withinIn_persist (key text : String) :
    WithinIn Deed.Minor (Controller.persist (s.recording.services program) key text)
      (Controller.persist (s.services program) key text) := by
  have hset : WithinIn Deed.Minor ((s.recording.services program).persist key text)
      ((s.services program).persist key text) := fun v => within_set s.host v key text
  apply hset.bind
  intro result
  cases result with
  | ok _ => exact withinIn_pure _
  | error e => exact s.withinIn_log program _

theorem records_consult (snapshot : Snapshot) :
    RecordsIn (Controller.consult (s.recording.services program) snapshot)
      (Controller.consult (s.services program) snapshot)
      (Attended program (snapshot.grammar, snapshot.code)) := by
  unfold Controller.consult
  have hnothing : ∀ d ∈ ([] : List Deed), d.Minor := fun _ h => nomatch h
  cases hempty : snapshot.grammar.isEmpty with
  | true =>
    have hspared : Consulted program (snapshot.grammar, snapshot.code) none [] :=
      .spared (String.isEmpty_iff.mp hempty)
    apply recordsIn_pure
    exact .intro hnothing hspared hnothing
  | false =>
    have hne : snapshot.grammar ≠ "" := fun heq => by simp [heq] at hempty
    have hlaunch : RecordsIn
        ((s.recording.services program).analyze snapshot.grammar snapshot.code)
        ((s.services program).analyze snapshot.grammar snapshot.code) fun raw deeds =>
          Consulted program (snapshot.grammar, snapshot.code) (some (interpret raw)) deeds := by
      apply Records.lift
      apply (records_recorded (.launched program (request snapshot.grammar snapshot.code))
        (s.host.launch program (request snapshot.grammar snapshot.code))).bind
      rintro launch _ rfl
      apply records_pure
      exact .asked hne launch
    apply hlaunch.bind
    intro raw asked hasked
    have hdone : ∀ after, (∀ d ∈ after, d.Minor) → Attended program
        (snapshot.grammar, snapshot.code) (some (interpret raw)) (asked ++ after) := fun _ =>
      .intro hnothing hasked
    cases hraw : interpret raw with
    | ok result =>
      rw [hraw] at hdone
      exact recordsIn_pure (hdone [] hnothing)
    | error e =>
      rw [hraw] at hdone
      dsimp only
      apply RecordsIn.bind (s.withinIn_log program _)
      intro _ after hafter
      exact recordsIn_pure (hdone _ (by simpa using hafter))

/-- A pipeline is restored from its vault without anything being done. -/
theorem restore_run (settings : Settings) (v : Vault) :
    (Controller.restore (s.services program) settings).run v =
      pure (Controller.fresh settings ((v.get? settings.grammarKey).getD "")
        ((v.get? settings.codeKey).getD ""), v) := (rfl)

theorem records_restore (settings : Settings) :
    RecordsIn (Controller.restore (s.recording.services program) settings)
      (Controller.restore (s.services program) settings) fun c deeds =>
        deeds = [] ∧ ∃ grammar code, c = Controller.fresh settings grammar code := by
  intro v
  rw [restore_run, restore_run]
  apply records_pure
  exact ⟨rfl, _, _, rfl⟩

/-- What a cycle does outside is consulting the analyzer. -/
theorem records_attend (c : Controller) :
    RecordsIn (c.attend (s.recording.services program)) (c.attend (s.services program))
      (Attended program (c.grammar.text, c.code.text)) := by
  unfold Controller.attend
  apply RecordsIn.bind (s.withinIn_persist program c.settings.grammarKey c.grammar.text)
  intro _ grammar hgrammar
  apply RecordsIn.bind (s.withinIn_persist program c.settings.codeKey c.code.text)
  intro _ code hcode
  apply (s.records_consult program c.snapshot).bind
  intro answer consulted hconsulted
  apply RecordsIn.bind (s.withinIn_log program _)
  intro _ finished hfinished
  apply recordsIn_pure
  rw [List.append_nil]
  exact ((hconsulted.append hfinished).prepend hcode).prepend hgrammar

/-- A cycle makes of the pipeline what it makes of it for the answer of the analyzer. -/
def CycleOf (c : Controller) (r : Outcome × Controller) (deeds : List Deed) : Prop :=
  ∃ answer, r = c.cycled answer ∧ Attended program (c.grammar.text, c.code.text) answer deeds

theorem records_runCycle (c : Controller) :
    RecordsIn (c.runCycle (s.recording.services program)) (c.runCycle (s.services program))
      (CycleOf program c) := by
  rw [Controller.runCycle_eq, Controller.runCycle_eq, map_eq_pure_bind, map_eq_pure_bind]
  apply (s.records_attend program c).bind
  intro answer deeds hdeeds
  apply recordsIn_pure
  rw [List.append_nil]
  exact ⟨answer, rfl, hdeeds⟩

theorem records_start (c : Controller) :
    RecordsIn (c.start (s.recording.services program)) (c.start (s.services program))
      (CycleOf program c) := by
  unfold Controller.start
  apply RecordsIn.bind (s.withinIn_log program _)
  intro _ starting hstarting
  apply (s.records_runCycle program c).mono
  rintro r deeds ⟨answer, hr, hdeeds⟩
  exact ⟨answer, hr, hdeeds.prepend hstarting⟩

/-- A report is all that is printed when it is made. -/
theorem records_announce (format : Format) (job : Job) (c : Controller) (outcome : Outcome) :
    Records (s.recording.announce format job c outcome) (s.announce format job c outcome)
      fun _ deeds => deeds = (report format job.path c outcome).map .printed :=
  records_writeAll s.host _

/-! ### The files of a session -/

theorem within_settings (job : Job) :
    Within Deed.Opening (s.recording.settings job) (s.settings job) := by
  unfold settings
  split
  · exact within_pure _
  · next path _ =>
    apply (within_readText s.host path).bind
    intro result
    cases result with
    | error e => exact within_pure _
    | ok text =>
      dsimp only
      cases Settings.load text <;> exact within_pure _

theorem within_source (job : Job) (stage : Stage) :
    Within Deed.Opening (s.recording.source job stage) (s.source job stage) := by
  apply (within_readText s.host (job.path stage)).bind
  intro result
  exact within_pure _

end Session

end GrammarLint
