/-
  GrammarLint/Proofs/Session/Startup.lean
  =======================================
  **How a session begins** — which texts the first cycle is run on, and what becomes of
  the two files until then.

  `Adoption` is all that can become of the file of one stage: its text is kept, or the
  file is made from the text that is kept, or the session ends with an error.  If each
  file is there with a text or can be made (`Found`), there is no error, and the first
  cycle is run on the texts of the files that were there and on the kept texts for the
  others (`beginWatch_found`).  What is kept under the key of one stage does not depend
  on the other stage, as the two keys differ.
-/
import GrammarLint.Proofs.Session.Passage
import GrammarLint.Proofs.Session.Request
import GrammarLint.Proofs.Session.Settings

namespace GrammarLint

open Sandbox

theorem toOption_mapError {ε ε' α : Type} (f : ε → ε') (x : Except ε α) :
    (x.mapError f).toOption = x.toOption := by
  cases x <;> rfl

/-! ### Files as they are found -/

/-- A source file as a session finds it: there with a text, or missing where one can be
    made. -/
inductive Found (d : Disk) (path : String) : Option String → Prop
  | there {text : String} (h : d.text? path = some text) : Found d path (some text)
  | missing (h : d.node? path = none) (place : d.Writable path) : Found d path none

theorem Disk.text?_of_node? {d d' : Disk} {path : String} (h : d'.node? path = d.node? path) :
    d'.text? path = d.text? path := by
  rw [Disk.text?, Disk.text?, h]

theorem Disk.isSome_node?_of_text? {d : Disk} {path text : String} (h : d.text? path = some text) :
    (d.node? path).isSome := by
  unfold Disk.text? at h
  split at h
  · next hnode => rw [hnode]; rfl
  · cases h

/-- A file stays as it was found while something else is touched. -/
theorem Found.of_course {m : Machine} {touched : List Place} {new : List (Program × String)}
    {w w' : World} {path : String} {found : Option String} (h : Found w.disk path found)
    (hcourse : m.Course touched new w w') (hspares : m.Spares path)
    (hgrants : found = none → m.Grants path) (haway : Disk.destination path ∉ touched) :
    Found w'.disk path found := by
  have hnode := hcourse.nodes path hspares haway
  cases h with
  | there h => exact .there (by rw [Disk.text?_of_node? hnode, h])
  | missing h place =>
    exact .missing (hnode.trans h) (hcourse.writable path (hgrants rfl) place)

/-! ### The file of one stage -/

namespace Session

variable (m : Machine) (filter : Log.Filter)

theorem source_run (job : Job) (stage : Stage) (w : World) :
    ∃ result, ((m.session filter).source job stage).run w = (result, m.turn w) ∧
      result.toOption = (m.turn w).disk.text? (job.path stage) := by
  obtain ⟨result, hrun, hresult⟩ := m.readText_run (job.path stage) w
  refine ⟨result.mapError (.sourceUnreadable (job.path stage)), ?_, ?_⟩
  · have hhost : (m.session filter).host = m.host := rfl
    simp only [source, hhost, run_bind_state, hrun]
    rfl
  · rw [toOption_mapError, hresult]

/-- **All that can become of the file of a stage** at the start, and of the vault. -/
inductive Adoption (m : Machine) (path key : String) (v : Vault) (w : World) :
    Except Trouble Vault → World → Prop
  | kept {text : String} {w' : World} (there : ((m.turn w).disk.node? path).isSome)
    (read : (m.turn (m.turn w)).disk.text? path = some text)
    (passage : Passage m v.touched [] v (v.holding key text) w w') :
    Adoption m path key v w (.ok (v.holding key text)) w'
  | made {w' : World} (missing : (m.turn w).disk.node? path = none)
    (file : m.Spares path → w'.disk.node? path = some (.file ((v.get? key).getD "").toUTF8))
    (course : m.Course [Disk.destination path] [] w w') : Adoption m path key v w (.ok v) w'
  | unreadable {trouble : Trouble} {w' : World} (there : ((m.turn w).disk.node? path).isSome)
    (read : (m.turn (m.turn w)).disk.text? path = none) :
    Adoption m path key v w (.error trouble) w'
  | notMade {trouble : Trouble} {w' : World} (missing : (m.turn w).disk.node? path = none)
    (place : m.Grants path → ¬ (m.turn w).disk.Writable path) :
    Adoption m path key v w (.error trouble) w'

theorem adopt_run (job : Job) (settings : Settings) (stage : Stage) (v : Vault) (w : World) :
    Adoption m (job.path stage) (settings.key stage) v w
      (((m.session filter).adopt job settings stage v).run w).1
      (((m.session filter).adopt job settings stage v).run w).2 := by
  have hhost : (m.session filter).host = m.host := rfl
  have hturn := Machine.Course.turn (m := m) [] w
  simp only [adopt, hhost, run_bind_state, Machine.pathExists_run]
  cases hthere : (m.turn w).disk.node? (job.path stage) with
  | some node =>
    obtain ⟨result, hrun, hresult⟩ := source_run m filter job stage (m.turn w)
    simp only [Option.isSome_some, if_true, run_bind_state]
    rw [hrun]
    cases result with
    | error trouble => exact .unreadable (by rw [hthere]; rfl) hresult.symm
    | ok text =>
      have hvault := v.set_holding (m := m) (settings.key stage) text (m.turn (m.turn w))
      have hset := Passage.set (m := m) v (settings.key stage) text (m.turn (m.turn w))
      have hpassage := (Passage.quiet v (hturn.trans (.turn [] (m.turn w)))).trans hset
      simp only [run_bind_state]
      generalize (v.set m.host (settings.key stage) text).run (m.turn (m.turn w)) = x at *
      obtain ⟨⟨result, v'⟩, w'⟩ := x
      obtain rfl : v' = v.holding (settings.key stage) text := hvault
      cases result with
      | ok _ => exact .kept (by rw [hthere]; rfl) hresult.symm hpassage
      | error e =>
        have hnote := Passage.quiet (v.holding (settings.key stage) text)
          (goes_note m filter (notKeptRecord stage e) w')
        exact .kept (by rw [hthere]; rfl) hresult.symm (hpassage.trans hnote)
  | none =>
    obtain ⟨result, w', hrun, hwrite, hfile, hmade⟩ := m.writeText_run (job.path stage)
      ((v.get? (settings.key stage)).getD "") (m.turn w)
    simp only [Option.isSome_none, Bool.false_eq_true, if_false, run_bind_state, hrun]
    cases result with
    | error e => exact .notMade hthere fun hgrants hplace => nomatch hmade hgrants hplace
    | ok _ =>
      have hnote := goes_note m filter (restoredRecord stage (job.path stage)) w'
      refine .made hthere ?_ ?_
      · intro hspares
        exact (hnote.nodes _ hspares List.not_mem_nil).trans (hfile rfl)
      · exact (hturn.mono (List.nil_subset _)).trans
          (hwrite.trans (hnote.mono (List.nil_subset _)))

end Session

/-- The vault after the text of a file that was found is kept. -/
def Vault.adopting (v : Vault) (key : String) : Option String → Vault
  | some text => v.holding key text
  | none => v

namespace Vault

@[simp] theorem path_adopting (v : Vault) (key : String) (found : Option String) :
    (v.adopting key found).path = v.path := by
  cases found <;> rfl

theorem get?_adopting_self (v : Vault) (key : String) (found : Option String) :
    ((v.adopting key found).get? key).getD "" = found.getD ((v.get? key).getD "") := by
  cases found with
  | some text => rw [adopting, get?_holding_self]; rfl
  | none => rfl

theorem get?_adopting_of_ne (v : Vault) {key k : String} (found : Option String) (h : k ≠ key) :
    (v.adopting key found).get? k = v.get? k := by
  cases found with
  | some text => exact get?_holding_of_ne v text h
  | none => rfl

end Vault

namespace Session

variable {m : Machine} (filter : Log.Filter)

/-- **A file that is there is kept and left alone, and one that is missing is made.** -/
theorem adopt_found {job : Job} (settings : Settings) {stage : Stage} {v : Vault} {w : World}
    {found : Option String} (hspares : m.Spares (job.path stage))
    (hgrants : found = none → m.Grants (job.path stage))
    (haway : Disk.destination (job.path stage) ∉ v.touched)
    (hfound : Found w.disk (job.path stage) found) :
    ∃ w', ((m.session filter).adopt job settings stage v).run w =
        (.ok (v.adopting (settings.key stage) found), w') ∧
      m.Course (Disk.destination (job.path stage) :: v.touched) [] w w' ∧
      (found ≠ none → w'.disk.node? (job.path stage) = w.disk.node? (job.path stage)) ∧
      (found = none → w'.disk.node? (job.path stage) =
        some (.file ((v.get? (settings.key stage)).getD "").toUTF8)) := by
  have hadopt := adopt_run m filter job settings stage v w
  have hturn := hspares.turn w
  have hturns := hspares.turn (m.turn w)
  rcases hrun : ((m.session filter).adopt job settings stage v).run w with ⟨result, w'⟩
  rw [hrun] at hadopt
  cases hfound with
  | there h =>
    have hread := (Disk.text?_of_node? (hturns.trans hturn)).trans h
    have hthere := Disk.isSome_node?_of_text? h
    rw [← hturn] at hthere
    cases hadopt with
    | kept there read passage =>
      obtain rfl := Option.some.inj (read.symm.trans hread)
      exact ⟨w', rfl, passage.toCourse.mono (List.subset_cons_self _ _),
        fun _ => passage.nodes _ hspares haway, nofun⟩
    | made missing file course => rw [missing] at hthere; cases hthere
    | unreadable there read => rw [read] at hread; cases hread
    | notMade missing place => rw [missing] at hthere; cases hthere
  | missing h place =>
    have hnone := hturn.trans h
    cases hadopt with
    | kept there read passage => rw [hnone] at there; cases there
    | made missing file course =>
      exact ⟨w', rfl, course.mono (by simp), fun hne => absurd rfl hne, fun _ => file hspares⟩
    | unreadable there read => rw [hnone] at there; cases there
    | notMade missing noPlace =>
      exact absurd ((hgrants rfl).turn place) (noPlace (hgrants rfl))

/-- What is kept and what is on the disk for a stage, once its file was found. -/
structure Adopted (path key : String) (found : Option String) (v v' : Vault) (w w' : World) :
    Prop where
  text : (v'.get? key).getD "" = found.getD ((v.get? key).getD "")
  there : found ≠ none → w'.disk.node? path = w.disk.node? path
  made : found = none → w'.disk.node? path = some (.file ((v'.get? key).getD "").toUTF8)

/-- **The two stages do not come in each other's way**: the keys differ, and so do the
    files. -/
theorem adopt_both {job : Job} (settings : Settings) {v : Vault} {w : World}
    {found : Stage → Option String} (hkeys : settings.grammarKey ≠ settings.codeKey)
    (hapart : Disk.destination job.grammar ≠ Disk.destination job.code)
    (haway : ∀ stage, Disk.destination (job.path stage) ∉ v.touched)
    (hspares : ∀ stage, m.Spares (job.path stage))
    (hgrants : ∀ stage, found stage = none → m.Grants (job.path stage))
    (hfound : ∀ stage, Found w.disk (job.path stage) (found stage)) :
    ∃ v₁ w₁ v₂ w₂, ((m.session filter).adopt job settings .grammar v).run w = (.ok v₁, w₁) ∧
      ((m.session filter).adopt job settings .code v₁).run w₁ = (.ok v₂, w₂) ∧
      v₂.path = v.path ∧ w₂.launches.toList = w.launches.toList ∧
      ∀ stage, Adopted (job.path stage) (settings.key stage) (found stage) v v₂ w w₂ := by
  obtain ⟨w₁, hgrammar, hcourse₁, hthere₁, hmade₁⟩ := adopt_found filter settings
    (hspares .grammar) (hgrants .grammar) (haway .grammar) (hfound .grammar)
  have hpath : (v.adopting (settings.key .grammar) (found .grammar)).path = v.path :=
    v.path_adopting _ _
  generalize hv₁ : v.adopting (settings.key .grammar) (found .grammar) = v₁ at *
  have htouched := Vault.touched_of_path_eq hpath
  have hcode₁ : Disk.destination job.code ∉ Disk.destination job.grammar :: v.touched := by
    rw [List.mem_cons, not_or]
    exact ⟨hapart.symm, haway .code⟩
  -- The code file is found as it was, since only the grammar file and the vault were touched.
  obtain ⟨w₂, hcode, hcourse₂, hthere₂, hmade₂⟩ := adopt_found filter settings (v := v₁)
    (hspares .code) (hgrants .code) (htouched ▸ haway .code)
    ((hfound .code).of_course hcourse₁ (hspares .code) (hgrants .code) hcode₁)
  have hgrammar₂ : Disk.destination job.grammar ∉ Disk.destination job.code :: v₁.touched := by
    rw [List.mem_cons, not_or, htouched]
    exact ⟨hapart, haway .grammar⟩
  have hkept₁ := hcourse₁.nodes _ (hspares .code) hcode₁
  have hkept₂ := hcourse₂.nodes _ (hspares .grammar) hgrammar₂
  refine ⟨v₁, w₁, _, w₂, hgrammar, hcode, (v₁.path_adopting _ _).trans hpath, ?_, ?_⟩
  · rw [hcourse₂.launches, hcourse₁.launches, List.append_nil, List.append_nil]
  -- What is kept for one stage is not overwritten by the other, as the keys differ.
  intro stage
  cases stage with
  | grammar =>
    have hget : ((v₁.adopting (settings.key .code) (found .code)).get? (settings.key .grammar)) =
        v₁.get? (settings.key .grammar) := v₁.get?_adopting_of_ne _ hkeys
    have htext := v.get?_adopting_self (settings.key .grammar) (found .grammar)
    rw [hv₁, ← hget] at htext
    refine ⟨htext, fun hthere => hkept₂.trans (hthere₁ hthere), fun hmissing => ?_⟩
    rw [htext, hmissing, hkept₂]
    exact hmade₁ hmissing
  | code =>
    have hget : v₁.get? (settings.key .code) = v.get? (settings.key .code) := by
      rw [← hv₁]
      exact v.get?_adopting_of_ne _ hkeys.symm
    have htext := v₁.get?_adopting_self (settings.key .code) (found .code)
    rw [hget] at htext hmade₂
    refine ⟨htext, fun hthere => (hthere₂ hthere).trans hkept₁, fun hmissing => ?_⟩
    rw [htext, hmissing]
    exact hmade₂ hmissing

/-! ### The first cycle -/

/-- Both texts of a cycle can be read from what the program is sent. -/
theorem texts_of_mem_requestsFor {program : Program} {texts : String × String}
    {sent : Program × String} (h : sent ∈ program.requestsFor texts) :
    textsOfRequest? sent.2.toUTF8 = some texts := by
  rw [Program.requestsFor, Controller.callsFor] at h
  split at h
  · cases h
  · obtain rfl := List.mem_singleton.mp h
    exact textsOfRequest?_request texts.1 texts.2

/-- **The first cycle is run on the texts that are kept.** -/
theorem firstCycle_run (m : Machine) (filter : Log.Filter) (format : Format) (job : Job)
    (settings : Settings) (v : Vault) (w : World) :
    ∃ c w', (((m.session filter).firstCycle format job settings).run v).run w =
        ((c, c.kept v), w') ∧
      c.settings = settings ∧ c.cycles = 1 ∧
      (∀ stage, (c.buffer stage).text = (v.get? (settings.key stage)).getD "") ∧
      Passage m v.touched (job.analyzer.requestsFor (c.grammar.text, c.code.text)) v (c.kept v)
        w w' := by
  obtain ⟨c, hc⟩ : ∃ c, c = Controller.fresh settings ((v.get? settings.grammarKey).getD "")
    ((v.get? settings.codeKey).getD "") := ⟨_, rfl⟩
  have hrestore : ((Controller.restore ((m.session filter).services job.analyzer) settings).run
      v).run w = ((c, v), w) := by
    rw [hc]
    rfl
  obtain ⟨answer, w₁, hstart, hcycle⟩ := start_run m filter job.analyzer c v w
  obtain ⟨_, w₂, hannounce, hreport⟩ := (Carries.lift
    (goes_announce m filter format job (c.cycled answer).2 (c.cycled answer).1)).run_eq
      (c.kept v) w₁
  refine ⟨(c.cycled answer).2, w₂, ?_, ?_, ?_, ?_, ?_⟩
  · simp only [firstCycle, run_bind_states, hrestore, hstart, hannounce, id_eq]
    rw [c.kept_cycled]
    rfl
  · rw [c.cycled_settings, hc]
    rfl
  · rw [c.cycled_cycles, hc]
    rfl
  · intro stage
    rw [c.cycled_buffer, hc]
    cases stage <;> rfl
  · rw [c.kept_cycled, c.cycled_grammar, c.cycled_code]
    exact hcycle.trans_quiet hreport

/-! ### Everything up to the end of the first cycle -/

/-- The steps of a session that begins without an error. -/
theorem beginWatch_eq_ok_iff {s : Session (StateM World)} {format : Format} {job : WatchJob}
    {c : Controller} {v : Vault} {w w' : World} :
    (s.beginWatch format job).run w = (.ok (c, v), w') ↔
      ∃ settings v₀ v₁ v₂ w₁ w₂ w₃ w₄,
        (s.settings job.job).run w = (.ok settings, w₁) ∧
        (s.openVault job.state).run w₁ = (.ok v₀, w₂) ∧
        (s.adopt job.job settings .grammar v₀).run w₂ = (.ok v₁, w₃) ∧
        (s.adopt job.job settings .code v₁).run w₃ = (.ok v₂, w₄) ∧
        ((s.firstCycle format job.job settings).run v₂).run w₄ = ((c, v), w') := by
  constructor
  · intro h
    obtain ⟨settings, w₁, hsettings, h⟩ := run_attempt_eq_ok h fun _ => rfl
    obtain ⟨v₀, w₂, hvault, h⟩ := run_attempt_eq_ok h fun _ => rfl
    obtain ⟨v₁, w₃, hgrammar, h⟩ := run_attempt_eq_ok h fun _ => rfl
    obtain ⟨v₂, w₄, hcode, h⟩ := run_attempt_eq_ok h fun _ => rfl
    refine ⟨settings, v₀, v₁, v₂, w₁, w₂, w₃, w₄, hsettings, hvault, hgrammar, hcode, ?_⟩
    dsimp only at h
    rw [run_bind_state] at h
    cases h
    rfl
  · rintro ⟨settings, v₀, v₁, v₂, w₁, w₂, w₃, w₄, hsettings, hvault, hgrammar, hcode, hcycle⟩
    simp only [beginWatch, run_bind_state, hsettings, hvault, hgrammar, hcode, hcycle]
    rfl

/-- What a file becomes at the start is a passage, if it is not the file of the vault. -/
theorem passage_of_adopt {m : Machine} {filter : Log.Filter} {job : Job} {settings : Settings}
    {stage : Stage} {v v' : Vault} {w w' : World}
    (h : ((m.session filter).adopt job settings stage v).run w = (.ok v', w'))
    (haway : ∀ path, v.path = some path →
      Disk.destination path ≠ Disk.destination (job.path stage)) :
    Passage m (Disk.destination (job.path stage) :: v.touched) [] v v' w w' := by
  have hadopt := adopt_run m filter job settings stage v w
  rw [h] at hadopt
  cases hadopt with
  | kept there read passage => exact passage.mono (List.subset_cons_self _ _)
  | made missing file course =>
    have hpassage := Passage.of_course course fun path hpath hmem =>
      haway path hpath (List.mem_singleton.mp hmem)
    exact hpassage.mono (by simp)

theorem passage_of_adopt_both {m : Machine} {filter : Log.Filter} {job : Job}
    {settings : Settings} {v₀ v₁ v₂ : Vault} {w₀ w₁ w₂ : World}
    (hgrammar : ((m.session filter).adopt job settings .grammar v₀).run w₀ = (.ok v₁, w₁))
    (hcode : ((m.session filter).adopt job settings .code v₁).run w₁ = (.ok v₂, w₂))
    (haway : ∀ path, v₀.path = some path →
      ∀ stage, Disk.destination path ≠ Disk.destination (job.path stage)) :
    Passage m (Disk.destination job.grammar :: Disk.destination job.code :: v₀.touched) [] v₀ v₂
      w₀ w₂ := by
  have hfirst := passage_of_adopt hgrammar fun path hpath => haway path hpath .grammar
  have hsecond := passage_of_adopt hcode fun path hpath =>
    haway path (hfirst.path.symm.trans hpath) .code
  rw [Vault.touched_of_path_eq hfirst.path] at hsecond
  exact (hfirst.mono (by simp [Job.path])).trans (hsecond.mono (by simp [Job.path]))

variable {m : Machine} (filter : Log.Filter)

/-- **The vault of a session is what its state file holds.** -/
theorem toOption_openVault {path : String} (h : m.Spares path) (w : World) :
    (((m.session filter).openVault (some path)).run w).1.toOption =
      (Vault.stored w.disk path).map fun entries => ⟨some path, entries⟩ := by
  have hhost : (m.session filter).host = m.host := rfl
  rw [← Vault.openFile_run h w]
  simp only [openVault, hhost, run_bind_state]
  exact toOption_mapError _ _

/-- A session whose state file holds what a vault holds opens that vault. -/
theorem openVault_of_stored {path : String} (h : m.Spares path) {job : Job} {settings : Settings}
    {v : Vault} {w : World} (hsettings : (((m.session filter).settings job).run w).1 = .ok settings)
    (hpath : v.path = some path) (hstored : Vault.stored w.disk path = some v.entries) :
    ∃ w₁ w₂, ((m.session filter).settings job).run w = (.ok settings, w₁) ∧
      ((m.session filter).openVault (some path)).run w₁ = (.ok v, w₂) := by
  rcases hread : ((m.session filter).settings job).run w with ⟨result, w₁⟩
  have hcourse := goes_settings m filter job w
  have hopen := toOption_openVault filter h w₁
  rw [hread] at hsettings hcourse
  have hsame : (⟨some path, v.entries⟩ : Vault) = v := by rw [← hpath]
  rw [Vault.stored_of_node? (hcourse.nodes path h List.not_mem_nil), hstored, Option.map_some,
    toOption_eq_some_iff, hsame] at hopen
  obtain ⟨w₂, hvault⟩ : ∃ w₂, ((m.session filter).openVault (some path)).run w₁ = (.ok v, w₂) :=
    ⟨_, Prod.ext hopen rfl⟩
  exact ⟨w₁, w₂, congrArg (·, w₁) hsettings, hvault⟩

/-- A vault that was opened is in step with its state file. -/
theorem inFile_openVault {path : String} (h : m.Spares path) {v : Vault} {w w' : World}
    (hrun : ((m.session filter).openVault (some path)).run w = (.ok v, w')) :
    v.path = some path ∧ v.InFile w'.disk := by
  have hopen := toOption_openVault filter h w
  have hcourse := goes_openVault m filter (some path) w
  rw [hrun] at hopen hcourse
  obtain ⟨entries, hstored, rfl⟩ := Option.map_eq_some_iff.mp hopen.symm
  refine ⟨rfl, fun _ hpath => ?_⟩
  cases hpath
  rw [Vault.stored_of_node? (hcourse.nodes path h List.not_mem_nil), hstored]

variable {filter}

/-- **How a session begins.**  If every source file is there with a text or can be made, then
    the first cycle is run on the texts of the files that are there, which stay as they are,
    and on the kept texts for the others, which are made from them. -/
theorem beginWatch_found (format : Format) {job : WatchJob} {settings : Settings} {v : Vault}
    {w w₁ w₂ : World} {found : Stage → Option String}
    (hsettings : ((m.session filter).settings job.job).run w = (.ok settings, w₁))
    (hvault : ((m.session filter).openVault job.state).run w₁ = (.ok v, w₂))
    (hapart : Disk.destination job.job.grammar ≠ Disk.destination job.job.code)
    (haway : ∀ stage, Disk.destination (job.job.path stage) ∉ v.touched)
    (hspares : ∀ stage, m.Spares (job.job.path stage))
    (hgrants : ∀ stage, found stage = none → m.Grants (job.job.path stage))
    (hfound : ∀ stage, Found w.disk (job.job.path stage) (found stage)) :
    ∃ c v' w', ((m.session filter).beginWatch format job).run w = (.ok (c, v'), w') ∧
      c.cycles = 1 ∧
      w'.launches.toList = w.launches.toList ++
        job.job.analyzer.requestsFor (c.grammar.text, c.code.text) ∧
      ∀ stage,
        (c.buffer stage).text = (found stage).getD ((v.get? (settings.key stage)).getD "") ∧
        (found stage ≠ none →
          w'.disk.node? (job.job.path stage) = w.disk.node? (job.job.path stage)) ∧
        (found stage = none →
          w'.disk.node? (job.job.path stage) = some (.file (c.buffer stage).text.toUTF8)) := by
  have hkeys := keys_ne_of_settings hsettings
  have hopened : m.Course [] [] w w₂ := by
    have hfirst := goes_settings m filter job.job w
    have hsecond := goes_openVault m filter job.state w₁
    rw [hsettings] at hfirst
    rw [hvault] at hsecond
    exact hfirst.trans hsecond
  have hfound₂ : ∀ stage, Found w₂.disk (job.job.path stage) (found stage) := fun stage =>
    (hfound stage).of_course hopened (hspares stage) (hgrants stage) List.not_mem_nil
  obtain ⟨v₁, w₃, v₂, w₄, hgrammar, hcode, hpath, hlaunches, hadopted⟩ := adopt_both filter
    settings (v := v) hkeys hapart haway hspares hgrants hfound₂
  obtain ⟨c, w₅, hcycle, -, hcycles, htexts, hpassage⟩ :=
    firstCycle_run m filter format job.job settings v₂ w₄
  refine ⟨c, _, w₅, beginWatch_eq_ok_iff.mpr ⟨settings, v, v₁, v₂, w₁, w₂, w₃, w₄, hsettings,
    hvault, hgrammar, hcode, hcycle⟩, hcycles, ?_, fun stage => ?_⟩
  · rw [hpassage.launches, hlaunches, hopened.launches, List.append_nil]
  · have hopen := hopened.nodes _ (hspares stage) List.not_mem_nil
    have hlast := hpassage.nodes _ (hspares stage)
      (by rw [Vault.touched_of_path_eq hpath]; exact haway stage)
    obtain ⟨htext, hthere, hmade⟩ := hadopted stage
    rw [htexts, hlast]
    exact ⟨htext, fun hfound => (hthere hfound).trans hopen, hmade⟩

end Session

end GrammarLint
