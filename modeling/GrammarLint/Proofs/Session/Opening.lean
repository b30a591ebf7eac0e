/-
  GrammarLint/Proofs/Session/Opening.lean
  =======================================
  **The texts that a session opens with** — for each stage the text of its file, or the
  one that the state file holds if there is no file.

  The texts reach the pipeline through the vault, and keeping a text there may fail.  It
  does not matter: a vault answers with what it was given last, written or not, and the
  two stages have different keys.
-/
import GrammarLint.Proofs.Session.Startup

namespace GrammarLint

open Sandbox

/-- What a session has to start from: nothing without a state file, and otherwise what the
    file holds, which nobody else changes. -/
inductive Opens (m : Machine) (d : Disk) : Option String → Entries → Prop
  | memory : Opens m d none .empty
  | file {path : String} {kept : Entries} (hspares : m.Spares path)
    (hstored : Vault.stored d path = some kept) : Opens m d (some path) kept

/-- The places that a session works on. -/
def WatchJob.places (job : WatchJob) : List Place :=
  Disk.destination job.job.grammar :: Disk.destination job.job.code ::
    match job.state with
    | none => []
    | some path => [Disk.destination path, Disk.destination (Vault.temporary path)]

/-- The text of a stage at the start: that of its file if there was one, and otherwise the
    one that is kept under its key. -/
def openingText (found : Stage → Option String) (settings : Settings) (kept : Entries)
    (stage : Stage) : String :=
  (found stage).getD ((kept.get? (settings.key stage)).getD "")

namespace Session

variable {m : Machine} {filter : Log.Filter}

/-- The vault of a session that opens. -/
theorem openVault_of_opens {job : WatchJob} {settings : Settings} {kept : Entries} {w : World}
    (hsettings : (((m.session filter).settings job.job).run w).1 = .ok settings)
    (hopens : Opens m w.disk job.state kept) :
    ∃ w₁ w₂, ((m.session filter).settings job.job).run w = (.ok settings, w₁) ∧
      ((m.session filter).openVault job.state).run w₁ = (.ok ⟨job.state, kept⟩, w₂) := by
  obtain ⟨inner, state, poll, cycles⟩ := job
  cases hopens with
  | memory =>
    rcases hread : ((m.session filter).settings inner).run w with ⟨result, w₁⟩
    rw [hread] at hsettings
    exact ⟨w₁, w₁, congrArg (·, w₁) hsettings, rfl⟩
  | @file path kept hspares hstored =>
    exact openVault_of_stored (v := ⟨some path, kept⟩) filter hspares hsettings rfl hstored

/-- Neither source file is one of the files of the vault. -/
theorem away_of_places {job : WatchJob} {kept : Entries} (hplaces : job.places.Nodup)
    (stage : Stage) :
    Disk.destination (job.job.path stage) ∉ (⟨job.state, kept⟩ : Vault).touched := by
  obtain ⟨inner, state, poll, cycles⟩ := job
  cases state with
  | none => exact List.not_mem_nil
  | some path =>
    simp only [WatchJob.places, List.nodup_cons, List.mem_cons, List.not_mem_nil, or_false,
      not_or] at hplaces
    obtain ⟨⟨-, hgrammar, hgrammar'⟩, ⟨hcode, hcode'⟩, -⟩ := hplaces
    rw [Vault.touched_of_path rfl, List.mem_cons, List.mem_singleton, not_or]
    cases stage with
    | grammar => exact ⟨hgrammar', hgrammar⟩
    | code => exact ⟨hcode', hcode⟩

/-- **The opening of a session.**  Let the settings be accepted and the state file open, and
    let each source file be there with a text or be missing where it can be made.  Then the
    session begins, whatever becomes of its attempts to write the state file.  The first
    cycle is run on the text of every file that is there and on the kept text for every
    other one, and on no other texts, which are read back from what the analyzer is sent;
    files that are there stay as they are, and the others are made from the texts that are
    used. -/
theorem watch_opening {format : Format} {job : WatchJob} {settings : Settings} {kept : Entries}
    {found : Stage → Option String} {start : World}
    (hsettings : (((m.session filter).settings job.job).run start).1 = .ok settings)
    (hopens : Opens m start.disk job.state kept)
    (hplaces : job.places.Nodup)
    (hspares : ∀ stage, m.Spares (job.job.path stage))
    (hgrants : ∀ stage, found stage = none → m.Grants (job.job.path stage))
    (hfound : ∀ stage, Found start.disk (job.job.path stage) (found stage)) :
    ∃ c v w, ((m.session filter).beginWatch format job).run start = (.ok (c, v), w) ∧
      (∀ steps, ((m.session filter).watch format job steps).run start =
        ((((m.session filter).watchOn format job steps c).run v).run w).map
          (fun r => .ok (r.1.map fun _ => 0)) id) ∧
      c.cycles = 1 ∧
      (∀ stage, c.texts stage = openingText found settings kept stage) ∧
      (∃ sent, w.launches.toList = start.launches.toList ++ sent ∧
        sent = job.job.analyzer.requestsFor
          (openingText found settings kept .grammar, openingText found settings kept .code) ∧
        ∀ request ∈ sent, textsOfRequest? request.2.toUTF8 = some
          (openingText found settings kept .grammar, openingText found settings kept .code)) ∧
      (∀ stage, found stage ≠ none →
        w.disk.node? (job.job.path stage) = start.disk.node? (job.job.path stage)) ∧
      ∀ stage, found stage = none → w.disk.node? (job.job.path stage) =
        some (.file (openingText found settings kept stage).toUTF8) := by
  obtain ⟨w₁, w₂, hread, hvault⟩ := openVault_of_opens hsettings hopens
  have hapart : Disk.destination job.job.grammar ≠ Disk.destination job.job.code := by
    intro heq
    rw [WatchJob.places, heq] at hplaces
    exact (List.nodup_cons.mp hplaces).1 (by simp)
  obtain ⟨c, v, w, hrun, hcycles, hlaunches, hstages⟩ := beginWatch_found format hread hvault
    hapart (away_of_places hplaces) hspares hgrants hfound
  have htexts : ∀ stage, c.texts stage = openingText found settings kept stage :=
    fun stage => (hstages stage).1
  refine ⟨c, v, w, hrun, fun steps => ?_, hcycles, htexts,
    ⟨_, ?_, rfl, fun _ => texts_of_mem_requestsFor⟩, fun stage => (hstages stage).2.1,
    fun stage hmissing => ?_⟩
  · rw [watch, run_bind_state, hrun]
    rfl
  · rw [← htexts, ← htexts]
    exact hlaunches
  · rw [← htexts]
    exact (hstages stage).2.2 hmissing

/-! ### A state file that cannot be written -/

/-- A machine on which nothing but the grammar can be written. -/
def hampered : Machine where
  run _ disk _ _ := (.notStarted "", disk)
  fate _ path := if path = "grammar" then .done else .failed

/-- A session on two files, with a state file. -/
def followed : WatchJob := ⟨⟨"grammar", "code", ⟨"lint", []⟩, none, none⟩, some "state", 1, none⟩

def savedTexts : Entries := .ofList [("codeText", "y"), ("grammarText", "A")]

/-- A machine with a code, without a grammar, and with older texts in the state file. -/
def interrupted : World :=
  .ofDisk ((Disk.empty.put ["", "code"] (.file "x".toUTF8)).put ["", "state"]
    (.file (Vault.render savedTexts).toUTF8))

def filesLeft : Stage → Option String
  | .grammar => none
  | .code => some "x"

theorem found_filesLeft (stage : Stage) :
    Found interrupted.disk (followed.job.path stage) (filesLeft stage) := by
  cases stage with
  | grammar =>
    have hplace : interrupted.disk.newPlace "grammar" = .ok (Disk.destination "grammar") := by
      decide +kernel
    have hnone : (interrupted.disk.node? "grammar").isNone = true := by decide +kernel
    have hempty : (interrupted.disk.at? (Disk.destination "grammar")).isNone = true := by
      decide +kernel
    refine .missing (Option.isNone_iff_eq_none.mp hnone) ⟨_, hplace, fun hdir => ?_⟩
    rw [hdir] at hempty
    cases hempty
  | code =>
    have htext : interrupted.disk.text? "code" = some "x" := by decide +kernel
    exact .there htext

/-- **A session whose state file cannot be written** opens with the grammar that was kept
    and with the code that is there. -/
theorem watch_opening_hampered :
    ∃ c v w, ((hampered.session []).beginWatch .json followed).run interrupted =
        (.ok (c, v), w) ∧
      w.failures = 1 ∧ c.texts .grammar = "A" ∧ c.texts .code = "x" ∧
      w.disk.node? "grammar" = some (.file "A".toUTF8) ∧
      w.disk.node? "code" = interrupted.disk.node? "code" := by
  have hsettings : (((hampered.session []).settings followed.job).run interrupted).1 =
      .ok .standard := by decide +kernel
  have hstored : Vault.stored interrupted.disk "state" = some savedTexts := by decide +kernel
  have hspares : ∀ path, hampered.Spares path := fun _ => ⟨fun _ _ => rfl, fun _ _ _ _ => rfl⟩
  have hgrants : ∀ stage, filesLeft stage = none →
      hampered.Grants (followed.job.path stage) := by
    intro stage hmissing
    cases stage with
    | grammar => exact ⟨fun _ _ h => h, fun _ _ _ _ h => h, fun _ => rfl⟩
    | code => cases hmissing
  have hfailures : (((hampered.session []).beginWatch .json followed).run
      interrupted).2.failures = 1 := by decide +kernel
  have htexts : openingText filesLeft .standard savedTexts .grammar = "A" := by decide +kernel
  obtain ⟨c, v, w, hrun, -, -, hopening, -, hthere, hmade⟩ := watch_opening hsettings
    (.file (hspares _) hstored) (by decide) (fun _ => hspares _) hgrants found_filesLeft
  rw [hrun] at hfailures
  refine ⟨c, v, w, hrun, hfailures, (hopening .grammar).trans htexts, hopening .code, ?_,
    hthere .code (by simp [filesLeft])⟩
  rw [← htexts]
  exact hmade .grammar rfl

end Session

end GrammarLint
