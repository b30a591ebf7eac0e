/-
  GrammarLint/Proofs/Session/Restart.lean
  =======================================
  **A session that is started again** — what was watched last is not lost with its files.

  The texts of the last cycle are kept in the state file (`Watched.tracked`), and a
  session begins with what is kept for a file that is missing (`beginWatch_found`).  Put
  together, a file that is deleted between two sessions comes back as the text of the
  last cycle, byte for byte, whatever characters it has.
-/
import GrammarLint.Proofs.Session.Watch

namespace GrammarLint

open Sandbox

/-- A file that is deleted is missing, and can be made again. -/
theorem Found.of_remove {d : Disk} {path : String} {bytes : ByteArray}
    (h : d.node? path = some (.file bytes)) : Found (d.remove path) path none := by
  obtain ⟨hnone, hplace⟩ := Disk.node?_remove_self h
  exact .missing hnone hplace

namespace Session

/-- **Starting again.**  After any run of a session in which no write failed, with a state
    file that nobody else touches, let the source files be deleted or left, or changed, and
    let a session with the same settings begin on the same files.  It begins; every file
    that was deleted is made again from the text that the last cycle of the first run was
    run on, and the first cycle of the second run is run on that text; a file that was not
    deleted stays as it is, and its text is the one that is used.  In both runs the texts of
    the cycle are read back from what the analyzer is sent. -/
theorem restart_round_trip {m₁ m₂ : Machine} {filter₁ filter₂ : Log.Filter} {format₁ : Format}
    (format₂ : Format) {job₁ job₂ : WatchJob} {path : String} {settings : Settings} {steps : Nat}
    {status : Option Nat} {start stop again : World} {found : Stage → Option String}
    (hstate₁ : job₁.state = some path) (hstate₂ : job₂.state = some path)
    (hfiles : job₂.job.path = job₁.job.path)
    (hplaces : [Disk.destination job₁.job.grammar, Disk.destination job₁.job.code,
      Disk.destination path, Disk.destination (Vault.temporary path)].Nodup)
    (hspares₁ : m₁.Spares path) (htemporary₁ : m₁.Spares (Vault.temporary path))
    (hsettings₁ : (((m₁.session filter₁).settings job₁.job).run start).1 = .ok settings)
    (hfirst : ((m₁.session filter₁).watch format₁ job₁ steps).run start = (.ok status, stop))
    (hwrites : stop.failures = start.failures)
    (hstored : again.disk.node? path = stop.disk.node? path)
    (hfound : ∀ stage, Found again.disk (job₁.job.path stage) (found stage))
    (hspares₂ : m₂.Spares path) (hsources : ∀ stage, m₂.Spares (job₁.job.path stage))
    (hgrants : ∀ stage, found stage = none → m₂.Grants (job₁.job.path stage))
    (hsettings₂ : (((m₂.session filter₂).settings job₂.job).run again).1 = .ok settings) :
    ∃ c₁ v₁ texts,
      Watched (m₁.session filter₁) format₁ job₁ start c₁ v₁ stop texts ∧
      (∃ before, stop.launches.toList =
        before ++ job₁.job.analyzer.requestsFor (texts .grammar, texts .code)) ∧
      (∀ sent ∈ job₁.job.analyzer.requestsFor (texts .grammar, texts .code),
        textsOfRequest? sent.2.toUTF8 = some (texts .grammar, texts .code)) ∧
      ∃ c₂ v₂ w₂, ((m₂.session filter₂).beginWatch format₂ job₂).run again =
          (.ok (c₂, v₂), w₂) ∧
        c₂.cycles = 1 ∧
        w₂.launches.toList = again.launches.toList ++
          job₂.job.analyzer.requestsFor (c₂.texts .grammar, c₂.texts .code) ∧
        (∀ sent ∈ job₂.job.analyzer.requestsFor (c₂.texts .grammar, c₂.texts .code),
          textsOfRequest? sent.2.toUTF8 = some (c₂.texts .grammar, c₂.texts .code)) ∧
        ∀ stage, c₂.texts stage = (found stage).getD (texts stage) ∧
          (found stage = none →
            w₂.disk.node? (job₁.job.path stage) = some (.file (texts stage).toUTF8)) ∧
          (found stage ≠ none →
            w₂.disk.node? (job₁.job.path stage) = again.disk.node? (job₁.job.path stage)) := by
  simp only [List.nodup_cons, List.mem_cons, List.not_mem_nil, or_false, not_or] at hplaces
  obtain ⟨⟨hapart, hgrammar, hgrammar'⟩, ⟨hcode, hcode'⟩, -⟩ := hplaces
  have haway₁ : ∀ stage, Disk.destination path ≠ Disk.destination (job₁.job.path stage) := by
    intro stage
    cases stage with
    | grammar => exact Ne.symm hgrammar
    | code => exact Ne.symm hcode
  -- The first run leaves the texts of its last cycle in the state file.
  obtain ⟨c₁, v₁, texts, hwatched⟩ := watched_of_watch hfirst
  have htracked := hwatched.tracked hstate₁ hspares₁ htemporary₁ haway₁ hsettings₁
  have hkept : Vault.stored again.disk path = some v₁.entries :=
    (Vault.stored_of_node? hstored).trans (htracked.inFile hwrites path htracked.path_eq)
  refine ⟨c₁, v₁, texts, hwatched, htracked.requested, fun _ => texts_of_mem_requestsFor, ?_⟩
  -- The second one opens the state file as the vault that the first one ended with.
  obtain ⟨w₁, w₂, hread, hvault⟩ :=
    openVault_of_stored filter₂ hspares₂ hsettings₂ htracked.path_eq hkept
  rw [← hstate₂] at hvault
  have haway₂ : ∀ stage, Disk.destination (job₂.job.path stage) ∉ v₁.touched := by
    intro stage
    rw [Vault.touched_of_path htracked.path_eq, hfiles, List.mem_cons, List.mem_singleton, not_or]
    cases stage with
    | grammar => exact ⟨hgrammar', hgrammar⟩
    | code => exact ⟨hcode', hcode⟩
  have hapart₂ : Disk.destination job₂.job.grammar ≠ Disk.destination job₂.job.code := by
    have hgrammar₂ : job₂.job.grammar = job₁.job.grammar := congrFun hfiles .grammar
    have hcode₂ : job₂.job.code = job₁.job.code := congrFun hfiles .code
    rw [hgrammar₂, hcode₂]
    exact hapart
  rw [← hfiles] at hfound hsources hgrants ⊢
  obtain ⟨c₂, v₂, w', hrun, hcycles, hlaunches, hstages⟩ :=
    beginWatch_found format₂ hread hvault hapart₂ haway₂ hsources hgrants hfound
  refine ⟨c₂, v₂, w', hrun, hcycles, hlaunches, fun _ => texts_of_mem_requestsFor,
    fun stage => ?_⟩
  obtain ⟨htext, hthere, hmade⟩ := hstages stage
  rw [htracked.kept stage, Option.getD_some] at htext
  refine ⟨htext, fun hmissing => ?_, hthere⟩
  rw [hmade hmissing, htext, hmissing]
  rfl

/-! ### A grammar that is deleted -/

/-- A machine that nobody else works on. -/
def undisturbed : Machine where
  run _ disk _ _ := (.notStarted "", disk)
  fate _ _ := .done

theorem undisturbed_spares (path : String) : undisturbed.Spares path :=
  ⟨fun _ _ => rfl, fun _ _ _ _ => rfl⟩

theorem undisturbed_grants (path : String) : undisturbed.Grants path :=
  ⟨fun _ _ h => h, fun _ _ _ _ h => h, fun _ => rfl⟩

/-- One cycle with a state file. -/
def brief : WatchJob := ⟨⟨"grammar", "code", ⟨"lint", []⟩, none, none⟩, some "state", 1, some 1⟩

/-- A machine with a grammar and a code that has to be quoted. -/
def unwatched : World :=
  .ofDisk ((Disk.empty.put ["", "grammar"] (.file "A".toUTF8)).put ["", "code"]
    (.file "\"\n".toUTF8))

/-- The machine after the cycle. -/
def watched : World := (((undisturbed.session []).watch .json brief 0).run unwatched).2

/-- The machine without the grammar. -/
def deleted : World := { watched with disk := watched.disk.remove "grammar" }

theorem watch_unwatched :
    ((undisturbed.session []).watch .json brief 0).run unwatched = (.ok (some 0), watched) := by
  have hstatus : (((undisturbed.session []).watch .json brief 0).run unwatched).1 =
      .ok (some 0) := by decide +kernel
  rw [← hstatus, watched]
  exact (Prod.eta _).symm

theorem disk_deleted : deleted.disk = watched.disk.remove "grammar" := by
  rw [deleted]

/-- What there is of the two files after the deletion. -/
def remaining : Stage → Option String
  | .grammar => none
  | .code => some "\"\n"

theorem found_grammar : Found (watched.disk.remove "grammar") "grammar" none := by
  have hread : (watched.disk.read "grammar").toOption.isSome := by decide +kernel
  cases hbytes : watched.disk.read "grammar" with
  | error e =>
    rw [hbytes] at hread
    cases hread
  | ok bytes => exact .of_remove (Disk.read_eq_ok_iff.mp hbytes)

theorem found_remaining (stage : Stage) :
    Found deleted.disk (brief.job.path stage) (remaining stage) := by
  cases stage with
  | grammar =>
    rw [disk_deleted]
    exact found_grammar
  | code =>
    have htext : deleted.disk.text? "code" = some "\"\n" := by decide +kernel
    exact .there htext

theorem stored_deleted : deleted.disk.node? "state" = watched.disk.node? "state" := by
  rw [disk_deleted]
  exact Disk.node?_remove_of_ne (by decide)

/-- **A grammar that is deleted** after one cycle comes back and is analyzed again. -/
theorem restart_after_deletion :
    deleted.disk.node? "grammar" = none ∧
      ∃ c v w, ((undisturbed.session []).beginWatch .json brief).run deleted = (.ok (c, v), w) ∧
        w.disk.node? "grammar" = some (.file "A".toUTF8) ∧
        c.texts .grammar = "A" ∧ c.texts .code = "\"\n" := by
  have hplaces : [Disk.destination brief.job.grammar, Disk.destination brief.job.code,
      Disk.destination "state", Disk.destination (Vault.temporary "state")].Nodup := by decide
  have hsettings : (((undisturbed.session []).settings brief.job).run unwatched).1 =
      .ok .standard := by decide +kernel
  have hsettings' : (((undisturbed.session []).settings brief.job).run deleted).1 =
      .ok .standard := by decide +kernel
  have hwrites : watched.failures = unwatched.failures := by decide +kernel
  have htext : (((undisturbed.session []).beginWatch .json brief).run deleted).2.disk.text?
      "grammar" = some "A" := by decide +kernel
  obtain ⟨c₁, v₁, texts, -, -, -, c, v, w, hrun, -, -, -, hstages⟩ :=
    restart_round_trip .json rfl rfl rfl hplaces (undisturbed_spares _) (undisturbed_spares _)
      hsettings watch_unwatched hwrites stored_deleted found_remaining (undisturbed_spares _)
      (fun _ => undisturbed_spares _) (fun _ _ => undisturbed_grants _) hsettings'
  obtain ⟨hgrammar, hmade, -⟩ := hstages .grammar
  have hnode : w.disk.node? "grammar" = some (.file (texts .grammar).toUTF8) := hmade rfl
  rw [hrun, Disk.text?, hnode] at htext
  have hA : texts .grammar = "A" :=
    Option.some.inj ((Text.fromUTF8?_toUTF8 _).symm.trans htext)
  rw [hA] at hgrammar hnode
  have hnone : deleted.disk.node? "grammar" = none := by
    cases found_remaining .grammar with
    | missing h place => exact h
  exact ⟨hnone, c, v, w, hrun, hnode, hgrammar, (hstages .code).1⟩

end Session

end GrammarLint
