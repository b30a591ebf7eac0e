/-
  GrammarLint/Proofs/Session/Settings.lean
  ========================================
  **The settings of a session** — those of a document, or the standard ones, with the waiting
  time of the command line if one is given there.

  Whatever they come from, a pipeline can rely on them (`Settings.Sound`): the document is
  checked when it is loaded, and the waiting time when the command line is read.  Neither is
  checked again where the two are put together, so this is shown here for both at once.
-/
import GrammarLint.Proofs.CommandLine
import GrammarLint.Proofs.Sandbox.Machine
import GrammarLint.Proofs.Settings
import GrammarLint.Session.Run

namespace GrammarLint

open Json Sandbox

namespace Session

variable {σ : Type} {s : Session (StateM σ)} {job : Job} {settings : Settings} {w w' : σ}

/-- Settings are loaded or standard, but for the waiting time. -/
theorem origin_of_settings (h : (s.settings job).run w = (.ok settings, w')) :
    ∃ base : Settings, base.Sound ∧
      settings = { base with debounceMs := job.debounceMs.getD base.debounceMs } := by
  unfold Session.settings at h
  split at h
  · cases h
    exact ⟨_, Settings.sound_standard, rfl⟩
  · obtain ⟨text, w₁, -, h⟩ := run_attempt_eq_ok h fun _ => rfl
    dsimp only at h
    cases hload : Settings.load text with
    | error offence =>
      rw [hload] at h
      cases h
    | ok loaded =>
      rw [hload] at h
      cases h
      exact ⟨loaded, Settings.sound_of_load hload, rfl⟩

/-- The two keys of the settings of a session differ. -/
theorem keys_ne_of_settings (h : (s.settings job).run w = (.ok settings, w')) :
    settings.grammarKey ≠ settings.codeKey := by
  obtain ⟨base, hbase, rfl⟩ := origin_of_settings h
  exact hbase.keys_ne

theorem sound_of_settings (hwait : ∀ ms, job.debounceMs = some ms → 0 < ms)
    (h : (s.settings job).run w = (.ok settings, w')) : settings.Sound := by
  obtain ⟨base, hbase, rfl⟩ := origin_of_settings h
  refine ⟨?_, hbase.grammarKey_filled, hbase.codeKey_filled, hbase.keys_ne⟩
  rcases hms : job.debounceMs with _ | ms
  · exact hbase.waits
  · exact hwait ms hms

/-- **Settings are accepted if their document gives them and they do not offend.**  They are
    then what is given, with the standard settings in the other places.  A document that does
    not give settings is malformed, and settings that offend are refused for their first
    offence, with the field that it is about.

    Every session that is called from a command line and has settings, from whatever file
    and with whatever waiting time, has settings with a positive waiting time and with two
    different keys that are not blank. -/
theorem settings_accepted (text : String) :
    (∀ s, Settings.load text = .ok s ↔ ∃ g, Document Settings.GivenText text g ∧
      (∀ field r, ¬ Settings.Offends g field r) ∧ s = g.filled) ∧
    ((∃ defect, Settings.load text = .error (.malformed defect)) ↔
      ∀ g, ¬ Document Settings.GivenText text g) ∧
    (∀ r, Settings.load text = .error (.rejected r) ↔
      ∃ g, Document Settings.GivenText text g ∧ Settings.FirstOffence g r) ∧
    ∀ {σ : Type} {host : Host (StateM σ)} {start : Start} {i : Invocation} {job : Job}
      {settings : Settings} {w w' : σ}, CommandLine.invocation start.arguments = .ok i →
      (i.order = .lint job ∨ ∃ watch : WatchJob, i.order = .watch watch ∧ watch.job = job) →
      ((ofInvocation host start i).settings job).run w = (.ok settings, w') →
      settings.Sound := by
  refine ⟨fun s => Settings.load_eq_ok_iff, Settings.load_malformed_iff,
    fun r => Settings.load_rejected_iff, ?_⟩
  intro σ host start i job settings w w' hinvocation horder hsettings
  refine sound_of_settings ?_ hsettings
  intro ms hms
  exact CommandLine.debounceMs_pos hinvocation horder hms

/-- A machine on which nothing fails. -/
def idle : Machine := .solitary fun _ _ => .done

/-- **A document and a command line together**: a key that is null and one that begins with a
    blank, and a waiting time that the command line replaces. -/
theorem settings_accepted_overridden :
    let text := "\x7b\"debounceMs\": 5, \"codeKey\": null, \"grammarKey\": \" \\u006b\"\x7d"
    let start : Start := ⟨["lint", "g", "c", "--analyzer", "a", "--config", "s",
      "--debounce-ms", "1"], none, false⟩
    let job : Job := ⟨"g", "c", ⟨"a", []⟩, some "s", some 1⟩
    let settings : Settings := ⟨1, " k", "codeText"⟩
    CommandLine.invocation start.arguments = .ok ⟨.lint job, none, false⟩ ∧
      (∃ w, ((ofInvocation idle.host start ⟨.lint job, none, false⟩).settings job).run
        (.ofDisk (Disk.empty.put ["", "s"] (.file text.toUTF8))) = (.ok settings, w)) ∧
      settings.Sound ∧
      ∃ g, Document Settings.GivenText text g ∧ g.filled = ⟨5, " k", "codeText"⟩ := by
  intro text start job settings
  obtain ⟨haccepted, -, -, hsound⟩ := settings_accepted text
  have hinvocation : CommandLine.invocation start.arguments = .ok ⟨.lint job, none, false⟩ := by
    decide +kernel
  have hrun : ((((ofInvocation idle.host start ⟨.lint job, none, false⟩).settings job).run
      (.ofDisk (Disk.empty.put ["", "s"] (.file text.toUTF8)))).1) = .ok settings := by
    decide +kernel
  have hload : Settings.load text = .ok ⟨5, " k", "codeText"⟩ := by decide +kernel
  obtain ⟨g, hdocument, -, hfilled⟩ := (haccepted _).mp hload
  exact ⟨hinvocation, ⟨_, Prod.ext hrun rfl⟩, hsound hinvocation (.inl rfl) (Prod.ext hrun rfl), g,
    hdocument, hfilled.symm⟩

end Session

end GrammarLint
