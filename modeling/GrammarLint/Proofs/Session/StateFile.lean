/-
  GrammarLint/Proofs/Session/StateFile.lean
  =========================================
  **The text of a state file** — what it opens as after values were kept in it, and how
  it is written.

  Whatever way a state file is written, it opens as the members it has, the last one of
  each key.  As long as no call fails, it opens as these and the values that were kept,
  in the order of the calls (`InStep.setAll`); keys that nobody uses are as they were.
  A call that replaces the file leaves nothing of the way it was written before: the lines
  are those of the entries in the order of their keys, so that equal entries are equal
  files (`state_file_codec`).
-/
import GrammarLint.Proofs.Json.OneLine
import GrammarLint.Proofs.Session.Durability

namespace GrammarLint.Vault

open Json Sandbox Text

variable {m : Machine} {path : String}

/-! ### Opening again -/

/-- A state file opens as some entries, for whoever leaves it alone meanwhile. -/
def OpensAs (path : String) (node : Option Node) (entries : Entries) : Prop :=
  ∀ (m : Machine) (w : World), m.Spares path → w.disk.node? path = node →
    ((openFile m.host path).run w).1 = .ok ⟨some path, entries⟩

theorem opensAs_of_stored {d : Disk} {entries : Entries} (h : stored d path = some entries) :
    OpensAs path (d.node? path) entries := by
  intro m w hspares hnode
  exact openFile_of_stored hspares ((stored_of_node? hnode).trans h)

/-- **A file with an object of strings holds its members**, in whatever way it is written. -/
theorem stored_of_document {d : Disk} {text : String} {members : List (String × String)}
    (hfile : d.node? path = some (.file text.toUTF8))
    (h : Document (Bracketed '{' '}' StringMember) text members) :
    stored d path = some (.ofList members) := by
  simp only [stored, Disk.text?, hfile, Option.isSome_some, if_true, fromUTF8?_toUTF8,
    Option.bind_some, parse, reads_stringMap.parse_eq_ok.mpr h]
  rfl

/-! ### One call after another -/

/-- Keeps values one after another, with the answer of every call. -/
def setAll {n : Type → Type} [Monad n] (host : Host n) (v : Vault) :
    List (String × String) → n (List (Except StoreError Unit) × Vault)
  | [] => return ([], v)
  | (key, value) :: calls => do
    let (answer, v) ← v.set host key value
    let (answers, v) ← v.setAll host calls
    return (answer :: answers, v)

theorem setAll_cons_run {key value : String} {calls : List (String × String)} {v v₁ v₂ : Vault}
    {w w₁ w₂ : World} {answer : Except StoreError Unit} {answers : List (Except StoreError Unit)}
    (hfirst : (v.set m.host key value).run w = ((answer, v₁), w₁))
    (hrest : (v₁.setAll m.host calls).run w₁ = ((answers, v₂), w₂)) :
    (v.setAll m.host ((key, value) :: calls)).run w = ((answer :: answers, v₂), w₂) := by
  simp only [setAll, run_bind_state, hfirst, hrest]
  rfl

/-- **Calls that all succeed** keep the file in step with the memory. -/
theorem InStep.setAll (h : m.Spares path) (htemporary : m.Spares (temporary path))
    {calls : List (String × String)} {v v' : Vault} {w w' : World}
    {answers : List (Except StoreError Unit)} (hstep : InStep path v w v.entries false)
    (hrun : (v.setAll m.host calls).run w = ((answers, v'), w'))
    (hanswers : ∀ answer ∈ answers, answer = .ok ()) :
    v'.entries = v.entries.insertAll calls ∧ InStep path v' w' v'.entries false := by
  induction calls generalizing v w answers with
  | nil =>
    cases hrun
    exact ⟨rfl, hstep⟩
  | cons call calls ih =>
    obtain ⟨key, value⟩ := call
    obtain ⟨⟨⟨answer, v₁⟩, w₁⟩, hfirst⟩ : ∃ r, (v.set m.host key value).run w = r := ⟨_, rfl⟩
    obtain ⟨⟨⟨rest, v₂⟩, w₂⟩, hrest⟩ : ∃ r, (v₁.setAll m.host calls).run w₁ = r := ⟨_, rfl⟩
    rw [setAll_cons_run hfirst hrest] at hrun
    cases hrun
    obtain ⟨hanswer, hanswers⟩ := List.forall_mem_cons.mp hanswers
    obtain ⟨rfl, -, hreplaced, hstayed⟩ := hstep.set h htemporary hfirst
    have hstep₁ : InStep path (v.holding key value) w₁ (v.holding key value).entries false := by
      by_cases hfile : Replaced answer w w₁
      · exact hreplaced hfile
      · -- The value was there already, so nothing has changed in memory either.
        have hsame := hstayed hfile
        rw [hanswer] at hsame
        rwa [← hsame.memory rfl]
    exact ih hstep₁ hrest hanswers

/-! ### The last time the file was replaced -/

/-- **A vault some calls after one that has replaced its state file**, with the entries that
    it had then.  Since then no call has replaced the file, and between the calls anything
    may have happened that leaves it alone. -/
inductive Rewritten (m : Machine) (path : String) : Vault → World → Entries → Prop
  | replaced {v v' : Vault} {w w' : World} {key value : String} {result : Except StoreError Unit}
    (hpath : v.path = some path) (h : (v.set m.host key value).run w = ((result, v'), w'))
    (file : Replaced result w w') : Rewritten m path v' w' v'.entries
  | stayed {v v' : Vault} {w w' : World} {saved : Entries} {key value : String}
    {result : Except StoreError Unit} (before : Rewritten m path v w saved)
    (h : (v.set m.host key value).run w = ((result, v'), w')) (file : ¬ Replaced result w w') :
    Rewritten m path v' w' saved
  | elsewhere {v : Vault} {w w' : World} {saved : Entries} (before : Rewritten m path v w saved)
    (same : w'.disk.node? path = w.disk.node? path) : Rewritten m path v w' saved

/-- **The file is that of the entries it was replaced with.** -/
theorem Rewritten.file (h : m.Spares path) (htemporary : m.Spares (temporary path)) {v : Vault}
    {w : World} {saved : Entries} (hrewritten : Rewritten m path v w saved) :
    v.path = some path ∧ w.disk.node? path = some (.file (render saved).toUTF8) := by
  -- Along the calls since then.
  induction hrewritten with
  | replaced hpath hrun file =>
    obtain ⟨result, w', hrun', hsetting⟩ := set_run h htemporary hpath _ _ _
    rw [hrun] at hrun'
    cases hrun'
    exact ⟨hpath, hsetting.node?_of_replaced file⟩
  | stayed before hrun file ih =>
    obtain ⟨result, w', hrun', hsetting⟩ := set_run h htemporary ih.1 _ _ _
    rw [hrun] at hrun'
    cases hrun'
    exact ⟨ih.1, (hsetting.node?_of_not_replaced file).trans ih.2⟩
  | elsewhere before same ih => exact ⟨ih.1, same.trans ih.2⟩

/-- **Opening, keeping and opening again.**  A file that is an object of strings, in whatever
    way it is written, opens, and after any calls that all succeed it opens as its members
    and the values of the calls, the last one for each key; a key that is in no call has
    the value it had.  Once a call has replaced the file, its lines are the members of the
    entries in the order of their keys, it opens as these entries, and any two files that
    were last replaced with entries that have the same values are the same, byte for byte. -/
theorem state_file_codec (h : m.Spares path) (htemporary : m.Spares (temporary path)) :
    (∀ {w : World} {text : String} {members : List (String × String)},
      w.disk.node? path = some (.file text.toUTF8) →
      Document (Bracketed '{' '}' StringMember) text members →
      ∃ v w₀, (openFile m.host path).run w = (.ok v, w₀) ∧
        ∀ {calls answers v' w'}, (v.setAll m.host calls).run w₀ = ((answers, v'), w') →
          (∀ answer ∈ answers, answer = .ok ()) →
          ∃ entries, OpensAs path (w'.disk.node? path) entries ∧
            (∀ k, entries.get? k = (members ++ calls).reverse.lookup k) ∧
            ∀ k ∉ calls.map Prod.fst, entries.get? k = members.reverse.lookup k) ∧
    ∀ {v : Vault} {w : World} {saved : Entries}, Rewritten m path v w saved →
      (∃ text : String, w.disk.node? path = some (.file text.toUTF8) ∧
        text.toList.splitOn '\n' = prettyLines saved.toList ∧ Ascending saved.toList) ∧
      OpensAs path (w.disk.node? path) saved ∧
      ∀ {m' : Machine} {path' : String} {v' : Vault} {w' : World} {saved' : Entries},
        m'.Spares path' → m'.Spares (temporary path') → Rewritten m' path' v' w' saved' →
        (∀ k, saved'.get? k = saved.get? k) → w'.disk.node? path' = w.disk.node? path := by
  constructor
  · intro w text members hfile hdocument
    have hopen := openFile_of_stored h (stored_of_document hfile hdocument)
    have hrun : (openFile m.host path).run w = (.ok ⟨some path, .ofList members⟩, _) :=
      Prod.ext hopen rfl
    refine ⟨_, _, hrun, ?_⟩
    intro calls answers v' w' hcalls hanswers
    have hstep := (Kept.opened hrun).inStep h htemporary
    obtain ⟨hafter, hstep'⟩ := hstep.setAll h htemporary hcalls hanswers
    have hentries : v'.entries = (Entries.ofList members).insertAll calls := hafter
    refine ⟨v'.entries, opensAs_of_stored hstep'.file, ?_, ?_⟩
    · intro k
      have hall : v'.entries = .ofList (members ++ calls) :=
        hentries.trans (Entries.insertAll_append .empty members calls).symm
      rw [hall, Entries.get?_ofList]
    · intro k hk
      rw [hentries, Entries.get?_insertAll_of_not_mem _ hk, Entries.get?_ofList]
  · intro v w saved hrewritten
    have hfile := (hrewritten.file h htemporary).2
    refine ⟨⟨render saved, hfile, ?_, saved.ascending⟩, opensAs_of_stored (stored_of_written hfile),
      ?_⟩
    · rw [render, String.toList_ofList, splitOn_prettyMap]
    · intro m' path' v' w' saved' h' htemporary' hrewritten' heq
      rw [(hrewritten'.file h' htemporary').2, hfile, Entries.ext_get? heq]

/-- **An untidy file** opens with the last value of a key.  Once a value was kept in it, it is
    the same file as one of another machine, where the values were kept in another order. -/
theorem state_file_codec_untidy :
    let m := Machine.solitary fun _ _ => .done
    let text := "\x7b \"b\":\"1\",\n\"a\" :\"\\u0041\", \"b\":\"2\"\x7d"
    let opened := (openFile m.host "state").run
      (.ofDisk (Disk.empty.put ["", "state"] (.file text.toUTF8)))
    let first := ((⟨some "state", .ofList [("a", "A"), ("b", "2")]⟩ : Vault).set m.host "c" "x").run
      opened.2
    let second := (first.1.2.set m.host "b" "2").run first.2
    let other := ((⟨some "other", .ofList [("c", "x"), ("b", "2")]⟩ : Vault).set m.host "a" "A").run
      (.ofDisk .empty)
    (∃ entries, OpensAs "state" (second.2.disk.node? "state") entries ∧
      entries.get? "a" = some "A" ∧ entries.get? "b" = some "2" ∧ entries.get? "c" = some "x") ∧
    other.2.disk.node? "other" = second.2.disk.node? "state" := by
  intro m text opened first second other
  have hspares : ∀ path, m.Spares path := Machine.solitary_spares _
  obtain ⟨hopening, hwriting⟩ := state_file_codec (hspares "state") (hspares (temporary "state"))
  have hpairs : ∀ r : (Except StoreError Unit × Vault) × World, r = ((r.1.1, r.1.2), r.2) :=
    fun _ => rfl
  have hanswers : first.1.1 = .ok () ∧ second.1.1 = .ok () ∧ other.1.1 = .ok () := by
    decide +kernel
  have hattempts : first.2.attempts = 2 ∧ second.2.attempts = 2 ∧ other.2.attempts = 2 := by
    decide +kernel
  constructor
  · have hparse : Json.parse stringMap text = .ok [("b", "1"), ("a", "A"), ("b", "2")] := by
      decide +kernel
    have hfile : (World.ofDisk (Disk.empty.put ["", "state"] (.file text.toUTF8))).disk.node?
        "state" = some (.file text.toUTF8) := rfl
    obtain ⟨v, w₀, hopen, hcalls⟩ := hopening hfile (reads_stringMap.parse_eq_ok.mp hparse)
    have hopened : opened.1 = .ok ⟨some "state", .ofList [("a", "A"), ("b", "2")]⟩ := by
      decide +kernel
    have hresult : opened = (.ok v, w₀) := hopen
    rw [hresult] at hopened
    cases hopened
    have hrun : ((⟨some "state", .ofList [("a", "A"), ("b", "2")]⟩ : Vault).setAll m.host
        [("c", "x"), ("b", "2")]).run opened.2 =
          (([first.1.1, second.1.1], second.1.2), second.2) :=
      setAll_cons_run (hpairs first) (setAll_cons_run (hpairs second) rfl)
    rw [hresult] at hrun
    have hall : ∀ answer ∈ [first.1.1, second.1.1], answer = .ok () :=
      List.forall_mem_cons.mpr ⟨hanswers.1, List.forall_mem_singleton.mpr hanswers.2.1⟩
    obtain ⟨entries, hopens, hvalues, -⟩ := hcalls hrun hall
    exact ⟨entries, hopens, hvalues "a", hvalues "b", hvalues "c"⟩
  · have hfirst : Rewritten m "state" first.1.2 first.2 first.1.2.entries :=
      .replaced rfl (hpairs first) ⟨hanswers.1, by rw [hattempts.1]; decide +kernel⟩
    have hsecond : Rewritten m "state" second.1.2 second.2 first.1.2.entries :=
      .stayed hfirst (hpairs second) fun h => h.2 (hattempts.2.1.trans hattempts.1.symm)
    have hother : Rewritten m "other" other.1.2 other.2 other.1.2.entries :=
      .replaced rfl (hpairs other) ⟨hanswers.2.2, by rw [hattempts.2.2]; decide +kernel⟩
    have hsame : other.1.2.entries = first.1.2.entries := by decide +kernel
    exact (hwriting hsecond).2.2 (hspares _) (hspares _) hother fun k => by rw [hsame]

end GrammarLint.Vault
