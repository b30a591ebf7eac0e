/-
  GrammarLint/Proofs/Sandbox/Disk.lean
  ====================================
  **What is left as it was** — the laws of reading after writing and renaming.

  `node?` is what a path leads to; whether there is something and what it contains is
  read off it.  Writing and renaming leave the directories alone, so every other path
  goes the way it went before and leads to the same thing (`node?_write_of_ne`,
  `node?_rename_of_ne`); only at their own destination is something new.
-/
import GrammarLint.Proofs.Sandbox.Path

namespace GrammarLint.Sandbox.Disk

/-! ### Places -/

theorem lookup_filter_ne (nodes : List (Place × Node)) {p q : Place} (h : q ≠ p) :
    (nodes.filter (·.1 != p)).lookup q = nodes.lookup q := by
  induction nodes with
  | nil => rfl
  | cons head rest ih =>
    obtain ⟨place, node⟩ := head
    by_cases hp : place = p
    · subst hp
      have hq : (q == place) = false := beq_eq_false_iff_ne.mpr h
      rw [List.filter_cons, if_neg (by simp), List.lookup_cons, hq]
      exact ih
    · rw [List.filter_cons, if_pos (by simpa using hp), List.lookup_cons, List.lookup_cons, ih]

theorem at?_erase_of_ne (d : Disk) {p q : Place} (h : q ≠ p) : (d.erase p).at? q = d.at? q := by
  simp only [at?, erase, lookup_filter_ne d.nodes h]

theorem at?_put_of_ne (d : Disk) {p q : Place} (n : Node) (h : q ≠ p) :
    (d.put p n).at? q = d.at? q := by
  have hq : (q == p) = false := beq_eq_false_iff_ne.mpr h
  simp only [at?, put, erase, List.lookup_cons, hq, lookup_filter_ne d.nodes h]

/-- What is put in a place is there, unless it is the place of a directory that is always
    there. -/
theorem at?_put_self {d : Disk} {p : Place} (h : d.at? p ≠ some .directory) (n : Node) :
    (d.put p n).at? p = some n := by
  by_cases hp : p.isEmpty ∨ p = workingDirectory
  · rw [at?, if_pos hp] at h
    exact absurd rfl h
  · rw [at?, if_neg hp, put, List.lookup_cons, beq_self_eq_true]

theorem at?_erase_self {d : Disk} {p : Place} (h : d.at? p ≠ some .directory) :
    (d.erase p).at? p = none := by
  by_cases hp : p.isEmpty ∨ p = workingDirectory
  · rw [at?, if_pos hp] at h
    exact absurd rfl h
  · rw [at?, if_neg hp, erase, List.lookup_eq_none_iff]
    intro e he
    have hne := (List.mem_filter.mp he).2
    rw [bne_iff_ne] at hne
    exact bne_iff_ne.mpr hne.symm

/-! ### Directories -/

/-- Two disks with the same directories. -/
def SameDirectories (d d' : Disk) : Prop :=
  ∀ p, d'.at? p = some .directory ↔ d.at? p = some .directory

theorem SameDirectories.symm {d d' : Disk} (h : SameDirectories d d') : SameDirectories d' d :=
  fun p => (h p).symm

theorem sameDirectories_put {d : Disk} {p : Place} (h : d.at? p ≠ some .directory)
    (bytes : ByteArray) : SameDirectories d (d.put p (.file bytes)) := by
  intro q
  by_cases hq : q = p
  · subst hq
    rw [at?_put_self h]
    constructor
    · intro heq
      cases heq
    · intro heq
      exact absurd heq h
  · rw [at?_put_of_ne d _ hq]

theorem sameDirectories_erase {d : Disk} {p : Place} (h : d.at? p ≠ some .directory) :
    SameDirectories d (d.erase p) := by
  intro q
  by_cases hq : q = p
  · subst hq
    rw [at?_erase_self h]
    constructor
    · intro heq
      cases heq
    · intro heq
      exact absurd heq h
  · rw [at?_erase_of_ne d hq]

theorem walk_of_sameDirectories {d d' : Disk} (h : SameDirectories d d') {names : List String}
    {p q : Place} (hwalk : d.walk p names = .ok q) : d'.walk p names = .ok q := by
  induction names generalizing p with
  | nil => exact hwalk
  | cons name rest ih =>
    obtain ⟨next, hfind, hdirectory, hrest⟩ := walk_cons_eq_ok.mp hwalk
    exact walk_cons_eq_ok.mpr ⟨next, hfind, (h next).mpr hdirectory, ih hrest⟩

theorem parent_of_sameDirectories {d d' : Disk} (h : SameDirectories d d') {path : String}
    {p : Place} (hparent : d.parent path = .ok p) : d'.parent path = .ok p := by
  unfold parent at hparent ⊢
  split
  · next hempty => rw [if_pos hempty] at hparent; cases hparent
  · next hempty =>
    rw [if_neg hempty] at hparent
    split
    · next hlong => rw [if_pos hlong] at hparent; cases hparent
    · next hlong =>
      rw [if_neg hlong] at hparent
      exact walk_of_sameDirectories h hparent

/-! ### Where a path leads -/

/-- How the place of a path is found, once its parent is. -/
theorem place_of_parent {d : Disk} {path : String} {p : Place} (h : d.parent path = .ok p) :
    d.place path = match (names path).getLast? with
      | none => .ok p
      | some name =>
        match find p name with
        | .error e => .error e
        | .ok q =>
          match d.at? q with
          | some (.file _) => if asksDirectory path then .error .notDirectory else .ok q
          | _ => .ok q := by
  simp only [place, h, bind, Except.bind]
  rcases (names path).getLast? with _ | name
  · rfl
  · dsimp only
    rcases find p name with e | q
    · rfl
    · dsimp only
      rcases d.at? q with _ | _ | _ <;> rfl

theorem newPlace_of_parent {d : Disk} {path : String} {p : Place} (h : d.parent path = .ok p) :
    d.newPlace path = match (names path).getLast? with
      | none => .error .isDirectory
      | some name => if asksDirectory path then .error .isDirectory else find p name := by
  rw [newPlace, h]
  rfl

theorem parent_of_place {d : Disk} {path : String} {q : Place} (h : d.place path = .ok q) :
    ∃ p, d.parent path = .ok p := by
  cases hparent : d.parent path with
  | ok p => exact ⟨p, rfl⟩
  | error e =>
    rw [place, hparent] at h
    cases h

theorem parent_of_newPlace {d : Disk} {path : String} {q : Place} (h : d.newPlace path = .ok q) :
    ∃ p, d.parent path = .ok p := by
  cases hparent : d.parent path with
  | ok p => exact ⟨p, rfl⟩
  | error e =>
    rw [newPlace, hparent] at h
    cases h

theorem place_eq_destination {d : Disk} {path : String} {q : Place} (h : d.place path = .ok q) :
    q = destination path := by
  obtain ⟨p, hparent⟩ := parent_of_place h
  rw [place_of_parent hparent] at h
  split at h
  · next hlast =>
    cases h
    exact (destination_of_no_names hparent hlast).symm
  · next name hlast =>
    rw [destination_of_getLast? hparent hlast]
    split at h
    · cases h
    · next q' hfind =>
      rw [← find_eq_ok hfind]
      split at h
      · split at h
        · cases h
        · cases h
          rfl
      · cases h
        rfl

theorem newPlace_eq_destination {d : Disk} {path : String} {q : Place}
    (h : d.newPlace path = .ok q) : q = destination path := by
  obtain ⟨p, hparent⟩ := parent_of_newPlace h
  rw [newPlace_of_parent hparent] at h
  split at h
  · cases h
  · next name hlast =>
    rw [destination_of_getLast? hparent hlast]
    split at h
    · cases h
    · exact find_eq_ok h

/-- A path leads where it led, as long as the directories are the same, and also what is
    there if the path asks for a directory. -/
theorem place_of_sameDirectories {d d' : Disk} (h : SameDirectories d d') {path : String}
    {q : Place} (hat : asksDirectory path = true →
      d'.at? (destination path) = d.at? (destination path))
    (hplace : d.place path = .ok q) : d'.place path = .ok q := by
  obtain ⟨p, hparent⟩ := parent_of_place hplace
  rw [place_of_parent hparent] at hplace
  rw [place_of_parent (parent_of_sameDirectories h hparent)]
  split at hplace
  · exact hplace
  · next name hlast =>
    split at hplace
    · cases hplace
    · next q' hfind =>
      have hq' : destination path = q' := by
        rw [destination_of_getLast? hparent hlast, find_eq_ok hfind]
      rw [hq'] at hat
      cases hasks : asksDirectory path with
      | true =>
        rw [hasks] at hplace
        rw [hat hasks]
        exact hplace
      | false =>
        rw [hasks] at hplace
        split at hplace
        · split <;> exact hplace
        · split <;> exact hplace

theorem newPlace_of_sameDirectories {d d' : Disk} (h : SameDirectories d d') {path : String}
    {q : Place} (hplace : d.newPlace path = .ok q) : d'.newPlace path = .ok q := by
  obtain ⟨p, hparent⟩ := parent_of_newPlace hplace
  rw [newPlace_of_parent hparent] at hplace
  rw [newPlace_of_parent (parent_of_sameDirectories h hparent)]
  exact hplace

theorem asksDirectory_of_newPlace {d : Disk} {path : String} {q : Place}
    (h : d.newPlace path = .ok q) : asksDirectory path = false := by
  obtain ⟨p, hparent⟩ := parent_of_newPlace h
  rw [newPlace_of_parent hparent] at h
  split at h
  · cases h
  · cases hasks : asksDirectory path with
    | false => rfl
    | true =>
      rw [hasks] at h
      cases h

/-- The place of a file that could be made is the place that the path leads to. -/
theorem place_of_newPlace {d : Disk} {path : String} {q : Place} (h : d.newPlace path = .ok q) :
    d.place path = .ok q := by
  have hasks := asksDirectory_of_newPlace h
  obtain ⟨p, hparent⟩ := parent_of_newPlace h
  rw [newPlace_of_parent hparent] at h
  rw [place_of_parent hparent]
  split at h
  · cases h
  · rw [hasks] at h ⊢
    simp only [Bool.false_eq_true, if_false] at h
    simp only [h, Bool.false_eq_true, if_false]
    split <;> rfl

/-! ### What a path leads to -/

/-- What a path leads to, if it leads anywhere and something is there. -/
def node? (d : Disk) (path : String) : Option Node :=
  match d.place path with
  | .ok p => d.at? p
  | .error _ => none

theorem node?_of_place {d : Disk} {path : String} {p : Place} (h : d.place path = .ok p) :
    d.node? path = d.at? p := by
  rw [node?, h]

theorem pathExists_eq (d : Disk) (path : String) : d.pathExists path = (d.node? path).isSome := by
  unfold pathExists node?
  cases d.place path <;> rfl

theorem read_eq_ok_iff {d : Disk} {path : String} {bytes : ByteArray} :
    d.read path = .ok bytes ↔ d.node? path = some (.file bytes) := by
  simp only [read, node?, bind, Except.bind]
  rcases d.place path with e | p
  · constructor <;> intro h <;> cases h
  · dsimp only
    rcases d.at? p with _ | _ | _ <;> constructor <;> intro h <;> cases h <;> rfl

/-- The text of the file that a path leads to, if it is one. -/
def text? (d : Disk) (path : String) : Option String :=
  match d.node? path with
  | some (.file bytes) => String.fromUTF8? bytes
  | _ => none

theorem text?_of_read_error {d : Disk} {path : String} {e : FileError}
    (h : d.read path = .error e) : d.text? path = none := by
  unfold text?
  split
  · next bytes hnode =>
    rw [read_eq_ok_iff.mpr hnode] at h
    cases h
  · rfl

theorem node?_of_sameDirectories {d d' : Disk} (h : SameDirectories d d') {path : String}
    (hat : d'.at? (destination path) = d.at? (destination path)) :
    d'.node? path = d.node? path := by
  cases hplace : d.place path with
  | ok p =>
    have hplace' := place_of_sameDirectories h (fun _ => hat) hplace
    rw [node?_of_place hplace, node?_of_place hplace', place_eq_destination hplace]
    exact hat
  | error e =>
    cases hplace' : d'.place path with
    | ok p =>
      rw [place_of_sameDirectories h.symm (fun _ => hat.symm) hplace'] at hplace
      cases hplace
    | error e' => rw [node?, node?, hplace, hplace']

/-! ### Writing -/

/-- Whether a file can be written at a path: there is a place for it, and no directory. -/
def Writable (d : Disk) (path : String) : Prop :=
  ∃ p, d.newPlace path = .ok p ∧ d.at? p ≠ some .directory

theorem Writable.of_sameDirectories {d d' : Disk} (h : SameDirectories d d') {path : String}
    (hwritable : d.Writable path) : d'.Writable path := by
  obtain ⟨p, hplace, hdir⟩ := hwritable
  exact ⟨p, newPlace_of_sameDirectories h hplace, fun hdir' => hdir ((h p).mp hdir')⟩

theorem Writable.at?_destination {d : Disk} {path : String} (h : d.Writable path) :
    d.at? (destination path) ≠ some .directory := by
  obtain ⟨p, hplace, hdir⟩ := h
  rw [← newPlace_eq_destination hplace]
  exact hdir

theorem Writable.place_eq {d : Disk} {path : String} (h : d.Writable path) :
    d.place path = .ok (destination path) := by
  obtain ⟨p, hplace, -⟩ := h
  rw [← newPlace_eq_destination hplace]
  exact place_of_newPlace hplace

theorem write_eq_ok_iff {d d' : Disk} {path : String} {bytes : ByteArray} :
    d.write path bytes = .ok d' ↔
      d.Writable path ∧ d' = d.put (destination path) (.file bytes) := by
  simp only [write, bind, Except.bind]
  constructor
  · intro h
    cases hplace : d.newPlace path with
    | error e =>
      rw [hplace] at h
      cases h
    | ok p =>
      rw [hplace] at h
      dsimp only at h
      split at h
      · cases h
      · next hdir =>
        cases h
        exact ⟨⟨p, hplace, hdir⟩, by rw [newPlace_eq_destination hplace]⟩
  · rintro ⟨⟨p, hplace, hdir⟩, rfl⟩
    rw [hplace, ← newPlace_eq_destination hplace]
    dsimp only
    split
    · next h => exact absurd h hdir
    · rfl

theorem sameDirectories_write {d d' : Disk} {path : String} {bytes : ByteArray}
    (h : d.write path bytes = .ok d') : SameDirectories d d' := by
  obtain ⟨hwritable, rfl⟩ := write_eq_ok_iff.mp h
  exact sameDirectories_put hwritable.at?_destination bytes

/-- **What is written can be read.** -/
theorem node?_write_self {d d' : Disk} {path : String} {bytes : ByteArray}
    (h : d.write path bytes = .ok d') : d'.node? path = some (.file bytes) := by
  have hdirs := sameDirectories_write h
  obtain ⟨hwritable, rfl⟩ := write_eq_ok_iff.mp h
  rw [node?_of_place (hwritable.of_sameDirectories hdirs).place_eq]
  exact at?_put_self hwritable.at?_destination _

/-- **Everything else stays** when a file is written. -/
theorem node?_write_of_ne {d d' : Disk} {path other : String} {bytes : ByteArray}
    (h : d.write path bytes = .ok d') (hne : destination other ≠ destination path) :
    d'.node? other = d.node? other := by
  have hdirs := sameDirectories_write h
  obtain ⟨-, rfl⟩ := write_eq_ok_iff.mp h
  exact node?_of_sameDirectories hdirs (at?_put_of_ne d _ hne)

/-! ### Renaming -/

/-- What a renaming that is carried out needs and does. -/
structure Renaming (d d' : Disk) (source target : String) (bytes : ByteArray) : Prop where
  source_place : d.place source = .ok (destination source)
  target_place : d.place target = .ok (destination target)
  asks : asksDirectory target = false
  source_file : d.at? (destination source) = some (.file bytes)
  target_file : d.at? (destination target) ≠ some .directory
  result : d' = (d.erase (destination source)).put (destination target) (.file bytes)

theorem rename_eq_ok {d d' : Disk} {source target : String}
    (h : d.rename source target = .ok d') : ∃ bytes, Renaming d d' source target bytes := by
  simp only [rename, bind, Except.bind] at h
  cases hsource : d.place source with
  | error e =>
    rw [hsource] at h
    cases h
  | ok p =>
    cases htarget : d.place target with
    | error e =>
      rw [hsource, htarget] at h
      cases hasks : asksDirectory target <;> rw [hasks] at h <;> cases h
    | ok q =>
      obtain rfl := place_eq_destination hsource
      obtain rfl := place_eq_destination htarget
      rw [hsource, htarget] at h
      cases hasks : asksDirectory target with
      | true =>
        rw [hasks] at h
        cases h
      | false =>
        rw [hasks] at h
        simp only [Bool.false_eq_true, if_false] at h
        rcases hnode : d.at? (destination source) with _ | bytes | _
        · rw [hnode] at h
          cases h
        · rcases hthere : d.at? (destination target) with _ | bytes' | _
          · rw [hnode, hthere] at h
            cases h
            exact ⟨bytes, hsource, htarget, hasks, hnode, by rw [hthere]; nofun, rfl⟩
          · rw [hnode, hthere] at h
            cases h
            exact ⟨bytes, hsource, htarget, hasks, hnode, by rw [hthere]; nofun, rfl⟩
          · rw [hnode, hthere] at h
            cases h
        · rw [hnode] at h
          cases h

theorem Renaming.at?_erase_target {d d' : Disk} {source target : String} {bytes : ByteArray}
    (h : Renaming d d' source target bytes) :
    (d.erase (destination source)).at? (destination target) ≠ some .directory := by
  have hsource : d.at? (destination source) ≠ some .directory := by
    rw [h.source_file]
    nofun
  intro hdir
  exact h.target_file ((sameDirectories_erase hsource _).mp hdir)

theorem Renaming.sameDirectories {d d' : Disk} {source target : String} {bytes : ByteArray}
    (h : Renaming d d' source target bytes) : SameDirectories d d' := by
  have hsource : d.at? (destination source) ≠ some .directory := by
    rw [h.source_file]
    nofun
  intro p
  rw [h.result, sameDirectories_put h.at?_erase_target, sameDirectories_erase hsource]

theorem sameDirectories_rename {d d' : Disk} {source target : String}
    (h : d.rename source target = .ok d') : SameDirectories d d' := by
  obtain ⟨bytes, hr⟩ := rename_eq_ok h
  exact hr.sameDirectories

/-- **What is renamed can be read** under its new name. -/
theorem node?_rename_target {d d' : Disk} {source target : String}
    (h : d.rename source target = .ok d') : d'.node? target = d.node? source := by
  obtain ⟨bytes, hr⟩ := rename_eq_ok h
  have hplace : d'.place target = .ok (destination target) :=
    place_of_sameDirectories hr.sameDirectories
      (fun hasks => by rw [hr.asks] at hasks; cases hasks) hr.target_place
  rw [node?_of_place hplace, node?_of_place hr.source_place, hr.source_file, hr.result]
  exact at?_put_self hr.at?_erase_target _

/-- **Everything else stays** when a file is renamed. -/
theorem node?_rename_of_ne {d d' : Disk} {source target other : String}
    (h : d.rename source target = .ok d') (hsource : destination other ≠ destination source)
    (htarget : destination other ≠ destination target) : d'.node? other = d.node? other := by
  obtain ⟨bytes, hr⟩ := rename_eq_ok h
  refine node?_of_sameDirectories hr.sameDirectories ?_
  rw [hr.result, at?_put_of_ne _ _ htarget, at?_erase_of_ne d hsource]

/-! ### Removing -/

/-- Where a path starts there is a directory. -/
theorem at?_start (d : Disk) (path : String) : d.at? (start path) = some .directory := by
  unfold start
  split <;> rfl

/-- A file that is there could be written in its place. -/
theorem writable_of_file {d : Disk} {path : String} {bytes : ByteArray}
    (h : d.node? path = some (.file bytes)) : d.Writable path := by
  cases hplace : d.place path with
  | error e =>
    rw [node?, hplace] at h
    cases h
  | ok p =>
    rw [node?_of_place hplace] at h
    have hfile : d.at? p ≠ some .directory := by
      rw [h]
      nofun
    refine ⟨p, ?_, hfile⟩
    obtain ⟨q, hparent⟩ := parent_of_place hplace
    rw [place_of_parent hparent] at hplace
    rw [newPlace_of_parent hparent]
    split at hplace
    · next hlast =>
      -- Without a last name the path leads to where it starts, and that is a directory.
      cases hplace
      rw [List.getLast?_eq_none_iff] at hlast
      rw [parent_eq_ok hparent, hlast] at hfile
      exact absurd (at?_start d path) hfile
    · next name hlast =>
      split at hplace
      · cases hplace
      · next q' hfind =>
        split at hplace
        · split at hplace
          · cases hplace
          · next hasks =>
            cases hplace
            rw [if_neg hasks, hfind]
        · next hother =>
          cases hplace
          exact absurd h (hother bytes)

/-- **A file that is removed is gone**, and it can be made again. -/
theorem node?_remove_self {d : Disk} {path : String} {bytes : ByteArray}
    (h : d.node? path = some (.file bytes)) :
    (d.remove path).node? path = none ∧ (d.remove path).Writable path := by
  have hwritable := writable_of_file h
  rw [node?_of_place hwritable.place_eq] at h
  have hremove : d.remove path = d.erase (destination path) := by
    simp only [remove, hwritable.place_eq, h]
  have hdirs := sameDirectories_erase hwritable.at?_destination
  rw [hremove]
  have hwritable' := hwritable.of_sameDirectories hdirs
  refine ⟨?_, hwritable'⟩
  rw [node?_of_place hwritable'.place_eq]
  exact at?_erase_self hwritable.at?_destination

/-- **Everything else stays** when a file is removed. -/
theorem node?_remove_of_ne {d : Disk} {path other : String}
    (hne : destination other ≠ destination path) :
    (d.remove path).node? other = d.node? other := by
  unfold remove
  split
  · rfl
  · next p hplace =>
    obtain rfl := place_eq_destination hplace
    split
    · next bytes hfile =>
      have hdir : d.at? (destination path) ≠ some .directory := by
        rw [hfile]
        nofun
      exact node?_of_sameDirectories (sameDirectories_erase hdir) (at?_erase_of_ne d hne)
    · rfl

end GrammarLint.Sandbox.Disk
