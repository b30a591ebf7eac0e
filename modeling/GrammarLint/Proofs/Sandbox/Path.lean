/-
  GrammarLint/Proofs/Sandbox/Path.lean
  ====================================
  **Where a path leads** — a place that can be computed from the path alone.

  A disk decides whether a path leads anywhere, but not where to: as there are no links,
  that is `destination`, one step for each name.  Two paths lead to one place exactly if
  their destinations are the same.  A path with a suffix at its end never leads to the
  place of the path without it, as long as the suffix is not taken for a step upwards.
-/
import GrammarLint.Sandbox.Disk

namespace GrammarLint.Sandbox.Disk

/-- The place that a path leads to if it leads anywhere. -/
def destination (path : String) : Place := (names path).foldl step (start path)

/-! ### Paths that lead somewhere -/

theorem find_eq_ok {p q : Place} {name : String} (h : find p name = .ok q) : q = step p name := by
  unfold find at h
  split at h
  · cases h
  · cases h
    rfl

/-- A way goes through a directory. -/
theorem walk_cons_eq_ok {d : Disk} {name : String} {rest : List String} {p q : Place} :
    d.walk p (name :: rest) = .ok q ↔
      ∃ next, find p name = .ok next ∧ d.at? next = some .directory ∧ d.walk next rest = .ok q := by
  cases hfind : find p name with
  | error e => simp [walk, hfind, bind, Except.bind]
  | ok next =>
    simp only [walk, hfind, bind, Except.bind, Except.ok.injEq, exists_eq_left']
    split
    · next hnone => simp [hnone]
    · next hfile => simp [hfile]
    · next hdirectory => simp [hdirectory]

theorem walk_eq_ok {d : Disk} {names : List String} {p q : Place} (h : d.walk p names = .ok q) :
    q = names.foldl step p := by
  induction names generalizing p with
  | nil =>
    cases h
    rfl
  | cons name rest ih =>
    obtain ⟨next, hfind, -, hrest⟩ := walk_cons_eq_ok.mp h
    rw [List.foldl_cons, ← find_eq_ok hfind]
    exact ih hrest

theorem parent_eq_ok {d : Disk} {path : String} {p : Place} (h : d.parent path = .ok p) :
    p = (names path).dropLast.foldl step (start path) := by
  unfold parent at h
  split at h
  · cases h
  · split at h
    · cases h
    · exact walk_eq_ok h

/-- The last name of a path is the last step to its destination. -/
theorem destination_of_getLast? {d : Disk} {path name : String} {p : Place}
    (hparent : d.parent path = .ok p) (hlast : (names path).getLast? = some name) :
    destination path = step p name := by
  obtain ⟨before, hnames⟩ := List.getLast?_eq_some_iff.mp hlast
  rw [parent_eq_ok hparent, destination, hnames, List.dropLast_concat, List.foldl_append]
  rfl

theorem destination_of_no_names {d : Disk} {path : String} {p : Place}
    (hparent : d.parent path = .ok p) (hlast : (names path).getLast? = none) :
    destination path = p := by
  have hnames : names path = [] := List.getLast?_eq_none_iff.mp hlast
  rw [parent_eq_ok hparent, destination, hnames]
  rfl

/-! ### Suffixes -/

/-- What is left and right of the slashes. -/
def parts (cs : List Char) (last : List Char) : List (List Char) :=
  cs.foldr (fun c parts =>
    if c = '/' then [] :: parts
    else match parts with
      | [] => [[c]]
      | p :: ps => (c :: p) :: ps) [last]

theorem names_eq (path : String) :
    names path = ((parts path.toList []).filter (! ·.isEmpty)).map String.ofList := rfl

/-- A suffix without slashes belongs to the last part. -/
theorem parts_suffix {suffix : List Char} (h : '/' ∉ suffix) : parts suffix [] = [suffix] := by
  induction suffix with
  | nil => rfl
  | cons c rest ih =>
    have hc : c ≠ '/' := fun heq => h (heq ▸ List.mem_cons_self)
    have hrest := ih fun hmem => h (List.mem_cons_of_mem _ hmem)
    simp only [parts, List.foldr_cons] at hrest ⊢
    rw [hrest, if_neg hc]

theorem parts_last (cs : List Char) : ∃ before last, ∀ suffix,
    parts cs suffix = before ++ [last ++ suffix] := by
  induction cs with
  | nil => exact ⟨[], [], fun _ => rfl⟩
  | cons c rest ih =>
    obtain ⟨before, last, hrest⟩ := ih
    by_cases hc : c = '/'
    · refine ⟨[] :: before, last, fun suffix => ?_⟩
      have h := hrest suffix
      simp only [parts, List.foldr_cons] at h ⊢
      rw [h, if_pos hc]
      rfl
    · cases before with
      | nil =>
        refine ⟨[], c :: last, fun suffix => ?_⟩
        have h := hrest suffix
        simp only [parts, List.foldr_cons] at h ⊢
        rw [h, if_neg hc]
        rfl
      | cons p ps =>
        refine ⟨(c :: p) :: ps, last, fun suffix => ?_⟩
        have h := hrest suffix
        simp only [parts, List.foldr_cons] at h ⊢
        rw [h, if_neg hc]
        rfl

/-- A path and the same path with a suffix go to the last name together. -/
theorem names_append {suffix : String} (hslash : '/' ∉ suffix.toList) (hne : suffix.toList ≠ [])
    (path : String) : ∃ before last,
      names (path ++ suffix) = before ++ [String.ofList (last ++ suffix.toList)] ∧
        names path = before ++ if last = [] then [] else [String.ofList last] := by
  obtain ⟨before, last, hparts⟩ := parts_last path.toList
  refine ⟨(before.filter (! ·.isEmpty)).map String.ofList, last, ?_, ?_⟩
  · have hsuffix : parts (path ++ suffix).toList [] = parts path.toList suffix.toList := by
      have hlast := parts_suffix hslash
      simp only [parts] at hlast ⊢
      rw [String.toList_append, List.foldr_append, hlast]
    have hnonempty : (last ++ suffix.toList).isEmpty = false := by
      simp [hne]
    rw [names_eq, hsuffix, hparts, List.filter_append, List.map_append]
    simp only [List.filter_cons, hnonempty, Bool.not_false, if_true, List.filter_nil,
      List.map_cons, List.map_nil]
  · rw [names_eq, hparts, List.append_nil, List.filter_append, List.map_append]
    congr 1
    cases last with
    | nil => rfl
    | cons c cs => rfl

theorem start_append {suffix : String} (hslash : '/' ∉ suffix.toList) (path : String) :
    start (path ++ suffix) = start path := by
  unfold start
  rw [String.toList_append]
  cases hpath : path.toList with
  | cons c cs => rfl
  | nil =>
    have hhead : suffix.toList.head? ≠ some '/' := fun h =>
      hslash (List.mem_of_mem_head? (Option.mem_def.mpr h))
    rw [List.nil_append, if_neg hhead]
    rfl

/-- **A suffix leads elsewhere.** -/
theorem destination_append_ne {suffix : String} (hslash : '/' ∉ suffix.toList)
    (hlong : 3 ≤ suffix.toList.length) (path : String) :
    destination (path ++ suffix) ≠ destination path := by
  have hne : suffix.toList ≠ [] := by
    intro hnil
    rw [hnil] at hlong
    exact absurd hlong (by decide)
  obtain ⟨before, last, hnames, hnames'⟩ := names_append hslash hne path
  have hlength : 3 ≤ (last ++ suffix.toList).length := by
    rw [List.length_append]
    omega
  have hstep : ∀ p, step p (String.ofList (last ++ suffix.toList)) =
      p ++ [String.ofList (last ++ suffix.toList)] := by
    intro p
    -- A name of three characters is neither of the two that go nowhere or upwards.
    have hname : ∀ short : String, short.toList.length < 3 →
        String.ofList (last ++ suffix.toList) ≠ short := by
      rintro short hshort rfl
      rw [String.toList_ofList] at hshort
      omega
    rw [step, if_neg (hname "." (by decide)), if_neg (hname ".." (by decide))]
  have hlonger : last ++ suffix.toList ≠ last := fun heq => by
    have h := congrArg List.length heq
    rw [List.length_append] at h
    omega
  rw [destination, destination, hnames, hnames', start_append hslash, List.foldl_append,
    List.foldl_append]
  simp only [List.foldl_cons, List.foldl_nil, hstep]
  generalize before.foldl step (start path) = base
  split
  · intro heq
    have h := congrArg List.length heq
    rw [List.length_append] at h
    simp at h
  · simp only [List.foldl_cons, List.foldl_nil, step]
    intro heq
    split at heq
    · have h := congrArg List.length heq
      simp at h
    · split at heq
      · have h := congrArg List.length heq
        simp at h
        omega
      · have h := List.append_cancel_left heq
        have h' := congrArg String.toList (List.head_eq_of_cons_eq h)
        rw [String.toList_ofList, String.toList_ofList] at h'
        exact hlonger h'

end GrammarLint.Sandbox.Disk
