/-
  GrammarLint/Proofs/Pipeline/Fates.lean
  ======================================
  **What becomes of scheduled actions** — every action that a debouncer was given is replaced,
  taken, cancelled or still pending, and it is only one of these, once.

  Actions need not differ, so that a reply does not say which of them comes out.  To tell them
  apart they are marked with the numbers of the calls that schedule them.  A debouncer does not
  look into its actions (`perform_map`), so the marks change nothing else.

  What is pending at some moment was given by the last call before that did anything at all
  (`pending_take_iff`).  So an action ends with the first call after its own one that does
  anything (`Ends.quiet`), and the reply to this call tells how (`Ends.told`).
-/
import GrammarLint.Proofs.Pipeline.Debouncer
import Mathlib.Logic.ExistsUnique

namespace GrammarLint.Debouncer

variable {α β : Type}

/-! ### Calls and replies -/

/-- What is asked of a debouncer and may change it. -/
inductive Call (α : Type) where
  | schedule (action : α) (now : Nat)
  | takeDue (now : Nat)
  | cancel
deriving DecidableEq, Repr

def Call.isSchedule : Call α → Bool
  | .schedule .. => true
  | _ => false

/-- What a call answers. -/
inductive Reply (α : Type) where
  | scheduled (replaced : Bool)
  | taken (action : Option α)
  | cancelled (action : Option α)
deriving DecidableEq, Repr

namespace Reply

def replaces : Reply α → Bool
  | .scheduled replaced => replaced
  | _ => false

def takes : Reply α → Bool
  | .taken action => action.isSome
  | _ => false

def cancels : Reply α → Bool
  | .cancelled action => action.isSome
  | _ => false

/-- The action that comes out, if one does. -/
def released? : Reply α → Option α
  | .scheduled _ => none
  | .taken action => action
  | .cancelled action => action

/-- Whether the call did nothing: no action was due, or none was there to be cancelled. -/
def isIdle : Reply α → Bool
  | .scheduled _ => false
  | .taken action => action.isNone
  | .cancelled action => action.isNone

end Reply

def perform (d : Debouncer α) : Call α → Reply α × Debouncer α
  | .schedule action now =>
    let (replaced, d) := d.schedule action now
    (.scheduled replaced, d)
  | .takeDue now =>
    let (action, d) := d.takeDue now
    (.taken action, d)
  | .cancel =>
    let (action, d) := d.cancel
    (.cancelled action, d)

/-- The debouncer after calls one after another. -/
def after (d : Debouncer α) (calls : List (Call α)) : Debouncer α :=
  calls.foldl (fun d c => (d.perform c).2) d

/-- What calls one after another answer. -/
def replies (d : Debouncer α) : List (Call α) → List (Reply α)
  | [] => []
  | c :: calls => (d.perform c).1 :: (d.perform c).2.replies calls

/-! ### One call -/

/-- What a call answers, and what it leaves behind. -/
inductive Effect (d : Debouncer α) : Call α → Reply α → Debouncer α → Prop
  | schedule (action : α) (now : Nat) :
    Effect d (.schedule action now) (.scheduled d.isPending)
      { d with pending := some ⟨action, now + d.delay⟩ }
  | due {p : Pending α} {now : Nat} (hp : d.pending = some p) (hle : p.deadline ≤ now) :
    Effect d (.takeDue now) (.taken (some p.action)) d.disarmed
  | early {now : Nat} (hno : ¬ d.Due now) : Effect d (.takeDue now) (.taken none) d
  | cancel {p : Pending α} (hp : d.pending = some p) :
    Effect d .cancel (.cancelled (some p.action)) d.disarmed
  | nothing (hp : d.pending = none) : Effect d .cancel (.cancelled none) d

theorem effect_perform (d : Debouncer α) (c : Call α) :
    Effect d c (d.perform c).1 (d.perform c).2 := by
  cases c with
  | schedule action now => exact .schedule action now
  | takeDue now =>
    by_cases hdue : d.Due now
    · obtain ⟨p, hp, hle⟩ := hdue
      simp only [perform, takeDue_of_pending hp hle]
      exact .due hp hle
    · simp only [perform, takeDue_of_not_due hdue]
      exact .early hdue
  | cancel =>
    rcases d with ⟨delay, _ | p⟩
    · exact .nothing rfl
    · exact .cancel rfl

/-- A call leaves its own action pending, or what was pending if it did nothing. -/
theorem Effect.pending_iff {d d' : Debouncer α} {c : Call α} {r : Reply α} {p : Pending α}
    (h : Effect d c r d') : d'.pending = some p ↔
      (∃ now, c = .schedule p.action now ∧ p.deadline = now + d.delay) ∨
        r.isIdle ∧ d.pending = some p := by
  cases h with
  | schedule action now =>
    constructor
    · rintro ⟨⟩
      exact Or.inl ⟨now, rfl, rfl⟩
    · rintro (⟨_, ⟨⟩, hdeadline⟩ | ⟨⟨⟩, -⟩)
      rw [← hdeadline]
  | due hp hle => simp [disarmed, Reply.isIdle]
  | early hno => simp [Reply.isIdle]
  | cancel hp => simp [disarmed, Reply.isIdle]
  | nothing hp => simp [Reply.isIdle]

theorem Effect.delay {d d' : Debouncer α} {c : Call α} {r : Reply α} (h : Effect d c r d') :
    d'.delay = d.delay := by
  cases h <;> rfl

theorem Effect.reply_schedule {d d' : Debouncer α} {action : α} {now : Nat} {r : Reply α}
    (h : Effect d (.schedule action now) r d') : r = .scheduled d.isPending := by
  cases h
  rfl

/-- Only what was pending comes out. -/
theorem Effect.pending_of_released {d d' : Debouncer α} {c : Call α} {r : Reply α} {a : α}
    (h : Effect d c r d') (ha : r.released? = some a) :
    ∃ p, d.pending = some p ∧ p.action = a := by
  cases h with
  | schedule => cases ha
  | due hp hle => exact ⟨_, hp, Option.some.inj ha⟩
  | early hno => cases ha
  | cancel hp => exact ⟨_, hp, Option.some.inj ha⟩
  | nothing hp => cases ha

/-- Only a schedule replaces, and only what was pending. -/
theorem Effect.isPending_of_replaced {d d' : Debouncer α} {c : Call α}
    (h : Effect d c (.scheduled true) d') :
    (∃ action now, c = .schedule action now) ∧ d.isPending := by
  generalize hr : Reply.scheduled true = r at h
  cases h with
  | schedule action now => exact ⟨⟨action, now, rfl⟩, (Reply.scheduled.inj hr).symm⟩
  | due | early | cancel | nothing => cases hr

/-- A call that does something while an action is pending replaces it or brings it out. -/
theorem Effect.of_busy {d d' : Debouncer α} {c : Call α} {r : Reply α} {p : Pending α}
    (h : Effect d c r d') (hp : d.pending = some p) (hbusy : r.isIdle = false) :
    (∃ action now, c = .schedule action now) ∧ r = .scheduled true ∨
      r = .taken (some p.action) ∨ r = .cancelled (some p.action) := by
  cases h with
  | schedule action now =>
    refine Or.inl ⟨⟨action, now, rfl⟩, ?_⟩
    rw [isPending, hp]
    rfl
  | due hq hle =>
    rw [hp] at hq
    cases hq
    exact Or.inr (Or.inl rfl)
  | cancel hq =>
    rw [hp] at hq
    cases hq
    exact Or.inr (Or.inr rfl)
  | early | nothing => cases hbusy

/-- What goes in comes out, is replaced or stays. -/
theorem Effect.balance {d d' : Debouncer α} {c : Call α} {r : Reply α} (h : Effect d c r d') :
    (if c.isSchedule then 1 else 0) + d.isPending.toNat =
      (if r.replaces then 1 else 0) + (if r.takes then 1 else 0) +
        (if r.cancels then 1 else 0) + d'.isPending.toNat := by
  cases h with
  | schedule action now =>
    cases hp : d.isPending <;>
      simp [Call.isSchedule, Reply.replaces, Reply.takes, Reply.cancels, isPending]
  | due hp hle =>
    simp [Call.isSchedule, Reply.replaces, Reply.takes, Reply.cancels, isPending, disarmed, hp]
  | cancel hp =>
    simp [Call.isSchedule, Reply.replaces, Reply.takes, Reply.cancels, isPending, disarmed, hp]
  | early hno => simp [Call.isSchedule, Reply.replaces, Reply.takes, Reply.cancels]
  | nothing hp => simp [Call.isSchedule, Reply.replaces, Reply.takes, Reply.cancels]

/-! ### Runs -/

theorem after_append (d : Debouncer α) (calls more : List (Call α)) :
    d.after (calls ++ more) = (d.after calls).after more :=
  List.foldl_append

theorem delay_after (d : Debouncer α) (calls : List (Call α)) :
    (d.after calls).delay = d.delay := by
  induction calls generalizing d with
  | nil => rfl
  | cons c calls ih => exact (ih (d.perform c).2).trans (effect_perform d c).delay

theorem getElem?_replies (d : Debouncer α) (calls : List (Call α)) (j : Nat) :
    (d.replies calls)[j]? = calls[j]?.map fun c => ((d.after (calls.take j)).perform c).1 := by
  induction calls generalizing d j with
  | nil => rfl
  | cons c calls ih =>
    cases j with
    | zero => rfl
    | succ j => exact ih (d.perform c).2 j

/-- A call begins with what the calls before it left behind. -/
theorem effect_call (d : Debouncer α) {calls : List (Call α)} {j : Nat} {c : Call α}
    (hc : calls[j]? = some c) : ∃ r, (d.replies calls)[j]? = some r ∧
      Effect (d.after (calls.take j)) c r (d.after (calls.take (j + 1))) := by
  refine ⟨_, by rw [getElem?_replies, hc, Option.map_some], ?_⟩
  rw [List.take_add_one, hc, Option.toList_some, after_append]
  exact effect_perform _ c

theorem effect_reply (d : Debouncer α) {calls : List (Call α)} {j : Nat} {r : Reply α}
    (hr : (d.replies calls)[j]? = some r) : ∃ c, calls[j]? = some c ∧
      Effect (d.after (calls.take j)) c r (d.after (calls.take (j + 1))) := by
  have hcall := hr
  rw [getElem?_replies] at hcall
  obtain ⟨c, hc, -⟩ := Option.map_eq_some_iff.mp hcall
  obtain ⟨r', hr', heffect⟩ := effect_call d hc
  rw [hr] at hr'
  cases hr'
  exact ⟨c, hc, heffect⟩

/-- **The balance of a run.** -/
theorem countP_schedules (d : Debouncer α) (calls : List (Call α)) :
    calls.countP Call.isSchedule + d.isPending.toNat =
      (d.replies calls).countP Reply.replaces + (d.replies calls).countP Reply.takes +
        (d.replies calls).countP Reply.cancels + (d.after calls).isPending.toNat := by
  induction calls generalizing d with
  | nil => simp [replies, after]
  | cons c calls ih =>
    have hcall := (effect_perform d c).balance
    have hcalls : _ = _ + (d.after (c :: calls)).isPending.toNat := ih (d.perform c).2
    simp only [replies, List.countP_cons]
    omega

/-! ### What is pending -/

/-- No call between two does anything. -/
def Quiet (rs : List (Reply α)) (i j : Nat) : Prop :=
  ∀ k r, i < k → k < j → rs[k]? = some r → r.isIdle

theorem quiet_succ_iff {rs : List (Reply α)} {i j : Nat} {r : Reply α} (hij : i < j)
    (hr : rs[j]? = some r) : Quiet rs i (j + 1) ↔ r.isIdle ∧ Quiet rs i j := by
  constructor
  · intro h
    exact ⟨h j r hij (Nat.lt_succ_self j) hr, fun k r' hik hkj => h k r' hik (by omega)⟩
  · rintro ⟨hidle, h⟩ k r' hik hk hr'
    rcases Nat.lt_or_eq_of_le (Nat.le_of_lt_succ hk) with hlt | rfl
    · exact h k r' hik hlt hr'
    · rw [hr] at hr'
      cases hr'
      exact hidle

/-- **What is pending before a call** was given by the last call that did anything. -/
theorem pending_take_iff (delay : Nat) (calls : List (Call α)) {j : Nat} (hj : j ≤ calls.length)
    {p : Pending α} : ((new delay).after (calls.take j)).pending = some p ↔
      ∃ i now, i < j ∧ calls[i]? = some (.schedule p.action now) ∧ p.deadline = now + delay ∧
        Quiet ((new delay).replies calls) i j := by
  induction j with
  | zero =>
    constructor
    · intro hp
      cases hp
    · rintro ⟨i, now, hi, -⟩
      cases hi
  | succ j ih =>
    have hc := List.getElem?_eq_getElem hj
    obtain ⟨r, hr, heffect⟩ := effect_call (new delay) hc
    rw [heffect.pending_iff, ih (Nat.le_of_lt hj), delay_after]
    constructor
    · rintro (⟨now, hcall, hdeadline⟩ | ⟨hidle, i, now, hi, hcall, hdeadline, hquiet⟩)
      · exact ⟨j, now, Nat.lt_succ_self j, hcall ▸ hc, hdeadline, fun k _ _ _ => by omega⟩
      · exact ⟨i, now, by omega, hcall, hdeadline, (quiet_succ_iff hi hr).mpr ⟨hidle, hquiet⟩⟩
    · rintro ⟨i, now, hi, hcall, hdeadline, hquiet⟩
      rcases Nat.lt_or_eq_of_le (Nat.le_of_lt_succ hi) with hlt | rfl
      · obtain ⟨hidle, hquiet⟩ := (quiet_succ_iff hlt hr).mp hquiet
        exact Or.inr ⟨hidle, i, now, hlt, hcall, hdeadline, hquiet⟩
      · rw [hc] at hcall
        exact Or.inl ⟨now, Option.some.inj hcall, hdeadline⟩

/-! ### Quiet stretches -/

theorem quiet_or_busy (rs : List (Reply α)) (i n : Nat) : Quiet rs i n ∨
    ∃ j r, i < j ∧ j < n ∧ Quiet rs i j ∧ rs[j]? = some r ∧ r.isIdle = false := by
  induction n with
  | zero => exact Or.inl fun k r _ hk => absurd hk (Nat.not_lt_zero k)
  | succ n ih =>
    rcases ih with hquiet | ⟨j, r, hij, hjn, hbusy⟩
    · by_cases hbusy : ∃ r, i < n ∧ rs[n]? = some r ∧ r.isIdle = false
      · obtain ⟨r, hin, hr, hidle⟩ := hbusy
        exact Or.inr ⟨n, r, hin, Nat.lt_succ_self n, hquiet, hr, hidle⟩
      · left
        intro k r hik hk hr
        rcases Nat.lt_or_eq_of_le (Nat.le_of_lt_succ hk) with hlt | rfl
        · exact hquiet k r hik hlt hr
        · cases hidle : r.isIdle with
          | true => rfl
          | false => exact absurd ⟨r, hik, hr, hidle⟩ hbusy
    · exact Or.inr ⟨j, r, hij, by omega, hbusy⟩

/-- A quiet stretch ends with the first call that does something. -/
theorem Quiet.le {rs : List (Reply α)} {i j n : Nat} {r : Reply α} (h : Quiet rs i n) (hij : i < j)
    (hr : rs[j]? = some r) (hbusy : r.isIdle = false) : n ≤ j := by
  refine Nat.le_of_not_lt fun hlt => ?_
  have hidle := h j r hij hlt hr
  rw [hbusy] at hidle
  cases hidle

theorem reply_schedule (d : Debouncer α) {calls : List (Call α)} {i : Nat} {action : α} {now : Nat}
    (h : calls[i]? = some (.schedule action now)) :
    ∃ replaced, (d.replies calls)[i]? = some (.scheduled replaced) := by
  obtain ⟨r, hr, heffect⟩ := effect_call d h
  exact ⟨_, heffect.reply_schedule ▸ hr⟩

/-- Before a call there is one schedule only with nothing done since. -/
theorem Quiet.unique {d : Debouncer α} {calls : List (Call α)} {i i' j : Nat} {a a' : α}
    {t t' : Nat} (h : Quiet (d.replies calls) i j) (h' : Quiet (d.replies calls) i' j)
    (hi : i < j) (hi' : i' < j) (hc : calls[i]? = some (.schedule a t))
    (hc' : calls[i']? = some (.schedule a' t')) : i = i' := by
  obtain ⟨b, hr⟩ := reply_schedule d hc
  obtain ⟨b', hr'⟩ := reply_schedule d hc'
  rcases Nat.lt_trichotomy i i' with hlt | heq | hgt
  · exact absurd (h.le hlt hr' rfl) (Nat.not_le_of_lt hi')
  · exact heq
  · exact absurd (h'.le hgt hr rfl) (Nat.not_le_of_lt hi)

/-- An action that comes out was given by the last call that did anything. -/
theorem schedule_of_released (delay : Nat) {calls : List (Call α)} {j : Nat} {r : Reply α} {a : α}
    (hr : ((new delay).replies calls)[j]? = some r) (ha : r.released? = some a) :
    ∃ i now, i < j ∧ calls[i]? = some (.schedule a now) ∧
      Quiet ((new delay).replies calls) i j := by
  obtain ⟨c, hc, heffect⟩ := effect_reply (new delay) hr
  obtain ⟨p, hp, rfl⟩ := heffect.pending_of_released ha
  have hj : j ≤ calls.length := Nat.le_of_lt (List.getElem?_eq_some_iff.mp hc).1
  obtain ⟨i, now, hi, hcall, -, hquiet⟩ := (pending_take_iff delay calls hj).mp hp
  exact ⟨i, now, hi, hcall, hquiet⟩

/-! ### Marks -/

def Call.map (f : α → β) : Call α → Call β
  | .schedule action now => .schedule (f action) now
  | .takeDue now => .takeDue now
  | .cancel => .cancel

def Reply.map (f : α → β) : Reply α → Reply β
  | .scheduled replaced => .scheduled replaced
  | .taken action => .taken (action.map f)
  | .cancelled action => .cancelled (action.map f)

def map (f : α → β) (d : Debouncer α) : Debouncer β :=
  ⟨d.delay, d.pending.map fun p => ⟨f p.action, p.deadline⟩⟩

/-- A debouncer does not look into its actions. -/
theorem perform_map (f : α → β) (d : Debouncer α) (c : Call α) :
    (d.map f).perform (c.map f) = ((d.perform c).1.map f, (d.perform c).2.map f) := by
  rcases d with ⟨delay, _ | p⟩
  · cases c <;> rfl
  · cases c with
    | schedule action now => rfl
    | cancel => rfl
    | takeDue now =>
      by_cases hnow : now < p.deadline
      · simp [perform, takeDue, map, Call.map, Reply.map, hnow]
      · simp [perform, takeDue, map, Call.map, Reply.map, hnow]

theorem after_map (f : α → β) (d : Debouncer α) (calls : List (Call α)) :
    (d.map f).after (calls.map (Call.map f)) = (d.after calls).map f := by
  induction calls generalizing d with
  | nil => rfl
  | cons c calls ih =>
    rw [List.map_cons, after, List.foldl_cons, perform_map]
    exact ih (d.perform c).2

theorem replies_map (f : α → β) (d : Debouncer α) (calls : List (Call α)) :
    (d.map f).replies (calls.map (Call.map f)) = (d.replies calls).map (Reply.map f) := by
  induction calls generalizing d with
  | nil => rfl
  | cons c calls ih =>
    rw [List.map_cons, replies, perform_map, ih]
    rfl

/-- Calls with every action marked with the number of the call that schedules it. -/
def marked (calls : List (Call α)) : List (Call (Nat × α)) :=
  calls.mapIdx fun i c => c.map (i, ·)

theorem map_marked (calls : List (Call α)) : (marked calls).map (Call.map Prod.snd) = calls := by
  refine List.ext_getElem? fun i => ?_
  rw [marked, List.getElem?_map, List.getElem?_mapIdx, Option.map_map]
  rcases calls[i]? with _ | _ | _ | _ <;> rfl

theorem marked_schedule_iff {calls : List (Call α)} {i k : Nat} {action : α} {now : Nat} :
    (marked calls)[k]? = some (.schedule (i, action) now) ↔
      i = k ∧ calls[k]? = some (.schedule action now) := by
  rw [marked, List.getElem?_mapIdx]
  rcases calls[k]? with _ | ⟨action', now'⟩ | now' | _
  · simp
  · simp [Call.map, eq_comm (a := k), and_assoc]
  · simp [Call.map]
  · simp [Call.map]

/-! ### Fates -/

/-- How an action ends, and with which call. -/
inductive Fate where
  | replaced (call : Nat)
  | taken (call : Nat)
  | cancelled (call : Nat)
  | pending
deriving DecidableEq, Repr

/-- The fate of an action that the reply to call `j` tells, if it tells one. -/
def Reply.fate? (j : Nat) : Reply α → Option Fate
  | .scheduled true => some (.replaced j)
  | .taken (some _) => some (.taken j)
  | .cancelled (some _) => some (.cancelled j)
  | _ => none

/-- No call between two schedules anything. -/
def NoneScheduled (calls : List (Call α)) (i j : Nat) : Prop :=
  ∀ k action now, i < k → k < j → calls[k]? ≠ some (.schedule action now)

/-- Whether the action of call `i` ends in some way: the next schedule says that it replaced
    one, the action itself comes out, or it is pending in the end. -/
def Ends (delay : Nat) (calls : List (Call α)) (i : Nat) (fate : Fate) : Prop :=
  ∃ action now, calls[i]? = some (.schedule action now) ∧
    let told := (new delay).replies (marked calls)
    match fate with
    | .replaced j => i < j ∧ (∃ action' now', calls[j]? = some (.schedule action' now')) ∧
        NoneScheduled calls i j ∧ told[j]? = some (.scheduled true)
    | .taken j => told[j]? = some (.taken (some (i, action)))
    | .cancelled j => told[j]? = some (.cancelled (some (i, action)))
    | .pending =>
      ((new delay).after (marked calls)).pending = some ⟨(i, action), now + delay⟩

section Ends

variable {delay : Nat} {calls : List (Call α)} {i j : Nat} {fate : Fate}

theorem length_marked (calls : List (Call α)) : (marked calls).length = calls.length :=
  List.length_mapIdx

/-- What is pending before a call is the action of a call that nothing was done after. -/
theorem pending_marked_iff (hj : j ≤ calls.length) {action : α} {deadline : Nat} :
    ((new delay).after ((marked calls).take j)).pending = some ⟨(i, action), deadline⟩ ↔
      i < j ∧ (∃ now, calls[i]? = some (.schedule action now) ∧ deadline = now + delay) ∧
        Quiet ((new delay).replies (marked calls)) i j := by
  rw [pending_take_iff delay (marked calls) (by rwa [length_marked])]
  constructor
  · rintro ⟨k, now, hk, hcall, hdeadline, hquiet⟩
    obtain ⟨rfl, hcall⟩ := marked_schedule_iff.mp hcall
    exact ⟨hk, ⟨now, hcall, hdeadline⟩, hquiet⟩
  · rintro ⟨hi, ⟨now, hcall, hdeadline⟩, hquiet⟩
    exact ⟨i, now, hi, marked_schedule_iff.mpr ⟨rfl, hcall⟩, hdeadline, hquiet⟩

theorem Quiet.noneScheduled (h : Quiet ((new delay).replies (marked calls)) i j) :
    NoneScheduled calls i j := by
  intro k action now hik hkj hcall
  obtain ⟨b, hr⟩ := reply_schedule (new delay) (marked_schedule_iff.mpr ⟨rfl, hcall⟩)
  exact absurd (h.le hik hr rfl) (Nat.not_le_of_lt hkj)

/-- What comes out was scheduled by the call that it is marked with, and not after that was
    anything scheduled or done. -/
theorem schedule_of_marked {r : Reply (Nat × α)} {action : α}
    (hr : ((new delay).replies (marked calls))[j]? = some r)
    (ha : r.released? = some (i, action)) :
    i < j ∧ (∃ now, calls[i]? = some (.schedule action now)) ∧
      Quiet ((new delay).replies (marked calls)) i j := by
  obtain ⟨k, now, hk, hcall, hquiet⟩ := schedule_of_released delay hr ha
  obtain ⟨rfl, hcall⟩ := marked_schedule_iff.mp hcall
  exact ⟨hk, ⟨now, hcall⟩, hquiet⟩

/-- What is replaced was scheduled last, and nothing was done since. -/
theorem schedule_of_replaced
    (hr : ((new delay).replies (marked calls))[j]? = some (.scheduled true)) :
    (∃ action now, calls[j]? = some (.schedule action now)) ∧
      ∃ i action now, i < j ∧ calls[i]? = some (.schedule action now) ∧
        Quiet ((new delay).replies (marked calls)) i j := by
  obtain ⟨c, hc, heffect⟩ := effect_reply (new delay) hr
  obtain ⟨⟨⟨k, action⟩, now, rfl⟩, hpending⟩ := heffect.isPending_of_replaced
  obtain ⟨⟨⟨i, action'⟩, deadline⟩, hp⟩ := Option.isSome_iff_exists.mp hpending
  obtain ⟨rfl, hcall⟩ := marked_schedule_iff.mp hc
  have hk : k < calls.length := (List.getElem?_eq_some_iff.mp hcall).1
  obtain ⟨hi, ⟨now', hcall', -⟩, hquiet⟩ := (pending_marked_iff (Nat.le_of_lt hk)).mp hp
  exact ⟨⟨action, now, hcall⟩, i, action', now', hi, hcall', hquiet⟩

/-- The call that an action ends with, or the number of all calls. -/
def Fate.call (n : Nat) : Fate → Nat
  | .replaced j => j
  | .taken j => j
  | .cancelled j => j
  | .pending => n

theorem pending_marked_end_iff {action : α} {deadline : Nat} :
    ((new delay).after (marked calls)).pending = some ⟨(i, action), deadline⟩ ↔
      i < calls.length ∧
        (∃ now, calls[i]? = some (.schedule action now) ∧ deadline = now + delay) ∧
        Quiet ((new delay).replies (marked calls)) i calls.length := by
  rw [← pending_marked_iff (Nat.le_refl calls.length), ← length_marked calls, List.take_length]

/-- Nothing is done between a schedule and the call that its action ends with. -/
theorem Ends.quiet (h : Ends delay calls i fate) : i < fate.call calls.length ∧
    Quiet ((new delay).replies (marked calls)) i (fate.call calls.length) := by
  obtain ⟨action, now, hcall, hend⟩ := h
  cases fate with
  | replaced j =>
    obtain ⟨hij, -, hnone, hr⟩ := hend
    obtain ⟨-, i', action', now', hij', hcall', hquiet⟩ := schedule_of_replaced hr
    rcases Nat.lt_trichotomy i i' with hlt | rfl | hgt
    · exact absurd hcall' (hnone i' action' now' hlt hij')
    · exact ⟨hij, hquiet⟩
    · exact absurd hcall (hquiet.noneScheduled i action now hgt hij)
  | taken j =>
    obtain ⟨hij, -, hquiet⟩ := schedule_of_marked hend rfl
    exact ⟨hij, hquiet⟩
  | cancelled j =>
    obtain ⟨hij, -, hquiet⟩ := schedule_of_marked hend rfl
    exact ⟨hij, hquiet⟩
  | pending =>
    obtain ⟨hi, -, hquiet⟩ := pending_marked_end_iff.mp hend
    exact ⟨hi, hquiet⟩

/-- The reply to the call that an action ends with tells its fate. -/
theorem Ends.told (h : Ends delay calls i fate) : fate = .pending ∨
    ∃ r, ((new delay).replies (marked calls))[fate.call calls.length]? = some r ∧
      r.isIdle = false ∧ r.fate? (fate.call calls.length) = some fate := by
  obtain ⟨action, now, -, hend⟩ := h
  cases fate with
  | replaced j => exact Or.inr ⟨_, hend.2.2.2, rfl, rfl⟩
  | taken j => exact Or.inr ⟨_, hend, rfl, rfl⟩
  | cancelled j => exact Or.inr ⟨_, hend, rfl, rfl⟩
  | pending => exact Or.inl rfl

theorem lt_length_of_reply {r : Reply (Nat × α)}
    (hr : ((new delay).replies (marked calls))[j]? = some r) : j < calls.length := by
  obtain ⟨c, hc, -⟩ := effect_reply (new delay) hr
  rw [← length_marked calls]
  exact (List.getElem?_eq_some_iff.mp hc).1

theorem Ends.call_le {fate' : Fate} (h : Ends delay calls i fate) (h' : Ends delay calls i fate') :
    fate'.call calls.length ≤ fate.call calls.length := by
  rcases h.told with rfl | ⟨r, hr, hbusy, -⟩
  · rcases h'.told with rfl | ⟨r', hr', -⟩
    · exact Nat.le_refl _
    · exact Nat.le_of_lt (lt_length_of_reply hr')
  · exact h'.quiet.2.le h.quiet.1 hr hbusy

/-- **An action has one fate.** -/
theorem Ends.unique {fate' : Fate} (h : Ends delay calls i fate) (h' : Ends delay calls i fate') :
    fate = fate' := by
  have hcall := Nat.le_antisymm (h'.call_le h) (h.call_le h')
  rcases h.told with rfl | ⟨r, hr, -, hfate⟩
  · rcases h'.told with rfl | ⟨r', hr', -⟩
    · rfl
    · rw [← hcall] at hr'
      exact absurd (lt_length_of_reply hr') (Nat.lt_irrefl _)
  · rcases h'.told with rfl | ⟨r', hr', -, hfate'⟩
    · rw [hcall] at hr
      exact absurd (lt_length_of_reply hr) (Nat.lt_irrefl _)
    · rw [hcall, hr'] at hr
      cases hr
      rw [hcall, hfate'] at hfate
      exact (Option.some.inj hfate).symm

/-- A fate is that of one action, if it is not to be pending in the end. -/
theorem Ends.unique_action {i' : Nat} (h : Ends delay calls i fate)
    (h' : Ends delay calls i' fate) : i = i' := by
  obtain ⟨hi, hquiet⟩ := h.quiet
  obtain ⟨hi', hquiet'⟩ := h'.quiet
  obtain ⟨action, now, hcall, -⟩ := h
  obtain ⟨action', now', hcall', -⟩ := h'
  exact hquiet.unique hquiet' hi hi' (marked_schedule_iff.mpr ⟨rfl, hcall⟩)
    (marked_schedule_iff.mpr ⟨rfl, hcall'⟩)

/-- **No action is lost.** -/
theorem exists_ends (delay : Nat) {action : α} {now : Nat}
    (hcall : calls[i]? = some (.schedule action now)) : ∃ fate, Ends delay calls i fate := by
  have hi : i < calls.length := (List.getElem?_eq_some_iff.mp hcall).1
  rcases quiet_or_busy ((new delay).replies (marked calls)) i calls.length with
    hquiet | ⟨j, r, hij, hj, hquiet, hr, hbusy⟩
  · exact ⟨.pending, action, now, hcall,
      pending_marked_end_iff.mpr ⟨hi, ⟨now, hcall, rfl⟩, hquiet⟩⟩
  · have hp := (pending_marked_iff (Nat.le_of_lt hj)).mpr ⟨hij, ⟨now, hcall, rfl⟩, hquiet⟩
    obtain ⟨c, hc, heffect⟩ := effect_reply (new delay) hr
    rcases heffect.of_busy hp hbusy with ⟨⟨⟨k, action'⟩, now', rfl⟩, rfl⟩ | rfl | rfl
    · obtain ⟨rfl, hnext⟩ := marked_schedule_iff.mp hc
      exact ⟨.replaced k, action, now, hcall, hij, ⟨action', now', hnext⟩, hquiet.noneScheduled, hr⟩
    · exact ⟨.taken j, action, now, hcall, hr⟩
    · exact ⟨.cancelled j, action, now, hcall, hr⟩

/-- **Nothing comes out, or is replaced, that was not scheduled.** -/
theorem exists_ends_of_reply {r : Reply (Nat × α)}
    (hr : ((new delay).replies (marked calls))[j]? = some r) (hfate : r.fate? j = some fate) :
    ∃ i, Ends delay calls i fate := by
  match r, hfate with
  | .scheduled true, rfl =>
    obtain ⟨hnext, i, action, now, hij, hcall, hquiet⟩ := schedule_of_replaced hr
    exact ⟨i, action, now, hcall, hij, hnext, hquiet.noneScheduled, hr⟩
  | .taken (some (i, action)), rfl =>
    obtain ⟨hij, ⟨now, hcall⟩, -⟩ := schedule_of_marked hr rfl
    exact ⟨i, action, now, hcall, hr⟩
  | .cancelled (some (i, action)), rfl =>
    obtain ⟨hij, ⟨now, hcall⟩, -⟩ := schedule_of_marked hr rfl
    exact ⟨i, action, now, hcall, hr⟩

end Ends

/-- **Actions come out in the order in which they were scheduled.** -/
theorem pairwise_released (delay : Nat) (calls : List (Call α)) :
    ((((new delay).replies (marked calls)).filterMap Reply.released?).map Prod.fst).Pairwise
      (· < ·) := by
  rw [List.pairwise_map, List.pairwise_filterMap, List.pairwise_iff_getElem]
  rintro j j' hj hj' hlt ⟨i, action⟩ hr ⟨i', action'⟩ hr'
  obtain ⟨hij, -, -⟩ := schedule_of_marked (List.getElem?_eq_getElem hj) hr
  obtain ⟨hij', ⟨now, hcall⟩, hquiet⟩ := schedule_of_marked (List.getElem?_eq_getElem hj') hr'
  have hbusy : (((new delay).replies (marked calls))[j]).isIdle = false := by
    cases hreply : ((new delay).replies (marked calls))[j] with
    | scheduled replaced => rfl
    | taken out | cancelled out =>
      rw [hreply] at hr
      cases hr
      rfl
  -- Otherwise the first of the two calls would have been quiet.
  have hle : j ≤ i' := Nat.le_of_not_lt fun hgt =>
    absurd (hquiet.le hgt (List.getElem?_eq_getElem hj) hbusy) (Nat.not_le_of_lt hlt)
  exact Nat.lt_of_lt_of_le hij hle

/-- What is pending is due from its deadline on, and until then nothing comes of taking it. -/
theorem due_of_pending {d : Debouncer α} {p : Pending α} (hp : d.pending = some p) (t : Nat) :
    d.deadline = some p.deadline ∧ ((d.takeDue t).1 = some p.action ↔ p.deadline ≤ t) ∧
      (d.timeUntilDue t = some 0 ↔ p.deadline ≤ t) ∧
      (¬ p.deadline ≤ t → d.takeDue t = (none, d)) := by
  have hdue : d.Due t ↔ p.deadline ≤ t := by
    constructor
    · rintro ⟨q, hq, hle⟩
      rw [hp] at hq
      cases hq
      exact hle
    · exact fun hle => ⟨p, hp, hle⟩
  refine ⟨by rw [deadline, hp, Option.map_some], ?_, ?_, ?_⟩
  · constructor
    · intro htaken
      exact hdue.mp (isSome_takeDue_iff.mp (by rw [htaken]; rfl))
    · intro hle
      rw [takeDue_of_pending hp hle]
  · rw [timeUntilDue_eq_zero_iff, hdue]
  · intro hlater
    exact takeDue_of_not_due (mt hdue.mp hlater)

/-! ### The law -/

/-- **No action is lost, and none comes out twice.**  For every delay and all calls of a fresh
    debouncer at all times: marks on the actions change nothing but the actions.  Every action
    that was scheduled has one fate, with one call at most, and every reply that tells a fate
    tells that of one action.  So as many are scheduled as are replaced, taken, cancelled and
    pending in the end.

    Actions come out in the order of the calls that scheduled them, each at most once, and not
    after another one was scheduled.  Only the last one can be pending.  It is if anything is;
    then the deadline is its time put off by the delay, and at a time it is taken exactly if
    the deadline is not later, which is what the time until due says.  Before that taking
    changes nothing. -/
theorem actions_accounted_for (delay : Nat) (calls : List (Call α)) :
    let replies := (new delay).replies calls
    let d := (new delay).after calls
    let told := (new delay).replies (marked calls)
    (told.map (Reply.map Prod.snd) = replies ∧
      ((new delay).after (marked calls)).map Prod.snd = d) ∧
    (∀ i action now, calls[i]? = some (.schedule action now) →
      ∃! fate, Ends delay calls i fate) ∧
    (∀ j (r : Reply (Nat × α)) fate, told[j]? = some r → r.fate? j = some fate →
      ∃! i, Ends delay calls i fate) ∧
    calls.countP Call.isSchedule = replies.countP Reply.replaces + replies.countP Reply.takes +
      replies.countP Reply.cancels + d.isPending.toNat ∧
    ((told.filterMap Reply.released?).map Prod.fst).Pairwise (· < ·) ∧
    (∀ j (r : Reply (Nat × α)) i action, told[j]? = some r → r.released? = some (i, action) →
      i < j ∧ (∃ now, calls[i]? = some (.schedule action now)) ∧ NoneScheduled calls i j) ∧
    (d.isPending ↔ ∃ i, Ends delay calls i .pending) ∧
    ∀ i action now, calls[i]? = some (.schedule action now) → Ends delay calls i .pending →
      NoneScheduled calls i calls.length ∧ d.deadline = some (now + delay) ∧
        ∀ t, ((d.takeDue t).1 = some action ↔ now + delay ≤ t) ∧
          (d.timeUntilDue t = some 0 ↔ now + delay ≤ t) ∧
          (¬ now + delay ≤ t → d.takeDue t = (none, d)) := by
  intro replies d told
  have hnew : ((new delay : Debouncer (Nat × α)).map Prod.snd) = new delay := rfl
  have hreplies : told.map (Reply.map Prod.snd) = replies := by
    rw [← replies_map, map_marked, hnew]
  have hafter : ((new delay).after (marked calls)).map Prod.snd = d := by
    rw [← after_map, map_marked, hnew]
  refine ⟨⟨hreplies, hafter⟩, ?_, ?_, ?_, pairwise_released delay calls, ?_, ?_, ?_⟩
  · intro i action now hcall
    obtain ⟨fate, hends⟩ := exists_ends delay hcall
    exact ⟨fate, hends, fun fate' hends' => hends'.unique hends⟩
  · intro j r fate hr hfate
    obtain ⟨i, hends⟩ := exists_ends_of_reply hr hfate
    exact ⟨i, hends, fun i' hends' => hends'.unique_action hends⟩
  · have hbalance := countP_schedules (new delay) calls
    rwa [show (new delay : Debouncer α).isPending.toNat = 0 from rfl, Nat.add_zero] at hbalance
  · intro j r i action hr hout
    obtain ⟨hij, hcall, hquiet⟩ := schedule_of_marked hr hout
    exact ⟨hij, hcall, hquiet.noneScheduled⟩
  · rw [← hafter, isPending, map, Option.isSome_map]
    constructor
    · intro hsome
      obtain ⟨⟨⟨i, action⟩, deadline⟩, hp⟩ := Option.isSome_iff_exists.mp hsome
      obtain ⟨-, ⟨now, hcall, rfl⟩, -⟩ := pending_marked_end_iff.mp hp
      exact ⟨i, action, now, hcall, hp⟩
    · rintro ⟨i, action, now, -, hp⟩
      rw [hp]
      rfl
  · rintro i action now hcall ⟨action', now', hcall', hp⟩
    rw [hcall] at hcall'
    cases hcall'
    obtain ⟨-, -, hquiet⟩ := pending_marked_end_iff.mp hp
    have hpending : d.pending = some ⟨action, now + delay⟩ := by
      rw [← hafter, map, hp]
      rfl
    have hdue := due_of_pending hpending
    exact ⟨hquiet.noneScheduled, (hdue 0).1, fun t => (hdue t).2⟩

/-- Two actions that are the same, and times that go back: the first one is replaced, and the
    second one is taken once it is due. -/
example : (new 5).replies
    [.schedule 'x' 9, .takeDue 13, .schedule 'x' 3, .takeDue 7, .takeDue 8, .cancel] =
      [.scheduled false, .taken none, .scheduled true, .taken none, .taken (some 'x'),
        .cancelled none] := by
  decide

end GrammarLint.Debouncer
