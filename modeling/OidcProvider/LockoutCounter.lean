import Mathlib.Data.List.ReduceOption
import OidcProvider.LockoutStore
import OidcProvider.ResumptionPrograms

/-!
# The cross-factor lockout counter

`internal/authn/lockout`: `RecordFailure` reads the record of a subject, folds
one failure into it and swaps it, again and again until a swap commits;
`Reset` reads and swaps a cleared record once. Any number of both run on one
subject, call by call, while the other rows of the store change freely. The
record is at all times the replay of the transitions that have committed, in
their order.
-/
namespace OidcProvider.LockoutCounter
open FiniteMaps StoreRecords LockoutStore ResumptionPrograms

/-! ### Escalation -/

def thresholdShort : ℤ := 30
def thresholdLong : ℤ := 90
def durationShort : Time := Time.hour
def durationLong : Time := 24 * Time.hour
def counterWindow : Time := 24 * Time.hour

def maxInt : ℤ := 9223372036854775807

def maxSwapAttempts : ℕ := 32

def windowExpired (firstFailureAt now : Time) : Bool :=
  decide (firstFailureAt ≠ 0 ∧ counterWindow < now - firstFailureAt)

/-- `Escalate`: the lock earned, and whether a reset is required. -/
def escalate (failedCount : ℤ) (now : Time) : Time × Bool :=
  if thresholdLong ≤ failedCount then (now + durationLong, true)
  else if thresholdShort ≤ failedCount then (now + durationShort, false)
  else (0, false)

structure Outcome where
  failedCount : ℤ
  lockedUntil : Time
  resetRequired : Bool
  deriving DecidableEq

/-- The count and the anchor of the window, after one more failure. -/
def countFailure (rec : AuthnLockoutRecord) (now : Time) : AuthnLockoutRecord :=
  if windowExpired rec.firstFailureAt now then { rec with failedCount := 1, firstFailureAt := now }
  else
    { rec with
      failedCount := if rec.failedCount < maxInt then rec.failedCount + 1 else rec.failedCount
      firstFailureAt := if rec.firstFailureAt = 0 then now else rec.firstFailureAt }

/-- `applyFailure`: a running lock is carried on, a spent one is dropped. -/
def applyFailure (rec : AuthnLockoutRecord) (now : Time) : AuthnLockoutRecord × Outcome :=
  let next := countFailure rec now
  let earned := escalate next.failedCount now
  let lockedUntil :=
    if now < next.lockedUntil ∧ earned.1 < next.lockedUntil then next.lockedUntil else earned.1
  ({ next with lockedUntil }, ⟨next.failedCount, lockedUntil, earned.2⟩)

def cleared (rec : AuthnLockoutRecord) : AuthnLockoutRecord :=
  { rec with failedCount := 0, firstFailureAt := 0, lockedUntil := 0 }

/-! ### The counter -/

/-- The transition a swap stands for. The store does not see it. -/
inductive Transition where
  | failure (now : Time)
  | reset
  deriving DecidableEq

inductive Call where
  | get (subject : String)
  | compareAndSwap (transition : Transition) (expectedVersion : UInt64) (next : AuthnLockoutRecord)
  deriving DecidableEq

@[reducible] def Call.Reply : Call → Type
  | .get _ => Fallible AuthnLockoutRecord
  | .compareAndSwap _ _ _ => Fallible Bool

structure Chance where
  now : Time
  order : KeyOrder

def handle (e : Chance) : (o : Call) → AuthnLockouts → AuthnLockouts × o.Reply
  | .get subject, s => (s, LockoutStore.get s subject)
  | .compareAndSwap _ expectedVersion next, s =>
    LockoutStore.compareAndSwap e.order e.now s expectedVersion (some next)

abbrev Program (A : Type) := Prog Call Call.Reply A

def ask (o : Call) : Program o.Reply := Prog.perform o

inductive CounterError where
  | subjectRequired
  | swapContention
  | subjectMismatch
  | zeroVersion
  | store (err : StoreError)
  deriving DecidableEq

def checkRecord (rec : AuthnLockoutRecord) (subject : String) (version : Bool) :
    Except CounterError Unit :=
  if rec.subject ≠ subject then .error .subjectMismatch
  else if version = true ∧ rec.version = 0 then .error .zeroVersion
  else .ok ()

def blank (subject : String) : AuthnLockoutRecord := ⟨subject, 0, 0, 0, 0⟩

section
variable (subject : String)

def readAnswer (version : Bool) :
    Fallible AuthnLockoutRecord → Except CounterError (Option AuthnLockoutRecord)
  | .error .notFound => .ok none
  | .error e => .error (.store e)
  | .ok rec =>
    match checkRecord rec subject version with
    | .error e => .error e
    | .ok () => .ok (some rec)

def read (version : Bool) : Program (Except CounterError (Option AuthnLockoutRecord)) := do
  if subject = "" then return .ok none else return readAnswer subject version (← ask (.get subject))

def baseAnswer : Fallible AuthnLockoutRecord → Except CounterError AuthnLockoutRecord
  | .error .notFound => .ok (blank subject)
  | .error e => .error (.store e)
  | .ok prior =>
    match checkRecord prior subject true with
    | .error e => .error e
    | .ok () => .ok prior

/-- `failureBase`: the record a failure is folded into, under its version. -/
def failureBase : Program (Except CounterError AuthnLockoutRecord) := do
  return baseAnswer subject (← ask (.get subject))

/-- The attempts of `RecordFailure`, all with the clock reading taken before the
first one. -/
def failureAttempts (now : Time) : ℕ → Program (Except CounterError Outcome)
  | 0 => pure (.error .swapContention)
  | attempts + 1 => do
      match ← failureBase subject with
      | .error e => return .error e
      | .ok base =>
        match ← ask (.compareAndSwap (.failure now) base.version (applyFailure base now).1) with
        | .error e => return .error (.store e)
        | .ok true => return .ok (applyFailure base now).2
        | .ok false => failureAttempts now attempts

def recordFailure (now : Time) : Program (Except CounterError Outcome) :=
  if subject = "" then pure (.error .subjectRequired)
  else failureAttempts subject now maxSwapAttempts

/-- The swap of `Reset`: one attempt, and none where there is nothing to clear. -/
def clear : Except CounterError (Option AuthnLockoutRecord) → Program (Except CounterError Unit)
  | .error e => pure (.error e)
  | .ok none => pure (.ok ())
  | .ok (some rec) =>
    if rec.failedCount = 0 ∧ rec.firstFailureAt = 0 ∧ rec.lockedUntil = 0 then pure (.ok ())
    else do
      match ← ask (.compareAndSwap .reset rec.version (cleared rec)) with
      | .error e => return .error (.store e)
      | .ok _ => return .ok ()

def reset : Program (Except CounterError Unit) := do
  clear (← read subject true)

structure Status where
  locked : Bool
  lockedUntil : Time
  remaining : ℤ
  deriving DecidableEq

def status (now : Time) : Program (Except CounterError Status) := do
  match ← read subject false with
  | .error e => return .error e
  | .ok none => return .ok ⟨false, 0, thresholdShort⟩
  | .ok (some rec) =>
    if now < rec.lockedUntil then return .ok ⟨true, rec.lockedUntil, 0⟩
    else
      let spent := if windowExpired rec.firstFailureAt now then 0 else rec.failedCount
      return .ok ⟨false, 0, max (thresholdShort - spent) 0⟩

end

/-! ### Many callers -/

inductive Party where
  | failure (now : Time)
  | reset
  | status (now : Time)

inductive Report where
  | failure (result : Except CounterError Outcome)
  | reset (result : Except CounterError Unit)
  | status (result : Except CounterError Status)

def party (subject : String) : Party → Program Report
  | .failure now => do return .failure (← recordFailure subject now)
  | .reset => do return .reset (← reset subject)
  | .status now => do return .status (← status subject now)

/-- The store as someone else leaves it, with the row of the subject as it was. -/
def around (subject : String) (others s : AuthnLockouts) : AuthnLockouts :=
  { others with m := put others.m subject (s.m.lookup subject) }

/-- The callers of one subject; the surroundings change the other rows. -/
def counting (subject : String) :
    System AuthnLockouts Call Call.Reply Report Chance AuthnLockouts Party where
  handle := handle
  ambient := around subject
  program := party subject

def note : (o : Call) → o.Reply → Option Transition
  | .compareAndSwap t _ _, .ok true => some t
  | _, _ => none

abbrev Moves := List (Move Chance AuthnLockouts Party)

/-- The transitions that committed in an execution, in their order. -/
def committed (subject : String) (s : AuthnLockouts) (ms : Moves) : List Transition :=
  ((counting subject).notes note ⟨s, []⟩ ms).reduceOption

def failuresSince (ts : List Transition) : ℕ :=
  ts.foldl (fun n t =>
    match t with
    | .failure _ => n + 1
    | .reset => 0) 0

/-! ### Replay -/

section
variable (subject : String)

def advance (prior : Option AuthnLockoutRecord) (t : Transition) : AuthnLockoutRecord :=
  let base := prior.getD (blank subject)
  { (match t with
      | .failure now => (applyFailure base now).1
      | .reset => cleared base) with version := base.version + 1 }

def replay (ts : List Transition) : Option AuthnLockoutRecord :=
  ts.foldl (fun prior t => some (advance subject prior t)) none

variable {subject}
variable (ts : List Transition)

lemma replay_concat (t : Transition) :
    replay subject (ts ++ [t]) = some (advance subject (replay subject ts) t) := by
  unfold replay
  rw [List.foldl_append]
  rfl

lemma failuresSince_failure (now : Time) :
    failuresSince (ts ++ [.failure now]) = failuresSince ts + 1 := by
  unfold failuresSince
  rw [List.foldl_append]
  rfl

lemma failuresSince_reset : failuresSince (ts ++ [.reset]) = 0 := by
  unfold failuresSince
  rw [List.foldl_append]
  rfl

def base (subject : String) (ts : List Transition) : AuthnLockoutRecord :=
  (replay subject ts).getD (blank subject)

lemma base_concat (t : Transition) :
    base subject (ts ++ [t]) = advance subject (replay subject ts) t := by
  rw [base, replay_concat]
  rfl

lemma replay_eq_none {ts : List Transition} (h : replay subject ts = none) : ts = [] := by
  induction ts using List.reverseRecOn with
  | nil => rfl
  | append_singleton ts t _ =>
    rw [replay_concat] at h
    cases h

lemma subject_countFailure (rec : AuthnLockoutRecord) (now : Time) :
    (countFailure rec now).subject = rec.subject ∧
      (countFailure rec now).version = rec.version ∧
      (countFailure rec now).lockedUntil = rec.lockedUntil := by
  unfold countFailure
  split_ifs <;> exact ⟨rfl, rfl, rfl⟩

lemma subject_base : (base subject ts).subject = subject := by
  induction ts using List.reverseRecOn with
  | nil => rfl
  | append_singleton ts t ih =>
    rw [base_concat]
    cases t with
    | failure now => exact (subject_countFailure _ now).1.trans ih
    | reset => exact ih

lemma version_base {ts : List Transition} (h : ts.length ≤ maxVersion.toNat) :
    (base subject ts).version.toNat = ts.length := by
  induction ts using List.reverseRecOn with
  | nil => rfl
  | append_singleton ts t ih =>
    rw [List.length_append, List.length_singleton] at h ⊢
    have hprior := ih (Nat.le_of_succ_le h)
    have hne : (base subject ts).version ≠ maxVersion := by
      intro heq
      rw [heq] at hprior
      omega
    rw [base_concat]
    change ((base subject ts).version + 1).toNat = _
    rw [toNat_succ hne, hprior]

end

/-! ### The count and the lock -/

structure Window where
  start : Time
  stop : Time
  narrow : stop - start ≤ counterWindow

def Window.holds (w : Window) (now : Time) : Prop := w.start ≤ now ∧ now ≤ w.stop

section
variable {subject : String} {w : Window}

lemma windowExpired_of_holds {first now : Time} (hfirst : first = 0 ∨ w.holds first)
    (hnow : w.holds now) : windowExpired first now = false := by
  refine decide_eq_false ?_
  rintro ⟨hne, hlt⟩
  rcases hfirst with hzero | hfirst
  · exact hne hzero
  · have hspan : now - first ≤ w.stop - w.start := Int.sub_le_sub hnow.2 hfirst.1
    exact absurd (hspan.trans w.narrow) (not_le.mpr hlt)

lemma failedCount_base {ts : List Transition}
    (h : ∀ now, Transition.failure now ∈ ts → w.holds now) :
    (base subject ts).failedCount = min (failuresSince ts : ℤ) maxInt ∧
      ((base subject ts).firstFailureAt = 0 ∨ w.holds (base subject ts).firstFailureAt) := by
  induction ts using List.reverseRecOn with
  | nil => exact ⟨rfl, .inl rfl⟩
  | append_singleton ts t ih =>
    obtain ⟨hcount, hfirst⟩ := ih fun now hnow => h now (List.mem_append_left _ hnow)
    rw [base_concat]
    cases t with
    | reset =>
      rw [failuresSince_reset]
      exact ⟨rfl, .inl rfl⟩
    | failure now =>
      have hnow := h now (List.mem_append_right _ List.mem_cons_self)
      have hcounted : countFailure (base subject ts) now = _ :=
        if_neg (by rw [windowExpired_of_holds hfirst hnow]; exact Bool.false_ne_true)
      change (countFailure (base subject ts) now).failedCount = _ ∧
        ((countFailure (base subject ts) now).firstFailureAt = 0 ∨
          w.holds (countFailure (base subject ts) now).firstFailureAt)
      rw [hcounted, failuresSince_failure, hcount]
      dsimp only
      constructor
      · push_cast
        split_ifs with hlt
        · rw [min_lt_iff, or_iff_left (lt_irrefl _)] at hlt
          rw [min_eq_left hlt.le, min_eq_left (Int.add_one_le_of_lt hlt)]
        · rw [not_lt, le_min_iff] at hlt
          rw [min_eq_right hlt.1, min_eq_right (hlt.1.trans (Int.le_of_lt (Int.lt_succ _)))]
      · split_ifs
        · exact .inr hnow
        · exact hfirst

/-- The lock after a failure: what it has earned, and no less than a lock that is
still running. -/
theorem lockedUntil_failure (ts : List Transition) (now : Time) :
    (escalate (base subject (ts ++ [.failure now])).failedCount now).1 ≤
        (base subject (ts ++ [.failure now])).lockedUntil ∧
      (now < (base subject ts).lockedUntil →
        (base subject ts).lockedUntil ≤ (base subject (ts ++ [.failure now])).lockedUntil) := by
  rw [base_concat]
  change (escalate (countFailure (base subject ts) now).failedCount now).1 ≤
      (applyFailure (base subject ts) now).1.lockedUntil ∧
    (_ → (base subject ts).lockedUntil ≤ (applyFailure (base subject ts) now).1.lockedUntil)
  unfold applyFailure
  dsimp only
  rw [(subject_countFailure (base subject ts) now).2.2]
  split_ifs with hcarry
  · exact ⟨hcarry.2.le, fun _ => le_rfl⟩
  · exact ⟨le_rfl, fun hrunning => not_lt.mp fun hlt => hcarry ⟨hrunning, hlt⟩⟩

lemma escalate_short {count : ℤ} (h : thresholdShort ≤ count) (now : Time) :
    now + durationShort ≤ (escalate count now).1 := by
  unfold escalate
  split_ifs
  · have hdurations : durationShort ≤ durationLong := by decide
    exact Int.add_le_add_left hdurations now
  · exact le_rfl

end

end OidcProvider.LockoutCounter
