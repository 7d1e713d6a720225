import OidcProvider.TotpAttempts

/-!
# Sending and verifying codes by mail

The submissions of `internal/authn/emailotp/authenticator.go` over the in-memory store. A send
reads the clock, then the record, and reserves a new challenge under the version it has read
before it mails the code; a verification reads the record, decides at a later clock reading,
and swaps the advanced counters or consumes the code. Any number of submissions for one
subject interleave between these steps.
-/
namespace OidcProvider.EmailOtpAttempts
open FiniteMaps StoreRecords FactorStores GuardedLedgers AttemptLedgers
open TransactionalStores (ClockedFrom)
open CountedRecord (counters)
open LockoutCounter (windowExpired counterWindow)
open TotpAttempts (maxPersistRetries)

/-! ### Sending -/

def resendMinInterval : Time := 30 * Time.second
def resendWindow : Time := Time.hour
def resendWindowCap : ℤ := 5
def recordRetention : Time := counterWindow

/-- `Authenticator`, with the digest of a code and the comparison of addresses. -/
structure Authenticator where
  codeTTL : Time
  hashCode : List UInt8 → String → String → List UInt8
  sameEmail : String → String → Bool

/-- `checkResendRate` lets the send through. -/
def withinResendRate (prior : Option EmailOTPRecord) (now : Time) : Bool :=
  match prior with
  | none => true
  | some p =>
    if p.lastSendAttemptAt ≠ 0 ∧ now - p.lastSendAttemptAt < resendMinInterval then false
    else if p.sendWindowStart ≠ 0 ∧ now - p.sendWindowStart < resendWindow ∧
        resendWindowCap ≤ p.sendCount then false
    else true

/-- `advanceSendWindow`: the count of sends, and the start of the window it is counted in. -/
def sendWindow (prior : Option EmailOTPRecord) (now : Time) : ℤ × Time :=
  match prior with
  | none => (1, now)
  | some p =>
    if p.sendWindowStart = 0 ∨ resendWindow ≤ now - p.sendWindowStart then (1, now)
    else (p.sendCount + 1, p.sendWindowStart)

/-- `carryVerifyCounters`. -/
def carriedCounters : Option EmailOTPRecord → Counters
  | none => noFailures
  | some p => counters p

def reservation (a : Authenticator) (subject code : String) (salt : List UInt8)
    (prior : Option EmailOTPRecord) (now : Time) (matched : Bool) : EmailOTPRecord where
  subject := subject
  version := (prior.map EmailOTPRecord.version).getD 0
  codeSalt := salt
  codeHash := a.hashCode salt subject code
  sentAt := if matched then now else 0
  expiresAt := now + a.codeTTL
  retainUntil := now + recordRetention
  failedCount := (carriedCounters prior).failedCount
  firstFailureAt := (carriedCounters prior).firstFailureAt
  lockedUntil := (carriedCounters prior).lockedUntil
  consumedAt := 0
  sendCount := (sendWindow prior now).1
  sendWindowStart := (sendWindow prior now).2
  lastSendAttemptAt := now

/-! ### Verifying -/

inductive Verdict where
  | consumed
  | locked
  | expired
  | success (rec : EmailOTPRecord)
  | wrongCode (rec : EmailOTPRecord)
  | resetRequired (rec : EmailOTPRecord)

def withCounters (rec : EmailOTPRecord) (c : Counters) : EmailOTPRecord :=
  { rec with
    failedCount := c.failedCount
    firstFailureAt := c.firstFailureAt
    lockedUntil := c.lockedUntil }

def redeemedAt (rec : EmailOTPRecord) (now : Time) : EmailOTPRecord :=
  { withCounters rec noFailures with consumedAt := now }

def Authenticator.verify (a : Authenticator) (rec : EmailOTPRecord) (code : String) (now : Time) :
    Verdict :=
  if rec.consumedAt ≠ 0 then .consumed
  else if now < rec.lockedUntil then .locked
  else if isExpiredStrict rec.expiresAt now then .expired
  else if rec.sentAt ≠ 0 ∧ a.hashCode rec.codeSalt rec.subject code = rec.codeHash then
    .success (redeemedAt rec now)
  else
    let advanced := advance (counters rec) now
    if advanced.2 then .resetRequired (withCounters rec advanced.1)
    else .wrongCode (withCounters rec advanced.1)

/-! ### Submissions -/

/-- A submission for the subject. A send comes with the address the user has typed, what the
lookup of the bound address answers, the code and salt it draws, and whether the mailer
delivers. -/
inductive Submission where
  | send (email : String) (bound : Fallible String) (code : Option String)
      (salt : Option (List UInt8)) (delivered : Bool)
  | verify (code : String)

inductive Outcome where
  | sent
  | undelivered
  | tooManyOutstanding
  | emailMissing
  | emailNotBound
  | noEntropy
  | success
  | wrongCode
  | resetRequired
  | locked
  | expired
  | codeMissing
  | retry
  | fault (err : StoreError)

def Outcome.rejected : Outcome → Bool
  | .wrongCode => true
  | .resetRequired => true
  | _ => false

inductive Phase where
  | starting
  | preparing (start : Time)
  | reserving (prior : Option EmailOTPRecord) (rec : EmailOTPRecord) (start : Time)
      (outcome : Outcome)
  | loading (attempt : ℕ)
  | checking (attempt : ℕ) (rec : EmailOTPRecord)
  | stamping (attempt : ℕ) (previous next : EmailOTPRecord) (reading : Time) (report : Outcome)
  | swapping (attempt : ℕ) (previous next : EmailOTPRecord) (reading : Time) (report : Outcome)
  | consuming (attempt : ℕ) (rec : EmailOTPRecord) (reading : Time)
  | returned (outcome : Outcome)

/-- The store, the submissions, and the ledger of what they have written: the send whose
challenge is stored, and the clock reading of the last write. -/
structure State where
  store : EmailOTPStore
  phase : ℕ → Phase
  ledger : List (Entry Counters Time ℕ)
  challenge : ℕ
  writtenAt : Time

def State.enter (σ : State) (i : ℕ) (phase : Phase) : State :=
  { σ with phase := Function.update σ.phase i phase }

structure Event where
  call : ℕ
  now : Time

def again (attempt : ℕ) : Phase :=
  if attempt + 1 = maxPersistRetries then .returned .retry else .loading (attempt + 1)

def lost (attempt : ℕ) : StoreError → Phase
  | .alreadyConsumed => again attempt
  | err => .returned (.fault err)

def unreserved : StoreError → Phase
  | .alreadyConsumed => .returned .tooManyOutstanding
  | err => .returned (.fault err)

def proceed (attempt : ℕ) (previous : EmailOTPRecord) (now : Time) : Verdict → Phase
  | .consumed => .returned .expired
  | .locked => .returned .locked
  | .expired => .returned .expired
  | .success rec => .consuming attempt rec now
  | .wrongCode rec => .stamping attempt previous rec now .wrongCode
  | .resetRequired rec => .stamping attempt previous rec now .resetRequired

/-- A send up to its reading of the record. -/
def prepare (email : String) (bound : Fallible String) (now : Time) : Phase :=
  if email = "" then .returned .emailMissing
  else match bound with
    | .error err => .returned (.fault err)
    | .ok bound => if bound = "" then .returned .emailNotBound else .preparing now

/-- The answer to a send that has reserved its challenge. -/
def mailed (matched delivered : Bool) : Outcome :=
  if matched && !delivered then .undelivered else .sent

section System
variable (a : Authenticator) (subject : String) (submissions : ℕ → Submission)

/-- A send that has read the record. -/
def draft (email bound : String) (code : Option String) (salt : Option (List UInt8))
    (delivered : Bool) (prior : Option EmailOTPRecord) (start : Time) : Phase :=
  if withinResendRate prior start = false then .returned .tooManyOutstanding
  else match code, salt with
    | some code, some salt =>
      .reserving prior (reservation a subject code salt prior start (a.sameEmail email bound))
        start (mailed (a.sameEmail email bound) delivered)
    | _, _ => .returned .noEntropy

def State.entry (σ : State) (e : Event) (store : EmailOTPStore)
    (write : Write Time ℕ) : Entry Counters Time ℕ :=
  ⟨e.call, write, e.now, countersAt σ.store subject, countersAt store subject⟩

def State.commit (σ : State) (e : Event) (store : EmailOTPStore)
    (write : Write Time ℕ) (challenge : ℕ) (writtenAt : Time) (outcome : Outcome) : State where
  store := store
  phase := Function.update σ.phase e.call (.returned outcome)
  ledger := σ.entry subject e store write :: σ.ledger
  challenge := challenge
  writtenAt := writtenAt

def loadPriorRecord (s : EmailOTPStore) (now : Time) : Option EmailOTPRecord :=
  match EmailOTP.get s now subject with
  | .error _ => none
  | .ok rec => some rec

def step (σ : State) (e : Event) : State :=
  match σ.phase e.call with
  | .starting =>
    match submissions e.call with
    | .send email bound _ _ _ => σ.enter e.call (prepare email bound e.now)
    | .verify code =>
      σ.enter e.call (if code = "" then .returned .codeMissing else .loading 0)
  | .preparing start =>
    match submissions e.call with
    | .send email bound code salt delivered =>
      σ.enter e.call (draft a subject email (bound.toOption.getD "") code salt delivered
        (loadPriorRecord subject σ.store e.now) start)
    | .verify _ => σ
  | .reserving prior rec start outcome =>
    match EmailOTP.compareAndSwap σ.store e.now prior (some rec) with
    | (store, .ok _) =>
      σ.commit subject e store (if prior = none then .renewed else .carried) e.call start
        outcome
    | (store, .error err) => State.enter { σ with store := store } e.call (unreserved err)
  | .loading attempt =>
    match EmailOTP.get σ.store e.now subject with
    | .error _ => σ.enter e.call (.returned .expired)
    | .ok rec => σ.enter e.call (.checking attempt rec)
  | .checking attempt rec =>
    match submissions e.call with
    | .send _ _ _ _ _ => σ
    | .verify code => σ.enter e.call (proceed attempt rec e.now (a.verify rec code e.now))
  | .stamping attempt previous next reading report =>
    σ.enter e.call (.swapping attempt previous
      { next with retainUntil := e.now + recordRetention } reading report)
  | .swapping attempt previous next reading report =>
    match EmailOTP.compareAndSwap σ.store e.now (some previous) (some next) with
    | (store, .ok _) => σ.commit subject e store (.wrong reading) σ.challenge reading report
    | (store, .error err) => State.enter { σ with store := store } e.call (lost attempt err)
  | .consuming attempt rec reading =>
    match EmailOTP.consume σ.store e.now e.now (some rec) with
    | (store, .ok _) =>
      σ.commit subject e store (.success reading σ.challenge) σ.challenge reading .success
    | (store, .error err) => State.enter { σ with store := store } e.call (lost attempt err)
  | .returned _ => σ

def run (σ : State) (events : List Event) : State := events.foldl (step a subject submissions) σ

/-- A send that reads the record has read the clock no earlier than the write of that record. -/
def Timely (σ : State) (e : Event) : Prop :=
  ∀ start, σ.phase e.call = .preparing start →
    ∀ rec, EmailOTP.get σ.store e.now subject = .ok rec → σ.writtenAt ≤ start

def TimelySends : State → List Event → Prop
  | _, [] => True
  | σ, e :: rest => Timely subject σ e ∧ TimelySends (step a subject submissions σ e) rest

end System

def initial (store : EmailOTPStore) : State := ⟨store, fun _ => .starting, [], 0, 0⟩

def Rejected (σ : State) (i : ℕ) : Prop := ∃ o, σ.phase i = .returned o ∧ o.rejected = true

/-- At `now` the counters have run out. -/
def Lapsed (c : Counters) (now : Time) : Prop :=
  (c.failedCount = 0 ∨ windowExpired c.firstFailureAt now = true) ∧ c.lockedUntil ≤ now

/-- Only attempts lower a count whose window runs or drop a lock in force: sends do not, and a
record is read until its counters have run out. -/
structure CountersKept (subject : String) (σ : State) : Prop where
  sends : ∀ e ∈ σ.ledger, e.write.reading? = none →
    (windowExpired e.before.firstFailureAt e.clock = false →
      e.before.failedCount ≤ e.after.failedCount) ∧
    (e.clock < e.before.lockedUntil → e.after.lockedUntil = e.before.lockedUntil)
  retained : ∀ rec, σ.store.m.lookup subject = some rec → ∀ now err,
    EmailOTP.get σ.store now subject = .error err → Lapsed (counters rec) now

/-! ### What a step can do -/

variable {rec : EmailOTPRecord} {prior : Option EmailOTPRecord}

section Steps
variable {a : Authenticator} {subject : String} {submissions : ℕ → Submission} {σ : State}
  {e : Event}

def Phase.isReturned : Phase → Bool
  | .returned _ => true
  | _ => false

/-- The phase says nothing of a record or a write. -/
def Phase.plain : Phase → Bool
  | .loading _ => true
  | .returned outcome => !outcome.rejected
  | _ => false

/-- The record whose challenge is replaced is no longer read. -/
def Replaceable (s : EmailOTPStore) (subject : String) (now : Time) : Prop :=
  ∀ current, s.m.lookup subject = some current → EmailOTP.expired current now = true

variable (a subject) in
inductive Advance (σ : State) (e : Event) : State → Prop
  | idle : Advance σ e σ
  | moved {phase} : (σ.phase e.call).isReturned = false → phase.plain = true →
      Advance σ e (σ.enter e.call phase)
  | prepared : σ.phase e.call = .starting → Advance σ e (σ.enter e.call (.preparing e.now))
  | drafted {start} (code salt matched outcome) : σ.phase e.call = .preparing start →
      Outcome.rejected outcome = false →
      Advance σ e (σ.enter e.call (.reserving (loadPriorRecord subject σ.store e.now)
        (reservation a subject code salt (loadPriorRecord subject σ.store e.now) start matched)
        start outcome))
  | reserved {prior rec start outcome store} :
      σ.phase e.call = .reserving prior rec start outcome →
      (∀ p, prior = some p → σ.store.m.lookup p.subject = some p) →
      (prior = none → Replaceable σ.store rec.subject e.now) →
      Written σ.store rec.subject rec store →
      Advance σ e (σ.commit subject e store (if prior = none then .renewed else .carried) e.call
        start outcome)
  | loaded {attempt rec} : σ.phase e.call = .loading attempt →
      σ.store.m.lookup subject = some rec → Advance σ e (σ.enter e.call (.checking attempt rec))
  | refused {attempt rec} (report) : σ.phase e.call = .checking attempt rec →
      rec.consumedAt = 0 → rec.lockedUntil ≤ e.now →
      Advance σ e (σ.enter e.call (.stamping attempt rec
        (withCounters rec (advance (counters rec) e.now).1) e.now report))
  | stamped {attempt previous next reading report} :
      σ.phase e.call = .stamping attempt previous next reading report →
      Advance σ e (σ.enter e.call (.swapping attempt previous
        { next with retainUntil := e.now + recordRetention } reading report))
  | passed {attempt rec} : σ.phase e.call = .checking attempt rec → rec.lockedUntil ≤ e.now →
      Advance σ e (σ.enter e.call (.consuming attempt (redeemedAt rec e.now) e.now))
  | swapped {attempt previous next reading report store} :
      σ.phase e.call = .swapping attempt previous next reading report →
      σ.store.m.lookup previous.subject = some previous →
      Written σ.store previous.subject next store →
      Advance σ e (σ.commit subject e store (.wrong reading) σ.challenge reading report)
  | consumed {attempt rec reading current store} :
      σ.phase e.call = .consuming attempt rec reading →
      σ.store.m.lookup rec.subject = some current → current.version = rec.version →
      current.consumedAt = 0 →
      Written σ.store rec.subject (EmailOTP.consumedRecord rec e.now) store →
      Advance σ e
        (σ.commit subject e store (.success reading σ.challenge) σ.challenge reading .success)

lemma lost_plain (attempt : ℕ) (err : StoreError) : (lost attempt err).plain = true := by
  cases err with
  | alreadyConsumed =>
    change (again attempt).plain = true
    unfold again
    split_ifs <;> rfl
  | _ => rfl

lemma unreserved_plain (err : StoreError) : (unreserved err).plain = true := by
  cases err <;> rfl

lemma mailed_rejected (matched delivered : Bool) :
    (mailed matched delivered).rejected = false := by
  unfold mailed
  split_ifs <;> rfl

lemma prepare_advance (hphase : σ.phase e.call = .starting)
    (email : String) (bound : Fallible String) :
    Advance a subject σ e (σ.enter e.call (prepare email bound e.now)) := by
  have hplain : ∀ {phase : Phase}, phase.plain = true →
      Advance a subject σ e (σ.enter e.call phase) := .moved (by rw [hphase]; rfl)
  unfold prepare
  split_ifs
  · exact hplain rfl
  · cases bound with
    | error err => exact hplain rfl
    | ok bound =>
      dsimp only
      split_ifs
      · exact hplain rfl
      · exact .prepared hphase

lemma draft_advance {start : Time}
    (hphase : σ.phase e.call = .preparing start) (email bound : String) (code : Option String)
    (salt : Option (List UInt8)) (delivered : Bool) :
    Advance a subject σ e (σ.enter e.call (draft a subject email bound code salt delivered
      (loadPriorRecord subject σ.store e.now) start)) := by
  have hplain : ∀ {phase : Phase}, phase.plain = true →
      Advance a subject σ e (σ.enter e.call phase) := .moved (by rw [hphase]; rfl)
  unfold draft
  split_ifs
  · exact hplain rfl
  · cases code with
    | none => exact hplain rfl
    | some code =>
      cases salt with
      | none => exact hplain rfl
      | some salt =>
        exact .drafted code salt _ _ hphase (mailed_rejected _ delivered)

lemma check_advance {attempt : ℕ}
    (hphase : σ.phase e.call = .checking attempt rec) (code : String) :
    Advance a subject σ e
      (σ.enter e.call (proceed attempt rec e.now (a.verify rec code e.now))) := by
  have hplain : ∀ {phase : Phase}, phase.plain = true →
      Advance a subject σ e (σ.enter e.call phase) := .moved (by rw [hphase]; rfl)
  unfold Authenticator.verify
  dsimp only
  split_ifs with hconsumed hlocked hexpired hmatched hreset
  · exact hplain rfl
  · exact hplain rfl
  · exact hplain rfl
  · exact .passed hphase (not_lt.mp hlocked)
  · exact .refused _ hphase (not_not.mp hconsumed) (not_lt.mp hlocked)
  · exact .refused _ hphase (not_not.mp hconsumed) (not_lt.mp hlocked)

lemma reserve_advance {start : Time} {outcome : Outcome}
    (hphase : σ.phase e.call = .reserving prior rec start outcome) :
    Advance a subject σ e (step a subject submissions σ e) := by
  rcases written_of_stores (EmailOTP.compareAndSwap_stores σ.store e.now prior (some rec)) with
    ⟨err, hswap⟩ | ⟨n, s', ⟨hn, hnone, hprior⟩, hswap, hwritten⟩
  · simp only [step, hphase, hswap]
    exact .moved (by rw [hphase]; rfl) (unreserved_plain err)
  · cases hn
    simp only [step, hphase, hswap]
    refine .reserved hphase (fun p hp => (hprior p hp).2) (fun hp current hcurrent => ?_) hwritten
    have hlive := hnone hp
    unfold EmailOTP.live at hlive
    rw [hcurrent] at hlive
    simpa using hlive

lemma swap_advance {attempt : ℕ} {previous next : EmailOTPRecord}
    {reading : Time} {report : Outcome}
    (hphase : σ.phase e.call = .swapping attempt previous next reading report) :
    Advance a subject σ e (step a subject submissions σ e) := by
  rcases written_of_stores
    (EmailOTP.compareAndSwap_stores σ.store e.now (some previous) (some next)) with
    ⟨err, hswap⟩ | ⟨n, s', ⟨hn, _, hprevious⟩, hswap, hwritten⟩
  · simp only [step, hphase, hswap]
    exact .moved (by rw [hphase]; rfl) (lost_plain attempt err)
  · cases hn
    obtain ⟨hsubject, hlookup⟩ := hprevious previous rfl
    simp only [step, hphase, hswap]
    exact .swapped hphase hlookup (hsubject ▸ hwritten)

lemma consume_advance {attempt : ℕ}
    {reading : Time} (hphase : σ.phase e.call = .consuming attempt rec reading) :
    Advance a subject σ e (step a subject submissions σ e) := by
  rcases written_of_stores (EmailOTP.consume_stores σ.store e.now e.now (some rec)) with
    ⟨err, hconsume⟩ | ⟨_, s', ⟨r, current, hr, rfl, hlookup, hversion, hopen⟩, hconsume, hwritten⟩
  · simp only [step, hphase, hconsume]
    exact .moved (by rw [hphase]; rfl) (lost_plain attempt err)
  · cases hr
    simp only [step, hphase, hconsume]
    exact .consumed hphase hlookup hversion hopen hwritten

lemma lookup_of_get {s : EmailOTPStore} {now : Time}
    (h : EmailOTP.get s now subject = .ok rec) : s.m.lookup subject = some rec := by
  unfold EmailOTP.get at h
  cases hlookup : s.m.lookup subject with
  | none =>
    rw [hlookup] at h
    cases h
  | some current =>
    rw [hlookup] at h
    dsimp only at h
    split_ifs at h
    cases h
    rfl

lemma step_advance (σ : State) (e : Event) :
    Advance a subject σ e (step a subject submissions σ e) := by
  cases hphase : σ.phase e.call with
  | starting =>
    cases hsubmission : submissions e.call with
    | send email bound code salt delivered =>
      simp only [step, hphase, hsubmission]
      exact prepare_advance hphase email bound
    | verify code =>
      simp only [step, hphase, hsubmission]
      refine .moved (by rw [hphase]; rfl) ?_
      split_ifs <;> rfl
  | preparing start =>
    cases hsubmission : submissions e.call with
    | send email bound code salt delivered =>
      simp only [step, hphase, hsubmission]
      exact draft_advance hphase email _ code salt delivered
    | verify code =>
      simp only [step, hphase, hsubmission]
      exact .idle
  | reserving prior rec start outcome => exact reserve_advance hphase
  | loading attempt =>
    cases hget : EmailOTP.get σ.store e.now subject with
    | error err =>
      simp only [step, hphase, hget]
      exact .moved (by rw [hphase]; rfl) rfl
    | ok rec =>
      simp only [step, hphase, hget]
      exact .loaded hphase (lookup_of_get hget)
  | checking attempt rec =>
    cases hsubmission : submissions e.call with
    | send email bound code salt delivered =>
      simp only [step, hphase, hsubmission]
      exact .idle
    | verify code =>
      simp only [step, hphase, hsubmission]
      exact check_advance hphase code
  | stamping attempt previous next reading report =>
    simp only [step, hphase]
    exact .stamped hphase
  | swapping attempt previous next reading report => exact swap_advance hphase
  | consuming attempt rec reading => exact consume_advance hphase
  | returned outcome =>
    simp only [step, hphase]
    exact .idle

end Steps

/-! ### Any interleaving -/

section Runs
variable {a : Authenticator} {subject : String} {submissions : ℕ → Submission}
  {store : EmailOTPStore} {σ : State} {rec : EmailOTPRecord} {write : Write Time ℕ}
  {outcome : Outcome} {e : Event} {phase : Phase} {start now writtenAt reading : Time}

/-- A record written at `writtenAt` is retained while its counters run. -/
structure Sheltered (rec : EmailOTPRecord) (writtenAt : Time) : Prop where
  anchored : Anchored (counters rec)
  kept : counterWindow ≤ rec.retainUntil
  window : rec.firstFailureAt + counterWindow ≤ rec.retainUntil
  lock : rec.lockedUntil ≤ rec.retainUntil
  first : rec.firstFailureAt ≤ writtenAt
  locked : rec.lockedUntil ≤ writtenAt + counterWindow

lemma Sheltered.lapsed (h : Sheltered rec writtenAt)
    (hexpired : EmailOTP.expired rec now = true) : Lapsed (counters rec) now := by
  have hpos : 0 < rec.retainUntil := counterWindow_pos.trans_le h.kept
  unfold EmailOTP.expired at hexpired
  rw [if_neg hpos.ne', isExpiredStrict_iff] at hexpired
  obtain ⟨-, hlt⟩ := hexpired
  refine ⟨?_, h.lock.trans hlt.le⟩
  by_cases hfirst : rec.firstFailureAt = 0
  · exact .inl (h.anchored hfirst)
  · refine .inr (decide_eq_true ⟨hfirst, ?_⟩)
    have hwindow := h.window
    change counterWindow < now - rec.firstFailureAt
    linarith

variable (a subject) in
/-- What is known of a submission from where it stands. -/
def Justified (σ : State) (now : Time) (i : ℕ) : Phase → Prop
  | .starting => True
  | .preparing start => 0 < start ∧ start ≤ now
  | .reserving prior rec start outcome =>
    outcome.rejected = false ∧ 0 < start ∧ start ≤ now ∧
      (∃ code salt matched, rec = reservation a subject code salt prior start matched) ∧
      ∀ p, prior = some p → Held σ.store subject σ.ledger p now ∧
        Anchored (counters p) ∧ p.firstFailureAt ≤ start ∧
        p.lockedUntil ≤ start + counterWindow
  | .loading _ => True
  | .checking _ rec => Held σ.store subject σ.ledger rec now
  | .stamping _ previous next reading _ =>
    Verified σ.store subject σ.ledger previous reading now ∧ previous.consumedAt = 0 ∧
      next = withCounters previous (advance (counters previous) reading).1
  | .swapping _ previous next reading _ =>
    Verified σ.store subject σ.ledger previous reading now ∧ previous.consumedAt = 0 ∧
      ∃ stamp, reading ≤ stamp ∧ next =
        { withCounters previous (advance (counters previous) reading).1 with
          retainUntil := stamp + recordRetention }
  | .consuming _ rec reading =>
    ∃ previous, Verified σ.store subject σ.ledger previous reading now ∧
      rec = redeemedAt previous reading
  | .returned outcome =>
    outcome.rejected = true → ∃ e ∈ σ.ledger, e.call = i ∧ ∃ t, e.write = .wrong t

/-- A send carries the counters over, or finds that they have run out and starts anew. -/
structure Preserved (e : Entry Counters Time ℕ) : Prop where
  carried : e.write = .carried → e.after = e.before
  renewed : e.write = .renewed → Lapsed e.before e.clock ∧ e.after = noFailures

variable (a subject) in
structure Invariant (σ : State) (now : Time) : Prop where
  stored : ∀ rec, σ.store.m.lookup subject = some rec → rec.subject = subject ∧
    rec.version.toNat ≤ σ.store.nextValue.toNat ∧ Sheltered rec σ.writtenAt
  -- The stored record was written, and its challenge sent, by calls of the ledger.
  written : ∀ rec, σ.store.m.lookup subject = some rec → ∃ e ∈ σ.ledger, σ.writtenAt ≤ e.clock
  installed : ∀ rec, σ.store.m.lookup subject = some rec → ∃ e ∈ σ.ledger, e.call = σ.challenge
  audited : Audited σ.ledger (countersAt σ.store subject) now
  justified : ∀ i, Justified a subject σ now i (σ.phase i)
  unwritten : ∀ i, (σ.phase i).isReturned = false → ∀ e ∈ σ.ledger, e.call ≠ i
  preserved : ∀ e ∈ σ.ledger, Preserved e
  -- A spent challenge was sent by a call that has written; the stored one is marked.
  sent : ∀ k ∈ tokens σ.ledger, ∃ e ∈ σ.ledger, e.call = k
  marked : σ.challenge ∈ tokens σ.ledger →
    ∃ rec, σ.store.m.lookup subject = some rec ∧ rec.consumedAt ≠ 0
  spent : (tokens σ.ledger).Nodup

lemma Justified.mono {σ' : State} {now' : Time} {i : ℕ} (h : Justified a subject σ now i phase)
    (hnow : now ≤ now') (hledger : σ.ledger ⊆ σ'.ledger)
    (hheld : ∀ {r t}, Held σ.store subject σ.ledger r t → Held σ'.store subject σ'.ledger r t) :
    Justified a subject σ' now' i phase := by
  cases phase with
  | starting => trivial
  | preparing start => exact ⟨h.1, h.2.trans hnow⟩
  | reserving prior rec start outcome =>
    obtain ⟨houtcome, hstart, hpast, hrec, hprior⟩ := h
    refine ⟨houtcome, hstart, hpast.trans hnow, hrec, fun p hp => ?_⟩
    obtain ⟨hread, hsheltered⟩ := hprior p hp
    exact ⟨(hheld hread).later hnow, hsheltered⟩
  | loading attempt => trivial
  | checking attempt rec => exact (hheld h).later hnow
  | stamping attempt previous next reading report => exact ⟨h.1.mono hnow hheld, h.2⟩
  | swapping attempt previous next reading report => exact ⟨h.1.mono hnow hheld, h.2⟩
  | consuming attempt rec reading =>
    obtain ⟨previous, hverified, hrec⟩ := h
    exact ⟨previous, hverified.mono hnow hheld, hrec⟩
  | returned outcome =>
    intro hrejected
    obtain ⟨e, he, hwrite⟩ := h hrejected
    exact ⟨e, hledger he, hwrite⟩

lemma Invariant.later {now' : Time} (h : Invariant a subject σ now) (hnow : now ≤ now') :
    Invariant a subject σ now' :=
  { h with
    audited := h.audited.later hnow
    justified := fun i => (h.justified i).mono hnow (List.Subset.refl _) id }

lemma justified_plain {i : ℕ} (h : phase.plain = true) : Justified a subject σ now i phase := by
  cases phase with
  | loading attempt => trivial
  | returned outcome =>
    intro hrejected
    simp [Phase.plain, hrejected] at h
  | _ => cases h

lemma Invariant.enter (h : Invariant a subject σ now) {i : ℕ}
    (hopen : (σ.phase i).isReturned = false) (hphase : Justified a subject σ now i phase) :
    Invariant a subject (σ.enter i phase) now := by
  refine { h with justified := ?_, unwritten := ?_ }
  · exact (Function.forall_update_iff σ.phase _).mpr ⟨hphase, fun j _ => h.justified j⟩
  · exact (Function.forall_update_iff σ.phase fun j p => p.isReturned = false → _).mpr
      ⟨fun _ => h.unwritten i hopen, fun j _ => h.unwritten j⟩

lemma Invariant.commit (h : Invariant a subject σ e.now) {challenge : ℕ}
    (hopen : (σ.phase e.call).isReturned = false) (hwritten : Written σ.store subject rec store)
    (hnamed : rec.subject = subject) (hsheltered : Sheltered rec writtenAt)
    (hpast : writtenAt ≤ e.now)
    (hguarded : Guarded Counters.lockedUntil σ.ledger (countersAt σ.store subject)
      (σ.entry subject e store write))
    (hcounted : ∀ t, write = .wrong t → Counted (σ.entry subject e store write) t)
    (hpreserved : Preserved (σ.entry subject e store write))
    (houtcome : outcome.rejected = true → ∃ t, write = .wrong t)
    (hspends : ∀ k, write.token? = some k → k ∉ tokens σ.ledger ∧ ∃ e' ∈ σ.ledger, e'.call = k)
    (hinstalled : challenge = e.call ∨ ∃ e' ∈ σ.ledger, e'.call = challenge)
    (hmarked : challenge ∈ tokens (σ.entry subject e store write :: σ.ledger) →
      rec.consumedAt ≠ 0) :
    Invariant a subject (σ.commit subject e store write challenge writtenAt outcome) e.now := by
  obtain ⟨version, hstored, hversion⟩ := hwritten.stored
  have hentry : σ.entry subject e store write ∈
      (σ.commit subject e store write challenge writtenAt outcome).ledger := List.mem_cons_self
  have hold : ∀ {e'}, e' ∈ σ.ledger →
      e' ∈ (σ.commit subject e store write challenge writtenAt outcome).ledger :=
    List.mem_cons_of_mem _
  refine ⟨?_, fun _ _ => ⟨_, hentry, hpast⟩, ?_, ?_, ?_, ?_, ?_, ?_, ?_, ?_⟩
  · intro current hcurrent
    obtain rfl := Option.some.inj (hstored.symm.trans hcurrent)
    refine ⟨hnamed, ?_, hsheltered.anchored, hsheltered.kept, hsheltered.window,
      hsheltered.lock, hsheltered.first, hsheltered.locked⟩
    change version.toNat ≤ store.nextValue.toNat
    rw [hversion, hwritten.drawn]
  · intro _ _
    rcases hinstalled with rfl | ⟨e', he', hcall⟩
    · exact ⟨_, hentry, rfl⟩
    · exact ⟨e', hold he', hcall⟩
  · exact h.audited.enter hguarded le_rfl (h.unwritten e.call hopen) hcounted
  · refine (Function.forall_update_iff σ.phase _).mpr ⟨fun hrejected => ?_, fun j _ => ?_⟩
    · exact ⟨_, hentry, rfl, houtcome hrejected⟩
    · exact (h.justified j).mono le_rfl (List.subset_cons_self _ _) (·.superseded hwritten)
  · refine (Function.forall_update_iff σ.phase fun j p => p.isReturned = false → _).mpr
      ⟨fun hj => ?_, fun j hje hj => ?_⟩
    · cases hj
    · exact List.forall_mem_cons.mpr ⟨Ne.symm hje, h.unwritten j hj⟩
  · exact List.forall_mem_cons.mpr ⟨hpreserved, h.preserved⟩
  · intro k hk
    obtain ⟨e', he', hk'⟩ := mem_tokens.mp hk
    rcases List.mem_cons.mp he' with rfl | he'
    · obtain ⟨e₀, he₀, hcall⟩ := (hspends k hk').2
      exact ⟨e₀, hold he₀, hcall⟩
    · obtain ⟨e₀, he₀, hcall⟩ := h.sent k (mem_tokens.mpr ⟨e', he', hk'⟩)
      exact ⟨e₀, hold he₀, hcall⟩
  · exact fun hmem => ⟨_, hstored, hmarked hmem⟩
  · exact nodup_tokens_cons h.spent fun k hk => (hspends k hk).1

lemma tokens_entry (hwrite : write.token? = none) :
    tokens (σ.entry subject e store write :: σ.ledger) = tokens σ.ledger :=
  List.filterMap_cons_none hwrite

lemma sheltered_reservation (hstart : 0 < start)
    (hprior : ∀ p, prior = some p → Anchored (counters p) ∧
      p.firstFailureAt ≤ start ∧ p.lockedUntil ≤ start + counterWindow) (code : String)
    (salt : List UInt8) (matched : Bool) :
    Sheltered (reservation a subject code salt prior start matched) start := by
  have hcounters : Anchored (carriedCounters prior) ∧
      (carriedCounters prior).firstFailureAt ≤ start ∧
      (carriedCounters prior).lockedUntil ≤ start + counterWindow := by
    cases prior with
    | none => exact ⟨fun _ => rfl, hstart.le, (add_pos hstart counterWindow_pos).le⟩
    | some p => exact hprior p rfl
  obtain ⟨hanchored, hfirst, hlocked⟩ := hcounters
  exact ⟨hanchored, le_add_of_nonneg_left hstart.le, add_le_add hfirst le_rfl, hlocked, hfirst,
    hlocked⟩

lemma Invariant.reserve (h : Invariant a subject σ e.now)
    (hopen : (σ.phase e.call).isReturned = false) (hwritten : Written σ.store subject rec store)
    (hnamed : rec.subject = subject) (hsheltered : Sheltered rec start) (hpast : start ≤ e.now)
    (houtcome : outcome.rejected = false) (hreading : write.reading? = none)
    (hcarried : write = .carried → countersAt store subject = countersAt σ.store subject)
    (hrenewed : write = .renewed → Lapsed (countersAt σ.store subject) e.now ∧
      countersAt store subject = noFailures) :
    Invariant a subject (σ.commit subject e store write e.call start outcome) e.now := by
  have hwrong : ∀ t, write ≠ .wrong t := by
    rintro t rfl
    cases hreading
  have htoken : write.token? = none := by
    cases write with
    | success reading token => cases hreading
    | _ => rfl
  refine h.commit hopen hwritten hnamed hsheltered hpast
    ⟨rfl, h.audited.clocked, ?_, hcarried, fun hwrite => (hrenewed hwrite).1.2⟩
    (fun t ht => absurd ht (hwrong t)) ⟨hcarried, hrenewed⟩ ?_ ?_ (.inl rfl) ?_
  · intro t ht
    rw [show (σ.entry subject e store write).write = write from rfl, hreading] at ht
    cases ht
  · intro hrejected
    rw [houtcome] at hrejected
    cases hrejected
  · intro k hk
    rw [htoken] at hk
    cases hk
  · -- No call has spent a challenge that this call has only now sent.
    intro hmem
    rw [tokens_entry htoken] at hmem
    obtain ⟨e', he', hcall⟩ := h.sent _ hmem
    exact absurd hcall (h.unwritten e.call hopen e' he')

lemma Invariant.lapsed (h : Invariant a subject σ now) (hdated : 0 < now)
    (hreplaceable : Replaceable σ.store subject now) : Lapsed (countersAt σ.store subject) now := by
  cases hlookup : σ.store.m.lookup subject with
  | none =>
    have hzero : countersAt σ.store subject = noFailures := by simp [countersAt, hlookup]
    rw [hzero]
    exact ⟨.inl rfl, hdated.le⟩
  | some current =>
    rw [countersAt_of_lookup hlookup]
    exact (h.stored current hlookup).2.2.lapsed (hreplaceable current hlookup)

lemma reserved_invariant (h : Invariant a subject σ e.now) (hdated : 0 < e.now)
    (hphase : σ.phase e.call = .reserving prior rec start outcome)
    (hstored : ∀ p, prior = some p → σ.store.m.lookup p.subject = some p)
    (hnone : prior = none → Replaceable σ.store rec.subject e.now)
    (hwritten : Written σ.store rec.subject rec store) :
    Invariant a subject (σ.commit subject e store (if prior = none then .renewed else .carried)
      e.call start outcome) e.now := by
  have hjustified := h.justified e.call
  rw [hphase] at hjustified
  obtain ⟨houtcome, hstart, hpast, ⟨code, salt, matched, rfl⟩, hprior⟩ := hjustified
  have hopen : (σ.phase e.call).isReturned = false := by
    rw [hphase]
    rfl
  have hsheltered : Sheltered (reservation a subject code salt prior start matched) start :=
    sheltered_reservation hstart (fun p hp => (hprior p hp).2) code salt matched
  cases prior with
  | none =>
    refine h.reserve hopen hwritten rfl hsheltered hpast houtcome rfl (fun hwrite => ?_)
      fun _ => ⟨h.lapsed hdated (hnone rfl), hwritten.countersAt⟩
    cases hwrite
  | some p =>
    refine h.reserve hopen hwritten rfl hsheltered hpast houtcome rfl (fun _ => ?_)
      fun hwrite => ?_
    · have hnamed : p.subject = subject := (hprior p rfl).1.named
      have hbefore : countersAt σ.store subject = counters p :=
        countersAt_of_lookup (hnamed ▸ hstored p rfl)
      exact hwritten.countersAt.trans hbefore.symm
    · cases hwrite

lemma sheltered_wrong {previous : EmailOTPRecord} {stamp : Time} (hdated : 0 < reading)
    (hstamp : reading ≤ stamp) (hfirst : previous.firstFailureAt ≤ reading)
    (hlocked : previous.lockedUntil ≤ reading) :
    Sheltered { withCounters previous (advance (counters previous) reading).1 with
      retainUntil := stamp + recordRetention } reading := by
  have hfirst' := advance_first_le (c := counters previous) hfirst
  have hlocked' := advance_locked_le (c := counters previous) hdated hlocked
  have hretained : reading + counterWindow ≤ stamp + counterWindow := add_le_add hstamp le_rfl
  exact ⟨advance_anchored _ hdated.ne', (le_add_of_nonneg_left hdated.le).trans hretained,
    (add_le_add hfirst' le_rfl).trans hretained, hlocked'.trans hretained, hfirst', hlocked'⟩

lemma swapped_invariant (h : Invariant a subject σ e.now) {attempt : ℕ}
    {previous next : EmailOTPRecord} {report : Outcome}
    (hphase : σ.phase e.call = .swapping attempt previous next reading report)
    (hlookup : σ.store.m.lookup previous.subject = some previous)
    (hwritten : Written σ.store previous.subject next store) :
    Invariant a subject
      (σ.commit subject e store (.wrong reading) σ.challenge reading report) e.now := by
  have hjustified := h.justified e.call
  rw [hphase] at hjustified
  obtain ⟨hverified, hunconsumed, stamp, hstamp, rfl⟩ := hjustified
  obtain rfl : previous.subject = subject := hverified.held.named
  obtain ⟨-, -, hsheltered⟩ := h.stored previous hlookup
  obtain ⟨e₀, he₀, hwrittenAt⟩ := h.written previous hlookup
  have hfirst : previous.firstFailureAt ≤ reading :=
    hsheltered.first.trans
      (hwrittenAt.trans ((hverified.held.same previous hlookup rfl).2 e₀ he₀))
  refine h.commit (by rw [hphase]; rfl) hwritten rfl
    (sheltered_wrong hverified.dated hstamp hfirst hverified.unlocked) hverified.past
    (hverified.guarded hlookup rfl h.audited.clocked rfl rfl rfl) ?_ ?_ (fun _ => ⟨reading, rfl⟩)
    ?_ (.inr (h.installed previous hlookup)) ?_
  · intro t ht
    cases ht
    unfold Counted State.entry
    rw [countersAt_of_lookup hlookup, hwritten.countersAt]
    exact advance_counts hsheltered.anchored reading
  · constructor
    · intro hwrite
      cases hwrite
    · intro hwrite
      cases hwrite
  · intro k hk
    cases hk
  · intro hmem
    obtain ⟨current, hcurrent, hconsumed⟩ := h.marked hmem
    obtain rfl := Option.some.inj (hcurrent.symm.trans hlookup)
    exact absurd hunconsumed hconsumed

lemma consumed_invariant (h : Invariant a subject σ e.now) {attempt : ℕ}
    {current : EmailOTPRecord} (hphase : σ.phase e.call = .consuming attempt rec reading)
    (hlookup : σ.store.m.lookup rec.subject = some current)
    (hversion : current.version = rec.version) (hunconsumed : current.consumedAt = 0)
    (hwritten : Written σ.store rec.subject (EmailOTP.consumedRecord rec e.now) store) :
    Invariant a subject
      (σ.commit subject e store (.success reading σ.challenge) σ.challenge reading .success)
      e.now := by
  have hjustified := h.justified e.call
  rw [hphase] at hjustified
  obtain ⟨previous, hverified, rfl⟩ := hjustified
  obtain rfl : previous.subject = subject := hverified.held.named
  obtain ⟨rfl, -⟩ := hverified.held.same current hlookup hversion
  have hmarked : (redeemedAt current reading).consumedAt ≠ 0 := hverified.dated.ne'
  have hrec : EmailOTP.consumedRecord (redeemedAt current reading) e.now =
      redeemedAt current reading := by
    unfold EmailOTP.consumedRecord
    rw [if_neg hmarked]
  rw [hrec] at hwritten
  obtain ⟨-, -, hsheltered⟩ := h.stored current hlookup
  have hnew : Sheltered (redeemedAt current reading) reading :=
    ⟨fun _ => rfl, hsheltered.kept, (zero_add counterWindow).le.trans hsheltered.kept,
      counterWindow_pos.le.trans hsheltered.kept, hverified.dated.le,
      (add_pos hverified.dated counterWindow_pos).le⟩
  refine h.commit (by rw [hphase]; rfl) hwritten rfl hnew hverified.past
    (hverified.guarded hlookup rfl h.audited.clocked rfl rfl rfl) ?_ ?_ ?_ ?_
    (.inr (h.installed current hlookup)) fun _ => hmarked
  · intro t ht
    cases ht
  · constructor
    · intro hwrite
      cases hwrite
    · intro hwrite
      cases hwrite
  · intro hrejected
    cases hrejected
  · intro k hk
    cases hk
    refine ⟨fun hmem => ?_, h.installed current hlookup⟩
    obtain ⟨current', hcurrent, hconsumed⟩ := h.marked hmem
    obtain rfl := Option.some.inj (hcurrent.symm.trans hlookup)
    exact hconsumed hunconsumed

lemma drafted_justified (h : Invariant a subject σ e.now) (htimely : Timely subject σ e)
    (hphase : σ.phase e.call = .preparing start) (code : String) (salt : List UInt8)
    (matched : Bool) (houtcome : outcome.rejected = false) :
    Justified a subject σ e.now e.call (.reserving (loadPriorRecord subject σ.store e.now)
      (reservation a subject code salt (loadPriorRecord subject σ.store e.now) start matched)
      start outcome) := by
  have hstart := h.justified e.call
  rw [hphase] at hstart
  refine ⟨houtcome, hstart.1, hstart.2, ⟨code, salt, matched, rfl⟩, fun p hp => ?_⟩
  have hget : EmailOTP.get σ.store e.now subject = .ok p := by
    unfold loadPriorRecord at hp
    cases hget : EmailOTP.get σ.store e.now subject with
    | error err =>
      rw [hget] at hp
      cases hp
    | ok rec =>
      rw [hget] at hp
      cases hp
      rfl
  have hlookup := lookup_of_get hget
  obtain ⟨hnamed, hissued, hsheltered⟩ := h.stored p hlookup
  have hwrittenAt : σ.writtenAt ≤ start := htimely start hphase p hget
  exact ⟨held_of_lookup hlookup hnamed hissued h.audited.clocked, hsheltered.anchored,
    hsheltered.first.trans hwrittenAt,
    hsheltered.locked.trans (add_le_add hwrittenAt le_rfl)⟩

lemma invariant_advance {σ σ' : State} {e : Event} (h : Invariant a subject σ e.now)
    (hdated : 0 < e.now) (htimely : Timely subject σ e) (hadvance : Advance a subject σ e σ') :
    Invariant a subject σ' e.now := by
  have hjustified := h.justified e.call
  cases hadvance with
  | idle => exact h
  | moved hopen hplain => exact h.enter hopen (justified_plain hplain)
  | prepared hphase => exact h.enter (by rw [hphase]; rfl) ⟨hdated, le_rfl⟩
  | drafted code salt matched outcome hphase houtcome =>
    exact h.enter (by rw [hphase]; rfl)
      (drafted_justified h htimely hphase code salt matched houtcome)
  | reserved hphase hstored hnone hwritten =>
    exact reserved_invariant h hdated hphase hstored hnone hwritten
  | loaded hphase hlookup =>
    obtain ⟨hnamed, hissued, -⟩ := h.stored _ hlookup
    exact h.enter (by rw [hphase]; rfl)
      (held_of_lookup hlookup hnamed hissued h.audited.clocked)
  | refused report hphase hunconsumed hlocked =>
    rw [hphase] at hjustified
    exact h.enter (by rw [hphase]; rfl)
      ⟨⟨hjustified, hlocked, le_rfl, hdated⟩, hunconsumed, rfl⟩
  | stamped hphase =>
    rw [hphase] at hjustified
    obtain ⟨hverified, hunconsumed, rfl⟩ := hjustified
    exact h.enter (by rw [hphase]; rfl) ⟨hverified, hunconsumed, e.now, hverified.past, rfl⟩
  | passed hphase hlocked =>
    rw [hphase] at hjustified
    exact h.enter (by rw [hphase]; rfl) ⟨_, ⟨hjustified, hlocked, le_rfl, hdated⟩, rfl⟩
  | swapped hphase hlookup hwritten => exact swapped_invariant h hphase hlookup hwritten
  | consumed hphase hlookup hversion hunconsumed hwritten =>
    exact consumed_invariant h hphase hlookup hversion hunconsumed hwritten

lemma invariant_run (a : Authenticator) (submissions : ℕ → Submission) {σ : State} {now : Time}
    (h : Invariant a subject σ now) (hdated : 0 < now) {events : List Event}
    (hclock : ClockedFrom Event.now now events)
    (htimely : TimelySends a subject submissions σ events) :
    ∃ now', Invariant a subject (run a subject submissions σ events) now' := by
  induction events generalizing σ now with
  | nil => exact ⟨now, h⟩
  | cons e events ih =>
    have hdated' : 0 < e.now := hdated.trans_le hclock.1
    exact ih (invariant_advance (h.later hclock.1) hdated' htimely.1 (step_advance σ e)) hdated'
      hclock.2 htimely.2

lemma invariant_initial (h : store.m.lookup subject = none) (now : Time) :
    Invariant a subject (initial store) now := by
  have hnone : ∀ {rec}, (initial store).store.m.lookup subject ≠ some rec := by
    intro rec hrec
    rw [show (initial store).store = store from rfl, h] at hrec
    cases hrec
  refine ⟨fun _ hrec => absurd hrec hnone, fun _ hrec => absurd hrec hnone,
    fun _ hrec => absurd hrec hnone, audited_nil _ now, fun _ => trivial, ?_, ?_, ?_, ?_,
    List.nodup_nil⟩
  · intro _ _ e he
    exact (List.not_mem_nil he).elim
  · intro e he
    exact (List.not_mem_nil he).elim
  · intro k hk
    exact (List.not_mem_nil hk).elim
  · intro hk
    exact (List.not_mem_nil hk).elim

lemma Preserved.kept {e : Entry Counters Time ℕ} (h : Preserved e)
    (hsend : e.write.reading? = none) :
    (windowExpired e.before.firstFailureAt e.clock = false →
        e.before.failedCount ≤ e.after.failedCount) ∧
      (e.clock < e.before.lockedUntil → e.after.lockedUntil = e.before.lockedUntil) := by
  cases hwrite : e.write with
  | carried =>
    rw [h.carried hwrite]
    exact ⟨fun _ => le_rfl, fun _ => rfl⟩
  | renewed =>
    obtain ⟨⟨hcount, hlock⟩, hafter⟩ := h.renewed hwrite
    refine ⟨fun hruns => ?_, fun hforce => absurd hlock (not_le.mpr hforce)⟩
    rcases hcount with hzero | hexpired
    · rw [hafter, hzero]
      exact le_rfl
    · rw [hruns] at hexpired
      cases hexpired
  | wrong t =>
    rw [hwrite] at hsend
    cases hsend
  | success t token =>
    rw [hwrite] at hsend
    cases hsend

lemma expired_of_get {s : EmailOTPStore} {err : StoreError}
    (hlookup : s.m.lookup subject = some rec) (hget : EmailOTP.get s now subject = .error err) :
    EmailOTP.expired rec now = true := by
  unfold EmailOTP.get at hget
  rw [hlookup] at hget
  dsimp only at hget
  split_ifs at hget with hexpired
  exact hexpired

end Runs

/-- On clocks that read past the zero time, both factors keep the budget of attempts in every
interleaving; a record that is replaced or no longer retained has counters that have run out. -/
theorem one_time_codes_within_budget (subject : String) (start : Time) (hdated : 0 < start)
    (v : TotpAttempts.Verifier) (codes : ℕ → String) (totps : TOTPStore)
    (henrolled : TotpAttempts.Enrolled totps subject) (calls : List TotpAttempts.Event)
    (hcalls : ClockedFrom TotpAttempts.Event.now start calls)
    (a : Authenticator) (submissions : ℕ → Submission) (emails : EmailOTPStore)
    (hempty : emails.m.lookup subject = none) (events : List Event)
    (hevents : ClockedFrom Event.now start events)
    (htimely : TimelySends a subject submissions (initial emails) events) :
    Budgeted (TotpAttempts.run v subject codes (TotpAttempts.initial totps) calls).ledger
        (TotpAttempts.Rejected
          (TotpAttempts.run v subject codes (TotpAttempts.initial totps) calls)) ∧
      Budgeted (run a subject submissions (initial emails) events).ledger
        (Rejected (run a subject submissions (initial emails) events)) ∧
      CountersKept subject (run a subject submissions (initial emails) events) := by
  obtain ⟨_, htotp⟩ := TotpAttempts.invariant_run v codes
    (TotpAttempts.invariant_initial henrolled start) hdated hcalls
  obtain ⟨_, hemail⟩ := invariant_run a submissions (invariant_initial hempty start) hdated hevents
    htimely
  refine ⟨htotp.audited.budgeted (fun i hi => ?_) htotp.spent,
    hemail.audited.budgeted (fun i hi => ?_) hemail.spent,
    fun e he => (hemail.preserved e he).kept, fun rec hlookup now err hget => ?_⟩
  · obtain ⟨o, ho, hrejected⟩ := hi
    have hjustified := htotp.justified i
    rw [ho] at hjustified
    exact hjustified hrejected
  · obtain ⟨o, ho, hrejected⟩ := hi
    have hjustified := hemail.justified i
    rw [ho] at hjustified
    exact hjustified hrejected
  · exact (hemail.stored rec hlookup).2.2.lapsed (expired_of_get hlookup hget)

def plainVerifier : TotpAttempts.Verifier := ⟨fun sealed _ => some sealed, fun _ _ => "000000", 0⟩

def enrolledStore : TOTPStore :=
  ⟨(∅ : StringMap TOTPRecord).insert "u" ⟨"u", 1, [7], 1, 0, 0, 0, 0⟩, 1⟩

lemma enrolledStore_enrolled : TotpAttempts.Enrolled enrolledStore "u" := by
  intro rec hrec
  obtain rfl : (⟨"u", 1, [7], 1, 0, 0, 0, 0⟩ : TOTPRecord) = rec :=
    Option.some.inj (((lookup_insert_ite _ _ _ _).trans (if_pos rfl)).symm.trans hrec)
  exact ⟨rfl, le_rfl, fun _ => rfl⟩

def plainAuthenticator : Authenticator := ⟨Time.hour, fun _ _ code => code.toUTF8.toList, (· == ·)⟩

/-- A code is mailed to the address of the subject, and another code is typed. -/
def mistyped : ℕ → Submission
  | 0 => .send "u@rp" (.ok "u@rp") (some "000000") (some [1]) true
  | _ => .verify "111111"

/-- Three steps of the send, five of the verification. -/
def mistypedSteps : List Event :=
  [⟨0, 1⟩, ⟨0, 1⟩, ⟨0, 2⟩, ⟨1, 3⟩, ⟨1, 3⟩, ⟨1, 4⟩, ⟨1, 5⟩, ⟨1, 6⟩]

def Phase.isPreparing : Phase → Bool
  | .preparing _ => true
  | _ => false

lemma timely_of_phase {subject : String} {σ : State} {e : Event}
    (h : (σ.phase e.call).isPreparing = false) : Timely subject σ e := by
  intro start hphase
  rw [hphase] at h
  cases h

lemma mistyped_timely :
    TimelySends plainAuthenticator "u" mistyped (initial ⟨∅, 0⟩) mistypedSteps := by
  refine ⟨timely_of_phase rfl, ?_, timely_of_phase ?_, timely_of_phase ?_, timely_of_phase ?_,
    timely_of_phase ?_, timely_of_phase ?_, timely_of_phase ?_, trivial⟩
  · intro start hphase rec hget
    cases hget
  all_goals decide +kernel

theorem one_time_codes_within_budget_mistyped :
    ((run plainAuthenticator "u" mistyped (initial ⟨∅, 0⟩) mistypedSteps).ledger.map
        fun e => e.after.failedCount) = [1, 0] ∧
      Budgeted (run plainAuthenticator "u" mistyped (initial ⟨∅, 0⟩) mistypedSteps).ledger
        (Rejected (run plainAuthenticator "u" mistyped (initial ⟨∅, 0⟩) mistypedSteps)) :=
  ⟨by decide +kernel, (one_time_codes_within_budget "u" 1 (by decide) plainVerifier
    (fun _ => "111111") enrolledStore enrolledStore_enrolled [⟨0, 1⟩, ⟨0, 1⟩, ⟨0, 1⟩]
    ⟨le_rfl, le_rfl, le_rfl, trivial⟩ plainAuthenticator mistyped ⟨∅, 0⟩ rfl mistypedSteps
    ⟨by decide, by decide, by decide, by decide, by decide, by decide, by decide, by decide,
      trivial⟩ mistyped_timely).2.1⟩

/-- Go's zero time stands for a window that is not open: on a clock that reads it, a second
wrong code is not counted. -/
theorem count_restarts_at_zero_time :
    ((TotpAttempts.run plainVerifier "u" (fun _ => "111111") (TotpAttempts.initial enrolledStore)
        [⟨0, 0⟩, ⟨0, 0⟩, ⟨0, 0⟩, ⟨1, 1⟩, ⟨1, 1⟩, ⟨1, 1⟩]).ledger.map fun e =>
      (e.before.failedCount, e.after.failedCount,
        windowExpired e.before.firstFailureAt e.clock)) = [(1, 1, false), (0, 1, false)] := by
  decide +kernel

end OidcProvider.EmailOtpAttempts
