import OidcProvider.AttemptLedgers
import OidcProvider.TransactionalStores

/-!
# Verifying TOTP codes

`VerifyAndRecord` (`internal/authn/totp/record.go`, `verify.go`) over the in-memory store: a call
reads the record of its subject, verifies the code at a later clock reading, and swaps the
advanced counters or accepts the matched step; a lost write starts it over. Any number of calls
on one subject interleave between these steps.
-/
namespace OidcProvider.TotpAttempts
open FiniteMaps StoreRecords FactorStores GuardedLedgers AttemptLedgers TransactionalStores
open CountedRecord (counters)

/-! ### The verifier -/

def stepSeconds : ℤ := 30
def digits : ℕ := 6
def defaultSkew : ℕ := 1
def maxPersistRetries : ℕ := 16

/-- `Verifier`; opening a sealed secret and the code of a step are given. -/
structure Verifier where
  openSecret : List UInt8 → String → Option (List UInt8)
  codeAtStep : List UInt8 → ℕ → String
  skew : ℤ

/-- `Verifier.skew`. -/
def Verifier.skewInForce (v : Verifier) : ℕ := if v.skew ≤ 0 then defaultSkew else v.skew.toNat

/-- `step`: the counter of an instant, `0` before the epoch. -/
def stepAt (t : Time) : ℕ :=
  let s := t / Time.second - 62135596800
  if s < 0 then 0 else (s / stepSeconds).toNat

def safeStep (s : ℕ) : ℤ := if 2 ^ 62 < s then 2 ^ 62 else s

/-- The steps that `MatchStep` tries, in its order. -/
def candidates (current skew : ℕ) : List ℕ :=
  (List.range (skew + 1)).flatMap fun offset =>
    if offset = 0 then [current]
    else if offset ≤ current then [current + offset, current - offset]
    else [current + offset]

def Verifier.matchStep (v : Verifier) (secret : List UInt8) (code : String) (now : Time) :
    Option ℤ :=
  if code.utf8ByteSize ≠ digits then none
  else ((candidates (stepAt now) v.skewInForce).find? fun s => v.codeAtStep secret s = code).map
    safeStep

inductive Verdict where
  | notConfirmed
  | locked
  | openFailed
  | replayed
  | success (rec : TOTPRecord)
  | wrongCode (rec : TOTPRecord)
  | resetRequired (rec : TOTPRecord)

def withCounters (rec : TOTPRecord) (c : Counters) : TOTPRecord :=
  { rec with
    failedCount := c.failedCount
    firstFailureAt := c.firstFailureAt
    lockedUntil := c.lockedUntil }

def acceptedAt (rec : TOTPRecord) (matched : ℤ) : TOTPRecord :=
  { withCounters rec noFailures with lastAcceptedStep := matched }

def Verifier.verify (v : Verifier) (rec : TOTPRecord) (code : String) (now : Time) : Verdict :=
  if rec.confirmedAt = 0 then .notConfirmed
  else if now < rec.lockedUntil then .locked
  else match v.openSecret rec.secretCiphertext rec.subject with
    | none => .openFailed
    | some secret =>
      match v.matchStep secret code now with
      | some matched =>
        if rec.lastAcceptedStep ≠ 0 ∧ matched ≤ rec.lastAcceptedStep then .replayed
        else .success (acceptedAt rec matched)
      | none =>
        let advanced := advance (counters rec) now
        if advanced.2 then .resetRequired (withCounters rec advanced.1)
        else .wrongCode (withCounters rec advanced.1)

/-! ### Calls -/

inductive Outcome where
  | success
  | wrongCode
  | resetRequired
  | locked
  | replayed
  | notConfirmed
  | openFailed
  | notEnrolled
  | retry
  | fault (err : StoreError)

def Outcome.rejected : Outcome → Bool
  | .wrongCode => true
  | .resetRequired => true
  | _ => false

/-- Where a call stands; `attempt` counts the rounds it has lost. -/
inductive Phase where
  | loading (attempt : ℕ)
  | checking (attempt : ℕ) (rec : TOTPRecord)
  | swapping (attempt : ℕ) (previous next : TOTPRecord) (reading : Time) (report : Outcome)
  | accepting (attempt : ℕ) (rec : TOTPRecord) (reading : Time)
  | returned (outcome : Outcome)

/-- The store, the calls, and the ledger of what they have written. -/
structure State where
  store : TOTPStore
  phase : ℕ → Phase
  ledger : List (Entry Counters Time ℤ)

def State.enter (σ : State) (i : ℕ) (phase : Phase) : State :=
  { σ with phase := Function.update σ.phase i phase }

structure Event where
  call : ℕ
  now : Time

def again (attempt : ℕ) : Phase :=
  if attempt + 1 = maxPersistRetries then .returned .retry else .loading (attempt + 1)

/-- `persistOutcome` after a write that failed. -/
def lost (attempt : ℕ) : StoreError → Phase
  | .alreadyConsumed => again attempt
  | err => .returned (.fault err)

def proceed (attempt : ℕ) (previous : TOTPRecord) (now : Time) : Verdict → Phase
  | .notConfirmed => .returned .notConfirmed
  | .locked => .returned .locked
  | .openFailed => .returned .openFailed
  | .replayed => .returned .replayed
  | .success rec => .accepting attempt rec now
  | .wrongCode rec => .swapping attempt previous rec now .wrongCode
  | .resetRequired rec => .swapping attempt previous rec now .resetRequired

section System
variable (v : Verifier) (subject : String) (codes : ℕ → String)

def State.commit (σ : State) (e : Event) (store : TOTPStore) (write : Write Time ℤ)
    (outcome : Outcome) : State where
  store := store
  phase := Function.update σ.phase e.call (.returned outcome)
  ledger :=
    ⟨e.call, write, e.now, countersAt σ.store subject, countersAt store subject⟩ :: σ.ledger

def step (σ : State) (e : Event) : State :=
  match σ.phase e.call with
  | .loading attempt =>
    match TOTP.get σ.store subject with
    | .error _ => σ.enter e.call (.returned .notEnrolled)
    | .ok rec => σ.enter e.call (.checking attempt rec)
  | .checking attempt rec =>
    σ.enter e.call (proceed attempt rec e.now (v.verify rec (codes e.call) e.now))
  | .swapping attempt previous next reading report =>
    match TOTP.compareAndSwap σ.store (some previous) (some next) with
    | (store, .ok _) => σ.commit subject e store (.wrong reading) report
    | (store, .error err) => State.enter { σ with store := store } e.call (lost attempt err)
  | .accepting attempt rec reading =>
    match TOTP.accept σ.store (some rec) with
    | (store, .ok _) =>
      σ.commit subject e store (.success reading rec.lastAcceptedStep) .success
    | (store, .error err) => State.enter { σ with store := store } e.call (lost attempt err)
  | .returned _ => σ

def run (σ : State) (events : List Event) : State := events.foldl (step v subject codes) σ

end System

def initial (store : TOTPStore) : State := ⟨store, fun _ => .loading 0, []⟩

def Rejected (σ : State) (i : ℕ) : Prop := ∃ o, σ.phase i = .returned o ∧ o.rejected = true

/-- The store holds the record as enrolled, or as earlier calls have left it. -/
def Enrolled (store : TOTPStore) (subject : String) : Prop :=
  ∀ rec, store.m.lookup subject = some rec → rec.subject = subject ∧
    rec.version.toNat ≤ store.nextValue.toNat ∧ Anchored (counters rec)

/-! ### What a step can do -/

section Steps
variable {v : Verifier} {subject : String} {codes : ℕ → String} {attempt : ℕ} {σ : State}
  {e : Event}

def Phase.isReturned : Phase → Bool
  | .returned _ => true
  | _ => false

def Phase.plain : Phase → Bool
  | .loading _ => true
  | .returned outcome => !outcome.rejected
  | _ => false

variable (subject) in
inductive Advance (σ : State) (e : Event) : State → Prop
  | idle : Advance σ e σ
  | moved {phase} : (σ.phase e.call).isReturned = false → phase.plain = true →
      Advance σ e (σ.enter e.call phase)
  | loaded {attempt rec} : σ.phase e.call = .loading attempt →
      σ.store.m.lookup subject = some rec → Advance σ e (σ.enter e.call (.checking attempt rec))
  | refused {attempt rec} (report) : σ.phase e.call = .checking attempt rec →
      rec.lockedUntil ≤ e.now →
      Advance σ e (σ.enter e.call (.swapping attempt rec
        (withCounters rec (advance (counters rec) e.now).1) e.now report))
  | passed {attempt rec} (matched) : σ.phase e.call = .checking attempt rec →
      rec.lockedUntil ≤ e.now →
      Advance σ e (σ.enter e.call (.accepting attempt (acceptedAt rec matched) e.now))
  | swapped {attempt previous next reading report store} :
      σ.phase e.call = .swapping attempt previous next reading report →
      σ.store.m.lookup previous.subject = some previous →
      Written σ.store previous.subject next store →
      Advance σ e (σ.commit subject e store (.wrong reading) report)
  | accepted {attempt rec reading current store} :
      σ.phase e.call = .accepting attempt rec reading →
      σ.store.m.lookup rec.subject = some current → current.version = rec.version →
      current.lastAcceptedStep < rec.lastAcceptedStep → Written σ.store rec.subject rec store →
      Advance σ e (σ.commit subject e store (.success reading rec.lastAcceptedStep) .success)

lemma lost_plain (attempt : ℕ) (err : StoreError) : (lost attempt err).plain = true := by
  cases err with
  | alreadyConsumed =>
    change (again attempt).plain = true
    unfold again
    split_ifs <;> rfl
  | _ => rfl

lemma check_advance {rec : TOTPRecord} (hphase : σ.phase e.call = .checking attempt rec) :
    Advance subject σ e
      (σ.enter e.call (proceed attempt rec e.now (v.verify rec (codes e.call) e.now))) := by
  have hplain : ∀ {phase : Phase}, phase.plain = true →
      Advance subject σ e (σ.enter e.call phase) := .moved (by rw [hphase]; rfl)
  unfold Verifier.verify
  split_ifs with hconfirmed hlocked
  · exact hplain rfl
  · exact hplain rfl
  · cases v.openSecret rec.secretCiphertext rec.subject with
    | none => exact hplain rfl
    | some secret =>
      dsimp only
      cases v.matchStep secret (codes e.call) e.now with
      | some matched =>
        dsimp only
        split_ifs
        · exact hplain rfl
        · exact .passed matched hphase (not_lt.mp hlocked)
      | none =>
        split_ifs
        · exact .refused _ hphase (not_lt.mp hlocked)
        · exact .refused _ hphase (not_lt.mp hlocked)

lemma swap_advance {previous next : TOTPRecord} {reading : Time} {report : Outcome}
    (hphase : σ.phase e.call = .swapping attempt previous next reading report) :
    Advance subject σ e (step v subject codes σ e) := by
  rcases written_of_stores (TOTP.compareAndSwap_stores σ.store (some previous) (some next)) with
    ⟨err, hswap⟩ | ⟨n, s', ⟨hn, p, hp, hsubject, hlookup⟩, hswap, hwritten⟩
  · simp only [step, hphase, hswap]
    exact .moved (by rw [hphase]; rfl) (lost_plain attempt err)
  · cases hp
    cases hn
    simp only [step, hphase, hswap]
    exact .swapped hphase hlookup (hsubject ▸ hwritten)

lemma accept_advance {rec : TOTPRecord} {reading : Time}
    (hphase : σ.phase e.call = .accepting attempt rec reading) :
    Advance subject σ e (step v subject codes σ e) := by
  rcases written_of_stores (TOTP.accept_stores σ.store (some rec)) with
    ⟨err, haccept⟩ | ⟨r, s', ⟨hr, current, hlookup, hversion, hstep⟩, haccept, hwritten⟩
  · simp only [step, hphase, haccept]
    exact .moved (by rw [hphase]; rfl) (lost_plain attempt err)
  · cases hr
    simp only [step, hphase, haccept]
    exact .accepted hphase hlookup hversion hstep hwritten

lemma step_advance (σ : State) (e : Event) : Advance subject σ e (step v subject codes σ e) := by
  cases hphase : σ.phase e.call with
  | loading attempt =>
    cases hlookup : σ.store.m.lookup subject with
    | none =>
      simp only [step, hphase, TOTP.get, hlookup]
      exact .moved (by rw [hphase]; rfl) rfl
    | some rec =>
      simp only [step, hphase, TOTP.get, hlookup]
      exact .loaded hphase hlookup
  | checking attempt rec =>
    simp only [step, hphase]
    exact check_advance hphase
  | swapping attempt previous next reading report => exact swap_advance hphase
  | accepting attempt rec reading => exact accept_advance hphase
  | returned outcome =>
    simp only [step, hphase]
    exact .idle

end Steps

/-! ### Any interleaving -/

section Runs
variable {v : Verifier} {subject : String} {codes : ℕ → String} {store : TOTPStore}
  {σ : State} {phase : Phase} {now : Time} {e : Event}

variable (subject) in
/-- What is known of a call from where it stands. -/
def Justified (σ : State) (now : Time) (i : ℕ) : Phase → Prop
  | .loading _ => True
  | .checking _ rec => Held σ.store subject σ.ledger rec now
  | .swapping _ previous next reading _ =>
    Verified σ.store subject σ.ledger previous reading now ∧
      next = withCounters previous (advance (counters previous) reading).1
  | .accepting _ rec reading =>
    ∃ previous matched, Verified σ.store subject σ.ledger previous reading now ∧
      rec = acceptedAt previous matched
  | .returned outcome =>
    outcome.rejected = true → ∃ e ∈ σ.ledger, e.call = i ∧ ∃ t, e.write = .wrong t

variable (subject) in
structure Invariant (σ : State) (now : Time) : Prop where
  enrolled : Enrolled σ.store subject
  audited : Audited σ.ledger (countersAt σ.store subject) now
  justified : ∀ i, Justified subject σ now i (σ.phase i)
  unwritten : ∀ i, (σ.phase i).isReturned = false → ∀ e ∈ σ.ledger, e.call ≠ i
  -- An accepted step is at most the last one on the record.
  steps : ∀ e ∈ σ.ledger, ∀ k, e.write.token? = some k →
    ∃ rec, σ.store.m.lookup subject = some rec ∧ k ≤ rec.lastAcceptedStep
  spent : (tokens σ.ledger).Nodup

lemma Justified.mono {σ' : State} {now' : Time} {i : ℕ} (h : Justified subject σ now i phase)
    (hnow : now ≤ now') (hledger : σ.ledger ⊆ σ'.ledger)
    (hheld : ∀ {r t}, Held σ.store subject σ.ledger r t → Held σ'.store subject σ'.ledger r t) :
    Justified subject σ' now' i phase := by
  cases phase with
  | loading attempt => trivial
  | checking attempt rec => exact (hheld h).later hnow
  | swapping attempt previous next reading report => exact ⟨h.1.mono hnow hheld, h.2⟩
  | accepting attempt rec reading =>
    obtain ⟨previous, matched, hverified, hrec⟩ := h
    exact ⟨previous, matched, hverified.mono hnow hheld, hrec⟩
  | returned outcome =>
    intro hrejected
    obtain ⟨e, he, hwrite⟩ := h hrejected
    exact ⟨e, hledger he, hwrite⟩

lemma Invariant.later {now now' : Time} (h : Invariant subject σ now) (hnow : now ≤ now') :
    Invariant subject σ now' :=
  ⟨h.enrolled, h.audited.later hnow, fun i => (h.justified i).mono hnow (List.Subset.refl _) id,
    h.unwritten, h.steps, h.spent⟩

lemma justified_plain {i : ℕ} (h : phase.plain = true) : Justified subject σ now i phase := by
  cases phase with
  | loading attempt => trivial
  | returned outcome =>
    intro hrejected
    simp [Phase.plain, hrejected] at h
  | _ => cases h

lemma Invariant.enter (h : Invariant subject σ now) {i : ℕ}
    (hopen : (σ.phase i).isReturned = false) (hphase : Justified subject σ now i phase) :
    Invariant subject (σ.enter i phase) now := by
  refine ⟨h.enrolled, h.audited, ?_, ?_, h.steps, h.spent⟩
  · exact (Function.forall_update_iff σ.phase _).mpr ⟨hphase, fun j _ => h.justified j⟩
  · exact (Function.forall_update_iff σ.phase fun j p => p.isReturned = false → _).mpr
      ⟨fun _ => h.unwritten i hopen, fun j _ => h.unwritten j⟩

lemma enrolled_written {s s' : TOTPStore} {rec : TOTPRecord}
    (hwritten : Written s subject rec s') (hnamed : rec.subject = subject)
    (hanchored : Anchored (counters rec)) : Enrolled s' subject := by
  obtain ⟨version, hstored, hversion⟩ := hwritten.stored
  intro current hcurrent
  obtain rfl := Option.some.inj (hstored.symm.trans hcurrent)
  refine ⟨hnamed, ?_, hanchored⟩
  change version.toNat ≤ s'.nextValue.toNat
  rw [hversion, hwritten.drawn]

lemma Invariant.commit (h : Invariant subject σ e.now) {previous rec : TOTPRecord}
    {reading : Time} {write : Write Time ℤ} {outcome : Outcome}
    (hopen : (σ.phase e.call).isReturned = false)
    (hverified : Verified σ.store subject σ.ledger previous reading e.now)
    (hcurrent : σ.store.m.lookup subject = some previous)
    (hwritten : Written σ.store subject rec store) (hnamed : rec.subject = subject)
    (hanchored : Anchored (counters rec)) (hreading : write.reading? = some reading)
    (hcounted : ∀ t, write = .wrong t → Counted (K := ℤ)
      ⟨e.call, write, e.now, counters previous, counters rec⟩ t)
    (houtcome : outcome.rejected = true → ∃ t, write = .wrong t)
    (hkept : previous.lastAcceptedStep ≤ rec.lastAcceptedStep)
    (htoken : ∀ k, write.token? = some k →
      k = rec.lastAcceptedStep ∧ previous.lastAcceptedStep < k) :
    Invariant subject (σ.commit subject e store write outcome) e.now := by
  have hbefore : countersAt σ.store subject = counters previous :=
    countersAt_of_lookup hcurrent
  have hguarded := hverified.guarded (e := ⟨e.call, write, e.now, countersAt σ.store subject,
    countersAt store subject⟩) hcurrent rfl h.audited.clocked rfl rfl hreading
  obtain ⟨version, hstored, -⟩ := hwritten.stored
  refine ⟨enrolled_written hwritten hnamed hanchored, ?_, ?_, ?_, ?_, ?_⟩
  · refine h.audited.enter hguarded le_rfl (h.unwritten e.call hopen) fun t ht => ?_
    rw [hbefore, hwritten.countersAt]
    exact hcounted t ht
  · refine (Function.forall_update_iff σ.phase _).mpr ⟨fun hrejected => ?_, fun j _ => ?_⟩
    · exact ⟨_, List.mem_cons_self, rfl, houtcome hrejected⟩
    · exact (h.justified j).mono le_rfl (List.subset_cons_self _ _) (·.superseded hwritten)
  · refine (Function.forall_update_iff σ.phase fun j p => p.isReturned = false → _).mpr
      ⟨fun hj => ?_, fun j hje hj => ?_⟩
    · cases hj
    · exact List.forall_mem_cons.mpr ⟨Ne.symm hje, h.unwritten j hj⟩
  · intro e' he' k hk
    refine ⟨_, hstored, ?_⟩
    rcases List.mem_cons.mp he' with rfl | he'
    · exact (htoken k hk).1.le
    · obtain ⟨current, hlookup, hle⟩ := h.steps e' he' k hk
      obtain rfl := Option.some.inj (hlookup.symm.trans hcurrent)
      exact hle.trans hkept
  · refine nodup_tokens_cons h.spent fun k hk hmem => ?_
    obtain ⟨e', he', hk'⟩ := mem_tokens.mp hmem
    obtain ⟨current, hlookup, hle⟩ := h.steps e' he' k hk'
    obtain rfl := Option.some.inj (hlookup.symm.trans hcurrent)
    exact absurd (htoken k hk).2 (not_lt.mpr hle)

lemma invariant_advance {σ σ' : State} (h : Invariant subject σ e.now) (hdated : 0 < e.now)
    (hadvance : Advance subject σ e σ') : Invariant subject σ' e.now := by
  cases hadvance with
  | idle => exact h
  | moved hopen hplain => exact h.enter hopen (justified_plain hplain)
  | loaded hphase hlookup =>
    obtain ⟨hnamed, hissued, -⟩ := h.enrolled _ hlookup
    refine h.enter (by rw [hphase]; rfl) ?_
    exact held_of_lookup hlookup hnamed hissued h.audited.clocked
  | refused report hphase hlocked =>
    have hheld := h.justified e.call
    rw [hphase] at hheld
    exact h.enter (by rw [hphase]; rfl) ⟨⟨hheld, hlocked, le_rfl, hdated⟩, rfl⟩
  | passed matched hphase hlocked =>
    have hheld := h.justified e.call
    rw [hphase] at hheld
    exact h.enter (by rw [hphase]; rfl) ⟨_, matched, ⟨hheld, hlocked, le_rfl, hdated⟩, rfl⟩
  | @swapped attempt previous next reading report store hphase hlookup hwritten =>
    have hjustified := h.justified e.call
    rw [hphase] at hjustified
    obtain ⟨hverified, rfl⟩ := hjustified
    obtain rfl : previous.subject = subject := hverified.held.named
    obtain ⟨-, -, hanchored⟩ := h.enrolled previous hlookup
    refine h.commit (by rw [hphase]; rfl) hverified hlookup hwritten rfl
      (advance_anchored _ hverified.dated.ne') rfl (fun t ht => ?_) (fun _ => ⟨reading, rfl⟩)
      le_rfl (fun k hk => ?_)
    · cases ht
      exact advance_counts hanchored reading
    · cases hk
  | @accepted attempt rec reading current store hphase hlookup hversion hstep hwritten =>
    have hjustified := h.justified e.call
    rw [hphase] at hjustified
    obtain ⟨previous, matched, hverified, rfl⟩ := hjustified
    obtain rfl : previous.subject = subject := hverified.held.named
    obtain ⟨rfl, -⟩ := hverified.held.same current hlookup hversion
    refine h.commit (by rw [hphase]; rfl) hverified hlookup hwritten rfl (fun _ => rfl) rfl
      (fun t ht => ?_) (fun hrejected => ?_) hstep.le (fun k hk => ?_)
    · cases ht
    · cases hrejected
    · cases hk
      exact ⟨rfl, hstep⟩

lemma invariant_run (v : Verifier) (codes : ℕ → String) (h : Invariant subject σ now)
    (hdated : 0 < now) {events : List Event} (hclock : ClockedFrom Event.now now events) :
    ∃ now', Invariant subject (run v subject codes σ events) now' := by
  induction events generalizing σ now with
  | nil => exact ⟨now, h⟩
  | cons e events ih =>
    have hdated' : 0 < e.now := hdated.trans_le hclock.1
    exact ih (invariant_advance (h.later hclock.1) hdated' (step_advance σ e)) hdated' hclock.2

lemma invariant_initial (h : Enrolled store subject) (now : Time) :
    Invariant subject (initial store) now := by
  refine ⟨h, audited_nil _ now, fun _ => trivial, ?_, ?_, List.nodup_nil⟩
  · intro _ _ e he
    exact (List.not_mem_nil he).elim
  · intro e he
    exact (List.not_mem_nil he).elim

end Runs

end OidcProvider.TotpAttempts
