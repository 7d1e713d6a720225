import Mathlib.Tactic.Linarith
import OidcProvider.SingleUseStores
import OidcProvider.TransactionalStores

/-!
# Redeeming an authorization code

`internal/grants/authcode/authcode.go` over `inmem/authcodestore.go`. `Exchange` looks the
code up, checks the presentation against the record, consumes the code, and checks again
what the consumption returned. Between the lookup and the consumption any other
presentation of the same code may run. The clock does not go back; the reading taken after
a consumption may be arbitrarily late. `pkce.Verify` is a parameter.
-/
namespace OidcProvider.CodeExchange
open FiniteMaps StoreRecords SingleUseStores TransactionalStores

inductive PkceError where
  | challengeMethodUnsupported
  | verifierFormat
  | verifierMismatch
  deriving DecidableEq

/-- What `Exchange` refuses with. An error of the caller's `Admit` stays apart from the
exchanger's own, whatever its text. -/
inductive ExchangeError where
  | codeMissing
  | codeExpired
  | codeReplayed
  /-- `ReplayError`. -/
  | replay (grantID : String)
  | clientMismatch
  | redirectURIMismatch
  | pkce (err : PkceError)
  | refused (err : String)
  | find (err : StoreError)
  | consume (err : StoreError)
  | withoutConsumedAt
  deriving DecidableEq

/-- The error of a replay: it names the grant unless the record has none. -/
def replayError (grantID : String) : ExchangeError :=
  if grantID ≠ "" then .replay grantID else .codeReplayed

structure Exchanged where
  clientID : String
  subject : String
  grantID : String
  scope : List String
  resource : String
  nonce : String
  dpopJKT : String
  hadCodeChallenge : Bool
  consumedAt : Time
  authTime : Time
  acr : String
  amr : List String
  authorizationDetails : List JsonObject
  claims : JsonObject
  authorizationRecorded : Bool
  issuedAt : Time
  deriving DecidableEq

structure ExchangeInput where
  code : String
  clientID : String
  redirectURI : String
  codeVerifier : String
  admission : Option (Exchanged → Except String Unit)

def project (rec : AuthorizationCode) : Exchanged :=
  { rec with
    hadCodeChallenge := decide (rec.codeChallenge ≠ "")
    consumedAt := rec.consumedAt.getD 0
    issuedAt := rec.createdAt }

section Exchanger
variable (verify : String → String → String → Except PkceError Unit)

def checkBindings (rec : AuthorizationCode) (input : ExchangeInput) : Except ExchangeError Unit :=
  if rec.clientID ≠ input.clientID then .error .clientMismatch
  else if rec.redirectURI ≠ input.redirectURI then .error .redirectURIMismatch
  else if rec.codeChallenge = "" then
    -- A code that was not bound to PKCE takes no verifier.
    if input.codeVerifier ≠ "" then .error (.pkce .verifierMismatch) else .ok ()
  else (verify rec.codeChallenge rec.codeChallengeMethod input.codeVerifier).mapError .pkce

/-- `admit`: the bindings, then the caller's own gates. -/
def admitCode (rec : AuthorizationCode) (input : ExchangeInput) : Except ExchangeError Unit :=
  match checkBindings verify rec input with
  | .error err => .error err
  | .ok () =>
    match input.admission with
    | none => .ok ()
    | some gate => (gate (project rec)).mapError .refused

variable (D : KeyDigest)
variable (calls : ℕ → ExchangeInput)

def preflight (now : Time) (s : AuthCodeStore) (input : ExchangeInput) :
    Except ExchangeError Unit :=
  match findCode D now s input.code with
  | .error .notFound => .ok ()
  | .error err => .error (.find err)
  | .ok rec => admitCode verify rec input

/-- What `Exchange` does up to its call of `Consume`. -/
def beforeConsume (now : Time) (s : AuthCodeStore) (input : ExchangeInput) :
    Except ExchangeError Unit :=
  if input.code = "" then .error .codeMissing else preflight verify D now s input

/-- What `Exchange` makes of the answer of `Consume`; `after` is its own clock then. -/
def afterConsume (after : Time) (reply : ConsumeResult AuthorizationCode)
    (input : ExchangeInput) : Except ExchangeError Exchanged :=
  match reply with
  | .failed .notFound => .error .codeMissing
  | .failed err => .error (.consume err)
  | .alreadyConsumed rec =>
    match admitCode verify rec input with
    | .error err => .error err
    | .ok () => .error (replayError rec.grantID)
  | .consumed rec =>
    match rec.consumedAt with
    | none => .error .withoutConsumedAt
    | some _ =>
      if rec.expiresAt < after then .error .codeExpired
      else match admitCode verify rec input with
        | .error err => .error err
        | .ok () => .ok (project rec)

/-- `Exchange` of one request while no other runs. -/
def exchange (found consumed after : Time) (s : AuthCodeStore)
    (input : ExchangeInput) :
    AuthCodeStore × Except ExchangeError Exchanged :=
  match beforeConsume verify D found s input with
  | .error err => (s, .error err)
  | .ok () =>
    let reply := consumeCode D consumed s input.code
    (reply.1, afterConsume verify after reply.2 input)

/-! ### Interleaved exchanges -/

inductive Phase where
  | ready
  /-- The lookup and its checks are done; `Consume` is next. -/
  | cleared
  | answered (answer : Except ExchangeError Exchanged)

structure State where
  store : AuthCodeStore
  phase : ℕ → Phase

inductive Step where
  | find (call : ℕ) (now : Time)
  | consume (call : ℕ) (now after : Time)

def Step.call : Step → ℕ
  | find call _ => call
  | consume call _ _ => call

def Step.now : Step → Time
  | find _ now => now
  | consume _ now _ => now

def State.enter (σ : State) (call : ℕ) (phase : Phase) : State :=
  { σ with phase := Function.update σ.phase call phase }

/-- A step of a call that is not due is void. -/
def step (calls : ℕ → ExchangeInput) (σ : State) : Step → State
  | .find call now =>
    match σ.phase call with
    | .ready =>
      match beforeConsume verify D now σ.store (calls call) with
      | .error err => σ.enter call (.answered (.error err))
      | .ok () => σ.enter call .cleared
    | _ => σ
  | .consume call now after =>
    match σ.phase call with
    | .cleared =>
      let reply := consumeCode D now σ.store (calls call).code
      State.enter { σ with store := reply.1 } call
        (.answered (afterConsume verify after reply.2 (calls call)))
    | _ => σ

def run (calls : ℕ → ExchangeInput) (σ : State) (steps : List Step) : State :=
  steps.foldl (step verify D calls) σ

lemma run_append (σ : State) (pre post : List Step) :
    run verify D calls σ (pre ++ post) = run verify D calls (run verify D calls σ pre) post :=
  List.foldl_append

/-- A call whose two steps run without another between them is `Exchange`. -/
theorem run_alone {σ : State} {call : ℕ} (hready : σ.phase call = .ready)
    (found consumed after : Time) :
    run verify D calls σ [.find call found, .consume call consumed after] =
      let result := exchange verify D found consumed after σ.store (calls call)
      State.enter { σ with store := result.1 } call (.answered result.2) := by
  simp only [run, List.foldl_cons, List.foldl_nil, step, hready, exchange]
  cases beforeConsume verify D found σ.store (calls call) with
  | error err => simp [State.enter]
  | ok u => simp [State.enter]

end Exchanger

def start (s : AuthCodeStore) : State := ⟨s, fun _ => .ready⟩

def Before (expiry : Time) : Step → Prop
  | .find _ now => now < expiry
  | .consume _ now after => now < expiry ∧ after < expiry

/-- The gate of a call does not look at the time of consumption. -/
def IgnoresConsumption (input : ExchangeInput) : Prop :=
  ∀ gate, input.admission = some gate → ∀ x t, gate { x with consumedAt := t } = gate x

/-! ### One presentation against the row -/

section Row
variable (verify : String → String → String → Except PkceError Unit) (D : KeyDigest)
  (code : AuthorizationCode)

/-- The row of a saved code that was consumed at `stamp`. -/
def rowAt (stamp : Option Time) : AuthorizationCode :=
  { code with id := D.hashKey code.id, consumedAt := stamp }

/-- The checks a presentation has to pass, against the record as saved. -/
def Passes (input : ExchangeInput) : Prop := admitCode verify code input = .ok ()

variable {verify D code} {s : AuthCodeStore} {stamp : Option Time} {input : ExchangeInput}

lemma findCode_row (hrow : s.m.lookup (D.hashKey code.id) = some (rowAt D code stamp))
    (now : Time) :
    findCode D now s code.id =
      if staleCode now code then .error .notFound else .ok { code with consumedAt := stamp } := by
  simp only [findCode, hrow, rowAt, staleCode, ne_eq, not_true_eq_false, if_false]
  rfl

lemma consumeCode_row (hrow : s.m.lookup (D.hashKey code.id) = some (rowAt D code stamp))
    (now : Time) :
    consumeCode D now s code.id =
      if staleCode now code then (s, .failed .notFound)
      else if stamp.isSome then (s, .alreadyConsumed { code with consumedAt := stamp })
      else (s.put (D.hashKey code.id) (rowAt D code (some now)),
        .consumed { code with consumedAt := some now }) := by
  simp only [consumeCode, hrow, rowAt, staleCode, ne_eq, not_true_eq_false, if_false]
  cases stamp <;> rfl

lemma checkBindings_stamp (input : ExchangeInput) (stamp : Option Time) :
    checkBindings verify { code with consumedAt := stamp } input =
      checkBindings verify code input := rfl

lemma project_stamp (stamp : Option Time) :
    project { code with consumedAt := stamp } =
      { project code with consumedAt := stamp.getD 0 } := rfl

lemma admitCode_stamp (hignores : IgnoresConsumption input) (stamp : Option Time) :
    admitCode verify { code with consumedAt := stamp } input = admitCode verify code input := by
  cases hgate : input.admission with
  | none => simp only [admitCode, hgate, checkBindings_stamp]
  | some gate =>
    have hsame := hignores gate hgate (project code) (stamp.getD 0)
    simp only [admitCode, hgate, checkBindings_stamp, project_stamp, hsame]

lemma admitCode_not_replay {err : ExchangeError} (h : admitCode verify code input = .error err)
    (grantID : String) : err ≠ replayError grantID := by
  rintro rfl
  unfold admitCode checkBindings replayError at h
  cases hv : verify code.codeChallenge code.codeChallengeMethod input.codeVerifier <;>
    cases hgate : input.admission with
    | none => simp only [hv, hgate, Except.mapError] at h; split_ifs at h <;> simp at h
    | some gate =>
      cases hg : gate (project code) <;>
        (simp only [hv, hgate, hg, Except.mapError] at h; split_ifs at h <;> simp at h)

end Row

/-! ### Runs over one saved code -/

def Succeeded (σ : State) (call : ℕ) : Prop := ∃ x, σ.phase call = .answered (.ok x)

variable {now : Time} {phase : Phase} {st : Step} {stamp' : Option Time}

section Runs
variable {verify : String → String → String → Except PkceError Unit} {D : KeyDigest}
  {code : AuthorizationCode} {calls : ℕ → ExchangeInput}

@[simp] lemma enter_store (σ : State) (call : ℕ) (phase : Phase) :
    (σ.enter call phase).store = σ.store := rfl

lemma enter_phase (σ : State) (call other : ℕ) (phase : Phase) :
    (σ.enter call phase).phase other = if other = call then phase else σ.phase other := by
  simp [State.enter, Function.update_apply]

lemma succeeded_enter {σ : State} {call i : ℕ} (hphase : ∀ x, phase ≠ .answered (.ok x)) :
    Succeeded (σ.enter call phase) i → Succeeded σ i := by
  rintro ⟨x, hx⟩
  rw [enter_phase] at hx
  split_ifs at hx with hc
  · exact absurd hx (hphase x)
  · exact ⟨x, hx⟩

variable (verify D code calls) in
/-- What a step can do, with the consumption stamp of the row before and after it. -/
inductive Advance : Option Time → State → Step → Option Time → State → Prop
  | void {stamp σ st} : (∀ call now after, st = .consume call now after →
      σ.phase call ≠ .cleared) → Advance stamp σ st stamp σ
  | refuse {stamp σ call now err} :
      σ.phase call = .ready →
      admitCode verify code (calls call) = .error err ∨ code.id = "" ∧ err = .codeMissing →
      Advance stamp σ (.find call now) stamp (σ.enter call (.answered (.error err)))
  | clear {stamp σ call now} :
      σ.phase call = .ready →
      Passes verify code (calls call) ∨ staleCode now code = true →
      Advance stamp σ (.find call now) stamp (σ.enter call .cleared)
  | late {stamp σ call now after} :
      σ.phase call = .cleared → staleCode now code = true →
      Advance stamp σ (.consume call now after) stamp
        (σ.enter call (.answered (.error .codeMissing)))
  | replay {at_ σ call now after} :
      σ.phase call = .cleared → staleCode now code = false →
      Passes verify code (calls call) →
      Advance (some at_) σ (.consume call now after) (some at_)
        (σ.enter call (.answered (.error (replayError code.grantID))))
  | win {σ call now after} :
      σ.phase call = .cleared → staleCode now code = false →
      Passes verify code (calls call) →
      Advance none σ (.consume call now after) (some now)
        (State.enter { σ with store := σ.store.put (D.hashKey code.id) (rowAt D code (some now)) }
          call (.answered (if code.expiresAt < after then .error .codeExpired
            else .ok (project { code with consumedAt := some now }))))

variable (verify D code calls) in
/-- What holds between the steps: `stamp` is the consumption of the row, `t` the last reading. -/
structure Invariant (t : Time) (stamp : Option Time) (σ : State) : Prop where
  row : σ.store.m.lookup (D.hashKey code.id) = some (rowAt D code stamp)
  clearance : ∀ i, σ.phase i = .cleared →
    Passes verify code (calls i) ∨ staleCode t code = true
  owner : ∀ i, Succeeded σ i → Passes verify code (calls i)
  fresh : stamp = none → ∀ i, ¬ Succeeded σ i
  unique : ∀ i j, Succeeded σ i → Succeeded σ j → i = j
  harmless : ∀ i, ¬ Passes verify code (calls i) → ∀ grantID,
    σ.phase i ≠ .answered (.error (replayError grantID))

lemma staleCode_mono {now later : Time} (h : staleCode now code = true) (hle : now ≤ later) :
    staleCode later code = true := isExpiredStrict_mono h hle

section Steps
variable (hcode : ∀ i, (calls i).code = code.id) (hignores : ∀ i, IgnoresConsumption (calls i))
include hcode hignores

variable {stamp : Option Time} {σ : State} {t : Time}

section
variable (hinv : Invariant verify D code calls t stamp σ)
include hinv

lemma find_advance (call : ℕ) (now : Time) :
    Advance verify D code calls stamp σ (.find call now) stamp
      (step verify D calls σ (.find call now)) := by
  cases hphase : σ.phase call with
  | cleared => simpa only [step, hphase] using Advance.void (by simp)
  | answered answer => simpa only [step, hphase] using Advance.void (by simp)
  | ready =>
    have hfind := findCode_row hinv.row now
    simp only [step, hphase, beforeConsume, preflight, hcode, hfind]
    by_cases hempty : code.id = ""
    · simpa only [hempty, if_true] using Advance.refuse hphase (.inr ⟨hempty, rfl⟩)
    · rw [if_neg hempty]
      by_cases hstale : staleCode now code = true
      · simpa only [hstale, if_true] using Advance.clear hphase (.inr hstale)
      · simp only [hstale, Bool.false_eq_true, if_false, admitCode_stamp (hignores call)]
        cases hadmit : admitCode verify code (calls call) with
        | error err => exact .refuse hphase (.inl hadmit)
        | ok u => exact .clear hphase (.inl hadmit)

lemma consume_advance (call : ℕ) (after : Time) (hle : t ≤ now) :
    ∃ stamp', Advance verify D code calls stamp σ (.consume call now after) stamp'
      (step verify D calls σ (.consume call now after)) := by
  cases hphase : σ.phase call with
  | ready => exact ⟨stamp, by simpa only [step, hphase] using Advance.void (by simp [hphase])⟩
  | answered answer =>
    exact ⟨stamp, by simpa only [step, hphase] using Advance.void (by simp [hphase])⟩
  | cleared =>
    have hconsume := consumeCode_row hinv.row now
    simp only [step, hphase, hcode, hconsume]
    by_cases hstale : staleCode now code = true
    · simp only [hstale, if_true]
      exact ⟨stamp, .late hphase hstale⟩
    · have hlive : staleCode now code = false := by simpa using hstale
      have hpass : Passes verify code (calls call) :=
        (hinv.clearance call hphase).resolve_right fun h => hstale (staleCode_mono h hle)
      have hstamped : ∀ stamp, admitCode verify { code with consumedAt := stamp } (calls call) =
          .ok () := fun stamp => (admitCode_stamp (hignores call) stamp).trans hpass
      simp only [hlive, Bool.false_eq_true, if_false]
      cases stamp with
      | some at_ =>
        refine ⟨some at_, ?_⟩
        simpa [afterConsume, hstamped] using Advance.replay hphase hlive hpass
      | none =>
        refine ⟨some now, ?_⟩
        simpa [afterConsume, hstamped] using Advance.win hphase hlive hpass

lemma step_advance (hle : t ≤ st.now) :
    ∃ stamp', Advance verify D code calls stamp σ st stamp' (step verify D calls σ st) := by
  cases st with
  | find call now => exact ⟨stamp, find_advance hcode hignores hinv call now⟩
  | consume call now after => exact consume_advance hcode hignores hinv call after hle

end

end Steps

variable {σ : State} {stamp : Option Time} {t : Time} {answer : Except ExchangeError Exchanged}

/-- A call moves on without success. It may be cleared only with reason, and told of a
replay only if it passes. -/
theorem Invariant.enter (hinv : Invariant verify D code calls t stamp σ) {call : ℕ}
    (hnot : ∀ x, phase ≠ .answered (.ok x))
    (hclear : phase = .cleared → Passes verify code (calls call) ∨ staleCode t code = true)
    (hreplay : ¬ Passes verify code (calls call) → ∀ grantID,
      phase ≠ .answered (.error (replayError grantID))) :
    Invariant verify D code calls t stamp (σ.enter call phase) where
  row := hinv.row
  clearance i hi := by
    rw [enter_phase] at hi
    split_ifs at hi with hc
    · exact hc ▸ hclear hi
    · exact hinv.clearance i hi
  owner i hi := hinv.owner i (succeeded_enter hnot hi)
  fresh hstamp i hi := hinv.fresh hstamp i (succeeded_enter hnot hi)
  unique i j hi hj := hinv.unique i j (succeeded_enter hnot hi) (succeeded_enter hnot hj)
  harmless i hfail grantID hi := by
    rw [enter_phase] at hi
    split_ifs at hi with hc
    · exact hreplay (hc ▸ hfail) grantID hi
    · exact hinv.harmless i hfail grantID hi

/-- The first consumption: whatever its answer, it is the only success so far. -/
theorem Invariant.win (hinv : Invariant verify D code calls t none σ) {call : ℕ}
    {answer : Except ExchangeError Exchanged} (hpass : Passes verify code (calls call)) :
    Invariant verify D code calls t (some now)
      (State.enter { σ with store := σ.store.put (D.hashKey code.id) (rowAt D code (some now)) }
        call (.answered answer)) := by
  have honly : ∀ i, Succeeded (State.enter
      { σ with store := σ.store.put (D.hashKey code.id) (rowAt D code (some now)) }
      call (.answered answer)) i → i = call := by
    rintro i ⟨x, hx⟩
    rw [enter_phase] at hx
    split_ifs at hx with hc
    · exact hc
    · exact absurd ⟨x, hx⟩ (hinv.fresh rfl i)
  refine ⟨Finmap.lookup_insert _, ?_, ?_, by simp, ?_, ?_⟩
  · intro i hi
    rw [enter_phase] at hi
    split_ifs at hi with hc
    exact hinv.clearance i hi
  · intro i hi
    rw [honly i hi]
    exact hpass
  · intro i j hi hj
    rw [honly i hi, honly j hj]
  · intro i hfail grantID hi
    rw [enter_phase] at hi
    split_ifs at hi with hc
    · exact hfail (hc ▸ hpass)
    · exact hinv.harmless i hfail grantID hi

lemma Invariant.later (hinv : Invariant verify D code calls t stamp σ)
    (hle : t ≤ now) : Invariant verify D code calls now stamp σ :=
  { hinv with clearance := fun i hi => (hinv.clearance i hi).imp id (staleCode_mono · hle) }

lemma invariant_advance {σ' : State}
    (hinv : Invariant verify D code calls t stamp σ) (hle : t ≤ st.now)
    (h : Advance verify D code calls stamp σ st stamp' σ') :
    Invariant verify D code calls st.now stamp' σ' := by
  have hinv := hinv.later hle
  cases h with
  | void hdue => exact hinv
  | refuse hphase herr =>
    refine hinv.enter (by simp) (by simp) fun _ grantID hsame => ?_
    simp only [Phase.answered.injEq, Except.error.injEq] at hsame
    rcases herr with hrefused | ⟨-, hmissing⟩
    · exact admitCode_not_replay hrefused grantID hsame
    · rw [hmissing] at hsame
      unfold replayError at hsame
      split_ifs at hsame
  | clear hphase hreason => exact hinv.enter (by simp) (fun _ => hreason) (by simp)
  | late hphase hstale =>
    refine hinv.enter (by simp) (by simp) fun _ grantID hsame => ?_
    simp only [Phase.answered.injEq, Except.error.injEq] at hsame
    unfold replayError at hsame
    split_ifs at hsame
  | replay hphase hlive hpass =>
    exact hinv.enter (by simp) (by simp) fun hfail => absurd hpass hfail
  | win hphase hlive hpass => exact hinv.win hpass

lemma spent_advance {at_ : Time} {σ' : State}
    (h : Advance verify D code calls (some at_) σ st stamp' σ') : stamp' = some at_ := by
  cases h <;> rfl

lemma answered_step {i : ℕ} (h : σ.phase i = .answered answer) (st : Step) :
    (step verify D calls σ st).phase i = .answered answer := by
  have hother : ∀ {call : ℕ}, σ.phase call ≠ .answered answer → i ≠ call := by
    rintro call hne rfl
    exact hne h
  cases st with
  | find call now =>
    cases hphase : σ.phase call with
    | ready =>
      have hne : i ≠ call := hother (by simp [hphase])
      simp only [step, hphase]
      cases beforeConsume verify D now σ.store (calls call) <;> simp [enter_phase, hne, h]
    | cleared => simpa only [step, hphase] using h
    | answered a => simpa only [step, hphase] using h
  | consume call now after =>
    cases hphase : σ.phase call with
    | cleared =>
      have hne : i ≠ call := hother (by simp [hphase])
      simp only [step, hphase]
      simp [enter_phase, hne, h]
    | ready => simpa only [step, hphase] using h
    | answered a => simpa only [step, hphase] using h

lemma answered_run {i : ℕ} (h : σ.phase i = .answered answer) (steps : List Step) :
    (run verify D calls σ steps).phase i = .answered answer := by
  induction steps generalizing σ with
  | nil => exact h
  | cons st steps ih => exact ih (answered_step h st)

section Whole
variable (hcode : ∀ i, (calls i).code = code.id) (hignores : ∀ i, IgnoresConsumption (calls i))
include hcode hignores

variable {stamp : Option Time} {σ : State} {t now : Time}

section
variable (hinv : Invariant verify D code calls t stamp σ)
include hinv

lemma invariant_run {steps : List Step} (hclock : ClockedFrom Step.now t steps) :
    ∃ stamp', Invariant verify D code calls (lastClock Step.now t steps) stamp'
        (run verify D calls σ steps) ∧
      ∀ at_, stamp = some at_ → stamp' = some at_ := by
  induction steps generalizing t stamp σ with
  | nil => exact ⟨stamp, hinv, fun _ h => h⟩
  | cons st steps ih =>
    obtain ⟨hle, hrest⟩ := hclock
    obtain ⟨mid, hadvance⟩ := step_advance hcode hignores hinv hle
    obtain ⟨stamp', hrun, hkept⟩ := ih (invariant_advance hinv hle hadvance) hrest
    refine ⟨stamp', hrun, fun at_ hspent => hkept at_ ?_⟩
    subst hspent
    exact spent_advance hadvance

lemma failing_step (hle : t ≤ st.now) (hfail : ¬ Passes verify code (calls st.call)) :
    (step verify D calls σ st).store = σ.store := by
  obtain ⟨stamp', hadvance⟩ := step_advance hcode hignores hinv hle
  generalize step verify D calls σ st = σ' at hadvance
  cases hadvance with
  | void hdue => rfl
  | refuse hphase herr => rfl
  | clear hphase hreason => rfl
  | late hphase hstale => rfl
  | replay hphase hlive hpass => rfl
  | win hphase hlive hpass => exact absurd hpass hfail

lemma spent_consume {after : Time} {i : ℕ}
    (hle : t ≤ now) (hphase : σ.phase i = .cleared) (hlive : staleCode now code = false) :
    ∃ at_, Invariant verify D code calls now (some at_)
      (step verify D calls σ (.consume i now after)) := by
  obtain ⟨stamp', hadvance⟩ := consume_advance hcode hignores hinv i after hle
  have hinv' : Invariant verify D code calls now stamp'
      (step verify D calls σ (.consume i now after)) :=
    invariant_advance hinv (show t ≤ (Step.consume i now after).now from hle) hadvance
  generalize step verify D calls σ (.consume i now after) = σ' at hadvance hinv'
  cases hadvance with
  | void hdue => exact absurd hphase (hdue i now after rfl)
  | late hphase hstale => simp [hlive] at hstale
  | replay hphase hlive hpass => exact ⟨_, hinv'⟩
  | win hphase hlive hpass => exact ⟨_, hinv'⟩

end

lemma replay_consume {after at_ : Time} {j : ℕ}
    (hinv : Invariant verify D code calls t (some at_) σ) (hle : t ≤ now)
    (hphase : σ.phase j = .cleared) (hlive : staleCode now code = false) :
    (step verify D calls σ (.consume j now after)).phase j =
      .answered (.error (replayError code.grantID)) := by
  obtain ⟨stamp', hadvance⟩ := consume_advance hcode hignores hinv j after hle
  generalize step verify D calls σ (.consume j now after) = σ' at hadvance
  cases hadvance with
  | void hdue => exact absurd hphase (hdue j now after rfl)
  | late hphase hstale => simp [hlive] at hstale
  | replay hphase hlive hpass => simp [enter_phase]

/-- After one consumption, every later one that comes in time is a replay. -/
theorem replay_run {t now late now' late' : Time} {stamp : Option Time} {σ : State} {i j : ℕ}
    {mid post : List Step} (hinv : Invariant verify D code calls t stamp σ)
    (hclock : ClockedFrom Step.now t
      (.consume i now late :: (mid ++ .consume j now' late' :: post)))
    (hi : σ.phase i = .cleared)
    (hj : (run verify D calls σ (.consume i now late :: mid)).phase j = .cleared)
    (hlive : staleCode now' code = false) :
    (run verify D calls σ (.consume i now late :: (mid ++ .consume j now' late' :: post))).phase j =
      .answered (.error (replayError code.grantID)) := by
  obtain ⟨hle, hrest⟩ := hclock
  obtain ⟨hmid, htail⟩ := clockedFrom_append.mp hrest
  have hlast : lastClock Step.now now mid ≤ now' := htail.1
  -- The row was live at the first consumption, since it still is at the second.
  have hearlier : staleCode now code = false := by
    rw [Bool.eq_false_iff]
    intro hstale
    rw [staleCode_mono hstale (le_trans (le_lastClock hmid) hlast)] at hlive
    cases hlive
  obtain ⟨at_, hspent⟩ := spent_consume hcode hignores hinv hle hi hearlier
  obtain ⟨stamp', hinv', hkept⟩ := invariant_run hcode hignores hspent hmid
  rw [hkept at_ rfl] at hinv'
  simp only [run, List.foldl_cons, List.foldl_append] at hj ⊢
  exact answered_run (replay_consume hcode hignores hinv' hlast hj hlive) post

end Whole

/-! While the code has not expired, a consumed row has a winner. -/

variable {σ : State} {stamp : Option Time}

lemma staleCode_before (h : now < code.expiresAt) : staleCode now code = false := by
  unfold staleCode isExpiredStrict
  split_ifs
  · rfl
  · exact decide_eq_false (not_lt.mpr h.le)

variable (verify code calls) in
/-- A consumed row, and any finished call that passes, comes with a success. -/
structure Fruitful (stamp : Option Time) (σ : State) : Prop where
  spent : stamp ≠ none → ∃ j, Succeeded σ j
  finished : ∀ i answer, Passes verify code (calls i) → σ.phase i = .answered answer →
    ∃ j, Succeeded σ j

lemma succeeded_enter_other {call i : ℕ} (h : Succeeded σ i)
    (hphase : ∀ answer, σ.phase call ≠ .answered answer) : Succeeded (σ.enter call phase) i := by
  obtain ⟨x, hx⟩ := h
  have hne : i ≠ call := by
    rintro rfl
    exact hphase _ hx
  exact ⟨x, by rw [enter_phase, if_neg hne, hx]⟩

/-- A call moves on; if this finishes it although it passes, the row was consumed before. -/
theorem Fruitful.enter (h : Fruitful verify code calls stamp σ) {call : ℕ}
    (hdue : ∀ answer, σ.phase call ≠ .answered answer)
    (hphase : ∀ answer, phase = .answered answer → Passes verify code (calls call) → stamp ≠ none) :
    Fruitful verify code calls stamp (σ.enter call phase) where
  spent hstamp := (h.spent hstamp).imp fun j hj => succeeded_enter_other hj hdue
  finished i answer hpass hi := by
    rw [enter_phase] at hi
    split_ifs at hi with hc
    · subst hc
      exact (h.spent (hphase answer hi hpass)).imp fun j hj => succeeded_enter_other hj hdue
    · exact (h.finished i answer hpass hi).imp fun j hj => succeeded_enter_other hj hdue

lemma fruitful_advance {σ' : State} (h : Fruitful verify code calls stamp σ) (hid : code.id ≠ "")
    (hbefore : Before code.expiresAt st)
    (hadvance : Advance verify D code calls stamp σ st stamp' σ') :
    Fruitful verify code calls stamp' σ' := by
  cases hadvance with
  | void hdue => exact h
  | refuse hphase herr =>
    refine h.enter (by simp [hphase]) fun answer _ hpass => ?_
    rcases herr with hrefused | ⟨hempty, -⟩
    · rw [hpass] at hrefused
      cases hrefused
    · exact absurd hempty hid
  | clear hphase hreason => exact h.enter (by simp [hphase]) (by simp)
  | late hphase hstale => simp [staleCode_before hbefore.1] at hstale
  | replay hphase hlive hpass => exact h.enter (by simp [hphase]) (by simp)
  | @win σ call now after hphase hlive hpass =>
    have hsuccess : Succeeded (State.enter
        { σ with store := σ.store.put (D.hashKey code.id) (rowAt D code (some now)) }
        call (.answered (if code.expiresAt < after then .error .codeExpired
          else .ok (project { code with consumedAt := some now })))) call := by
      refine ⟨project { code with consumedAt := some now }, ?_⟩
      rw [enter_phase, if_pos rfl, if_neg (not_lt.mpr hbefore.2.le)]
    exact ⟨fun _ => ⟨call, hsuccess⟩, fun _ _ _ _ => ⟨call, hsuccess⟩⟩

lemma fruitful_run (hcode : ∀ i, (calls i).code = code.id)
    (hignores : ∀ i, IgnoresConsumption (calls i)) (hid : code.id ≠ "")
    (hinv : Invariant verify D code calls t stamp σ) (h : Fruitful verify code calls stamp σ)
    {steps : List Step} (hclock : ClockedFrom Step.now t steps)
    (hbefore : ∀ st ∈ steps, Before code.expiresAt st) :
    ∃ stamp', Fruitful verify code calls stamp' (run verify D calls σ steps) := by
  induction steps generalizing t stamp σ with
  | nil => exact ⟨stamp, h⟩
  | cons st steps ih =>
    obtain ⟨hle, hrest⟩ := hclock
    obtain ⟨mid, hadvance⟩ := step_advance hcode hignores hinv hle
    exact ih (invariant_advance hinv hle hadvance)
      (fruitful_advance h hid (hbefore st List.mem_cons_self) hadvance) hrest
      fun st' hst' => hbefore st' (List.mem_cons_of_mem st hst')

end Runs

/-! ### A saved code -/

variable {s : AuthCodeStore} {code : AuthorizationCode} {ρ : KeyOrder}

lemma lookup_saveCode {D : KeyDigest} (hsaved : (saveCode D ρ now s (some code)).2 = .ok ()) :
    (saveCode D ρ now s (some code)).1.m.lookup (D.hashKey code.id) =
      some (code.presentedAs (D.hashKey code.id)) := by
  unfold saveCode at hsaved ⊢
  dsimp only at hsaved ⊢
  cases hrow : (s.maybeGC (staleCode now) ρ).m.lookup (D.hashKey code.id) with
  | some rec => simp [hrow] at hsaved
  | none => exact Finmap.lookup_insert _

lemma invariant_start {verify : String → String → String → Except PkceError Unit} {D : KeyDigest}
    {calls : ℕ → ExchangeInput} (hsaved : (saveCode D ρ now s (some code)).2 = .ok ())
    (hfresh : code.consumedAt = none) :
    Invariant verify D code calls now none (start (saveCode D ρ now s (some code)).1) where
  row := by
    rw [start, lookup_saveCode hsaved, rowAt, AuthorizationCode.presentedAs, ← hfresh]
  clearance i hi := by simp [start] at hi
  owner i hi := by simp [Succeeded, start] at hi
  fresh _ i hi := by simp [Succeeded, start] at hi
  unique i j hi hj := by simp [Succeeded, start] at hi
  harmless i hfail grantID hi := by simp [start] at hi

/-- A code is redeemed once, by a call that passes its checks. Calls that fail them change
nothing and are not told of a replay. Once the code is consumed every call that passes and
is not late is told so. While it is live, the calls that pass have exactly one winner. -/
theorem code_redeemed_once (verify : String → String → String → Except PkceError Unit)
    (D : KeyDigest) (ρ : KeyOrder) (saved : Time) (s : AuthCodeStore)
    (code : AuthorizationCode) (calls : ℕ → ExchangeInput) (steps : List Step)
    (hsaved : (saveCode D ρ saved s (some code)).2 = .ok ()) (hfresh : code.consumedAt = none)
    (hcode : ∀ i, (calls i).code = code.id) (hignores : ∀ i, IgnoresConsumption (calls i))
    (hclock : ClockedFrom Step.now saved steps) :
    let σ := start (saveCode D ρ saved s (some code)).1
    let after := run verify D calls σ
    (∀ i j, Succeeded (after steps) i → Succeeded (after steps) j → i = j) ∧
    (∀ i, Succeeded (after steps) i → Passes verify code (calls i)) ∧
    (∀ i, ¬ Passes verify code (calls i) →
      (∀ pre st post, steps = pre ++ st :: post → st.call = i →
        (after (pre ++ [st])).store = (after pre).store) ∧
      ∀ grantID, (after steps).phase i ≠ .answered (.error (replayError grantID))) ∧
    (∀ pre i now late mid j now' late' post,
      steps = pre ++ .consume i now late :: mid ++ .consume j now' late' :: post →
      (after pre).phase i = .cleared →
      (after (pre ++ .consume i now late :: mid)).phase j = .cleared →
      Passes verify code (calls j) → staleCode now' code = false →
      (after steps).phase j = .answered (.error (replayError code.grantID))) ∧
    (code.id ≠ "" → (∀ st ∈ steps, Before code.expiresAt st) →
      (∃ i answer, Passes verify code (calls i) ∧ (after steps).phase i = .answered answer) →
      ∃! i, Succeeded (after steps) i) := by
  intro σ after
  have hstart : Invariant verify D code calls saved none σ := invariant_start hsaved hfresh
  have hrun : ∀ pre post, steps = pre ++ post → ∃ stamp,
      Invariant verify D code calls (lastClock Step.now saved pre) stamp (after pre) := by
    rintro pre post rfl
    obtain ⟨stamp, hinv, -⟩ := invariant_run hcode hignores hstart (clockedFrom_append.mp hclock).1
    exact ⟨stamp, hinv⟩
  obtain ⟨stamp, hend⟩ := hrun steps [] (List.append_nil steps).symm
  refine ⟨hend.unique, hend.owner, fun i hfail => ⟨?_, hend.harmless i hfail⟩, ?_, ?_⟩
  · rintro pre st post rfl rfl
    obtain ⟨stamp, hinv⟩ := hrun pre _ rfl
    have hle := (clockedFrom_append.mp hclock).2.1
    simpa [after, run_append, run] using failing_step hcode hignores hinv hle hfail
  · rintro pre i now late mid j now' late' post rfl hi hj hpass hlive
    rw [List.append_assoc, List.cons_append] at hclock ⊢
    obtain ⟨stamp, hinv⟩ := hrun pre (.consume i now late :: mid ++ .consume j now' late' :: post)
      (by simp)
    simp only [after, run_append] at hi hj hinv ⊢
    exact replay_run hcode hignores hinv (clockedFrom_append.mp hclock).2 hi hj hlive
  · rintro hid hbefore ⟨i, answer, hpass, hi⟩
    have hfruit : Fruitful verify code calls none σ := ⟨by simp, by simp [σ, start]⟩
    obtain ⟨stamp', hend'⟩ := fruitful_run hcode hignores hid hstart hfruit hclock hbefore
    obtain ⟨j, hj⟩ := hend'.finished i answer hpass hi
    exact ⟨j, hj, fun k hk => hend.unique k j hk hj⟩

/-! ### Three presentations of one code -/

def boundCode : AuthorizationCode :=
  { (default : AuthorizationCode) with
    id := "c", clientID := "web", grantID := "g", redirectURI := "https://rp/cb", expiresAt := 60 }

/-- The third presentation is another client's. -/
def presentations (call : ℕ) : ExchangeInput where
  code := "c"
  clientID := if call = 2 then "other" else "web"
  redirectURI := "https://rp/cb"
  codeVerifier := ""
  admission := none

def noVerifier (_ _ _ : String) : Except PkceError Unit := .error .verifierFormat

/-- All three look the code up before the second of them consumes it. -/
def racingPresentations : List Step :=
  [.find 0 2, .find 1 2, .find 2 3, .consume 1 4 5, .consume 0 5 6]

def savedCode : AuthCodeStore :=
  (saveCode plainDigest ascending 1 (newRecordStore AuthorizationCode)
    (some boundCode)).1

theorem code_redeemed_once_racing :
    (∃! i, Succeeded (run noVerifier plainDigest presentations (start savedCode)
      racingPresentations) i) ∧
    (run noVerifier plainDigest presentations (start savedCode) racingPresentations).phase 0 =
      .answered (.error (.replay "g")) ∧
    ∀ grantID, (run noVerifier plainDigest presentations (start savedCode)
      racingPresentations).phase 2 ≠ .answered (.error (replayError grantID)) := by
  obtain ⟨-, -, hharmless, hreplayed, hone⟩ := code_redeemed_once noVerifier plainDigest
    ascending 1 (newRecordStore AuthorizationCode) boundCode presentations
    racingPresentations rfl rfl (fun _ => rfl) (fun _ _ h => nomatch h)
    (by simp [ClockedFrom, Step.now, racingPresentations])
  refine ⟨?_, ?_, ?_⟩
  · refine hone (by decide) (by simp [racingPresentations, Before, boundCode])
      ⟨1, _, rfl, rfl⟩
  · exact hreplayed [.find 0 2, .find 1 2, .find 2 3] 1 4 5 [] 0 5 6 [] rfl rfl rfl rfl rfl
  · exact (hharmless 2 (by simp [Passes, admitCode, checkBindings, presentations, boundCode])).2

end OidcProvider.CodeExchange
