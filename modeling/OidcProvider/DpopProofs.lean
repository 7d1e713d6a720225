import Mathlib.Tactic.Linarith
import OidcProvider.SingleUseStores

/-!
# DPoP proofs

`internal/dpop/verify.go` over `inmem/jtistore.go`. A request runs `Check`, which looks at
the proof and the clock, and later `Commit`, which marks the proof's replay key. Requests
interleave arbitrarily, on one clock that does not go back, together with the other users
of the marker store. The result of parsing a proof (its signature included), the
comparison of URLs and the token hash are given; neither phase looks into them.
-/
namespace OidcProvider.DpopProofs
open FiniteMaps StoreRecords SingleUseStores

/-! ### The consumed-JTI store -/

/-- `patterns.IsExpiredInclusive`: a marker dated exactly `now` has expired. -/
def isExpiredInclusive (t now : Time) : Bool :=
  if t = 0 then false else decide (t ≤ now)

lemma isExpiredInclusive_of_lt {t now : Time} (h : now < t) :
    isExpiredInclusive t now = false := by
  unfold isExpiredInclusive
  split_ifs
  · rfl
  · exact decide_eq_false (not_le.mpr h)

abbrev JTIStore := RecordStore Time

def expiredMarker (now expiresAt : Time) : Bool := isExpiredInclusive expiresAt now

section Store
variable (D : KeyDigest) (ρ : KeyOrder) (now : Time)

/-- The end of `Mark`, once no live marker stands in its way. -/
def putMarker (s : JTIStore) (digest : String) (expiresAt : Time) : JTIStore :=
  (s.maybeGC (expiredMarker now) ρ).put digest expiresAt

def mark (s : JTIStore) (jti : String) (expiresAt : Time) : JTIStore × StoreReply :=
  let digest := D.hashKey jti
  match s.m.lookup digest with
  | none => (putMarker ρ now s digest expiresAt, .ok ())
  | some existing =>
    if !isExpiredInclusive existing now then (s, .error .alreadyConsumed)
    else (putMarker ρ now { s with m := s.m.erase digest } digest expiresAt, .ok ())

end Store

/-! ### The verifier -/

inductive ProofError where
  | malformed
  | signature
  | iatWindow
  | replayed
  | htmMismatch
  | htuMismatch
  | athMismatch
  | missingJTI
  | nonceMissing
  | nonceInvalid
  | store (err : StoreError)
  deriving DecidableEq

def base64URL (c : Char) : Bool := c.isAlphanum || decide (c = '-') || decide (c = '_')

/-- `Thumbprint` of a key: base64url without padding. -/
structure Thumbprint where
  text : String
  encoded : ∀ c ∈ text.toList, base64URL c = true
  deriving DecidableEq

structure ProofClaims where
  jti : String
  htm : String
  htu : String
  issuedAt : ℤ
  ath : String
  nonce : String
  deriving DecidableEq

/-- A proof whose signature has been verified, with the thumbprint of its key. -/
structure ParsedProof where
  claims : ProofClaims
  thumbprint : Option Thumbprint

structure Verifier where
  iatWindow : ℤ
  positive : 0 < iatWindow
  /-- A nonce gate is configured. -/
  nonces : Bool
  looseMethCase : Bool
  canonicalEqual : String → String → Bool
  accessTokenHash : String → String

def Verifier.replayLeew (v : Verifier) : ℤ := 2 * v.iatWindow

structure VerifyInput where
  /-- What `parseProof` makes of the header. -/
  proof : Except ProofError ParsedProof
  method : String
  /-- `canonicalRequestURL` of the request's URL, unless that is nil. -/
  url : Option String
  advertisedHTU : List String
  accessToken : String
  /-- What the nonce gate answers at this moment. -/
  validNonce : String → Bool

structure Checked where
  jkt : Thumbprint
  jti : String
  replayExpiresAt : Time
  deriving DecidableEq

/-- `time.Unix`: the zero time lies 62135596800 seconds before the epoch. The sum is one
of 64-bit integers, and wraps. -/
def unixTime (seconds : ℤ) : Time :=
  ((seconds + 62135596800 + 2 ^ 63) % 2 ^ 64 - 2 ^ 63) * 1000000000

def withinIatWindow (iat : ℤ) (now : Time) (window : ℤ) : Bool :=
  if window ≤ 0 then false
  else !decide (unixTime iat < now - window) && !decide (now + window < unixTime iat)

def replayExpiry (iat : ℤ) (now : Time) (window leeway : ℤ) : Time :=
  let ceiling := now + (window + leeway)
  let since := unixTime iat + leeway
  if ceiling < since then ceiling else since

def equalFold (a b : String) : Bool := decide (a.toUpper = b.toUpper)

namespace Verifier
variable (v : Verifier)

def compareMethod (htm method : String) : Bool :=
  if v.looseMethCase then equalFold htm method else decide (htm = method)

def compareHTU (htu url : String) (advertised : List String) : Bool :=
  if advertised ≠ [] then advertised.any (v.canonicalEqual htu) else v.canonicalEqual htu url

def checkNonce (validNonce : String → Bool) (nonce : String) : Except ProofError Unit :=
  if !v.nonces then .ok ()
  else if nonce = "" then .error .nonceMissing
  else if !validNonce nonce then .error .nonceInvalid
  else .ok ()

/-- The gates of `Check` once the proof has been parsed. -/
def checkParsed (now : Time) (input : VerifyInput) (url : String) (p : ParsedProof) :
    Except ProofError Checked :=
  if !v.compareMethod p.claims.htm input.method then .error .htmMismatch
  else if !v.compareHTU p.claims.htu url input.advertisedHTU then .error .htuMismatch
  else if !withinIatWindow p.claims.issuedAt now v.iatWindow then .error .iatWindow
  else if input.accessToken ≠ "" ∧ p.claims.ath ≠ v.accessTokenHash input.accessToken then
    .error .athMismatch
  else do
    v.checkNonce input.validNonce p.claims.nonce
    match p.thumbprint with
    | none => .error .malformed
    | some jkt =>
      .ok ⟨jkt, p.claims.jti,
        replayExpiry p.claims.issuedAt now v.iatWindow v.replayLeew⟩

def check (now : Time) (input : VerifyInput) : Except ProofError Checked :=
  match input.url with
  | none => .error .malformed
  | some url => input.proof.bind (v.checkParsed now input url)

end Verifier

def replayKey (jkt : Thumbprint) (jti : String) : String := "dpop:" ++ jkt.text ++ ":" ++ jti

/-- What `Commit` makes of the answer of `Mark`. -/
def commitAnswer : StoreReply → Except ProofError Unit
  | .ok () => .ok ()
  | .error .alreadyConsumed => .error .replayed
  | .error err => .error (.store err)

def commit (D : KeyDigest) (ρ : KeyOrder) (now : Time) (s : JTIStore) :
    Option Checked → JTIStore × Except ProofError Unit
  | none => (s, .error .malformed)
  | some checked =>
    let r := mark D ρ now s (replayKey checked.jkt checked.jti) checked.replayExpiresAt
    (r.1, commitAnswer r.2)

/-! ### Replay keys -/

lemma append_separator_inj {α : Type} {c : α} {xs xs' ys ys' : List α} (hxs : c ∉ xs)
    (hxs' : c ∉ xs') (h : xs ++ c :: ys = xs' ++ c :: ys') : xs = xs' ∧ ys = ys' := by
  induction xs generalizing xs' with
  | nil => cases xs' <;> grind
  | cons x xs ih => cases xs' <;> grind

/-- A thumbprint has no colon, so that the key tells it from the identifier. -/
theorem replayKey_inj {jkt jkt' : Thumbprint} {jti jti' : String}
    (h : replayKey jkt jti = replayKey jkt' jti') : jkt = jkt' ∧ jti = jti' := by
  have hfree : ∀ jkt : Thumbprint, ':' ∉ jkt.text.toList :=
    fun jkt hmem => absurd (jkt.encoded ':' hmem) (by decide)
  have hlist := congrArg String.toList h
  simp only [replayKey, String.toList_append, List.append_assoc] at hlist
  obtain ⟨htext, hjti⟩ :=
    append_separator_inj (hfree jkt) (hfree jkt') (List.append_cancel_left hlist)
  refine ⟨?_, String.toList_injective hjti⟩
  cases jkt
  cases jkt'
  cases String.toList_injective htext
  rfl

/-! ### Marking -/

section Marking
variable {D : KeyDigest} {ρ : KeyOrder} {now : Time} {s : JTIStore}

lemma mark_live {jti : String} {existing : Time} (expiresAt : Time)
    (h : s.m.lookup (D.hashKey jti) = some existing)
    (hlive : isExpiredInclusive existing now = false) :
    mark D ρ now s jti expiresAt = (s, .error .alreadyConsumed) := by
  unfold mark
  dsimp only
  rw [h]
  dsimp only
  rw [hlive]
  rfl

/-- A store after a mark: it is as before, or it has the marker, and the others are those
from before, if they have not been swept. -/
theorem mark_cases (D : KeyDigest) (ρ : KeyOrder) (now : Time) (s : JTIStore)
    (jti : String) (expiresAt : Time) :
    mark D ρ now s jti expiresAt = (s, .error .alreadyConsumed) ∨
      ∃ s', mark D ρ now s jti expiresAt = (s', .ok ()) ∧
        s'.m.lookup (D.hashKey jti) = some expiresAt ∧
        ∀ digest, digest ≠ D.hashKey jti →
          s'.m.lookup digest = s.m.lookup digest ∨
            s'.m.lookup digest = (s.m.lookup digest).filter fun t => !expiredMarker now t := by
  -- The marker is put into a store that differs from `s` at its own digest at most.
  have hput (s₁ : JTIStore)
      (h₁ : ∀ digest, digest ≠ D.hashKey jti → s₁.m.lookup digest = s.m.lookup digest) :
      (putMarker ρ now s₁ (D.hashKey jti) expiresAt).m.lookup (D.hashKey jti) = some expiresAt ∧
        ∀ digest, digest ≠ D.hashKey jti →
          (putMarker ρ now s₁ (D.hashKey jti) expiresAt).m.lookup digest = s.m.lookup digest ∨
            (putMarker ρ now s₁ (D.hashKey jti) expiresAt).m.lookup digest =
              (s.m.lookup digest).filter fun t => !expiredMarker now t := by
    unfold putMarker RecordStore.put
    refine ⟨?_, fun digest hne => ?_⟩
    · rw [lookup_insert_ite, if_pos rfl]
    · rw [lookup_insert_ite, if_neg hne, lookup_maybeGC, h₁ digest hne]
      split_ifs
      · exact .inr rfl
      · exact .inl rfl
  unfold mark
  dsimp only
  cases hrow : s.m.lookup (D.hashKey jti) with
  | none => exact .inr ⟨_, rfl, hput s fun _ _ => rfl⟩
  | some existing =>
    dsimp only
    split_ifs
    · exact .inl rfl
    · refine .inr ⟨_, rfl, hput _ fun digest hne => ?_⟩
      rw [lookup_erase_ite, if_neg hne]

lemma lookup_mark_live {digest : String} {existing : Time} (h : s.m.lookup digest = some existing)
    (hlive : isExpiredInclusive existing now = false) (jti : String) (expiresAt : Time) :
    (mark D ρ now s jti expiresAt).1.m.lookup digest = some existing := by
  by_cases hdigest : digest = D.hashKey jti
  · subst hdigest
    rw [mark_live expiresAt h hlive]
    exact h
  · obtain hmark | ⟨s', hmark, _, hothers⟩ := mark_cases D ρ now s jti expiresAt
    · rw [hmark]
      exact h
    · rw [hmark]
      have hkept : (s.m.lookup digest).filter (fun t => !expiredMarker now t) = some existing := by
        rw [h]
        simp [Option.filter, expiredMarker, hlive]
      rcases hothers digest hdigest with heq | heq
      · exact heq.trans h
      · exact heq.trans hkept

lemma mem_mark {digest : String} {jti : String} {expiresAt : Time}
    (h : (mark D ρ now s jti expiresAt).1.m.lookup digest ≠ none) :
    s.m.lookup digest ≠ none ∨
      digest = D.hashKey jti ∧ (mark D ρ now s jti expiresAt).2 = .ok () := by
  obtain hmark | ⟨s', hmark, _, hothers⟩ := mark_cases D ρ now s jti expiresAt
  · rw [hmark] at h
    exact .inl h
  · rw [hmark] at h ⊢
    by_cases hdigest : digest = D.hashKey jti
    · exact .inr ⟨hdigest, rfl⟩
    · left
      intro hnone
      rcases hothers digest hdigest with heq | heq
      · exact h (heq.trans hnone)
      · rw [hnone] at heq
        exact h heq

end Marking

/-! ### Checking -/

lemma withinIatWindow_iff {window : ℤ} (hw : 0 < window) (iat : ℤ) (now : Time) :
    withinIatWindow iat now window = true ↔
      now ≤ unixTime iat + window ∧ unixTime iat ≤ now + window := by
  unfold withinIatWindow
  rw [if_neg (not_le.mpr hw)]
  simp only [Bool.and_eq_true, Bool.not_eq_true', decide_eq_false_iff_not, not_lt]
  exact and_congr_left fun _ => sub_le_iff_le_add

/-- Within the window the clamp does not bite. -/
theorem replayExpiry_eq {iat : ℤ} {now : Time} {window : ℤ} (leeway : ℤ)
    (h : unixTime iat ≤ now + window) :
    replayExpiry iat now window leeway = unixTime iat + leeway := by
  unfold replayExpiry
  rw [if_neg]
  linarith

lemma checkParsed_ok {v : Verifier} {now : Time} {input : VerifyInput} {url : String}
    {p : ParsedProof} {c : Checked} (h : v.checkParsed now input url p = .ok c) :
    now ≤ unixTime p.claims.issuedAt + v.iatWindow ∧
      c.replayExpiresAt = unixTime p.claims.issuedAt + 2 * v.iatWindow := by
  unfold Verifier.checkParsed at h
  split_ifs at h with hmethod hhtu hwindow hath
  have hwithin : withinIatWindow p.claims.issuedAt now v.iatWindow = true := by
    simpa using hwindow
  obtain ⟨hpast, hfuture⟩ := (withinIatWindow_iff v.positive _ _).mp hwithin
  cases hnonce : v.checkNonce input.validNonce p.claims.nonce with
  | error err =>
    rw [hnonce] at h
    cases h
  | ok _ =>
    rw [hnonce] at h
    cases hjkt : p.thumbprint with
    | none =>
      simp only [hjkt] at h
      cases h
    | some jkt =>
      simp only [hjkt] at h
      cases h
      exact ⟨hpast, replayExpiry_eq _ hfuture⟩

/-! ### Interleaved requests -/

/-- A request between its phases: the reading of the clock by its `Check`, and the proof
that passed. -/
structure Pending where
  since : Time
  issuedAt : ℤ
  checked : Checked

structure ProofID where
  jkt : Thumbprint
  jti : String
  issuedAt : ℤ
  deriving DecidableEq

def Pending.proof (p : Pending) : ProofID := ⟨p.checked.jkt, p.checked.jti, p.issuedAt⟩

structure State where
  store : JTIStore
  pending : FiniteMap ℕ Pending

def initial : State := ⟨newRecordStore Time, ∅⟩

/-- A key of the other users of the store: client assertions, request objects and
assertion grants have prefixes of their own. -/
structure ForeignKey where
  key : String
  foreign : ¬"dpop:".toList <+: key.toList

inductive Act where
  | check (request : ℕ) (input : VerifyInput)
  | commit (request : ℕ)
  | mark (key : ForeignKey) (expiresAt : Time)

structure Event where
  now : Time
  order : KeyOrder
  act : Act

inductive Outcome where
  | checked (result : Except ProofError Checked)
  | committed (pending : Option Pending) (result : Except ProofError Unit)
  | marked (result : StoreReply)

/-- The request goes on to its `Commit` with the proof that passed. -/
def State.accept (s : State) (now : Time) (request : ℕ) (p : ParsedProof) (c : Checked) : State :=
  { s with pending := s.pending.insert request ⟨now, p.claims.issuedAt, c⟩ }

section
variable (D : KeyDigest) (v : Verifier)

def step (s : State) (e : Event) : State × Outcome :=
  match e.act with
  | .check request input =>
    match v.check e.now input, input.proof with
    | .ok c, .ok p => (s.accept e.now request p c, .checked (.ok c))
    | r, _ => (s, .checked r)
  | .commit request =>
    let p := s.pending.lookup request
    let r := commit D e.order e.now s.store (p.map Pending.checked)
    ({ s with store := r.1 }, .committed p r.2)
  | .mark key expiresAt =>
    let r := mark D e.order e.now s.store key.key expiresAt
    ({ s with store := r.1 }, .marked r.2)

def outcomes : State → List Event → List Outcome
  | _, [] => []
  | s, e :: rest => (step D v s e).2 :: outcomes (step D v s e).1 rest

/-- Each `Commit` happens strictly less than one window after its own `Check`. -/
def Prompt : State → List Event → Prop
  | _, [] => True
  | s, e :: rest =>
    (∀ request p, e.act = .commit request → s.pending.lookup request = some p →
      e.now < p.since + v.iatWindow) ∧ Prompt (step D v s e).1 rest

end

def authorizes (P : ProofID) : Outcome → Bool
  | .committed (some p) (.ok ()) => decide (p.proof = P)
  | _ => false

/-! ### What is pending has been checked -/

section Runs
variable {D : KeyDigest} {v : Verifier} {s : State} {P : ProofID} {e : Event}

def markedUntil (v : Verifier) (iat : ℤ) : Time := unixTime iat + 2 * v.iatWindow

def PendingChecked (v : Verifier) (s : State) : Prop :=
  ∀ request p, s.pending.lookup request = some p →
    p.since ≤ unixTime p.issuedAt + v.iatWindow ∧
      p.checked.replayExpiresAt = markedUntil v p.issuedAt

lemma check_ok {now : Time} {input : VerifyInput} {c : Checked} {p : ParsedProof}
    (h : v.check now input = .ok c) (hp : input.proof = .ok p) :
    now ≤ unixTime p.claims.issuedAt + v.iatWindow ∧
      c.replayExpiresAt = markedUntil v p.claims.issuedAt := by
  unfold Verifier.check at h
  cases hurl : input.url with
  | none =>
    rw [hurl] at h
    cases h
  | some url =>
    rw [hurl, hp] at h
    exact checkParsed_ok h

lemma pendingChecked_step (hs : PendingChecked v s) (e : Event) :
    PendingChecked v (step D v s e).1 := by
  unfold step
  cases e.act with
  | check request input =>
    dsimp only
    split
    · rename_i c p hcheck hproof
      intro request' p' hp'
      rw [State.accept, lookup_insert_ite] at hp'
      split_ifs at hp'
      · cases hp'
        exact check_ok hcheck hproof
      · exact hs request' p' hp'
    · exact hs
  | commit request => exact hs
  | mark key expiresAt => exact hs

/-! ### A marked proof authorizes nothing more -/

def Held (D : KeyDigest) (v : Verifier) (P : ProofID) (s : State) : Prop :=
  s.store.m.lookup (D.hashKey (replayKey P.jkt P.jti)) = some (markedUntil v P.issuedAt)

lemma commitAnswer_eq_ok_iff (r : StoreReply) : commitAnswer r = .ok () ↔ r = .ok () := by
  unfold commitAnswer
  split <;> simp

lemma commitAnswer_eq_replayed_iff (r : StoreReply) :
    commitAnswer r = .error .replayed ↔ r = .error .alreadyConsumed := by
  unfold commitAnswer
  split <;> simp_all

lemma store_step (s : State) (e : Event) :
    (step D v s e).1.store = s.store ∨
      ∃ jti expiresAt, (step D v s e).1.store =
        (mark D e.order e.now s.store jti expiresAt).1 := by
  unfold step
  cases e.act with
  | check request input =>
    dsimp only
    split
    · exact .inl rfl
    · exact .inl rfl
  | commit request =>
    dsimp only
    cases s.pending.lookup request with
    | none => exact .inl rfl
    | some p => exact .inr ⟨_, _, rfl⟩
  | mark key expiresAt => exact .inr ⟨_, _, rfl⟩

lemma held_step (hs : Held D v P s) (hnow : e.now < markedUntil v P.issuedAt) :
    Held D v P (step D v s e).1 := by
  unfold Held at hs ⊢
  obtain hstore | ⟨jti, expiresAt, hstore⟩ := store_step (D := D) (v := v) s e
  · rw [hstore]
    exact hs
  · rw [hstore]
    exact lookup_mark_live hs (isExpiredInclusive_of_lt hnow) jti expiresAt

/-- What a step that authorizes a request was: the commit of a pending proof, which has
left its marker. -/
theorem authorizes_step (hs : PendingChecked v s) (h : authorizes P (step D v s e).2 = true) :
    ∃ request p, e.act = .commit request ∧ s.pending.lookup request = some p ∧ p.proof = P ∧
      (mark D e.order e.now s.store (replayKey P.jkt P.jti) (markedUntil v P.issuedAt)).2 =
        .ok () ∧ Held D v P (step D v s e).1 := by
  unfold step at h ⊢
  cases hact : e.act with
  | check request input =>
    rw [hact] at h
    dsimp only at h
    split at h <;> cases h
  | mark key expiresAt =>
    rw [hact] at h
    cases h
  | commit request =>
    rw [hact] at h
    dsimp only at h ⊢
    cases hp : s.pending.lookup request with
    | none =>
      rw [hp] at h
      cases h
    | some p =>
      rw [hp] at h
      dsimp only [Option.map_some] at h ⊢
      cases hr : (commit D e.order e.now s.store (some p.checked)).2 with
      | error err =>
        rw [hr] at h
        cases h
      | ok u =>
        rw [hr] at h
        have hproof : p.proof = P := of_decide_eq_true h
        subst hproof
        have hmark := (commitAnswer_eq_ok_iff _).mp hr
        rw [(hs request p hp).2] at hmark
        refine ⟨request, p, rfl, hp, rfl, hmark, ?_⟩
        unfold Held commit
        dsimp only
        rw [(hs request p hp).2]
        obtain hfail | ⟨s', hput, hrow, _⟩ := mark_cases D e.order e.now s.store
          (replayKey p.checked.jkt p.checked.jti) (markedUntil v p.issuedAt)
        · rw [hfail] at hmark
          cases hmark
        · rw [hput]
          exact hrow

/-- Once the marker stands, and after it has expired, the proof authorizes no request. -/
theorem no_more_requests (events : List Event) :
    ∀ {s : State}, PendingChecked v s → Prompt D v s events →
      events.Pairwise (fun e e' => e.now ≤ e'.now) →
      Held D v P s ∨ (∀ e ∈ events, markedUntil v P.issuedAt ≤ e.now) →
      (outcomes D v s events).countP (authorizes P) = 0 := by
  induction events with
  | nil =>
    intro s _ _ _ _
    rfl
  | cons e rest ih =>
    intro s hs hprompt hclock hheld
    obtain ⟨hlater, hclock⟩ := List.pairwise_cons.mp hclock
    have hnot : ¬authorizes P (step D v s e).2 = true := by
      intro h
      obtain ⟨request, p, hact, hp, rfl, hmark, _⟩ := authorizes_step hs h
      have hnow : e.now < markedUntil v p.issuedAt := by
        have hprompt := hprompt.1 request p hact hp
        have hsince := (hs request p hp).1
        unfold markedUntil
        linarith
      rcases hheld with hheld | hexpired
      · rw [mark_live _ hheld (isExpiredInclusive_of_lt hnow)] at hmark
        cases hmark
      · exact absurd hnow (not_lt.mpr (hexpired e List.mem_cons_self))
    rw [outcomes, List.countP_cons_of_neg hnot]
    refine ih (pendingChecked_step hs e) hprompt.2 hclock ?_
    rcases lt_or_ge e.now (markedUntil v P.issuedAt) with hnow | hnow
    · exact hheld.imp (fun h => held_step h hnow)
        fun h e' he' => h e' (List.mem_cons_of_mem _ he')
    · exact .inr fun e' he' => hnow.trans (hlater e' he')

lemma authorizes_once (events : List Event) :
    ∀ {s : State}, PendingChecked v s → Prompt D v s events →
      events.Pairwise (fun e e' => e.now ≤ e'.now) →
      (outcomes D v s events).countP (authorizes P) ≤ 1 := by
  induction events with
  | nil =>
    intro s _ _ _
    exact Nat.zero_le 1
  | cons e rest ih =>
    intro s hs hprompt hclock
    obtain ⟨_, hrest⟩ := List.pairwise_cons.mp hclock
    rw [outcomes]
    by_cases h : authorizes P (step D v s e).2 = true
    · obtain ⟨_, _, _, _, _, _, hheld⟩ := authorizes_step hs h
      rw [List.countP_cons_of_pos h,
        no_more_requests rest (pendingChecked_step hs e) hprompt.2 hrest (.inl hheld)]
    · rw [List.countP_cons_of_neg h]
      exact ih (pendingChecked_step hs e) hprompt.2 hrest

/-! ### Only a proof of the same key and identifier stands in the way -/

/-- A request was authorized by a proof of this key and identifier. -/
def Spent (jkt : Thumbprint) (jti : String) (os : List Outcome) : Prop :=
  ∃ q, .committed (some q) (.ok ()) ∈ os ∧ q.checked.jkt = jkt ∧ q.checked.jti = jti

/-- Every marker of a proof in the store was left by a request. -/
def MarkersSpent (D : KeyDigest) (s : State) (earlier : List Outcome) : Prop :=
  ∀ jkt jti, s.store.m.lookup (D.hashKey (replayKey jkt jti)) ≠ none → Spent jkt jti earlier

lemma Spent.append {jkt : Thumbprint} {jti : String} {os : List Outcome}
    (h : Spent jkt jti os) (o : Outcome) : Spent jkt jti (os ++ [o]) := by
  obtain ⟨q, hq, hsame⟩ := h
  exact ⟨q, List.mem_append_left _ hq, hsame⟩

lemma replayKey_not_foreign (key : ForeignKey) (jkt : Thumbprint) (jti : String) :
    replayKey jkt jti ≠ key.key := by
  intro h
  apply key.foreign
  rw [← h, replayKey, String.append_assoc, String.append_assoc, String.toList_append]
  exact List.prefix_append _ _

lemma markersSpent_step (hD : D.Injective) {earlier : List Outcome}
    (hs : MarkersSpent D s earlier) (e : Event) :
    MarkersSpent D (step D v s e).1 (earlier ++ [(step D v s e).2]) := by
  intro jkt jti hrow
  unfold step at hrow ⊢
  cases hact : e.act with
  | check request input =>
    rw [hact] at hrow
    dsimp only at hrow ⊢
    refine (hs jkt jti ?_).append _
    split at hrow <;> exact hrow
  | mark key expiresAt =>
    rw [hact] at hrow
    rcases mem_mark hrow with hrow | ⟨hdigest, _⟩
    · exact (hs jkt jti hrow).append _
    · exact absurd (hD hdigest) (replayKey_not_foreign key jkt jti)
  | commit request =>
    rw [hact] at hrow
    dsimp only at hrow ⊢
    cases hp : s.pending.lookup request with
    | none =>
      rw [hp] at hrow
      exact (hs jkt jti hrow).append _
    | some p =>
      rw [hp] at hrow
      dsimp only [Option.map_some] at hrow ⊢
      rcases mem_mark hrow with hrow | ⟨hdigest, hmark⟩
      · exact (hs jkt jti hrow).append _
      · obtain ⟨rfl, rfl⟩ := replayKey_inj (hD hdigest)
        have hok : (commit D e.order e.now s.store (some p.checked)).2 = .ok () :=
          (commitAnswer_eq_ok_iff _).mpr hmark
        rw [hok]
        exact ⟨p, List.mem_append_right _ (List.mem_singleton_self _), rfl, rfl⟩

lemma replayed_step {p : Pending} (h : (step D v s e).2 = .committed (some p) (.error .replayed)) :
    s.store.m.lookup (D.hashKey (replayKey p.checked.jkt p.checked.jti)) ≠ none := by
  unfold step at h
  cases hact : e.act with
  | check request input =>
    rw [hact] at h
    dsimp only at h
    split at h <;> cases h
  | mark key expiresAt =>
    rw [hact] at h
    cases h
  | commit request =>
    rw [hact] at h
    injection h with hp hr
    rw [hp] at hr
    have hmark := (commitAnswer_eq_replayed_iff _).mp hr
    intro hnone
    unfold mark at hmark
    dsimp only at hmark
    rw [hnone] at hmark
    cases hmark

lemma replayed_spent (hD : D.Injective) (events : List Event) :
    ∀ {s : State} {earlier : List Outcome}, MarkersSpent D s earlier →
      ∀ before p after,
        outcomes D v s events = before ++ .committed (some p) (.error .replayed) :: after →
        Spent p.checked.jkt p.checked.jti (earlier ++ before) := by
  induction events with
  | nil =>
    intro s earlier _ before p after h
    cases before <;> cases h
  | cons e rest ih =>
    intro s earlier hs before p after h
    cases before with
    | nil =>
      rw [List.append_nil]
      exact hs _ _ (replayed_step (List.cons.inj h).1)
    | cons o before =>
      obtain ⟨ho, hrest⟩ := List.cons.inj h
      have hspent := ih (markersSpent_step hD hs e) before p after hrest
      rw [List.append_assoc, ho] at hspent
      exact hspent

end Runs

/-- However the requests interleave, a proof authorizes at most one of them, and a
request is refused as a replay only after one with the same key and identifier was
authorized. -/
theorem proof_authorizes_one_request (D : KeyDigest) (hD : D.Injective)
    (v : Verifier) (events : List Event)
    (hclock : events.Pairwise fun e e' => e.now ≤ e'.now) (hprompt : Prompt D v initial events) :
    (∀ P, (outcomes D v initial events).countP (authorizes P) ≤ 1) ∧
    ∀ before p after,
      outcomes D v initial events = before ++ .committed (some p) (.error .replayed) :: after →
      ∃ q, .committed (some q) (.ok ()) ∈ before ∧
        q.checked.jkt = p.checked.jkt ∧ q.checked.jti = p.checked.jti := by
  have hpending : PendingChecked v initial := by
    intro request p hp
    cases hp
  have hmarkers : MarkersSpent D initial [] := by
    intro jkt jti hrow
    exact absurd (Finmap.lookup_empty _) hrow
  exact ⟨fun P => authorizes_once events hpending hprompt hclock,
    fun before p after h => replayed_spent hD events hmarkers before p after h⟩

/-! ### Two requests with one proof -/

def defaultVerifier : Verifier where
  iatWindow := Time.minute
  positive := by decide
  nonces := false
  looseMethCase := false
  canonicalEqual htu url := decide (htu = url)
  accessTokenHash token := token

def proofKey : Thumbprint where
  text := "k"
  encoded := by
    intro c hc
    have hk : c = 'k' := by simpa using hc
    rw [hk]
    decide

def presented : VerifyInput where
  proof := .ok ⟨⟨"j", "POST", "https://op/token", 1, "", ""⟩, some proofKey⟩
  method := "POST"
  url := some "https://op/token"
  advertisedHTU := []
  accessToken := ""
  validNonce _ := true

/-- Both requests check the proof at the end of its window, and commit it just before
another window has passed. -/
def racing : List Event :=
  let last := unixTime 1 + Time.minute
  [⟨last, ascending, .check 0 presented⟩, ⟨last, ascending, .check 1 presented⟩,
    ⟨last, ascending, .commit 0⟩,
    ⟨last + (Time.minute - 1), ascending, .commit 1⟩]

lemma prompt_racing : Prompt plainDigest defaultVerifier initial racing := by
  refine ⟨?_, ?_, ?_, ?_, trivial⟩
  · exact fun _ _ h => nomatch h
  · exact fun _ _ h => nomatch h
  · intro request p hact hp
    cases hact
    cases hp
    decide
  · intro request p hact hp
    cases hact
    cases hp
    decide

theorem proof_authorizes_one_request_racing :
    (outcomes plainDigest defaultVerifier initial racing).countP (authorizes ⟨proofKey, "j", 1⟩) ≤
        1 ∧
      ∃ q, .committed (some q) (.ok ()) ∈
          (outcomes plainDigest defaultVerifier initial racing).take 3 ∧
        q.checked.jkt = proofKey ∧ q.checked.jti = "j" := by
  obtain ⟨honce, hspent⟩ := proof_authorizes_one_request plainDigest plainDigest_injective
    defaultVerifier racing (by decide) prompt_racing
  exact ⟨honce _, hspent _ ⟨_, 1, ⟨proofKey, "j", _⟩⟩ [] rfl⟩

end OidcProvider.DpopProofs
