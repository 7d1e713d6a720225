import OidcProvider.ReplayMarkers
import OidcProvider.TransactionalStores

/-!
# Assertions

`private_key_jwt` client assertions (`internal/clientauth/assertion.go`) and the assertions
of the jwt-bearer grant (`internal/assertiongrant/verify.go`). A request validates the
assertion on the verifier's clock, and marks its jti later on the store's clock, where the
marker lives until the assertion's expiry and leeway have passed. Nothing bounds the time
between the two. Parsing, keys and signatures are given with the request, and so is the
outcome of the redemption rules of an ID-JAG, which look at no clock.
-/
namespace OidcProvider.ClientAssertions
open FiniteMaps StoreRecords SingleUseStores TransactionalStores DpopProofs ReplayMarkers

/-- The stages of the jwt-bearer verifier. -/
inductive Reason where
  | parse
  | issuer
  | typ
  | signature
  | claims
  | idJAG
  | replay
  deriving DecidableEq

inductive AssertionError where
  | missingFields
  | malformed
  | credentialsInvalid
  | replayed
  | rejected (reason : Reason)
  | keySourceUnavailable
  | store (err : StoreError)
  deriving DecidableEq

abbrev maxAssertionLifetime : ℤ := 5 * Time.minute
abbrev defaultAssertionLeeway : ℤ := 60 * Time.second

abbrev maxJTILen : ℕ := 256

/-! ### Client assertions -/

structure AssertionClaims where
  issuer : String
  subject : String
  audience : List String
  /-- The audience was one JSON string. -/
  audIsString : Bool
  jti : String
  issuedAt : ℤ
  notBefore : ℤ
  expiresAt : ℤ
  deriving DecidableEq

structure PrivateKeyJWTVerifier where
  audience : String
  auxAudiences : List String
  singleStringAudience : Bool
  leeway : ℤ

/-- What a marking step spends. -/
structure Ticket (α : Type) where
  assertion : α
  key : String
  expiresAt : Time

namespace PrivateKeyJWTVerifier
variable (v : PrivateKeyJWTVerifier)

def leewayInForce : ℤ := if v.leeway ≤ 0 then defaultAssertionLeeway else v.leeway

def acceptedAudiences (audIsString : Bool) : List String :=
  if v.singleStringAudience then if !audIsString then [] else [v.audience]
  else v.audience :: v.auxAudiences

end PrivateKeyJWTVerifier

def audienceMatchesAny (aud expected : List String) : Bool :=
  expected.any fun e => decide (e ≠ "") && aud.contains e

def validateAssertionClaims (claims : AssertionClaims) (clientID : String)
    (acceptedAud : List String) (now : Time) (leeway : ℤ) : Except AssertionError Unit :=
  if claims.issuer ≠ clientID ∨ claims.subject ≠ clientID then .error .malformed
  else if !audienceMatchesAny claims.audience acceptedAud then .error .malformed
  else if claims.expiresAt = 0 then .error .malformed
  else if ¬ now - leeway < unixTime claims.expiresAt then .error .malformed
  else if now + maxAssertionLifetime < unixTime claims.expiresAt then .error .malformed
  else if claims.issuedAt ≠ 0 ∧ now + leeway < unixTime claims.issuedAt then .error .malformed
  else if claims.notBefore ≠ 0 ∧ now + leeway < unixTime claims.notBefore then .error .malformed
  else .ok ()

def assertionReplayKey (clientID jti : String) : Except AssertionError String :=
  if jti = "" ∨ maxJTILen < jti.utf8ByteSize then .error .malformed
  else .ok (replayKey "clientassertion:" clientID jti)

def assertionJTIExpiry (claims : AssertionClaims) (now : Time) (leeway : ℤ) : Time :=
  let expiresAt := unixTime claims.expiresAt + leeway
  let maxRetain := now + (maxAssertionLifetime + leeway)
  if maxRetain < expiresAt then maxRetain else expiresAt

structure ClientPresentation where
  clientID : String
  /-- The outcome of parsing, of the algorithm gates and of the signature, under the keys
  the client has at the moment. -/
  authentic : Except AssertionError Unit
  claims : AssertionClaims

/-- `PrivateKeyJWTVerifier.Verify` before it marks. -/
def PrivateKeyJWTVerifier.validate (v : PrivateKeyJWTVerifier) (now : Time)
    (p : ClientPresentation) : Except AssertionError (Ticket AssertionClaims) :=
  if v.audience = "" then .error .missingFields
  else do
    p.authentic
    validateAssertionClaims p.claims p.clientID (v.acceptedAudiences p.claims.audIsString) now
      v.leewayInForce
    let key ← assertionReplayKey p.clientID p.claims.jti
    .ok ⟨p.claims, key, assertionJTIExpiry p.claims now v.leewayInForce⟩

/-! ### jwt-bearer assertions -/

inductive Profile where
  | jwt
  | idJAG
  deriving DecidableEq

inductive Typ where
  | absent
  | notString
  | text (typ : String)
  deriving DecidableEq

/-- What `numericDate` makes of a member. -/
inductive NumericDate where
  | absent
  | invalid
  | instant (t : Time)
  deriving DecidableEq

structure BearerAssertion where
  issuer : String
  typ : Typ
  /-- The members that are strings. -/
  subject : Option String
  jti : Option String
  /-- What `jose.DecodeAudience` reads. -/
  audience : Option (List String)
  expiresAt : NumericDate
  notBefore : NumericDate
  issuedAt : NumericDate
  deriving DecidableEq

structure BearerVerifier where
  issuers : String → Option Profile
  opIssuer : String
  tokenURL : String

def checkTyp : Profile → Typ → Bool
  | .idJAG, .text typ =>
    decide (typ = "oauth-id-jag+jwt") || decide (typ = "application/" ++ "oauth-id-jag+jwt")
  | .idJAG, _ => false
  | .jwt, .absent => true
  | .jwt, .text typ => equalFold typ "JWT"
  | .jwt, .notString => false

namespace BearerVerifier
variable (v : BearerVerifier)

def audienceAccepted (profile : Profile) (aud : List String) : Bool :=
  match profile with
  | .idJAG => decide (aud = [v.opIssuer])
  | .jwt => aud.any fun a =>
    decide (a = v.opIssuer) || decide (v.tokenURL ≠ "") && decide (a = v.tokenURL)

end BearerVerifier

def checkExp (exp : NumericDate) (now : Time) : Option Time :=
  match exp with
  | .instant t =>
    if ¬ now - defaultAssertionLeeway < t then none
    else if now + (maxAssertionLifetime + defaultAssertionLeeway) < t then none
    else some t
  | _ => none

def checkNotBefore (nbf : NumericDate) (now : Time) : Bool :=
  match nbf with
  | .absent => true
  | .invalid => false
  | .instant t => !decide (now + defaultAssertionLeeway < t)

def checkIssuedAt (iat : NumericDate) (profile : Profile) (now : Time) : Bool :=
  match iat with
  | .absent => decide (profile ≠ .idJAG)
  | .invalid => false
  | .instant t => !decide (now + defaultAssertionLeeway < t)

/-- `checkClaims`; it leaves the expiry. -/
def BearerVerifier.checkClaims (v : BearerVerifier) (profile : Profile) (b : BearerAssertion)
    (now : Time) : Option Time :=
  if b.subject.getD "" = "" then none
  else match b.audience with
    | none => none
    | some aud =>
      if !v.audienceAccepted profile aud then none
      else match checkExp b.expiresAt now with
        | none => none
        | some exp =>
          if checkNotBefore b.notBefore now && checkIssuedAt b.issuedAt profile now then
            some exp
          else none

structure BearerPresentation where
  /-- The outcome of `jose.ParseSigned`. -/
  parsed : Except AssertionError Unit
  /-- The outcome of the signature under the issuer's keys. -/
  signature : Except AssertionError Unit
  /-- The outcome of `checkIDJAG` for the client of the request. -/
  redemption : Except AssertionError Unit
  assertion : BearerAssertion

/-- The rules for redeeming an ID-JAG bind that profile only. -/
def BearerPresentation.redeemable (p : BearerPresentation) (profile : Profile) :
    Except AssertionError Unit :=
  if profile = .idJAG then p.redemption else .ok ()

/-- The replay stage of `Verifier.Verify`: the shape of the jti. -/
def BearerAssertion.ticket (b : BearerAssertion) (exp : Time) :
    Except AssertionError (Ticket BearerAssertion) :=
  let jti := b.jti.getD ""
  if jti = "" ∨ maxJTILen < jti.utf8ByteSize then .error (.rejected .replay)
  else .ok ⟨b, replayKey "jwtbearer:" b.issuer jti, exp + defaultAssertionLeeway⟩

/-- `Verifier.Verify` from the signature on. -/
def BearerVerifier.verifyFrom (v : BearerVerifier) (now : Time) (p : BearerPresentation)
    (profile : Profile) : Except AssertionError (Ticket BearerAssertion) := do
  p.signature
  match v.checkClaims profile p.assertion now with
  | none => .error (.rejected .claims)
  | some exp => do
      p.redeemable profile
      p.assertion.ticket exp

/-- `Verifier.Verify`. -/
def BearerVerifier.validate (v : BearerVerifier) (now : Time) (p : BearerPresentation) :
    Except AssertionError (Ticket BearerAssertion) := do
  p.parsed
  if p.assertion.issuer = "" then .error (.rejected .issuer)
  else match v.issuers p.assertion.issuer with
    | none => .error (.rejected .issuer)
    | some profile =>
      if !checkTyp profile p.assertion.typ then .error (.rejected .typ)
      else v.verifyFrom now p profile

/-! ### Requests that interleave -/

structure Verifiers where
  client : PrivateKeyJWTVerifier
  bearer : BearerVerifier

inductive Assertion where
  | client (claims : AssertionClaims)
  | bearer (assertion : BearerAssertion)
  deriving DecidableEq

inductive Presentation where
  | client (p : ClientPresentation)
  | bearer (p : BearerPresentation)

/-- What tells assertions apart: their kind, who issued them, and the jti. -/
inductive Owner where
  | client (clientID jti : String)
  | issuer (name jti : String)
  deriving DecidableEq

def Assertion.owner : Assertion → Owner
  | .client claims => .client claims.issuer claims.jti
  | .bearer b => .issuer b.issuer (b.jti.getD "")

def Owner.key : Owner → String
  | .client clientID jti => replayKey "clientassertion:" clientID jti
  | .issuer name jti => replayKey "jwtbearer:" name jti

def Verifiers.markedUntil (vs : Verifiers) : Assertion → Time
  | .client claims => unixTime claims.expiresAt + vs.client.leewayInForce
  | .bearer b =>
    match b.expiresAt with
    | .instant exp => exp + defaultAssertionLeeway
    | _ => 0

def Verifiers.validate (vs : Verifiers) (now : Time) :
    Presentation → Except AssertionError (Ticket Assertion)
  | .client p => (vs.client.validate now p).map fun τ => ⟨.client τ.assertion, τ.key, τ.expiresAt⟩
  | .bearer p => (vs.bearer.validate now p).map fun τ => ⟨.bearer τ.assertion, τ.key, τ.expiresAt⟩

/-- What the verifiers make of the answer of `Mark`. -/
def markAnswer (a : Assertion) : StoreReply → Except AssertionError Unit
  | .ok () => .ok ()
  | .error .alreadyConsumed =>
    match a with
    | .client _ => .error .replayed
    | .bearer _ => .error (.rejected .replay)
  | .error err => .error (.store err)

structure State where
  store : JTIStore
  tickets : FiniteMap ℕ (Ticket Assertion)

def initial : State := ⟨newRecordStore Time, ∅⟩

/-- A key of the other users of the store. -/
structure ForeignKey where
  key : String
  foreign : ∀ owner : Owner, key ≠ owner.key

inductive Act where
  | validate (request : ℕ) (p : Presentation)
  | mark (request : ℕ)
  | other (key : ForeignKey) (expiresAt : Time)

structure Event where
  now : Time
  order : KeyOrder
  act : Act

inductive Outcome where
  | validated (result : Except AssertionError (Ticket Assertion))
  | marked (ticket : Option (Ticket Assertion)) (result : Except AssertionError Unit)
  | other (result : StoreReply)

section System
variable (D : KeyDigest) (vs : Verifiers)

def step (σ : State) (e : Event) : State × Outcome :=
  match e.act with
  | .validate request p =>
    match vs.validate e.now p with
    | .ok τ => ({ σ with tickets := σ.tickets.insert request τ }, .validated (.ok τ))
    | .error err => (σ, .validated (.error err))
  | .mark request =>
    match σ.tickets.lookup request with
    | none => (σ, .marked none (.error .malformed))
    | some τ =>
      let r := mark D e.order e.now σ.store τ.key τ.expiresAt
      (⟨r.1, σ.tickets.erase request⟩, .marked (some τ) (markAnswer τ.assertion r.2))
  | .other key expiresAt =>
    let r := mark D e.order e.now σ.store key.key expiresAt
    ({ σ with store := r.1 }, .other r.2)

def outcomes (σ : State) (events : List Event) : List Outcome := (run (step D vs) σ events).2

/-- Whoever presents `a` marks it before its expiry and leeway have passed. -/
def InTime (a : Assertion) : State → List Event → Prop :=
  Along (step D vs) fun σ e => ∀ request τ, e.act = .mark request →
    σ.tickets.lookup request = some τ → τ.assertion = a → e.now < vs.markedUntil a

lemma outcomes_cons (σ : State) (e : Event) (events : List Event) :
    outcomes D vs σ (e :: events) =
      (step D vs σ e).2 :: outcomes D vs (step D vs σ e).1 events := rfl

end System

def passes (a : Assertion) : Outcome → Bool
  | .marked (some τ) (.ok ()) => decide (τ.assertion = a)
  | _ => false

/-! ### What validation leaves -/

variable {τ : Ticket BearerAssertion} {now exp : Time} {vs : Verifiers}

/-- The expiry is close enough for the clamp not to bite. -/
theorem assertionJTIExpiry_eq {claims : AssertionClaims} {leeway : ℤ}
    (h : ¬ now + maxAssertionLifetime < unixTime claims.expiresAt) :
    assertionJTIExpiry claims now leeway = unixTime claims.expiresAt + leeway := by
  unfold assertionJTIExpiry
  rw [if_neg]
  linarith

lemma validateAssertionClaims_ok {claims : AssertionClaims} {clientID : String}
    {aud : List String} {leeway : ℤ}
    (h : validateAssertionClaims claims clientID aud now leeway = .ok ()) :
    claims.issuer = clientID ∧ now < unixTime claims.expiresAt + leeway ∧
      ¬ now + maxAssertionLifetime < unixTime claims.expiresAt := by
  unfold validateAssertionClaims at h
  split_ifs at h with hparty haud hzero hexpired hfar hiat hnbf
  refine ⟨?_, ?_, hfar⟩
  · by_contra hne
    exact hparty (.inl hne)
  · linarith

lemma assertionReplayKey_ok {clientID jti key : String}
    (h : assertionReplayKey clientID jti = .ok key) :
    key = replayKey "clientassertion:" clientID jti := by
  unfold assertionReplayKey at h
  split_ifs at h
  exact (Except.ok.inj h).symm

/-- A ticket is made out to its assertion, and is valid when it is made. -/
structure Issued (vs : Verifiers) (now : Time) (τ : Ticket Assertion) : Prop where
  key : τ.key = τ.assertion.owner.key
  expiresAt : τ.expiresAt = vs.markedUntil τ.assertion
  live : now < vs.markedUntil τ.assertion

lemma client_issued {p : ClientPresentation} {τ : Ticket AssertionClaims}
    (h : vs.client.validate now p = .ok τ) :
    Issued vs now ⟨.client τ.assertion, τ.key, τ.expiresAt⟩ := by
  unfold PrivateKeyJWTVerifier.validate at h
  split_ifs at h
  obtain ⟨_, -, h⟩ := ok_of_bind h
  obtain ⟨_, hclaims, h⟩ := ok_of_bind h
  obtain ⟨key, hkey, h⟩ := ok_of_bind h
  cases h
  obtain ⟨hissuer, hlive, hnear⟩ := validateAssertionClaims_ok hclaims
  refine ⟨?_, assertionJTIExpiry_eq hnear, hlive⟩
  rw [assertionReplayKey_ok hkey, ← hissuer]
  rfl

lemma checkExp_some {date : NumericDate} (h : checkExp date now = some exp) :
    date = .instant exp ∧ now < exp + defaultAssertionLeeway := by
  cases date with
  | absent => cases h
  | invalid => cases h
  | instant t =>
    unfold checkExp at h
    dsimp only at h
    split_ifs at h with hexpired hfar
    cases h
    exact ⟨rfl, by linarith⟩

lemma checkClaims_some {v : BearerVerifier} {profile : Profile} {b : BearerAssertion}
    (h : v.checkClaims profile b now = some exp) :
    b.expiresAt = .instant exp ∧ now < exp + defaultAssertionLeeway := by
  unfold BearerVerifier.checkClaims at h
  by_cases hsub : b.subject.getD "" = ""
  · simp [hsub] at h
  cases haud : b.audience with
  | none => simp [haud] at h
  | some aud =>
    simp only [hsub, haud, if_false] at h
    cases hexp : checkExp b.expiresAt now with
    | none => simp [hexp] at h
    | some t =>
      simp only [hexp] at h
      split_ifs at h
      cases h
      exact checkExp_some hexp

lemma ticket_ok {b : BearerAssertion} (h : b.ticket exp = .ok τ) :
    τ = ⟨b, replayKey "jwtbearer:" b.issuer (b.jti.getD ""), exp + defaultAssertionLeeway⟩ := by
  unfold BearerAssertion.ticket at h
  dsimp only at h
  split_ifs at h
  exact (Except.ok.inj h).symm

lemma verifyFrom_issued {p : BearerPresentation} {profile : Profile}
    (h : vs.bearer.verifyFrom now p profile = .ok τ) :
    Issued vs now ⟨.bearer τ.assertion, τ.key, τ.expiresAt⟩ := by
  obtain ⟨_, -, h⟩ := ok_of_bind h
  cases hclaims : vs.bearer.checkClaims profile p.assertion now with
  | none => simp [hclaims] at h
  | some exp =>
    simp only [hclaims] at h
    obtain ⟨_, -, h⟩ := ok_of_bind h
    cases ticket_ok h
    obtain ⟨hexp, hlive⟩ := checkClaims_some hclaims
    refine ⟨rfl, ?_, ?_⟩
    · simp [Verifiers.markedUntil, hexp]
    · simpa [Verifiers.markedUntil, hexp] using hlive

lemma bearer_issued {p : BearerPresentation} (h : vs.bearer.validate now p = .ok τ) :
    Issued vs now ⟨.bearer τ.assertion, τ.key, τ.expiresAt⟩ := by
  obtain ⟨_, -, h⟩ := ok_of_bind h
  by_cases hissuer : p.assertion.issuer = ""
  · simp [hissuer] at h
  cases hprofile : vs.bearer.issuers p.assertion.issuer with
  | none => simp [hissuer, hprofile] at h
  | some profile =>
    simp only [hissuer, hprofile, if_false] at h
    split_ifs at h
    exact verifyFrom_issued h

variable {τ : Ticket Assertion}

lemma validate_issued {p : Presentation} (h : vs.validate now p = .ok τ) :
    Issued vs now τ := by
  cases p with
  | client p =>
    cases hp : vs.client.validate now p with
    | error err => simp [Verifiers.validate, hp, Except.map] at h
    | ok ticket =>
      simp only [Verifiers.validate, hp, Except.map] at h
      cases h
      exact client_issued hp
  | bearer p =>
    cases hp : vs.bearer.validate now p with
    | error err => simp [Verifiers.validate, hp, Except.map] at h
    | ok ticket =>
      simp only [Verifiers.validate, hp, Except.map] at h
      cases h
      exact bearer_issued hp

lemma owner_key_injective : Function.Injective Owner.key := by
  intro o o' h
  cases o with
  | client clientID jti =>
    cases o' with
    | client clientID' jti' =>
      obtain ⟨rfl, rfl⟩ := replayKey_pair h
      rfl
    | issuer name jti' =>
      exact absurd h (replayKey_scope_ne [] rfl rfl (by decide) _ _ _ _)
  | issuer name jti =>
    cases o' with
    | client clientID jti' =>
      exact absurd h (replayKey_scope_ne [] rfl rfl (by decide) _ _ _ _)
    | issuer name' jti' =>
      obtain ⟨rfl, rfl⟩ := replayKey_pair h
      rfl

/-! ### Runs -/

section Runs
variable {D : KeyDigest} {vs : Verifiers} {ledger ledger' : List Marker} {σ : State}
  {events : List Event} {e : Event} {o : Outcome} {a : Assertion} {t : Time} {m : Marker}

def Verifiers.marker (vs : Verifiers) (a : Assertion) : Marker := ⟨a.owner.key, vs.markedUntil a⟩

/-- Every ticket is made out to its assertion. -/
def Ticketed (vs : Verifiers) (σ : State) : Prop :=
  ∀ request τ, σ.tickets.lookup request = some τ →
    (⟨τ.key, τ.expiresAt⟩ : Marker) = vs.marker τ.assertion

/-- What an event does to the ledger, and what comes of it. -/
inductive Effect (vs : Verifiers) (σ : State) (e : Event) (ledger : List Marker) :
    List Marker → Outcome → Prop
  | validated (result) : Effect vs σ e ledger ledger (.validated result)
  | untaken (result) : Effect vs σ e ledger ledger (.marked none result)
  | marked (request τ) : e.act = .mark request → σ.tickets.lookup request = some τ →
      Effect vs σ e ledger (enterMarker e.now ledger (vs.marker τ.assertion)).1
        (.marked (some τ) (markAnswer τ.assertion
          (enterMarker e.now ledger (vs.marker τ.assertion)).2))
  | other (key : ForeignKey) (expiresAt result) :
      Effect vs σ e ledger (enterMarker e.now ledger ⟨key.key, expiresAt⟩).1 (.other result)

lemma ticketed_step (h : Ticketed vs σ) (e : Event) : Ticketed vs (step D vs σ e).1 := by
  cases hact : e.act with
  | validate request p =>
    cases hp : vs.validate e.now p with
    | error err => simpa only [step, hact, hp] using h
    | ok τ =>
      have hissued := validate_issued hp
      intro request' τ' hτ'
      simp only [step, hact, hp, lookup_insert_ite] at hτ'
      split_ifs at hτ'
      · cases hτ'
        rw [hissued.key, hissued.expiresAt]
        rfl
      · exact h request' τ' hτ'
  | mark request =>
    cases hticket : σ.tickets.lookup request with
    | none => simpa only [step, hact, hticket] using h
    | some τ =>
      intro request' τ' hτ'
      simp only [step, hact, hticket, lookup_erase_ite] at hτ'
      split_ifs at hτ'
      exact h request' τ' hτ'
  | other key expiresAt =>
    simp only [step, hact]
    exact h

lemma step_effect (hD : D.Injective) (hrecords : Records D t σ.store ledger)
    (hticketed : Ticketed vs σ) (hle : t ≤ e.now) :
    ∃ ledger', Records D e.now (step D vs σ e).1.store ledger' ∧
      Effect vs σ e ledger ledger' (step D vs σ e).2 := by
  have hlater := hrecords.later hle
  cases hact : e.act with
  | validate request p =>
    cases hp : vs.validate e.now p with
    | error err => exact ⟨ledger, by simpa only [step, hact, hp] using ⟨hlater, .validated _⟩⟩
    | ok τ => exact ⟨ledger, by simpa only [step, hact, hp] using ⟨hlater, .validated _⟩⟩
  | mark request =>
    cases hticket : σ.tickets.lookup request with
    | none => exact ⟨ledger, by simpa only [step, hact, hticket] using ⟨hlater, .untaken _⟩⟩
    | some τ =>
      have hmarker := hticketed request τ hticket
      obtain ⟨hanswer, hkept⟩ :=
        mark_refines hD hrecords hle e.order (⟨τ.key, τ.expiresAt⟩ : Marker)
      refine ⟨_, by simpa only [step, hact, hticket] using hkept, ?_⟩
      simp only [step, hact, hticket]
      rw [hanswer, hmarker]
      exact .marked request τ hact hticket
  | other key expiresAt =>
    obtain ⟨-, hkept⟩ := mark_refines hD hrecords hle e.order (⟨key.key, expiresAt⟩ : Marker)
    refine ⟨_, by simpa only [step, hact] using hkept, ?_⟩
    simp only [step, hact]
    exact .other key expiresAt _

lemma mem_enterMarker (m' : Marker) (h : m ∈ ledger) : m ∈ (enterMarker now ledger m').1 := by
  unfold enterMarker
  split_ifs
  · exact h
  · exact List.mem_cons_of_mem m' h

lemma mem_effect (h : Effect vs σ e ledger ledger' o) (hm : m ∈ ledger) : m ∈ ledger' := by
  cases h with
  | validated result => exact hm
  | untaken result => exact hm
  | marked request τ hact hticket => exact mem_enterMarker _ hm
  | other key expiresAt result => exact mem_enterMarker _ hm

lemma markAnswer_eq_ok_iff (a : Assertion) (r : StoreReply) :
    markAnswer a r = .ok () ↔ r = .ok () := by
  unfold markAnswer
  split <;> cases a <;> simp

lemma enterMarker_ok_iff (now : Time) (ledger : List Marker) (m : Marker) :
    (enterMarker now ledger m).2 = .ok () ↔ blocked ledger m.key now = false := by
  unfold enterMarker
  split_ifs with h <;> simp [h]

lemma passes_effect (h : Effect vs σ e ledger ledger' o) (hpass : passes a o = true) :
    vs.marker a ∈ ledger' ∧ blocked ledger a.owner.key e.now = false ∧
      ∃ request τ, e.act = .mark request ∧ σ.tickets.lookup request = some τ ∧
        τ.assertion = a := by
  cases h with
  | validated result => cases hpass
  | untaken result => cases hpass
  | other key expiresAt result => cases hpass
  | marked request τ hact hticket =>
    cases hanswer : markAnswer τ.assertion
        (enterMarker e.now ledger (vs.marker τ.assertion)).2 with
    | error err =>
      rw [hanswer] at hpass
      cases hpass
    | ok u =>
      rw [hanswer] at hpass
      have hassertion : τ.assertion = a := of_decide_eq_true hpass
      subst hassertion
      have hfree := (enterMarker_ok_iff _ _ _).mp ((markAnswer_eq_ok_iff _ _).mp hanswer)
      refine ⟨?_, hfree, request, τ, hact, hticket, rfl⟩
      simp [enterMarker, hfree]

lemma no_more_passes (hD : D.Injective) (hrecords : Records D t σ.store ledger)
    (hticketed : Ticketed vs σ) (hclock : ClockedFrom Event.now t events)
    (htime : InTime D vs a σ events) (hspent : vs.marker a ∈ ledger) :
    (outcomes D vs σ events).countP (passes a) = 0 := by
  induction events generalizing t σ ledger with
  | nil => rfl
  | cons e events ih =>
    obtain ⟨ledger', hrecords', heffect⟩ := step_effect hD hrecords hticketed hclock.1
    have hrest := ih hrecords' (ticketed_step hticketed e) hclock.2 htime.2
      (mem_effect heffect hspent)
    have hnot : ¬ passes a (step D vs σ e).2 = true := by
      intro hpass
      obtain ⟨-, hfree, request, τ, hact, hticket, hassertion⟩ := passes_effect heffect hpass
      have hlive := isExpiredInclusive_of_lt (htime.1 request τ hact hticket hassertion)
      rw [Bool.eq_false_iff, ne_eq, blocked_iff] at hfree
      exact hfree ⟨vs.marker a, hspent, rfl, hlive⟩
    rw [outcomes_cons, List.countP_cons_of_neg hnot, hrest]

lemma passes_once (hD : D.Injective) (hrecords : Records D t σ.store ledger)
    (hticketed : Ticketed vs σ) (hclock : ClockedFrom Event.now t events)
    (htime : InTime D vs a σ events) : (outcomes D vs σ events).countP (passes a) ≤ 1 := by
  induction events generalizing t σ ledger with
  | nil => exact Nat.zero_le 1
  | cons e events ih =>
    obtain ⟨ledger', hrecords', heffect⟩ := step_effect hD hrecords hticketed hclock.1
    have hticketed' := ticketed_step (D := D) hticketed e
    rw [outcomes_cons]
    by_cases hpass : passes a (step D vs σ e).2 = true
    · rw [List.countP_cons_of_pos hpass, no_more_passes hD hrecords' hticketed' hclock.2
        htime.2 (passes_effect heffect hpass).1]
    · rw [List.countP_cons_of_neg hpass]
      exact ih hrecords' hticketed' hclock.2 htime.2

/-- Where the markers of an owner come from: they were there, or a pass left them. -/
theorem effect_mem (h : Effect vs σ e ledger ledger' o) (hm : m ∈ ledger') {owner : Owner}
    (howner : m.key = owner.key) :
    m ∈ ledger ∨ ∃ τ, o = .marked (some τ) (.ok ()) ∧ τ.assertion.owner = owner := by
  cases h with
  | validated result => exact .inl hm
  | untaken result => exact .inl hm
  | other key expiresAt result =>
    unfold enterMarker at hm
    split_ifs at hm
    · exact .inl hm
    · rcases List.mem_cons.mp hm with rfl | hm
      · exact absurd howner (key.foreign owner)
      · exact .inl hm
  | marked request τ hact hticket =>
    unfold enterMarker at hm ⊢
    split_ifs at hm ⊢
    · exact .inl hm
    · rcases List.mem_cons.mp hm with rfl | hm
      · exact .inr ⟨τ, rfl, owner_key_injective howner⟩
      · exact .inl hm

lemma refused_effect (h : Effect vs σ e ledger ledger' o)
    {err : AssertionError} (ho : o = .marked (some τ) (.error err)) :
    blocked ledger τ.assertion.owner.key e.now = true := by
  cases h with
  | validated result => cases ho
  | untaken result => cases ho
  | other key expiresAt result => cases ho
  | marked request τ' hact hticket =>
    injection ho with hτ hanswer
    cases hτ
    by_contra hfree
    have hok := (enterMarker_ok_iff e.now ledger (vs.marker τ.assertion)).mpr
      (Bool.eq_false_iff.mpr hfree)
    rw [hok] at hanswer
    cases hanswer

lemma refused_spent (hD : D.Injective) (hrecords : Records D t σ.store ledger)
    (hticketed : Ticketed vs σ) (hclock : ClockedFrom Event.now t events)
    {before after : List Outcome} {err : AssertionError}
    (h : outcomes D vs σ events = before ++ .marked (some τ) (.error err) :: after) :
    (∃ m ∈ ledger, m.key = τ.assertion.owner.key) ∨
      ∃ τ', .marked (some τ') (.ok ()) ∈ before ∧ τ'.assertion.owner = τ.assertion.owner := by
  induction events generalizing t σ ledger before with
  | nil => simp [outcomes, run] at h
  | cons e events ih =>
    obtain ⟨ledger', hrecords', heffect⟩ := step_effect hD hrecords hticketed hclock.1
    cases before with
    | nil =>
      have hblocked := refused_effect heffect (List.cons.inj h).1
      obtain ⟨m, hm, hkey, -⟩ := (blocked_iff _ _ _).mp hblocked
      exact .inl ⟨m, hm, hkey⟩
    | cons o before =>
      obtain ⟨ho, hrest⟩ := List.cons.inj h
      rcases ih hrecords' (ticketed_step hticketed e) hclock.2 hrest with
        ⟨m, hm, hkey⟩ | ⟨τ', hτ', howner⟩
      · rcases effect_mem heffect hm hkey with hold | ⟨τ', hpassed, howner⟩
        · exact .inl ⟨m, hold, hkey⟩
        · refine .inr ⟨τ', ?_, howner⟩
          rw [← hpassed, ho]
          exact List.mem_cons_self
      · exact .inr ⟨τ', List.mem_cons_of_mem o hτ', howner⟩

end Runs

/-- An assertion whose marking steps come in time passes once; and a marking step is refused
only to who has spent the same jti before. -/
theorem assertion_spent_once (D : KeyDigest) (hD : D.Injective) (vs : Verifiers)
    (t : Time) (events : List Event) (hclock : ClockedFrom Event.now t events) :
    (∀ a, InTime D vs a initial events →
      (outcomes D vs initial events).countP (passes a) ≤ 1) ∧
    ∀ before τ err after,
      outcomes D vs initial events = before ++ .marked (some τ) (.error err) :: after →
      ∃ τ', .marked (some τ') (.ok ()) ∈ before ∧ τ'.assertion.owner = τ.assertion.owner := by
  have hrecords : Records D t initial.store [] := records_new D t
  have hticketed : Ticketed vs initial := by
    intro request τ hτ
    cases hτ
  refine ⟨fun a htime => passes_once hD hrecords hticketed hclock htime, ?_⟩
  intro before τ err after h
  rcases refused_spent hD hrecords hticketed hclock h with ⟨m, hm, -⟩ | hspent
  · cases hm
  · exact hspent

/-! ### Two requests with one assertion -/

def opVerifiers : Verifiers where
  client := ⟨"https://op/token", [], false, 0⟩
  bearer := ⟨fun _ => none, "https://op", ""⟩

def webAssertion : AssertionClaims :=
  ⟨"web", "web", ["https://op/token"], true, "j", 0, 0, 100⟩

def presentAssertion (request : ℕ) : Act :=
  .validate request (.client ⟨"web", .ok (), webAssertion⟩)

/-- Both requests validate the assertion at once. The second one marks it at `late`. -/
def racingAssertions (late : Time) : List Event :=
  [⟨unixTime 50, ascending, presentAssertion 0⟩,
    ⟨unixTime 50, ascending, presentAssertion 1⟩,
    ⟨unixTime 51, ascending, .mark 0⟩, ⟨late, ascending, .mark 1⟩]

def racingOutcomes (late : Time) : List Outcome :=
  outcomes plainDigest opVerifiers initial (racingAssertions late)

theorem assertion_spent_once_racing :
    (racingOutcomes (unixTime 160 - 1)).countP (passes (.client webAssertion)) ≤ 1 := by
  refine (assertion_spent_once plainDigest plainDigest_injective opVerifiers (unixTime 50)
    (racingAssertions (unixTime 160 - 1)) ?_).1 _ ?_
  · simp [ClockedFrom, racingAssertions, unixTime]
  · refine ⟨?_, ?_, ?_, ?_, trivial⟩
    · intro request τ hact
      cases hact
    · intro request τ hact
      cases hact
    · intro request τ hact hτ _
      cases hact
      decide
    · intro request τ hact hτ _
      cases hact
      decide

/-- The marker has expired when the second request comes to mark. -/
theorem late_mark_spends_again :
    ClockedFrom Event.now (unixTime 50) (racingAssertions (unixTime 160)) ∧
      (racingOutcomes (unixTime 160)).countP (passes (.client webAssertion)) = 2 := by
  refine ⟨?_, by decide +kernel⟩
  simp [ClockedFrom, racingAssertions, unixTime]

end OidcProvider.ClientAssertions
