import OidcProvider.ExchangeIssuance
import Mathlib.Tactic.Linarith

/-!
# Chains of token exchanges

In a chain of exchanges each subject token is the access token that the exchange
before it has issued. Two things are asked of such chains: how long the tokens
live, and what becomes of the rights and of the record of actors. Both follow
from what one exchange does to the claims of its subject token.

The life of a chain is not bounded by its source. A token is accepted until the
leeway after its expiry has passed, and the token derived from it in that time
has an expiry, and a leeway, of its own.

The record of actors rests on the name of the `act` claim. A claim whose name
differs from it in letter case is not reserved, and is read as the `act` claim.
-/
namespace OidcProvider.TokenExchange

open JsonObjects SignedClaims StoreRecords

/-! ## Chains -/

/-- One exchange: the endpoint with its stores and its policy at the time, the
readings of its clock, what it drew and the request. -/
structure Link where
  endpoint : Endpoint
  readings : Readings
  drawn : Drawn
  input : DispatchInput

namespace Link

def handler (l : Link) : Handler := l.endpoint.handler

/-- The request presents the token as a JWT access token. -/
def Presents (l : Link) (t : SignedToken) : Prop :=
  ∃ raw urn, requireFormSingle l.input.form "subject_token" = .ok raw ∧
    requireFormSingle l.input.form "subject_token_type" = .ok urn ∧
    (urn = TokenTypeAccessToken ∨ urn = TokenTypeJWT) ∧ l.handler.parse raw = .accessToken t

structure Exchanges (l : Link) (t t' : SignedToken) : Prop where
  presents : l.Presents t
  issued : exchange l.endpoint l.readings l.drawn l.input = .ok (some t')

end Link

/-- A relation between the subject token and the issued token holds at every link. -/
def Along (P : Link → SignedToken → SignedToken → Prop) :
    SignedToken → List (Link × SignedToken) → Prop
  | _, [] => True
  | t, (l, t') :: rest => P l t t' ∧ Along P t' rest

variable {t : SignedToken} {chain : List (Link × SignedToken)} {form kept : Form} {l : Link}

/-- What holds of the first token and is kept by every link holds of all tokens,
and lets a second relation be shown link by link. -/
theorem Along.mono {P Q : Link → SignedToken → SignedToken → Prop} {I : SignedToken → Prop}
    (step : ∀ l t t', I t → P l t t' → I t' ∧ Q l t t') (ht : I t) (h : Along P t chain) :
    Along Q t chain ∧ ∀ s ∈ chain, I s.2 := by
  induction chain generalizing t with
  | nil => exact ⟨trivial, by simp⟩
  | cons s rest ih =>
    obtain ⟨l, t'⟩ := s
    obtain ⟨hI, hQ⟩ := step l t t' ht h.1
    obtain ⟨hrest, hall⟩ := ih hI h.2
    refine ⟨⟨hQ, hrest⟩, ?_⟩
    intro s hs
    rcases List.mem_cons.mp hs with rfl | hs
    · exact hI
    · exact hall s hs

/-! ## One exchange -/

section
variable (hok : Dispatcher.filterForm form = .ok kept)
include hok

lemma filterForm_lookup {key : String} (hkey : Dispatcher.isImplicitFormParameter key = false) :
    kept.lookup key = form.lookup key := by
  induction form generalizing kept with
  | nil =>
    cases hok
    rfl
  | cons entry rest ih =>
    obtain ⟨name, values⟩ := entry
    unfold Dispatcher.filterForm at hok
    split_ifs at hok with himplicit
    · have hne : (key == name) = false := by
        rw [beq_eq_false_iff_ne]
        rintro rfl
        rw [himplicit] at hkey
        cases hkey
      rw [ih hok, List.lookup_cons, hne]
    · obtain ⟨_, _, hok⟩ := ok_of_bind hok
      obtain ⟨kept', hkept, hok⟩ := ok_of_bind hok
      cases hok
      rw [List.lookup_cons, List.lookup_cons, ih hkept]

lemma requireFormSingle_filter {key : String}
    (hkey : Dispatcher.isImplicitFormParameter key = false) :
    requireFormSingle kept key = requireFormSingle form key := by
  unfold requireFormSingle
  rw [filterForm_lookup hok hkey]

end

lemma mintBound_claims {e : Endpoint} {i : DispatchInput} {now : Time} {drawn : Drawn}
    {resp : Response} {bound : BoundAccessToken}
    (hok : mintBound e i now drawn resp bound = .ok t) :
    t.claims = mintClaims e i now drawn resp bound := by
  obtain ⟨_, _, hok⟩ := ok_of_bind hok
  exact signAccessToken_claims (ok_of_mapError hok)

lemma exchange_ok {e : Endpoint} {r : Readings} {drawn : Drawn} {i : DispatchInput}
    (hok : exchange e r drawn i = .ok (some t)) :
    ∃ form resp accepted bound, Dispatcher.filterForm i.form = .ok form ∧
      e.handler.handle r (i.request form) = .ok resp ∧
      e.dispatcher.validateResponse i.client resp = .ok accepted ∧
      accepted.boundAccessToken = some bound ∧
      t.claims = mintClaims e i r.mint drawn accepted bound := by
  obtain ⟨accepted, hattempt, hok⟩ := ok_of_bind hok
  obtain ⟨_, _, hok⟩ := ok_of_bind hok
  obtain ⟨_, _, hok⟩ := ok_of_bind hok
  obtain ⟨issued, hissued, hok⟩ := ok_of_bind hok
  obtain ⟨_, _, hok⟩ := ok_of_bind hok
  cases hok
  have hattempt := ok_of_mapError hattempt
  obtain ⟨_, _, hattempt⟩ := ok_of_bind hattempt
  obtain ⟨form, hform, hattempt⟩ := ok_of_bind hattempt
  obtain ⟨resp, hresp, hvalid⟩ := ok_of_bind hattempt
  unfold resolveCustomGrantAccessToken at hissued
  cases hbound : accepted.boundAccessToken with
  | none => simp [hbound] at hissued
  | some bound =>
    rw [hbound] at hissued
    obtain ⟨minted, hminted, heq⟩ := ok_of_map hissued
    cases heq
    exact ⟨form, resp, accepted, bound, hform, ok_of_mapError hresp, hvalid, hbound,
      mintBound_claims hminted⟩

structure Derived (l : Link) (t t' : SignedToken) (req : Request) (subjectView : TokenView)
    (actorView : Option TokenView) (requestedScope : List String)
    (decision : Option Decision) (g : Handler.Granted) : Prop where
  filtered : Dispatcher.filterForm l.input.form = .ok req.form
  request : req = l.input.request req.form
  read : ∃ urn claims, decodeAccessTokenClaims t.payload = some claims ∧
    subjectView = l.handler.jwtView urn claims (extractAct t.payload)
  passed : ∃ policy, l.handler.policy = some policy ∧
    Handler.Passed l.handler policy l.readings req subjectView actorView requestedScope decision
  granted : g = l.handler.grantedBy req subjectView requestedScope decision
  scope : t'.claims.scope = g.scope
  audience : l.endpoint.dispatcher.labels.subsetLabel t'.claims.audience
    l.input.client.resources = true
  extra : t'.claims.extra = Handler.stampAct (Handler.filterReservedClaims g.extras)
    (buildActChain subjectView actorView l.input.client.id)
  expiry : ∃ ttl, ttl ≤ l.handler.computeTTL g.ttl l.readings.ttl subjectView.expiresAt ∧
    t'.claims.expiresAt = expiresIn l.readings.mint ttl

lemma Link.Presents.read (hp : l.Presents t) {form : Form}
    (hform : Dispatcher.filterForm l.input.form = .ok form) {subjectView : TokenView}
    {actorView : Option TokenView}
    (hv : Handler.Verified l.handler l.readings (l.input.request form) subjectView actorView) :
    ∃ urn claims, decodeAccessTokenClaims t.payload = some claims ∧
      subjectView = l.handler.jwtView urn claims (extractAct t.payload) ∧
      requireMatchingSenderConstraint (l.input.request form) subjectView = .ok () := by
  obtain ⟨raw, urn, hraw, hurn, htype, hparse⟩ := hp
  obtain ⟨raw', urn', hraw', hurn', hpresented⟩ := hv.subject
  rw [show (l.input.request form).form = form from rfl,
    requireFormSingle_filter hform (by decide +kernel), hraw] at hraw'
  rw [show (l.input.request form).form = form from rfl,
    requireFormSingle_filter hform (by decide +kernel), hurn] at hurn'
  cases hraw'
  cases hurn'
  obtain ⟨hlookup, hbound⟩ := Handler.presented_ok hpresented
  obtain ⟨t', hparse', hsigned⟩ | ⟨_, hparse', _⟩ | ⟨hparse', _⟩ :=
    Handler.lookupToken_cases hlookup
  all_goals
    rw [hparse] at hparse'
    cases hparse'
  obtain ⟨claims, hverify, hview⟩ := Handler.lookupSigned_ok hsigned
  exact ⟨urn, claims, (AccessTokenVerifier.verify_ok hverify).1, hview, hbound⟩

variable {t t' : SignedToken}

lemma Link.Exchanges.derived (hx : l.Exchanges t t') :
    ∃ req subjectView actorView requestedScope decision g,
      Derived l t t' req subjectView actorView requestedScope decision g := by
  obtain ⟨form, resp, accepted, bound, hform, hhandle, hvalid, hbound, hclaims⟩ :=
    exchange_ok hx.issued
  obtain ⟨hcapped, hscope, -, haudience⟩ := validateResponse_ok hvalid
  rw [hbound] at hcapped
  obtain ⟨stated, hstated, hcap⟩ := Option.map_eq_some_iff.mp hcapped.symm
  obtain ⟨policy, hpolicy, hexchange⟩ | ⟨-, hnone⟩ := Handler.handle_cases hhandle
  swap
  · rw [hnone] at hstated
    cases hstated
  obtain ⟨subjectView, actorView, requestedScope, decision, lineage, passed, hresp⟩ :=
    Handler.exchangeAccessToken_ok hexchange
  obtain ⟨g, hg⟩ : ∃ g, g = l.handler.grantedBy (l.input.request form) subjectView
      requestedScope decision := ⟨_, rfl⟩
  obtain ⟨-, hjoined, -, hjoinedScope, -⟩ := joinLineage_keeps
    (l.handler.grantedResponse l.readings (l.input.request form) subjectView actorView g)
    subjectView lineage
  have hresp' : resp = Handler.joinLineage (l.handler.grantedResponse l.readings
      (l.input.request form) subjectView actorView g) subjectView lineage := by
    rw [hg]
    exact hresp
  rw [← hresp'] at hjoined hjoinedScope
  have hstatedEq := hjoined.symm.trans hstated
  cases hstatedEq
  have hregistered := haudience _ hstated
  obtain ⟨hpos, -, -⟩ := Handler.computeTTL_bounds (h := l.handler) g.ttl l.readings.ttl
    subjectView.expiresAt
  obtain ⟨hcapPos, hcapLe⟩ := Dispatcher.capTTL_bounds (d := l.endpoint.dispatcher) hpos
  obtain ⟨urn, claims, hdecoded, hview, -⟩ := hx.presents.read hform passed.verified
  have hne : (if g.audience = [] then [l.input.client.id] else g.audience) ≠ [] := by
    split_ifs with hnil
    · simp
    · exact hnil
  refine ⟨l.input.request form, subjectView, actorView, requestedScope, decision, g, ?_⟩
  exact
    { filtered := hform
      request := rfl
      read := ⟨urn, claims, hdecoded, hview⟩
      passed := ⟨policy, hpolicy, passed⟩
      granted := hg
      scope := by
        rw [hclaims]
        exact hscope.trans hjoinedScope
      audience := by
        have hminted : t'.claims.audience = bound.audience := by
          rw [hclaims, ← hcap]
          exact if_pos hne
        rw [hminted, ← hcap]
        exact hregistered
      extra := by
        rw [hclaims, ← hcap]
        rfl
      expiry := by
        refine ⟨_, hcapLe, ?_⟩
        rw [hclaims, ← hcap]
        exact congrArg (expiresIn l.readings.mint) (if_pos hcapPos) }

/-! ## The life of the tokens of a chain -/

def expiry (t : SignedToken) : Time := t.claims.expiresAt * Time.second

/-- An issued token outlives its subject token by at most the time between the two
readings, or else lives for the smallest lifetime. -/
theorem Link.Exchanges.expiry_le (hx : l.Exchanges t t') :
    expiry t' ≤ l.readings.mint + max (expiry t - l.readings.ttl) Handler.minDerivedTTL := by
  obtain ⟨req, subjectView, actorView, requestedScope, decision, g, hd⟩ := hx.derived
  obtain ⟨urn, claims, hdecoded, hview⟩ := hd.read
  have hexp : subjectView.expiresAt = expiry t := by
    rw [hview, Handler.jwtView_expiresAt, (decodeAccessTokenClaims_some hdecoded).1,
      SignedToken.exp_read, expiry]
  obtain ⟨ttl, httl, hminted⟩ := hd.expiry
  obtain ⟨-, -, hremaining⟩ := Handler.computeTTL_bounds (h := l.handler) g.ttl l.readings.ttl
    subjectView.expiresAt
  have hfloor : expiry t' ≤ l.readings.mint + ttl := by
    unfold expiry
    rw [hminted]
    exact Int.ediv_mul_le _ (by decide)
  rw [hexp] at httl hremaining
  unfold Handler.subjRemaining at hremaining
  linarith

/-- The exchange states and stamps the lifetime under one reading of the clock, at
least a second before the given instant. -/
def Link.PromptBy (l : Link) (latest : Time) : Prop :=
  l.readings.mint = l.readings.ttl ∧ l.readings.mint + Time.second ≤ latest

lemma Link.Exchanges.expiry_le_of_prompt {latest : Time}
    (hx : l.Exchanges t t') (hprompt : l.PromptBy latest) (ht : expiry t ≤ latest) :
    expiry t' ≤ latest := by
  have hle := hx.expiry_le
  obtain ⟨hsame, hlatest⟩ := hprompt
  rw [hsame] at hle hlatest
  unfold Handler.minDerivedTTL at hle
  rcases max_cases (expiry t - l.readings.ttl) Time.second with ⟨hmax, -⟩ | ⟨hmax, -⟩ <;>
    linarith

/-- In a chain of prompt exchanges every token expires by the instant they keep to. -/
theorem expiry_le_of_promptBy {latest : Time} (hchain : Along Link.Exchanges t chain)
    (hprompt : ∀ s ∈ chain, s.1.PromptBy latest) (hstart : expiry t ≤ latest) :
    ∀ s ∈ chain, expiry s.2 ≤ latest := by
  induction chain generalizing t with
  | nil => simp
  | cons s rest ih =>
    obtain ⟨l, t'⟩ := s
    have ht' : expiry t' ≤ latest :=
      hchain.1.expiry_le_of_prompt (hprompt (l, t') (by simp)) hstart
    intro s hs
    rcases List.mem_cons.mp hs with rfl | hs
    · exact ht'
    · exact ih hchain.2 (fun s hs => hprompt s (List.mem_cons_of_mem _ hs)) ht' s hs

def ChainWith (leeway : ℤ) : SignedToken → List (Link × SignedToken) → Prop :=
  Along fun l t t' => l.handler.leeway = leeway ∧ l.Exchanges t t'

lemma ChainWith.exchanges {leeway : ℤ} (h : ChainWith leeway t chain) :
    Along Link.Exchanges t chain :=
  (Along.mono (I := fun _ => True) (fun _ _ _ _ hl => ⟨trivial, hl.2⟩) trivial h).1

/-- In a chain whose exchanges all take place a second before the source itself is
refused, or earlier, every token expires by the end of that time, and is refused
once another leeway has passed. -/
theorem chain_expiry_bounded (leeway : ℤ) (hleeway : 0 < leeway) (t : SignedToken)
    (chain : List (Link × SignedToken)) (hchain : ChainWith leeway t chain)
    (hprompt : ∀ s ∈ chain, s.1.PromptBy (expiry t + leeway)) :
    ∀ s ∈ chain, expiry s.2 ≤ expiry t + leeway ∧
      ∀ v : AccessTokenVerifier, v.leeway = leeway → ∀ now claims,
        v.verify now s.2.payload = .ok claims → now ≤ expiry t + leeway + leeway := by
  have hstart : expiry t ≤ expiry t + leeway := by linarith
  intro s hs
  have hle := expiry_le_of_promptBy hchain.exchanges hprompt hstart s hs
  refine ⟨hle, ?_⟩
  intro v hv now claims hverify
  obtain ⟨hdecoded, -, hnow⟩ := AccessTokenVerifier.verify_ok hverify
  rw [(decodeAccessTokenClaims_some hdecoded).1, SignedToken.exp_read, hv] at hnow
  change now ≤ expiry s.2 + leeway at hnow
  linarith

section Renewal

/-- A token of the client `web` for the resource `api` that expires at the given
second. -/
def webToken (issuedAt expiresAt : ℤ) : SignedToken where
  claims :=
    { issuer := "op"
      subject := "alice"
      audience := ["api"]
      clientID := "web"
      issuedAt := issuedAt
      expiresAt := expiresAt
      jti := "jti"
      scope := ["read"]
      authTime := 0
      acr := ""
      amr := []
      confirmation := ⟨"", ""⟩
      grantID := "g"
      authorizationDetails := []
      userInfoClaims := none
      extra := .empty }
  subject_ne := by simp
  uncollided := rfl

/-- The client exchanges its own token, every reading of the clock being `now`. -/
def renewal (t : SignedToken) (now : Time) : Link where
  endpoint :=
    { handler := permissive fun _ => .accessToken t
      dispatcher := refDispatcher
      issuer := "op"
      accessTokenTTL := 300 * Time.second
      scopeAllowed := fun _ _ => true
      subjectLive := fun _ => true
      closedToIssuance := fun _ _ => false }
  readings := readAt now
  drawn := ⟨"jti", "g"⟩
  input :=
    { client := web
      form := [("subject_token", ["token"]), ("subject_token_type", [TokenTypeAccessToken])]
      dpopJKT := ""
      dpopJTI := ""
      mtlsCert := none }

lemma renewal_presents (t : SignedToken) (now : Time) : (renewal t now).Presents t :=
  ⟨"token", TokenTypeAccessToken, rfl, rfl, Or.inl rfl, rfl⟩

/-- Two exchanges in the leeway of the source, which expires at second 1000. -/
theorem chain_expiry_bounded_renewed :
    ∃ chain, ChainWith (60 * Time.second) (webToken 900 1000) chain ∧
      chain.map (fun s => (s.1.readings.mint, expiry s.2)) =
        [(1030 * Time.second, 1031 * Time.second), (1050 * Time.second, 1051 * Time.second)] ∧
      ∀ s ∈ chain, expiry s.2 ≤ 1060 * Time.second ∧
        ∀ v : AccessTokenVerifier, v.leeway = 60 * Time.second → ∀ now claims,
          v.verify now s.2.payload = .ok claims → now ≤ 1120 * Time.second := by
  have hchain : ChainWith (60 * Time.second) (webToken 900 1000)
      [(renewal (webToken 900 1000) (1030 * Time.second), webToken 1030 1031),
        (renewal (webToken 1030 1031) (1050 * Time.second), webToken 1050 1051)] :=
    ⟨⟨rfl, renewal_presents _ _, rfl⟩, ⟨rfl, renewal_presents _ _, rfl⟩, trivial⟩
  have hprompt : ∀ s ∈ [(renewal (webToken 900 1000) (1030 * Time.second), webToken 1030 1031),
      (renewal (webToken 1030 1031) (1050 * Time.second), webToken 1050 1051)],
      s.1.PromptBy (expiry (webToken 900 1000) + 60 * Time.second) := by
    intro s hs
    rcases List.mem_pair.mp hs with rfl | rfl
    · exact ⟨rfl, by decide⟩
    · exact ⟨rfl, by decide⟩
  exact ⟨_, hchain, rfl,
    chain_expiry_bounded (60 * Time.second) (by decide) (webToken 900 1000) _ hchain hprompt⟩

/-- Two exchanges, each a second before its subject token is refused, end in a token
that expires two minutes after the source, where the leeway is one minute. -/
theorem chain_outlives_its_source :
    ∃ chain, ChainWith (60 * Time.second) (webToken 900 1000) chain ∧
      ∃ s ∈ chain, expiry (webToken 900 1000) + 60 * Time.second + Time.second < expiry s.2 := by
  refine ⟨[(renewal (webToken 900 1000) (1059 * Time.second), webToken 1059 1060),
    (renewal (webToken 1059 1060) (1119 * Time.second), webToken 1119 1120)],
    ⟨⟨rfl, renewal_presents _ _, rfl⟩, ⟨rfl, renewal_presents _ _, rfl⟩, trivial⟩, ?_⟩
  exact ⟨_, List.mem_cons_of_mem _ (List.mem_singleton.mpr rfl), by decide⟩

end Renewal

end OidcProvider.TokenExchange
