import OidcProvider.TokenExchange

/-!
# Which granted exchanges can be issued

The handler checks scope and audience against the request and the registration
before it builds its response, and the dispatcher checks the response against
the registration again. The two agree wherever the handler's response states an
audience. Where it states none, the handler names the client itself as the
audience of the token, which its own checks never saw.
-/
namespace OidcProvider.TokenExchange

open JsonObjects SignedClaims StoreRecords

/-! ## What the handler's gates guarantee -/

lemma ok_of_mapError {E E' A : Type} {x : Except E A} {f : E → E'} {a : A}
    (h : x.mapError f = .ok a) : x = .ok a := by
  cases x with
  | error err => cases h
  | ok b =>
    cases h
    rfl

lemma ok_of_map {E A B : Type} {x : Except E A} {f : A → B} {b : B}
    (h : x.map f = .ok b) : ∃ a, x = .ok a ∧ f a = b := by
  cases x with
  | error err => cases h
  | ok a => exact ⟨a, rfl, Except.ok.inj h⟩

variable {view : TokenView} {now : Time} {client : Client} {raw urn : String} {resp : Response}

namespace Handler
variable {h : Handler} {r : Readings} {req : Request}

/-! ### Lookups -/

lemma lookupSigned_ok {t : SignedToken} {urn : String} (hok : h.lookupSigned now t urn = .ok view) :
    ∃ claims, h.verifier.verify now t.payload = .ok claims ∧
      view = h.jwtView urn claims (extractAct t.payload) := by
  unfold lookupSigned at hok
  cases hverify : h.verifier.verify now t.payload with
  | error err =>
    rw [hverify] at hok
    cases err <;> cases hok
  | ok claims =>
    rw [hverify] at hok
    dsimp only at hok
    cases hrevoked : h.jwtRevoked claims with
    | none => simp [hrevoked] at hok
    | some revoked =>
      cases revoked
      · rw [hrevoked] at hok
        cases hok
        exact ⟨claims, rfl, rfl⟩
      · simp [hrevoked] at hok

lemma lookupIDToken_ok {raw : String} {claims : JsonMap}
    (hparse : h.parse raw = .idToken claims) (hok : h.lookupIDToken now raw = .ok view) :
    ∃ audience, decodeRequiredAudience (rawField "aud" (written claims.members)) = some audience ∧
      view.audience = audience.map h.labels.normalizeLabel ∧
      view.confirmation = confirmationFromCnf (textMapField "cnf" (written claims.members)) := by
  unfold lookupIDToken at hok
  rw [hparse] at hok
  dsimp only at hok
  split at hok
  · next audience hdecoded haudience =>
    split_ifs at hok
    unfold idTokenView at hok
    split_ifs at hok
    obtain ⟨grant, -, rfl⟩ := ok_of_map hok
    exact ⟨audience, haudience, rfl, rfl⟩
  · cases hok

lemma lookupOpaqueAccessToken_ok {raw : String}
    (hok : h.lookupOpaqueAccessToken now raw = .ok view) :
    ∃ lookups rec subject, h.opaqueAccessTokens = some lookups ∧
      lookups.find raw = .ok (some rec) ∧ view = h.opaqueView rec subject := by
  unfold lookupOpaqueAccessToken at hok
  cases hlookups : h.opaqueAccessTokens with
  | none => simp [hlookups] at hok
  | some lookups =>
    rw [hlookups] at hok
    cases hfind : lookups.find raw with
    | error fault => simp [hfind] at hok
    | ok found =>
      cases found with
      | none => simp [hfind] at hok
      | some rec =>
        simp only [hfind] at hok
        split_ifs at hok
        cases hsubject : lookups.publicSubject rec with
        | none => simp [hsubject] at hok
        | some subject =>
          simp only [hsubject] at hok
          cases hok
          exact ⟨lookups, rec, subject, rfl, hfind, rfl⟩

/-- A token that is found is of one of three kinds: a signed access token, an
id_token or a reference. -/
theorem lookupToken_cases (hok : h.lookupToken now raw urn = .ok view) :
    (∃ t, h.parse raw = .accessToken t ∧ h.lookupSigned now t urn = .ok view) ∨
      (∃ claims, h.parse raw = .idToken claims ∧ h.lookupIDToken now raw = .ok view) ∨
      h.parse raw = .reference ∧ h.lookupOpaqueAccessToken now raw = .ok view := by
  unfold lookupToken at hok
  split_ifs at hok with haccess hjwt
  all_goals cases hparse : h.parse raw
  all_goals simp_all [lookupAccessToken, lookupJWT, lookupIDToken]

/-- The audience of a presented token, as it was signed or stored. -/
def ownAudience (h : Handler) (raw : String) : List String :=
  match h.parse raw with
  | .accessToken t => t.claims.audience
  | .idToken claims => (decodeAudience (rawField "aud" (written claims.members))).getD []
  | .unverifiable => []
  | .reference =>
    match h.opaqueAccessTokens with
    | none => []
    | some lookups =>
      match lookups.find raw with
      | .ok (some rec) => if rec.audience = "" then [] else [rec.audience]
      | _ => []

lemma decodeRequiredAudience_some {raw : Option Json} {audience : List String}
    (h : decodeRequiredAudience raw = some audience) :
    decodeAudience raw = some audience ∧ audience ≠ [] := by
  unfold decodeRequiredAudience at h
  split at h
  · next value decoded hdecoded =>
    split_ifs at h with hne
    cases h
    exact ⟨hdecoded, hne.1⟩
  · cases h

lemma audience_ne_of_verify {t : SignedToken} {claims : VerifiedClaims}
    (hok : h.verifier.verify now t.payload = .ok claims) :
    claims.audience ≠ [] ∧ t.claims.audience ≠ [] := by
  obtain ⟨hdecoded, hclaims, -⟩ := AccessTokenVerifier.verify_ok hok
  have hread : claims.audience ≠ [] := by
    intro hnil
    simp [AccessTokenVerifier.requireClaims, hnil] at hclaims
  refine ⟨hread, fun hnil => hread ?_⟩
  have haudience := (decodeAccessTokenClaims_some hdecoded).2.2.2.2
  rw [SignedToken.aud_read, hnil] at haudience
  exact (Option.some.inj haudience).symm

lemma lookupToken_audience (hok : h.lookupToken now raw urn = .ok view) :
    view.audience = [] ↔ h.ownAudience raw = [] := by
  obtain ⟨t, hparse, hok⟩ | ⟨claims, hparse, hok⟩ | ⟨hparse, hok⟩ := lookupToken_cases hok
  · obtain ⟨claims, hverify, rfl⟩ := lookupSigned_ok hok
    obtain ⟨hread, hsigned⟩ := audience_ne_of_verify hverify
    simp [ownAudience, hparse, jwtView, hread, hsigned]
  · obtain ⟨audience, haudience, hview, -⟩ := lookupIDToken_ok hparse hok
    obtain ⟨hdecoded, hne⟩ := decodeRequiredAudience_some haudience
    simp [ownAudience, hparse, hview, hdecoded, hne]
  · obtain ⟨lookups, rec, subject, hlookups, hfind, rfl⟩ := lookupOpaqueAccessToken_ok hok
    by_cases hnone : rec.audience = "" <;>
      simp [ownAudience, hparse, hlookups, hfind, opaqueView, hnone]

/-! ### Gates -/

/-- A token that was let through was found, and the request proved every key it is
bound to. -/
theorem presented_ok (hok : h.presented now req raw urn = .ok view) :
    h.lookupToken now raw urn = .ok view ∧
      requireMatchingSenderConstraint req view = .ok () := by
  obtain ⟨v, hlookup, hok⟩ := ok_of_bind hok
  obtain ⟨_, _, hok⟩ := ok_of_bind hok
  obtain ⟨_, hbound, hok⟩ := ok_of_bind hok
  cases hok
  exact ⟨ok_of_mapError hlookup, hbound⟩

/-- The tokens of a request that passed `parseAndVerify`. -/
structure Verified (h : Handler) (r : Readings) (req : Request) (subjectView : TokenView)
    (actorView : Option TokenView) : Prop where
  subject : ∃ raw urn, requireFormSingle req.form "subject_token" = .ok raw ∧
    requireFormSingle req.form "subject_token_type" = .ok urn ∧
    h.presented r.subjectLookup req raw urn = .ok subjectView
  actor : ∃ actor, extractActorToken req.form = .ok actor ∧
    h.presentedActor r.actorLookup req actor = .ok actorView

lemma parseAndVerify_ok {views : TokenView × Option TokenView}
    (hok : h.parseAndVerify r req = .ok views) : Verified h r req views.1 views.2 := by
  obtain ⟨raw, hraw, hok⟩ := ok_of_bind hok
  obtain ⟨urn, hurn, hok⟩ := ok_of_bind hok
  obtain ⟨_, _, hok⟩ := ok_of_bind hok
  obtain ⟨actor, hactor, hok⟩ := ok_of_bind hok
  obtain ⟨subjectView, hsubject, hok⟩ := ok_of_bind hok
  obtain ⟨actorView, hview, hok⟩ := ok_of_bind hok
  obtain ⟨_, _, hok⟩ := ok_of_bind hok
  cases hok
  exact ⟨⟨raw, urn, hraw, hurn, hsubject⟩, ⟨actor, hactor, hview⟩⟩

/-- What the decision leaves of the request. -/
def grantedBy (h : Handler) (req : Request) (subjectView : TokenView)
    (requestedScope : List String) (decision : Option Decision) : Granted :=
  applyDecision decision requestedScope (h.computeRequestedAudience req.form subjectView)
    (decide (subjectView.type = TokenTypeIDToken))

/-- Everything a granted exchange has passed. -/
structure Passed (h : Handler) (policy : Policy)
    (r : Readings) (req : Request) (subjectView : TokenView) (actorView : Option TokenView)
    (requestedScope : List String) (decision : Option Decision) : Prop where
  verified : Verified h r req subjectView actorView
  remaining : r.remaining < subjectView.expiresAt + h.leeway
  depth : depthOfAct (buildActChain subjectView actorView req.client.id) ≤ MaxActChainDepth
  requested : resolveRequestedScope req subjectView = .ok requestedScope
  scope : subset requestedScope subjectView.scope = true
  audience : h.audienceAllowed (h.computeRequestedAudience req.form subjectView) req.client =
    true
  decided : policy (h.requestView req subjectView actorView requestedScope) = .ok decision
  gates : h.grantGates (h.grantedBy req subjectView requestedScope decision) requestedScope
    (h.computeRequestedAudience req.form subjectView) = .ok ()

/-- The response of a granted exchange, before it joins a lineage. -/
def grantedResponse (h : Handler) (r : Readings) (req : Request) (subjectView : TokenView)
    (actorView : Option TokenView) (g : Granted) : Response :=
  assembleResponse req subjectView g (h.computeTTL g.ttl r.ttl subjectView.expiresAt)
    (buildActChain subjectView actorView req.client.id)

lemma boundedActChain_ok {subjectView : TokenView}
    {actorView : Option TokenView} {chain : Option Act}
    (hok : boundedActChain client subjectView actorView = .ok chain) :
    chain = buildActChain subjectView actorView client.id ∧
      depthOfAct (buildActChain subjectView actorView client.id) ≤ MaxActChainDepth := by
  unfold boundedActChain at hok
  split_ifs at hok with hdepth
  cases hok
  exact ⟨rfl, not_lt.mp hdepth⟩

lemma consultPolicy_ok {policy : Policy} {view : RequestView} {decision : Option Decision}
    (hok : consultPolicy policy view = .ok decision) :
    policy view = .ok decision := by
  unfold consultPolicy at hok
  cases hp : policy view with
  | ok d =>
    rw [hp] at hok
    cases hok
    rfl
  | error err =>
    rw [hp] at hok
    cases err <;> cases hok

lemma exchangeAccessToken_ok {policy : Policy}
    (hok : h.exchangeAccessToken policy r req = .ok resp) :
    ∃ subjectView actorView requestedScope decision lineage,
      Passed h policy r req subjectView actorView requestedScope decision ∧
      resp = joinLineage (h.grantedResponse r req subjectView actorView
        (h.grantedBy req subjectView requestedScope decision)) subjectView lineage := by
  obtain ⟨⟨subjectView, actorView⟩, hviews, hok⟩ := ok_of_bind hok
  obtain ⟨_, hremaining, hok⟩ := ok_of_bind hok
  obtain ⟨chain, hchain, hok⟩ := ok_of_bind hok
  obtain ⟨lineage, _, hok⟩ := ok_of_bind hok
  obtain ⟨requestedScope, hscope, hok⟩ := ok_of_bind hok
  obtain ⟨_, henforce, hok⟩ := ok_of_bind hok
  obtain ⟨decision, hdecided, hok⟩ := ok_of_bind hok
  obtain ⟨built, hbuilt, hok⟩ := ok_of_bind hok
  cases hok
  obtain ⟨_, hsubset, haudience⟩ := ok_of_bind henforce
  obtain ⟨rfl, hdepth⟩ := boundedActChain_ok hchain
  obtain ⟨_, hgates, hbuilt⟩ := ok_of_bind hbuilt
  cases hbuilt
  refine ⟨subjectView, actorView, requestedScope, decision, lineage, ?_, rfl⟩
  exact
    { verified := parseAndVerify_ok hviews
      remaining := (of_decide_eq_true (ensure_ok.mp hremaining)).2
      depth := hdepth
      requested := hscope
      scope := ensure_ok.mp hsubset
      audience := ensure_ok.mp haudience
      decided := consultPolicy_ok hdecided
      gates := hgates }

/-- A response comes from an exchange, or is of the other type and states no access
token to mint. -/
theorem handle_cases (hok : h.handle r req = .ok resp) :
    (∃ policy, h.policy = some policy ∧ h.exchangeAccessToken policy r req = .ok resp) ∨
      (resp.issuedTokenType = TokenTypeIDJAG ∧ resp.boundAccessToken = none) := by
  obtain ⟨requested, _, hok⟩ := ok_of_bind hok
  split_ifs at hok with hidjag
  · right
    cases hbranch : h.handleIDJAG with
    | none => simp [hbranch] at hok
    | some idjag =>
      rw [hbranch] at hok
      exact h.idjag_shape idjag hbranch req resp hok
  · left
    cases hpolicy : h.policy with
    | none => simp [hpolicy] at hok
    | some policy =>
      rw [hpolicy] at hok
      exact ⟨policy, rfl, hok⟩

lemma grantGates_ok {g : Granted} {requestedScope requestedAudience : List String}
    (hok : h.grantGates g requestedScope requestedAudience = .ok ()) :
    g.scope ≠ [] ∧ subset g.scope requestedScope = true ∧
      h.labels.subsetLabel g.audience requestedAudience = true := by
  obtain ⟨_, hne, hok⟩ := ok_of_bind hok
  obtain ⟨_, hscope, hok⟩ := ok_of_bind hok
  exact ⟨of_decide_eq_true (ensure_ok.mp hne), ensure_ok.mp hscope, ensure_ok.mp hok⟩

lemma resolveRequestedScope_ok {subjectView : TokenView} {requestedScope : List String}
    (hok : resolveRequestedScope req subjectView = .ok requestedScope) :
    ∀ s ∈ requestedScope, s ∈ req.client.scopes := by
  unfold resolveRequestedScope at hok
  split_ifs at hok with hnone hsub
  · cases hok
    intro s hs
    exact of_decide_eq_true (List.mem_filter.mp hs).2
  · cases hok
    exact subset_iff.mp (by simpa using hsub)

lemma audienceAllowed_ok {want : List String} (hok : h.audienceAllowed want client = true) :
    h.labels.subsetLabel want client.resources = true := by
  unfold audienceAllowed at hok
  split_ifs at hok with hwant hres
  · rw [hwant]
    rfl
  · exact hok

section
variable {policy : Policy} {subjectView : TokenView}
  {actorView : Option TokenView} {requestedScope : List String} {decision : Option Decision}

lemma Passed.scope_registered (p : Passed h policy r req subjectView actorView
    requestedScope decision) :
    ∀ s ∈ (h.grantedBy req subjectView requestedScope decision).scope,
      s ∈ req.client.scopes := fun s hs =>
  resolveRequestedScope_ok p.requested s (subset_iff.mp (grantGates_ok p.gates).2.1 s hs)

lemma Passed.audience_registered (p : Passed h policy r req subjectView actorView
    requestedScope decision) :
    h.labels.subsetLabel (h.grantedBy req subjectView requestedScope decision).audience
      req.client.resources = true :=
  Labels.subsetLabel_trans (grantGates_ok p.gates).2.2 (audienceAllowed_ok p.audience)

lemma dedupePreserve_eq_nil_iff {labels : List String} :
    dedupePreserve labels = [] ↔ labels = [] := by
  cases labels with
  | nil => simp [dedupePreserve]
  | cons label rest =>
    have hkept : ∀ out : List String, out ≠ [] →
        rest.foldl (fun out s => if s ∈ out then out else out ++ [s]) out ≠ [] := by
      induction rest with
      | nil => exact fun out hout => hout
      | cons s rest ih =>
        intro out hout
        refine ih _ ?_
        dsimp only
        split_ifs
        · exact hout
        · simp
    simpa [dedupePreserve] using hkept [label] (by simp)

/-- The form names an audience or a resource. -/
def NamesAudience (form : Form) : Prop :=
  ∃ v ∈ (form.lookup "audience").getD [] ++ (form.lookup "resource").getD [], v ≠ ""

lemma namedAudience_ne_nil_iff {form : Form} :
    h.namedAudience form ≠ [] ↔ NamesAudience form := by
  rw [namedAudience, ne_eq, List.map_eq_nil_iff, List.filter_eq_nil_iff]
  simp only [decide_eq_true_eq, not_forall, not_not, NamesAudience, exists_prop]

/-- No policy changes whether an audience is granted: that is settled by the form and
the subject token. -/
theorem Passed.audience_ne_nil_iff (p : Passed h policy r req subjectView actorView
    requestedScope decision) :
    (h.grantedBy req subjectView requestedScope decision).audience ≠ [] ↔
      NamesAudience req.form ∨
        ∃ raw, requireFormSingle req.form "subject_token" = .ok raw ∧ h.ownAudience raw ≠ [] := by
  obtain ⟨raw, urn, hraw, -, hpresented⟩ := p.verified.subject
  have hown := lookupToken_audience (presented_ok hpresented).1
  have hsubset := (grantGates_ok p.gates).2.2
  have hgranted : (h.grantedBy req subjectView requestedScope decision).audience = [] ↔
      h.computeRequestedAudience req.form subjectView = [] := by
    unfold grantedBy at hsubset ⊢
    constructor
    · intro hnil
      cases decision with
      | none => exact hnil
      | some d =>
        simp only [applyDecision] at hnil
        split_ifs at hnil with hstated
        · exact absurd hnil hstated
        · exact hnil
    · intro hnil
      rw [hnil] at hsubset
      rw [hnil, List.eq_nil_iff_forall_not_mem]
      intro a ha
      obtain ⟨b, hb, -⟩ := Labels.subsetLabel_iff.mp hsubset a ha
      cases hb
  rw [ne_eq, hgranted, ← namedAudience_ne_nil_iff (h := h), computeRequestedAudience]
  split_ifs with hnamed
  · simp [dedupePreserve_eq_nil_iff, hnamed]
  · simp [dedupePreserve_eq_nil_iff, hnamed, hown, hraw]

end

/-! ### The lifetime -/

lemma boundedTTL_pos (requested now subjectExpiresAt : ℤ) :
    0 < h.boundedTTL requested now subjectExpiresAt := by
  unfold boundedTTL
  split_ifs with hb
  · exact lt_of_lt_of_le (by decide : 0 < minDerivedTTL) (le_max_right _ _)
  · exact not_le.mp fun hle => hb (Or.inl hle)

lemma boundedTTL_le (requested now subjectExpiresAt : ℤ) :
    h.boundedTTL requested now subjectExpiresAt ≤ subjRemaining now subjectExpiresAt := by
  unfold boundedTTL
  split_ifs with hb
  · exact le_refl _
  · exact not_lt.mp fun hlt => hb (Or.inr hlt)

/-- The lifetime granted is positive, within the cap, and within what the subject
token has left or, where that is less, the smallest lifetime. -/
theorem computeTTL_bounds (requested now subjectExpiresAt : ℤ) :
    0 < h.computeTTL requested now subjectExpiresAt ∧
      (0 < h.maxAccessTTL → h.computeTTL requested now subjectExpiresAt ≤ h.maxAccessTTL) ∧
      h.computeTTL requested now subjectExpiresAt ≤ subjRemaining now subjectExpiresAt := by
  have hpos := boundedTTL_pos (h := h) requested now subjectExpiresAt
  have hle := boundedTTL_le (h := h) requested now subjectExpiresAt
  unfold computeTTL
  split_ifs with hcap
  · exact ⟨hcap.1, fun _ => le_refl _, le_of_lt (lt_of_lt_of_le hcap.2 hle)⟩
  · exact ⟨hpos, fun hmax => not_lt.mp fun hlt => hcap ⟨hmax, hlt⟩, hle⟩

end Handler

/-! ## The dispatcher on a granted exchange -/

namespace Dispatcher
variable {d : Dispatcher}

lemma capTTL_eq {ttl : ℤ} (hle : 0 < d.maxAccessTTL → ttl ≤ d.maxAccessTTL) :
    d.capTTL ttl = ttl := by
  unfold capTTL
  split_ifs with hcap
  · exact absurd hcap.2 (not_lt.mpr (hle hcap.1))
  · rfl

lemma capTTL_bounds {ttl : ℤ} (hpos : 0 < ttl) : 0 < d.capTTL ttl ∧ d.capTTL ttl ≤ ttl := by
  unfold capTTL
  split_ifs with hcap
  · exact ⟨hcap.1, hcap.2.le⟩
  · exact ⟨hpos, le_refl _⟩

end Dispatcher

/-- The dispatcher accepts the response and leaves its lifetimes, its scope and its
audiences as they are. -/
def Issuable (d : Dispatcher) (client : Client) (resp : Response) : Prop :=
  ∃ accepted, d.validateResponse client resp = .ok accepted ∧
    accepted.accessTokenTTL = resp.accessTokenTTL ∧ accepted.scope = resp.scope ∧
    accepted.audience = resp.audience ∧
    accepted.boundAccessToken.map BoundAccessToken.ttl =
      resp.boundAccessToken.map BoundAccessToken.ttl ∧
    accepted.boundAccessToken.map BoundAccessToken.audience =
      resp.boundAccessToken.map BoundAccessToken.audience

lemma validateResponse_bound {d : Dispatcher}
    {bound : BoundAccessToken} (hform : resp.accessToken = "")
    (hbound : resp.boundAccessToken = some bound) (htype : resp.issuesAccessToken = true)
    (hpos : 0 < bound.ttl) (hsame : resp.accessTokenTTL = bound.ttl)
    (hcap : 0 < d.maxAccessTTL → bound.ttl ≤ d.maxAccessTTL)
    (hscope : subset resp.scope client.scopes = true)
    (haud : d.labels.subsetLabel resp.audience client.resources = true) :
    d.validateResponse client resp =
      if d.labels.subsetLabel bound.audience client.resources = true then .ok resp
      else .error .audienceNotAllowed := by
  have hshape : d.validateAccessTokenShape resp = .ok resp := by
    have hnonneg : ¬ resp.accessTokenTTL < 0 := by rw [hsame]; exact not_lt.mpr hpos.le
    have hkeep : { resp with accessTokenTTL := d.capTTL resp.accessTokenTTL } = resp := by
      rw [Dispatcher.capTTL_eq (by rwa [hsame])]
    have hone : ¬ (resp.accessToken ≠ "" ∧ resp.boundAccessToken.isSome = true) :=
      fun both => both.1 hform
    have hsome : ¬ (resp.accessToken = "" ∧ resp.boundAccessToken.isNone = true) := by
      simp [hbound]
    unfold Dispatcher.validateAccessTokenShape
    rw [if_neg hone, if_neg hsome, if_neg hnonneg, if_pos htype, hkeep]
  have hregistered : d.validateRegistration client resp = .ok resp := by
    simp [Dispatcher.validateRegistration, htype, hscope, haud]
  have hkeep : { resp with boundAccessToken := some { bound with ttl := d.capTTL bound.ttl } } =
      resp := by
    rw [Dispatcher.capTTL_eq hcap, ← hbound]
  have hboundCheck : d.validateBoundAccessToken client resp =
      if d.labels.subsetLabel bound.audience client.resources = true then .ok resp
      else .error .audienceNotAllowed := by
    unfold Dispatcher.validateBoundAccessToken
    rw [hbound]
    dsimp only
    rw [if_neg (not_lt.mpr hpos.le), hkeep]
    cases d.labels.subsetLabel bound.audience client.resources <;> rfl
  unfold Dispatcher.validateResponse
  rw [hshape]
  simp only [bind, Except.bind]
  rw [hboundCheck]
  split_ifs
  · exact hregistered
  · rfl

/-- What the dispatcher has accepted of a response: its bound access token was
registered for the client, and only lifetimes have changed. -/
theorem validateResponse_ok {d : Dispatcher} {resp accepted : Response}
    (hok : d.validateResponse client resp = .ok accepted) :
    accepted.boundAccessToken =
        resp.boundAccessToken.map (fun bound => { bound with ttl := d.capTTL bound.ttl }) ∧
      accepted.scope = resp.scope ∧ accepted.subject = resp.subject ∧
      ∀ bound ∈ resp.boundAccessToken,
        d.labels.subsetLabel bound.audience client.resources = true := by
  obtain ⟨shaped, hshape, hok⟩ := ok_of_bind hok
  obtain ⟨checked, hcheck, hok⟩ := ok_of_bind hok
  have hshaped : shaped.boundAccessToken = resp.boundAccessToken ∧
      shaped.scope = resp.scope ∧ shaped.subject = resp.subject := by
    unfold Dispatcher.validateAccessTokenShape at hshape
    split_ifs at hshape <;> cases hshape <;> exact ⟨rfl, rfl, rfl⟩
  have hregistered : accepted = checked := by
    unfold Dispatcher.validateRegistration at hok
    split_ifs at hok <;> cases hok <;> rfl
  rw [hregistered, ← hshaped.1, ← hshaped.2.1, ← hshaped.2.2]
  unfold Dispatcher.validateBoundAccessToken at hcheck
  cases hbound : shaped.boundAccessToken with
  | none =>
    rw [hbound] at hcheck
    cases hcheck
    exact ⟨hbound, rfl, rfl, by simp⟩
  | some bound =>
    rw [hbound] at hcheck
    dsimp only at hcheck
    split_ifs at hcheck with hneg haud
    cases hcheck
    refine ⟨rfl, rfl, rfl, ?_⟩
    intro b hb
    cases hb
    simpa using haud

lemma joinLineage_keeps (resp : Response) (subjectView : TokenView) (lineage : Option Grant) :
    (Handler.joinLineage resp subjectView lineage).accessToken = resp.accessToken ∧
      (Handler.joinLineage resp subjectView lineage).boundAccessToken = resp.boundAccessToken ∧
      (Handler.joinLineage resp subjectView lineage).accessTokenTTL = resp.accessTokenTTL ∧
      (Handler.joinLineage resp subjectView lineage).scope = resp.scope ∧
      (Handler.joinLineage resp subjectView lineage).audience = resp.audience := by
  cases lineage <;> exact ⟨rfl, rfl, rfl, rfl, rfl⟩

lemma subsetLabel_boundAudience {labels : Labels} {audience resources : List String}
    (clientID : String) (haudience : labels.subsetLabel audience resources = true) :
    labels.subsetLabel (if audience = [] then [clientID] else audience) resources = true ↔
      audience ≠ [] ∨ labels.containsLabel resources clientID = true := by
  split_ifs with hnone
  · simp [Labels.subsetLabel, hnone]
  · simp [hnone, haudience]

/-- A granted exchange is accepted as it is, unless neither the form nor the subject
token states an audience and the client is not registered as a resource of its own. -/
theorem granted_exchange_issuable_iff (h : Handler) (d : Dispatcher)
    (hlabels : d.labels = h.labels) (hcap : d.maxAccessTTL = h.maxAccessTTL) (r : Readings)
    (req : Request) (resp : Response) (hok : h.handle r req = .ok resp)
    (hissues : resp.issuesAccessToken = true) :
    Issuable d req.client resp ↔
      (Handler.NamesAudience req.form ∨
        ∃ raw, requireFormSingle req.form "subject_token" = .ok raw ∧ h.ownAudience raw ≠ []) ∨
      h.labels.containsLabel req.client.resources req.client.id = true := by
  obtain ⟨policy, _, hexchange⟩ | ⟨htype, _⟩ := Handler.handle_cases hok
  swap
  · rw [Response.issuesAccessToken, htype] at hissues
    exact absurd hissues (by decide +kernel)
  obtain ⟨subjectView, actorView, requestedScope, decision, lineage, passed, hresp⟩ :=
    Handler.exchangeAccessToken_ok hexchange
  rw [← passed.audience_ne_nil_iff]
  have hscope := passed.scope_registered
  have haudience := passed.audience_registered
  obtain ⟨g, hg⟩ : ∃ g, g = h.grantedBy req subjectView requestedScope decision := ⟨_, rfl⟩
  rw [← hg] at hresp hscope haudience ⊢
  obtain ⟨hpos, hmax, -⟩ := Handler.computeTTL_bounds (h := h) g.ttl r.ttl subjectView.expiresAt
  obtain ⟨hform, hbound, httl, hgranted, haud⟩ := joinLineage_keeps
    (h.grantedResponse r req subjectView actorView g) subjectView lineage
  rw [← hresp] at hform hbound httl hgranted haud
  -- The handler's checks cover all the dispatcher asks but the audience of the token.
  have hscope' : subset resp.scope req.client.scopes = true := by
    rw [hgranted]
    exact subset_iff.mpr hscope
  have haudience' : d.labels.subsetLabel resp.audience req.client.resources = true := by
    rw [haud, hlabels]
    exact haudience
  have hvalidate := validateResponse_bound hform hbound hissues hpos httl (by rwa [hcap])
    hscope' haudience'
  rw [hlabels] at hvalidate
  refine Iff.trans ?_ (subsetLabel_boundAudience req.client.id haudience)
  constructor
  · rintro ⟨accepted, haccepted, -⟩
    by_contra hnot
    rw [hvalidate, if_neg hnot] at haccepted
    cases haccepted
  · intro hallowed
    exact ⟨resp, by rw [hvalidate, if_pos hallowed], rfl, rfl, rfl, rfl, rfl⟩

section Example

/-- Labels that are logical names, compared as they are written. -/
def plainLabels : Labels where
  canonicalize raw := if raw = "" then .error .empty else .error .notAbsolute

/-- An opaque token of the client `web` without an audience. -/
def referenceToken : OpaqueAccessToken where
  id := "ref"
  grantID := ""
  subject := "alice"
  clientID := "web"
  scope := ["read"]
  audience := ""
  acr := ""
  amr := []
  authTime := 0
  authorizationDetails := []
  claims := default
  authorizationRecorded := true
  dpopJKT := ""
  mtlsCertThumbprint := ""
  chainID := ""
  issuedAt := 0
  expiresAt := 1000 * Time.second
  revoked := false

def permissive (parse : String → Presented) : Handler where
  labels := plainLabels
  policy := some fun _ => .ok none
  handleIDJAG := none
  issuer := "op"
  leeway := 60 * Time.second
  maxAccessTTL := 300 * Time.second
  requireJTI := false
  parse := parse
  jwtRevoked := fun _ => some false
  opaqueAccessTokens := some ⟨fun _ => .ok (some referenceToken), fun rec => some rec.subject⟩
  grants := none
  leeway_pos := by decide
  idjag_shape := by simp

def web : Client where
  id := "web"
  scopes := ["read"]
  resources := ["api"]
  grantTypes := [GrantType]

def readAt (now : Time) : Readings := ⟨now, now, now, now, now⟩

/-- The exchange of the reference token, with or without a stated audience. -/
def referenceRequest (audience : List String) : Request where
  client := web
  form := [("subject_token", ["ref"]), ("subject_token_type", [TokenTypeAccessToken]),
    ("audience", audience)]
  dpopJKT := ""
  dpopJTI := ""
  mtlsCert := none
  requestedScope := []

def refHandler : Handler := permissive fun _ => .reference

def refDispatcher : Dispatcher := ⟨plainLabels, 300 * Time.second⟩

def refResponse (audience bound : List String) : Response where
  accessToken := ""
  boundAccessToken := some ⟨"alice", bound, 300 * Time.second, .empty⟩
  accessTokenTTL := 300 * Time.second
  subject := "alice"
  scope := ["read"]
  audience := audience
  issuedTokenType := TokenTypeAccessToken
  issueIDToken := false
  issueRefreshToken := false
  authTime := 0
  extraClaims := .empty
  grantID := ""
  grantSubject := ""
  grantIssuedAt := 0

/-- With the audience stated, the exchange is granted and issued. -/
theorem granted_exchange_issuable_iff_stated :
    refHandler.handle (readAt 0) (referenceRequest ["api"]) = .ok (refResponse ["api"] ["api"]) ∧
      Issuable refDispatcher web (refResponse ["api"] ["api"]) := by
  have hok : refHandler.handle (readAt 0) (referenceRequest ["api"]) =
      .ok (refResponse ["api"] ["api"]) := rfl
  have hissuable := granted_exchange_issuable_iff refHandler refDispatcher rfl rfl (readAt 0)
    (referenceRequest ["api"]) (refResponse ["api"] ["api"]) hok (by decide +kernel)
  exact ⟨hok, hissuable.mpr (Or.inl (Or.inl ⟨"api", by decide +kernel, by decide⟩))⟩

/-- Without one the handler grants the exchange of a token that states none either,
and the dispatcher refuses the audience the handler has filled in. -/
theorem granted_exchange_refused :
    refDispatcher.maxAccessTTL = refHandler.maxAccessTTL ∧
      refHandler.handle (readAt 0) (referenceRequest []) = .ok (refResponse [] ["web"]) ∧
      (refResponse [] ["web"]).issuesAccessToken = true ∧
      refDispatcher.validateResponse web (refResponse [] ["web"]) =
        .error .audienceNotAllowed :=
  ⟨rfl, rfl, by decide +kernel, rfl⟩

end Example

end OidcProvider.TokenExchange
