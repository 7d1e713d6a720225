import OidcProvider.SignedClaims

/-!
# Token exchange

`tokenexchange.Handler.Handle`, the dispatcher that judges its response
(`customgrant.Dispatcher`) and the mint behind them
(`tokenendpoint.issueCustomGrantTokens`), for requests that ask for an access
token. The ID-JAG branch issues a credential of another type and is a parameter,
as are the stores, the embedder's policy and the syntax of tokens and resource
indicators. Audit records are left out.
-/
namespace OidcProvider.TokenExchange

open JsonObjects SignedClaims StoreRecords

/-! ## Audience labels -/

inductive CanonError where
  | empty
  | fragment
  | parse
  | notAbsolute
  | userinfo
  deriving DecidableEq

/-- `resourceindicator.Canonicalize`, as given. -/
structure Labels where
  canonicalize : String → Except CanonError String

namespace Labels
variable (L : Labels)

/-- `labelKey`: what a comparison keys on, if the label may match at all. -/
def labelKey (raw : String) : Option String :=
  match L.canonicalize raw with
  | .ok canon => some canon
  | .error .fragment | .error .userinfo | .error .empty => none
  | .error _ => some raw

def normalizeLabel (raw : String) : String :=
  match L.canonicalize raw with
  | .ok canon => canon
  | .error _ => raw

def containsLabel (set : List String) (raw : String) : Bool :=
  match L.labelKey raw with
  | none => false
  | some key => set.any fun candidate => decide (L.labelKey candidate = some key)

/-- `SubsetLabel`, with its two ways of searching the allowed labels. -/
def subsetLabel : List String → List String → Bool
  | [], _ => true
  | [w], allowed => L.containsLabel allowed w
  | want, allowed =>
    want.all fun v =>
      match L.labelKey v with
      | none => false
      | some key => decide (key ∈ allowed.filterMap L.labelKey)

def EqualLabel (a b : String) : Prop := ∃ key, L.labelKey a = some key ∧ L.labelKey b = some key

variable {L}

lemma containsLabel_iff {set : List String} {raw : String} :
    L.containsLabel set raw = true ↔ ∃ a ∈ set, L.EqualLabel raw a := by
  unfold containsLabel EqualLabel
  cases L.labelKey raw <;> simp

/-- The two searches agree: every wanted label equals an allowed one. -/
theorem subsetLabel_iff {want allowed : List String} :
    L.subsetLabel want allowed = true ↔ ∀ v ∈ want, ∃ a ∈ allowed, L.EqualLabel v a := by
  match want with
  | [] => simp [subsetLabel]
  | [w] => simp [subsetLabel, containsLabel_iff]
  | v :: w :: rest =>
    simp only [subsetLabel, List.all_eq_true]
    refine forall₂_congr fun x _ => ?_
    unfold EqualLabel
    cases L.labelKey x <;> simp

lemma EqualLabel.trans {a b c : String} (hab : L.EqualLabel a b) (hbc : L.EqualLabel b c) :
    L.EqualLabel a c := by
  obtain ⟨key, ha, hb⟩ := hab
  obtain ⟨key', hb', hc⟩ := hbc
  have hkey : key = key' := Option.some.inj (hb.symm.trans hb')
  exact ⟨key, ha, hkey ▸ hc⟩

lemma subsetLabel_trans {xs ys zs : List String} (hxy : L.subsetLabel xs ys = true)
    (hyz : L.subsetLabel ys zs = true) : L.subsetLabel xs zs = true := by
  rw [subsetLabel_iff] at hxy hyz ⊢
  intro x hx
  obtain ⟨y, hy, hxy⟩ := hxy x hx
  obtain ⟨z, hz, hyz⟩ := hyz y hy
  exact ⟨z, hz, hxy.trans hyz⟩

end Labels

/-! ## Scopes -/

def subset (granted allowed : List String) : Bool :=
  granted.all fun s => decide (s ∈ allowed)

lemma subset_iff {granted allowed : List String} :
    subset granted allowed = true ↔ ∀ s ∈ granted, s ∈ allowed := by
  simp [subset]

def intersectScope (want allowed : List String) : List String :=
  want.filter fun s => decide (s ∈ allowed)

/-! ## Requests, views and responses -/

def GrantType : String := "urn:ietf:params:oauth:grant-type:token-exchange"
def TokenTypeAccessToken : String := "urn:ietf:params:oauth:token-type:access_token"
def TokenTypeJWT : String := "urn:ietf:params:oauth:token-type:jwt"
def TokenTypeIDToken : String := "urn:ietf:params:oauth:token-type:id_token"
def TokenTypeIDJAG : String := "urn:ietf:params:oauth:token-type:id-jag"
def MaxActChainDepth : ℕ := 5

inductive ErrorCode where
  | invalidRequest
  | invalidGrant
  | invalidScope
  | invalidTarget
  | serverError
  | embedder (code : String)
  deriving DecidableEq

structure WireError where
  code : ErrorCode
  description : String
  deriving DecidableEq

def invalidRequest (description : String) : WireError := ⟨.invalidRequest, description⟩
def invalidGrant (description : String) : WireError := ⟨.invalidGrant, description⟩
def invalidScope (description : String) : WireError := ⟨.invalidScope, description⟩
def invalidTarget (description : String) : WireError := ⟨.invalidTarget, description⟩
def serverError : WireError := ⟨.serverError, ""⟩

abbrev Form := List (String × List String)

structure Client where
  id : String
  scopes : List String
  resources : List String
  grantTypes : List String
  deriving DecidableEq

/-- `customgrant.Request`; a certificate is given by its thumbprint. -/
structure Request where
  client : Client
  form : Form
  dpopJKT : String
  dpopJTI : String
  mtlsCert : Option String
  requestedScope : List String
  deriving DecidableEq

abbrev Act := Members

structure TokenView where
  type : String
  clientID : String
  subject : String
  scope : List String
  audience : List String
  expiresAt : Time
  issuedAt : Time
  confirmation : Option Confirmation
  actChainDepth : ℕ
  act : Option Act
  authTime : Time
  grantID : String

structure RequestView where
  client : Client
  subject : String
  subjectToken : TokenView
  actor : String
  actorToken : Option TokenView
  requestedAudience : List String
  requestedScope : List String
  dpopJKT : String
  dpopJTI : String
  mtlsCert : Option String

structure Decision where
  grantedScope : List String
  grantedAudience : List String
  grantedTTL : ℤ
  issueIDToken : Option Bool
  issueRefreshToken : Option Bool
  extraClaims : JsonMap

/-- An error of the policy: one with an OAuth code rides through verbatim. -/
inductive PolicyError where
  | coded (error : WireError)
  | other
  deriving DecidableEq

abbrev Policy := RequestView → Except PolicyError (Option Decision)

structure BoundAccessToken where
  subject : String
  audience : List String
  ttl : ℤ
  extraClaims : JsonMap

structure Response where
  accessToken : String
  boundAccessToken : Option BoundAccessToken
  accessTokenTTL : ℤ
  subject : String
  scope : List String
  audience : List String
  issuedTokenType : String
  issueIDToken : Bool
  issueRefreshToken : Bool
  authTime : Time
  extraClaims : JsonMap
  grantID : String
  grantSubject : String
  grantIssuedAt : Time

def Response.issuesAccessToken (r : Response) : Bool :=
  decide (r.issuedTokenType = "" ∨ r.issuedTokenType = TokenTypeAccessToken)

/-- What a presented token string is: a token of this provider under one of its
two JWT types, a string of JWT shape that does not verify, or a reference. -/
inductive Presented where
  | accessToken (t : SignedToken)
  | idToken (claims : JsonMap)
  | unverifiable
  | reference

inductive StoreFault where
  | unavailable
  deriving DecidableEq

structure GrantLookups where
  find : String → Except StoreFault (Option Grant)
  findBySubjectClient : String → String → Except StoreFault (Option Grant)

/-- The opaque substore, and the public subject of a record under the client
registry and the subject projector (`none`: the token is refused). -/
structure OpaqueLookups where
  find : String → Except StoreFault (Option OpaqueAccessToken)
  publicSubject : OpaqueAccessToken → Option String

/-- `Handler`. `New` replaces a leeway that is not positive by the default. -/
structure Handler where
  labels : Labels
  policy : Option Policy
  handleIDJAG : Option (Request → Except WireError Response)
  issuer : String
  leeway : ℤ
  maxAccessTTL : ℤ
  requireJTI : Bool
  parse : String → Presented
  jwtRevoked : VerifiedClaims → Option Bool
  opaqueAccessTokens : Option OpaqueLookups
  grants : Option GrantLookups
  leeway_pos : 0 < leeway
  idjag_shape : ∀ f, handleIDJAG = some f → ∀ req resp, f req = .ok resp →
    resp.issuedTokenType = TokenTypeIDJAG ∧ resp.boundAccessToken = none

/-- The readings of the clock one exchange takes, in the order it takes them. -/
structure Readings where
  subjectLookup : Time
  actorLookup : Time
  remaining : Time
  ttl : Time
  mint : Time
  deriving DecidableEq

/-! ## Act chains -/

/-- The loop of `depthOfAct` over the nested levels, of which it counts at most
one more than it is given. -/
def levels : ℕ → Act → ℕ
  | 0, _ => 1
  | n + 1, act =>
    match memberOf "act" act with
    | some (.object inner) => levels n inner + 1
    | _ => 1

def depthOfAct : Option Act → ℕ
  | none => 0
  | some act => levels MaxActChainDepth act

def actEntry (sub : String) : Option Act → Act
  | none => [("sub", .text sub)]
  | some prior => [("act", .object prior), ("sub", .text sub)]

/-- `buildActChain`, the chain alone; its depth is `depthOfAct` of it. -/
def buildActChain (subjectToken : TokenView) (actorToken : Option TokenView)
    (callingClientID : String) : Option Act :=
  match actorToken with
  | some actor => some (actEntry actor.subject subjectToken.act)
  | none =>
    if callingClientID = subjectToken.clientID then subjectToken.act
    else some (actEntry callingClientID subjectToken.act)

def extractActFromRaw : Option Json → Option Act
  | some (.object act) => if act = [] then none else some act
  | _ => none

def extractAct (payload : Members) : Option Act := extractActFromRaw (rawField "act" payload)

/-! ## Token lookup -/

/-- How a lookup fails; the reasons that only reach the audit record are one. -/
inductive LookupError where
  | externalIssuer
  | tokenInvalid
  deriving DecidableEq

def confirmationFromCnf (cnf : List (String × String)) : Option Confirmation :=
  if (cnf.lookup "jkt").getD "" = "" ∧ (cnf.lookup "x5t#S256").getD "" = "" then none
  else some ⟨(cnf.lookup "jkt").getD "", (cnf.lookup "x5t#S256").getD ""⟩

/-- `tokens.TimeFromUnix`: zero is an absent claim. -/
def timeFromUnix (seconds : ℤ) : Time := seconds * Time.second

/-- The claims `idTokenClaims` decodes. -/
def idTokenWire : List (String × FieldKind) :=
  [("iss", .text), ("sub", .text), ("aud", .raw), ("azp", .text), ("client_id", .text),
    ("iat", .number), ("exp", .number), ("auth_time", .number), ("cnf", .textMap),
    ("act", .raw)]

def decodeRequiredAudience (raw : Option Json) : Option (List String) :=
  match raw, decodeAudience raw with
  | some _, some audience =>
    if audience ≠ [] ∧ "" ∉ audience then some audience else none
  | _, _ => none

def validateIDTokenClaims (payload : Members) (audience : List String) (now : Time)
    (leeway : ℤ) : Bool :=
  decide (textField "iss" payload ≠ "") && decide (textField "sub" payload ≠ "") &&
    decide (audience ≠ []) && decide (0 < numberField "exp" payload) &&
    decide (0 < numberField "iat" payload) &&
    !(decide (1 < audience.length) && decide (textField "azp" payload = "")) &&
    decide (now < numberField "exp" payload * Time.second + leeway) &&
    decide (numberField "iat" payload * Time.second ≤ now + leeway) &&
    decide (numberField "iat" payload < numberField "exp" payload)

def idTokenClientID (payload : Members) (audience : List String) : String :=
  if textField "azp" payload ≠ "" then textField "azp" payload
  else if textField "client_id" payload ≠ "" then textField "client_id" payload
  else match audience with
    | [aud] => aud
    | _ => ""

namespace Handler
variable (h : Handler)

def verifier : AccessTokenVerifier where
  issuer := h.issuer
  leeway := h.leeway
  requireJTI := h.requireJTI

/-- The view `lookupJWT` builds of verified claims. -/
def jwtView (urn : String) (claims : VerifiedClaims) (act : Option Act) : TokenView where
  type := urn
  clientID := claims.clientID
  subject := claims.subject
  scope := claims.scope
  audience := claims.audience.map h.labels.normalizeLabel
  expiresAt := claims.expiresAt * Time.second
  issuedAt := claims.issuedAt * Time.second
  confirmation := confirmationFromCnf claims.confirmation
  actChainDepth := depthOfAct act
  act := act
  authTime := timeFromUnix claims.authTime
  grantID := claims.grantID

section
variable (urn : String) (claims : VerifiedClaims) (act : Option Act)

@[simp] lemma jwtView_scope : (h.jwtView urn claims act).scope = claims.scope := rfl

@[simp] lemma jwtView_clientID : (h.jwtView urn claims act).clientID = claims.clientID := rfl

@[simp] lemma jwtView_act : (h.jwtView urn claims act).act = act := rfl

@[simp] lemma jwtView_expiresAt :
    (h.jwtView urn claims act).expiresAt = claims.expiresAt * Time.second := rfl

end

/-- `lookupJWT` on a token that verifies. -/
def lookupSigned (now : Time) (t : SignedToken) (urn : String) : Except LookupError TokenView :=
  match h.verifier.verify now t.payload with
  | .error .issuerMismatch => .error .externalIssuer
  | .error _ => .error .tokenInvalid
  | .ok claims =>
    match h.jwtRevoked claims with
    | some false => .ok (h.jwtView urn claims (extractAct t.payload))
    | _ => .error .tokenInvalid

def lookupJWT (now : Time) (raw urn : String) : Except LookupError TokenView :=
  match h.parse raw with
  | .accessToken t => h.lookupSigned now t urn
  | _ => .error .tokenInvalid

/-- `idTokenGrant`: the consent record that bounds an id_token. -/
def idTokenGrant (subject clientID : String) : Except LookupError Grant :=
  match h.grants with
  | none => .error .tokenInvalid
  | some grants =>
    match grants.findBySubjectClient subject clientID with
    | .ok (some grant) => .ok grant
    | _ => .error .tokenInvalid

/-- The part of `lookupIDToken` behind the claim checks. -/
def idTokenView (payload : Members) (audience : List String) : Except LookupError TokenView :=
  if h.issuer ≠ "" ∧ textField "iss" payload ≠ h.issuer then .error .externalIssuer
  else if idTokenClientID payload (audience.map h.labels.normalizeLabel) = "" then
    .error .tokenInvalid
  else
    (h.idTokenGrant (textField "sub" payload)
      (idTokenClientID payload (audience.map h.labels.normalizeLabel))).map fun grant =>
      { type := TokenTypeIDToken
        clientID := idTokenClientID payload (audience.map h.labels.normalizeLabel)
        subject := textField "sub" payload
        scope := grant.scope
        audience := audience.map h.labels.normalizeLabel
        expiresAt := numberField "exp" payload * Time.second
        issuedAt := numberField "iat" payload * Time.second
        confirmation := confirmationFromCnf (textMapField "cnf" payload)
        actChainDepth := depthOfAct (extractActFromRaw (rawField "act" payload))
        act := extractActFromRaw (rawField "act" payload)
        authTime := timeFromUnix (numberField "auth_time" payload)
        grantID := grant.id }

def lookupIDToken (now : Time) (raw : String) : Except LookupError TokenView :=
  match h.parse raw with
  | .idToken claims =>
    match decodes idTokenWire (written claims.members),
      decodeRequiredAudience (rawField "aud" (written claims.members)) with
    | true, some audience =>
      if validateIDTokenClaims (written claims.members) audience now h.leeway then
        h.idTokenView (written claims.members) audience
      else .error .tokenInvalid
    | _, _ => .error .tokenInvalid
  | _ => .error .tokenInvalid

/-- The view `lookupOpaqueAccessToken` builds of a live record. -/
def opaqueView (rec : OpaqueAccessToken) (subject : String) : TokenView where
  type := TokenTypeAccessToken
  clientID := rec.clientID
  subject := subject
  scope := rec.scope
  audience := if rec.audience = "" then [] else [h.labels.normalizeLabel rec.audience]
  expiresAt := rec.expiresAt
  issuedAt := rec.issuedAt
  confirmation :=
    if rec.dpopJKT = "" ∧ rec.mtlsCertThumbprint = "" then none
    else some ⟨rec.dpopJKT, rec.mtlsCertThumbprint⟩
  actChainDepth := 0
  act := none
  authTime := rec.authTime
  grantID := rec.grantID

/-- `lookupOpaqueAccessToken` with `tokens.ResolveOpaqueAccessToken`. -/
def lookupOpaqueAccessToken (now : Time) (raw : String) : Except LookupError TokenView :=
  match h.opaqueAccessTokens with
  | none => .error .tokenInvalid
  | some lookups =>
    match lookups.find raw with
    | .ok (some rec) =>
      if rec.revoked = true ∨ rec.expiresAt ≤ now then .error .tokenInvalid
      else match lookups.publicSubject rec with
        | none => .error .tokenInvalid
        | some subject => .ok (h.opaqueView rec subject)
    | _ => .error .tokenInvalid

/-- `lookupAccessToken`: only a string of JWT shape takes the JWT path. -/
def lookupAccessToken (now : Time) (raw : String) : Except LookupError TokenView :=
  match h.parse raw with
  | .reference => h.lookupOpaqueAccessToken now raw
  | _ => h.lookupJWT now raw TokenTypeAccessToken

def lookupToken (now : Time) (raw urn : String) : Except LookupError TokenView :=
  if urn = TokenTypeAccessToken then h.lookupAccessToken now raw
  else if urn = TokenTypeJWT then h.lookupJWT now raw TokenTypeJWT
  else if urn = TokenTypeIDToken then h.lookupIDToken now raw
  else .error .tokenInvalid

end Handler

/-! ## Structural checks of a request -/

def requestedTokenType (form : Form) : Except WireError String :=
  match form.lookup "requested_token_type" with
  | none | some [] => .ok ""
  | some [value] =>
    if value = "" ∨ value = TokenTypeAccessToken ∨ value = TokenTypeIDJAG then .ok value
    else .error (invalidRequest "requested_token_type is not supported")
  | some _ => .error (invalidRequest "requested_token_type must be a single value")

def requireFormSingle (form : Form) (key : String) : Except WireError String :=
  match form.lookup key with
  | none | some [] => .error (invalidRequest (key ++ " is required"))
  | some (value :: more) =>
    if value = "" then .error (invalidRequest (key ++ " is required"))
    else if more ≠ [] then .error (invalidRequest (key ++ " must be a single value"))
    else .ok value

def knownTokenType (urn : String) : Bool :=
  decide (urn = TokenTypeAccessToken ∨ urn = TokenTypeJWT ∨ urn = TokenTypeIDToken)

/-- A form value of `extractActorToken`. -/
def singleNonEmpty (key : String) : List String → Except WireError String
  | [value] =>
    if value = "" then .error (invalidRequest (key ++ " must be a single non-empty value"))
    else .ok value
  | _ => .error (invalidRequest (key ++ " must be a single non-empty value"))

/-- `extractActorToken`; `none` stands for the two empty strings. -/
def extractActorToken (form : Form) : Except WireError (Option (String × String)) :=
  match form.lookup "actor_token", form.lookup "actor_token_type" with
  | none, none => .ok none
  | some _, none => .error (invalidRequest "actor_token requires actor_token_type")
  | none, some _ => .error (invalidRequest "actor_token_type without actor_token")
  | some rawValues, some typeValues => do
      let raw ← singleNonEmpty "actor_token" rawValues
      let urn ← singleNonEmpty "actor_token_type" typeValues
      ensure (knownTokenType urn) (invalidRequest "actor_token_type is not recognised")
      return some (raw, urn)

def requireIDTokenAudience (callerClientID : String) (tok : TokenView) : Except WireError Unit :=
  if tok.type ≠ TokenTypeIDToken then .ok ()
  else if callerClientID ∉ tok.audience then
    .error (invalidGrant "id_token audience does not include the calling client")
  else if tok.clientID ≠ "" ∧ tok.clientID ≠ callerClientID then
    .error (invalidGrant "id_token authorized party does not match the calling client")
  else .ok ()

def requireMatchingSenderConstraint (req : Request) (tok : TokenView) : Except WireError Unit :=
  match tok.confirmation with
  | none => .ok ()
  | some cnf =>
    if cnf.jkt ≠ "" ∧ req.dpopJKT ≠ cnf.jkt then
      .error (invalidGrant "sender-constrained token requires matching DPoP proof")
    else if cnf.x5tS256 ≠ "" ∧ req.mtlsCert ≠ some cnf.x5tS256 then
      .error (invalidGrant "sender-constrained token requires matching mTLS certificate")
    else .ok ()

/-- `translateLookupErr`, the wire error alone. -/
def translateLookupErr : LookupError → WireError
  | .externalIssuer => invalidGrant "token issuer not recognised"
  | .tokenInvalid => invalidGrant "token failed verification"

namespace Handler
variable (h : Handler)

/-- What `parseAndVerify` does with one presented token. -/
def presented (now : Time) (req : Request) (raw urn : String) : Except WireError TokenView := do
  let view ← (h.lookupToken now raw urn).mapError translateLookupErr
  requireIDTokenAudience req.client.id view
  requireMatchingSenderConstraint req view
  return view

def presentedActor (now : Time) (req : Request) :
    Option (String × String) → Except WireError (Option TokenView)
  | none => .ok none
  | some (raw, urn) => (h.presented now req raw urn).map some

def parseAndVerify (r : Readings) (req : Request) :
    Except WireError (TokenView × Option TokenView) := do
  let subjectRaw ← requireFormSingle req.form "subject_token"
  let subjectType ← requireFormSingle req.form "subject_token_type"
  ensure (knownTokenType subjectType) (invalidRequest "subject_token_type is not recognised")
  let actor ← extractActorToken req.form
  let subjectView ← h.presented r.subjectLookup req subjectRaw subjectType
  let actorView ← h.presentedActor r.actorLookup req actor
  ensure (actorView.all fun a => decide (a.subject ≠ subjectView.subject))
    (invalidRequest "actor_token resolves to the same subject as subject_token")
  return (subjectView, actorView)

/-! ## The gates before the policy -/

def requireRemainingLifetime (now : Time) (subjectView : TokenView) : Except WireError Unit :=
  ensure (decide (subjectView.expiresAt ≠ 0 ∧ now < subjectView.expiresAt + h.leeway))
    (invalidGrant "subject_token has no positive remaining lifetime")

def boundedActChain (client : Client) (subjectView : TokenView)
    (actorView : Option TokenView) : Except WireError (Option Act) :=
  if MaxActChainDepth < depthOfAct (buildActChain subjectView actorView client.id) then
    .error (invalidGrant "act chain depth exceeds the maximum permitted")
  else .ok (buildActChain subjectView actorView client.id)

def grantLineage (subjectView : TokenView) : Except WireError (Option Grant) :=
  match h.grants with
  | none => .ok none
  | some grants =>
    if subjectView.grantID = "" then .ok none
    else match grants.find subjectView.grantID with
      | .ok grant => .ok grant
      | .error _ => .error serverError

def dedupePreserve (labels : List String) : List String :=
  labels.foldl (fun out s => if s ∈ out then out else out ++ [s]) []

/-- The values the form names under `audience` and `resource`. -/
def namedAudience (form : Form) : List String :=
  (((form.lookup "audience").getD [] ++ (form.lookup "resource").getD []).filter
    fun v => decide (v ≠ "")).map h.labels.normalizeLabel

def computeRequestedAudience (form : Form) (subject : TokenView) : List String :=
  if h.namedAudience form ≠ [] then dedupePreserve (h.namedAudience form)
  else dedupePreserve subject.audience

def resolveRequestedScope (req : Request) (subjectView : TokenView) :
    Except WireError (List String) :=
  if req.requestedScope = [] then .ok (intersectScope subjectView.scope req.client.scopes)
  else if subset req.requestedScope req.client.scopes = false then
    .error (invalidScope "requested scope exceeds the client's registered scopes")
  else .ok req.requestedScope

def audienceAllowed (want : List String) (client : Client) : Bool :=
  if want = [] then true
  else if client.resources = [] then false
  else h.labels.subsetLabel want client.resources

def enforceScopeAudience (client : Client) (subjectView : TokenView)
    (requestedScope requestedAudience : List String) : Except WireError Unit := do
  ensure (subset requestedScope subjectView.scope)
    (invalidScope "requested scope exceeds the subject_token's scope")
  ensure (h.audienceAllowed requestedAudience client)
    (invalidTarget "requested audience contains entries the client is not authorized for")

/-- The policy call with `translatePolicyErr`. -/
def consultPolicy (policy : Policy)
    (view : RequestView) :
    Except WireError (Option Decision) :=
  match policy view with
  | .ok decision => .ok decision
  | .error (.coded error) => .error error
  | .error .other => .error (invalidGrant "token-exchange policy denied the request")

/-! ## The response -/

/-- What a decision leaves granted: `applyDecision`. -/
structure Granted where
  scope : List String
  audience : List String
  ttl : ℤ
  issueIDToken : Bool
  issueRefresh : Bool
  extras : JsonMap

def applyDecision (d : Option Decision) (requestedScope requestedAudience : List String)
    (defaultIssueIDToken : Bool) : Granted :=
  match d with
  | none => ⟨requestedScope, requestedAudience, 0, defaultIssueIDToken, false, .empty⟩
  | some d =>
    { scope := if d.grantedScope ≠ [] then d.grantedScope else requestedScope
      audience := if d.grantedAudience ≠ [] then d.grantedAudience else requestedAudience
      ttl := if 0 < d.grantedTTL then d.grantedTTL else 0
      issueIDToken := d.issueIDToken.getD defaultIssueIDToken
      issueRefresh := d.issueRefreshToken.getD false
      extras := d.extraClaims }

def minDerivedTTL : ℤ := Time.second

def requestedTTL (requested : ℤ) : ℤ := if requested ≤ 0 then h.maxAccessTTL else requested

/-- `subjRemaining` of `computeTTL`. -/
def subjRemaining (now subjectExpiresAt : Time) : ℤ :=
  max (subjectExpiresAt - now) minDerivedTTL

def boundedTTL (requested now subjectExpiresAt : ℤ) : ℤ :=
  if h.requestedTTL requested ≤ 0 ∨
      subjRemaining now subjectExpiresAt < h.requestedTTL requested then
    subjRemaining now subjectExpiresAt
  else h.requestedTTL requested

/-- `computeTTL`; the reason it also returns goes to the audit record. -/
def computeTTL (requested now subjectExpiresAt : ℤ) : ℤ :=
  if 0 < h.maxAccessTTL ∧ h.maxAccessTTL < h.boundedTTL requested now subjectExpiresAt then
    h.maxAccessTTL
  else h.boundedTTL requested now subjectExpiresAt

def idTokenStandardKeys : List String :=
  ["iss", "sub", "aud", "iat", "exp", "auth_time", "nonce", "acr", "amr", "azp", "at_hash",
    "c_hash", "sid"]

def reservedClaims : List String :=
  idTokenStandardKeys ++ accessTokenStandardKeys ++ ["act", "cnf"]

def filterReservedClaims (extras : JsonMap) : JsonMap :=
  extras.restrict fun name => decide (name ∉ reservedClaims)

def stampAct (claims : JsonMap) : Option Act → JsonMap
  | none => claims
  | some act => claims.set "act" (.object act)

/-- `buildCnfClaim`, stamped on the claims of an id_token. -/
def stampCnf (claims : JsonMap) (req : Request) : JsonMap :=
  if req.dpopJKT = "" ∧ req.mtlsCert.getD "" = "" then claims
  else claims.set "cnf"
    (.object (encodeConfirmation ⟨req.dpopJKT, req.mtlsCert.getD ""⟩))

def assembleResponse (req : Request) (subjectView : TokenView) (g : Granted) (ttl : ℤ)
    (actChain : Option Act) : Response where
  accessToken := ""
  boundAccessToken := some
    { subject := subjectView.subject
      audience := if g.audience = [] then [req.client.id] else g.audience
      ttl := ttl
      extraClaims := stampAct (filterReservedClaims g.extras) actChain }
  accessTokenTTL := ttl
  subject := subjectView.subject
  scope := g.scope
  audience := g.audience
  issuedTokenType := TokenTypeAccessToken
  issueIDToken := g.issueIDToken
  issueRefreshToken := g.issueRefresh
  authTime := if g.issueIDToken = true ∧ "openid" ∈ g.scope then subjectView.authTime else 0
  extraClaims :=
    if g.issueIDToken = true ∧ "openid" ∈ g.scope then
      stampCnf (stampAct (filterReservedClaims g.extras) actChain) req
    else .empty
  grantID := ""
  grantSubject := ""
  grantIssuedAt := 0

/-- The gates of `buildResponse` on what the policy granted. -/
def grantGates (g : Granted) (requestedScope requestedAudience : List String) :
    Except WireError Unit := do
  ensure (decide (g.scope ≠ [])) (invalidScope "granted scope cannot be empty")
  ensure (subset g.scope requestedScope)
    (invalidScope "granted scope exceeds the requested scope")
  ensure (h.labels.subsetLabel g.audience requestedAudience)
    (invalidTarget "granted audience exceeds the requested audience")

def buildResponse (now : Time) (req : Request) (subjectView : TokenView)
    (actChain : Option Act) (requestedScope requestedAudience : List String)
    (decision : Option Decision) : Except WireError Response := do
  let g := applyDecision decision requestedScope requestedAudience
    (decide (subjectView.type = TokenTypeIDToken))
  h.grantGates g requestedScope requestedAudience
  return assembleResponse req subjectView g (h.computeTTL g.ttl now subjectView.expiresAt)
    actChain

def joinLineage (resp : Response) (subjectView : TokenView) : Option Grant → Response
  | none => resp
  | some grant =>
    { resp with
      grantID := grant.id
      grantSubject := grant.subject
      grantIssuedAt := subjectView.issuedAt }

/-- The view that `Handle` lays before the policy. -/
def requestView (req : Request) (subjectView : TokenView) (actorView : Option TokenView)
    (requestedScope : List String) : RequestView where
  client := req.client
  subject := subjectView.subject
  subjectToken := subjectView
  actor := (actorView.map TokenView.subject).getD ""
  actorToken := actorView
  requestedAudience := h.computeRequestedAudience req.form subjectView
  requestedScope := requestedScope
  dpopJKT := req.dpopJKT
  dpopJTI := req.dpopJTI
  mtlsCert := req.mtlsCert

/-- `Handle` behind the choice of the requested token type. -/
def exchangeAccessToken (policy : Policy)
    (r : Readings) (req : Request) : Except WireError Response := do
  let views ← h.parseAndVerify r req
  h.requireRemainingLifetime r.remaining views.1
  let actChain ← boundedActChain req.client views.1 views.2
  let lineage ← h.grantLineage views.1
  let requestedScope ← resolveRequestedScope req views.1
  h.enforceScopeAudience req.client views.1 requestedScope
    (h.computeRequestedAudience req.form views.1)
  let decision ← consultPolicy policy (h.requestView req views.1 views.2 requestedScope)
  let resp ← h.buildResponse r.ttl req views.1 actChain requestedScope
    (h.computeRequestedAudience req.form views.1) decision
  return joinLineage resp views.1 lineage

def handle (r : Readings) (req : Request) : Except WireError Response := do
  let requested ← requestedTokenType req.form
  if requested = TokenTypeIDJAG then
    match h.handleIDJAG with
    | none => .error (invalidRequest "requested_token_type is not supported")
    | some idjag => idjag req
  else
    match h.policy with
    | none => .error (invalidRequest ("requested_token_type must be " ++ TokenTypeIDJAG))
    | some policy => h.exchangeAccessToken policy r req

end Handler

/-! ## The dispatcher -/

inductive DispatchError where
  | clientGrantNotPermitted
  | unknownParameter
  | duplicateParameter
  | duplicateCapExceeded
  | handler (error : WireError)
  | conflictingAccessTokenForms
  | emptyAccessToken
  | negativeTTL
  | scopeNotAllowed
  | audienceNotAllowed
  deriving DecidableEq

structure Dispatcher where
  labels : Labels
  maxAccessTTL : ℤ

namespace Dispatcher
variable (d : Dispatcher)

def capTTL (ttl : ℤ) : ℤ :=
  if 0 < d.maxAccessTTL ∧ d.maxAccessTTL < ttl then d.maxAccessTTL else ttl

def validateAccessTokenShape (resp : Response) : Except DispatchError Response :=
  if resp.accessToken ≠ "" ∧ resp.boundAccessToken.isSome then
    .error .conflictingAccessTokenForms
  else if resp.accessToken = "" ∧ resp.boundAccessToken.isNone then .error .emptyAccessToken
  else if resp.accessTokenTTL < 0 then .error .negativeTTL
  else if resp.issuesAccessToken then
    .ok { resp with accessTokenTTL := d.capTTL resp.accessTokenTTL }
  else .ok resp

def validateBoundAccessToken (client : Client) (resp : Response) : Except DispatchError Response :=
  match resp.boundAccessToken with
  | none => .ok resp
  | some bound =>
    if bound.ttl < 0 then .error .negativeTTL
    else if d.labels.subsetLabel bound.audience client.resources = false then
      .error .audienceNotAllowed
    else .ok { resp with boundAccessToken := some { bound with ttl := d.capTTL bound.ttl } }

/-- The checks of `validateResponse` on scope and audience. -/
def validateRegistration (client : Client) (resp : Response) : Except DispatchError Response :=
  if resp.issuesAccessToken = false then .ok resp
  else if subset resp.scope client.scopes = false then .error .scopeNotAllowed
  else if d.labels.subsetLabel resp.audience client.resources = false then
    .error .audienceNotAllowed
  else .ok resp

/-- `validateResponse`, which returns the response it may have truncated. -/
def validateResponse (client : Client) (resp : Response) : Except DispatchError Response := do
  let resp ← d.validateAccessTokenShape resp
  let resp ← d.validateBoundAccessToken client resp
  d.validateRegistration client resp

def isImplicitFormParameter (name : String) : Bool :=
  decide (name ∈ ["grant_type", "client_id", "client_secret", "client_assertion",
    "client_assertion_type", "scope"])

def allowedParameters : List String :=
  ["subject_token", "subject_token_type", "actor_token", "actor_token_type",
    "requested_token_type", "audience", "resource"]

def dupesAllowed : List String := ["audience", "resource"]

def dupCap : ℕ := 32

/-- One parameter of `filterForm` under the policy of the handler. -/
def filterParameter (name : String) (values : List String) : Except DispatchError Unit := do
  ensure (decide (name ∈ allowedParameters)) .unknownParameter
  ensure (decide (values.length ≤ 1 ∨ name ∈ dupesAllowed)) .duplicateParameter
  ensure (decide (values.length ≤ dupCap)) .duplicateCapExceeded

def filterForm : Form → Except DispatchError Form
  | [] => .ok []
  | (name, values) :: rest =>
    if isImplicitFormParameter name then filterForm rest
    else do
      filterParameter name values
      let kept ← filterForm rest
      return (name, values) :: kept

end Dispatcher

structure DispatchInput where
  client : Client
  form : Form
  dpopJKT : String
  dpopJTI : String
  mtlsCert : Option String
  deriving DecidableEq

/-- `url.Values.Get`. -/
def formGet (form : Form) (key : String) : String := ((form.lookup key).getD []).headD ""

/-- The request `attempt` hands to the handler. -/
def DispatchInput.request (i : DispatchInput) (form : Form) : Request where
  client := i.client
  form := form
  dpopJKT := i.dpopJKT
  dpopJTI := i.dpopJTI
  mtlsCert := i.mtlsCert
  requestedScope := parseScope (formGet i.form "scope")

/-- `attempt` with the token-exchange handler. -/
def Dispatcher.attempt (d : Dispatcher) (h : Handler) (r : Readings) (i : DispatchInput) :
    Except DispatchError Response := do
  ensure (decide (GrantType ∈ i.client.grantTypes)) .clientGrantNotPermitted
  let form ← Dispatcher.filterForm i.form
  let resp ← (h.handle r (i.request form)).mapError .handler
  d.validateResponse i.client resp

/-! ## Issuance -/

/-- The dependencies of the token endpoint behind the dispatcher. -/
structure Endpoint where
  handler : Handler
  dispatcher : Dispatcher
  issuer : String
  accessTokenTTL : ℤ
  /-- `Scopes.AllowsAll`. -/
  scopeAllowed : List String → String → Bool
  /-- `lookupLiveSubject` finds the subject. -/
  subjectLive : String → Bool
  /-- `grantClosedToIssuance`; a store that fails refuses. -/
  closedToIssuance : String → Time → Bool

structure Drawn where
  jti : String
  grantID : String
  deriving DecidableEq

inductive IssueError where
  | dispatch (error : DispatchError)
  | scopeRestricted
  | subjectUnavailable
  | emptyBoundSubject
  | sign (error : SignError)
  | grantRevoked
  deriving DecidableEq

def customGrantTTL (e : Endpoint) (stated : ℤ) : ℤ :=
  if 0 < stated then stated else e.accessTokenTTL

/-- `customGrantBoundSubject`; the endpoint resolves no subject of its own. -/
def customGrantBoundSubject (bound : BoundAccessToken) (resp : Response) : String :=
  if bound.subject ≠ "" then bound.subject else resp.subject

/-- The audience `resolveCustomGrantAccessToken` mints for. -/
def boundAudience (client : Client) (bound : BoundAccessToken) (resp : Response) : List String :=
  if bound.audience ≠ [] then bound.audience
  else if resp.audience ≠ [] then resp.audience
  else [client.id]

def expiresIn (now ttl : ℤ) : ℤ := (now + ttl) / Time.second

/-- The claims `mintJWTAccessToken` signs for a custom grant. -/
def mintClaims (e : Endpoint) (i : DispatchInput) (now : Time) (drawn : Drawn)
    (resp : Response) (bound : BoundAccessToken) : AccessTokenClaims where
  issuer := e.issuer
  subject := customGrantBoundSubject bound resp
  audience := boundAudience i.client bound resp
  clientID := i.client.id
  issuedAt := now / Time.second
  expiresAt := expiresIn now (customGrantTTL e bound.ttl)
  jti := drawn.jti
  scope := resp.scope
  authTime := 0
  acr := ""
  amr := []
  confirmation := ⟨i.dpopJKT, i.mtlsCert.getD ""⟩
  grantID := if resp.grantID ≠ "" then resp.grantID else drawn.grantID
  authorizationDetails := []
  userInfoClaims := none
  extra := bound.extraClaims

def mintBound (e : Endpoint) (i : DispatchInput) (now : Time) (drawn : Drawn)
    (resp : Response) (bound : BoundAccessToken) : Except IssueError SignedToken := do
  ensure (decide (customGrantBoundSubject bound resp ≠ "")) .emptyBoundSubject
  (signAccessToken (mintClaims e i now drawn resp bound)).mapError .sign

/-- `resolveCustomGrantAccessToken`; `none` is a credential of another type, which
is passed through. -/
def resolveCustomGrantAccessToken (e : Endpoint) (i : DispatchInput) (now : Time)
    (drawn : Drawn) (resp : Response) : Except IssueError (Option SignedToken) :=
  match resp.boundAccessToken with
  | none => .ok none
  | some bound => (mintBound e i now drawn resp bound).map some

/-- `handleCustomGrant` behind client authentication, for the access token it
issues. -/
def exchange (e : Endpoint) (r : Readings) (drawn : Drawn) (i : DispatchInput) :
    Except IssueError (Option SignedToken) := do
  let resp ← (e.dispatcher.attempt e.handler r i).mapError .dispatch
  ensure (!resp.issuesAccessToken || e.scopeAllowed resp.scope i.client.id) .scopeRestricted
  ensure (decide (resp.grantID = "") || e.subjectLive resp.grantSubject) .subjectUnavailable
  let issued ← resolveCustomGrantAccessToken e i r.mint drawn resp
  ensure (decide (resp.grantID = "") || !e.closedToIssuance resp.grantID resp.grantIssuedAt)
    .grantRevoked
  return issued

end OidcProvider.TokenExchange
