import OidcProvider.RefreshSessions
import OidcProvider.RefreshTransactions

/-!
# The refresh grant at the token endpoint

`internal/tokenendpoint`: what happens between an authenticated request with
`grant_type=refresh_token` and its response. A preflight reads the record, the
exchange consumes it, the handler checks scope, policy and sender constraint
against what was exchanged, mints the access token and rotates the refresh
token, directly or inside one transaction of the store.

What the handler learns from the other substores and from the signing keys is
an argument of the request, one function per lookup. Audit events and a retry
answered from the sealed response are left out.
-/
namespace OidcProvider.RefreshEndpoint
open FiniteMaps StoreRecords RefreshTokenStore ResumptionPrograms ChainRetirement RefreshGrant
open RefreshSessions RefreshTransactions

/-! ### Responses -/

inductive ErrorCode where
  | invalidRequest
  | invalidGrant
  | invalidScope
  | invalidAuthorizationDetails
  | invalidClient
  | serverError
  deriving DecidableEq

structure Refusal where
  status : ℕ
  code : ErrorCode
  description : String
  deriving DecidableEq

def badRequest (code : ErrorCode) (description : String) : Refusal := ⟨400, code, description⟩

/-- `WriteServerError`. -/
def serverError : Refusal := ⟨500, .serverError, ""⟩

/-- A check refuses unless its condition holds. -/
def require (condition : Bool) (refusal : Refusal) : Except Refusal Unit :=
  if condition then .ok () else .error refusal

lemma require_ok {condition : Bool} {refusal : Refusal} :
    require condition refusal = .ok () ↔ condition = true := by
  unfold require
  split_ifs with h <;> simp [h]

structure SuccessResponse where
  accessToken : String
  tokenType : String
  expiresIn : ℤ
  refreshToken : String
  idToken : String
  scope : String
  authorizationDetails : List JsonObject
  grantID : String
  deriving DecidableEq

/-! ### Clients and configuration -/

structure Client where
  id : String
  publicClient : Bool
  tokenEndpointAuthMethod : String
  scopes : List String
  grantTypes : List String
  requireAuthTime : Bool
  deriving DecidableEq

def isPublicClient (c : Client) : Bool :=
  c.publicClient || decide (c.tokenEndpointAuthMethod = "none")

/-- `scoperegistry.Registry`: the clients a registered scope is restricted to.
No registry is configured when it is absent. -/
abbrev Registry := Option (List (String × List String))

def Registry.allows (r : Registry) (scope clientID : String) : Bool :=
  match r with
  | none => true
  | some byName =>
    match byName.lookup scope with
    | none => true
    | some [] => true
    | some allowedClients => decide (clientID ∈ allowedClients)

def Registry.allowsAll (r : Registry) (scopes : List String) (clientID : String) : Bool :=
  scopes.all fun s => r.allows s clientID

/-- The parts of `Deps` the refresh grant reads. A verifier that may be nil is
kept as whether it is there. -/
structure Deps where
  scopes : Registry
  enabledGrants : Option (List String)
  strictOfflineAccess : Bool
  dpop : Bool
  mtls : Bool
  requireSenderConstrainedTokens : Bool
  refreshTokenRotationDisabled : Bool
  refreshTokenGraceTTL : Time
  refreshTokenTTL : Time
  refreshTokenOfflineTTL : Time
  refreshRetryEncryption : Bool
  accessTokenTTL : Time
  grantManagementEnabled : Bool
  transactions : Bool
  deriving DecidableEq

def grantTypeRefreshToken : String := "refresh_token"
def scopeOpenID : String := "openid"
def scopeOfflineAccess : String := "offline_access"

def grantEnabled (deps : Deps) (grantType : String) : Bool :=
  match deps.enabledGrants with
  | none => true
  | some enabled => decide (grantType ∈ enabled)

def clientRegisteredForRefresh (c : Client) : Bool := decide (grantTypeRefreshToken ∈ c.grantTypes)

def refreshIssuanceEnabled (deps : Deps) (c : Client) : Bool :=
  grantEnabled deps grantTypeRefreshToken && clientRegisteredForRefresh c

def offlineTTLApplies (deps : Deps) (scope : List String) : Bool :=
  decide (0 < deps.refreshTokenOfflineTTL ∧ scopeOfflineAccess ∈ scope)

def pickRefreshTokenTTL (deps : Deps) (scope : List String) : Time :=
  if offlineTTLApplies deps scope then deps.refreshTokenOfflineTTL else deps.refreshTokenTTL

/-! ### The checks -/

def checkTokenScopeAllowlist (deps : Deps) (clientID : String) (granted : List String) :
    Except Refusal Unit :=
  require (deps.scopes.allowsAll granted clientID)
    (badRequest .invalidScope "scope is restricted to a different client")

def requireRegisteredScopes (client : Client) (scope : List String) : Except Refusal Unit :=
  require (scope.all (· ∈ client.scopes))
    (badRequest .invalidScope "scope exceeds the client's registered scopes")

def enforceStrictOfflineAccess (deps : Deps) (scope : List String) (origin : RefreshTokenOrigin) :
    Except Refusal Unit :=
  require (!deps.strictOfflineAccess || decide (origin = .customGrant) ||
      decide (scopeOfflineAccess ∈ scope))
    (badRequest .invalidGrant
      "refresh issued without offline_access; refresh disabled by current policy")

structure DPoPProof where
  jkt : String
  jti : String
  deriving DecidableEq

structure DPoPOutcome where
  jkt : String
  jti : String
  presented : Bool
  deriving DecidableEq

def newDPoPOutcome : Option DPoPProof → DPoPOutcome
  | none => ⟨"", "", false⟩
  | some checked => ⟨checked.jkt, checked.jti, true⟩

def enforceDPoPRefreshBinding (deps : Deps) (out : DPoPOutcome) (boundJKT : String) :
    Except Refusal Unit :=
  if !deps.dpop then
    require (decide (boundJKT = ""))
      (badRequest .invalidGrant "refresh token is DPoP-bound but DPoP is not enabled")
  else if !out.presented then
    require (decide (boundJKT = ""))
      (badRequest .invalidGrant "DPoP proof required for sender-constrained refresh token")
  else
    require (decide (boundJKT = "" ∨ out.jkt = boundJKT))
      (badRequest .invalidGrant "DPoP proof key does not match the bound thumbprint")

inductive MTLSError where
  | noClientCert
  | certSourceConflict
  | thumbprintMismatch
  | certMalformed
  | certUntrusted
  | other
  deriving DecidableEq

/-- `writeMTLSError`, and `endpointsupport.WriteMTLSError` for the rest. -/
def writeMTLSError : MTLSError → Refusal
  | .noClientCert => badRequest .invalidGrant "client certificate required for mTLS-bound token"
  | .certSourceConflict => badRequest .invalidRequest "client certificate sources disagree"
  | .thumbprintMismatch =>
    badRequest .invalidGrant "client certificate does not match the bound thumbprint"
  | .certMalformed => badRequest .invalidRequest "client certificate malformed"
  | .certUntrusted => ⟨401, .invalidClient, "client certificate is not trusted"⟩
  | .other => serverError

/-- `VerifyBoundRequest` on the thumbprint of the presented certificate. -/
def verifyBoundRequest (certificate : Except MTLSError String) (boundThumbprint : String) :
    Except MTLSError Unit :=
  if boundThumbprint = "" then .error .thumbprintMismatch
  else
    match certificate with
    | .error err => .error err
    | .ok got => if got = "" ∨ got ≠ boundThumbprint then .error .thumbprintMismatch else .ok ()

def requireMTLSMatch (deps : Deps) (certificate : Except MTLSError String)
    (boundThumbprint : String) : Except Refusal Unit :=
  if boundThumbprint = "" then .ok ()
  else if !deps.mtls then
    .error (badRequest .invalidGrant "refresh token is mTLS-bound but mTLS is not enabled")
  else
    match verifyBoundRequest certificate boundThumbprint with
    | .error err => .error (writeMTLSError err)
    | .ok () => .ok ()

structure TokenBinding where
  dpopJKT : String
  mtlsThumbprint : String
  deriving DecidableEq

def TokenBinding.constrained (b : TokenBinding) : Bool :=
  decide (b.dpopJKT ≠ "" ∨ b.mtlsThumbprint ≠ "")

def TokenBinding.tokenTypeFor (b : TokenBinding) : String :=
  if b.dpopJKT ≠ "" then "DPoP" else "Bearer"

def enforceSenderConstraint (deps : Deps) (b : TokenBinding) : Except Refusal Unit :=
  require (!deps.requireSenderConstrainedTokens || b.constrained)
    (badRequest .invalidRequest
      "sender-constrained access token required: present a DPoP proof or a client certificate")

/-- `refreshDPoPJKT`: a confidential client's refresh token is not bound to the
key of a proof it happens to present. -/
def refreshDPoPJKT (client : Client) (dpopJKT : String) : String :=
  if dpopJKT = "" then "" else if isPublicClient client then dpopJKT else ""

/-! ### Requests -/

structure AuthContext where
  authTime : ℤ
  acr : String
  amr : List String
  encodedClaims : JsonObject
  deriving DecidableEq

structure AccessTokenInput where
  rawSubject : String
  subjectPublic : Bool
  clientID : String
  grantID : String
  scope : List String
  resource : String
  now : Time
  authContext : AuthContext
  binding : TokenBinding
  authorizationDetails : List JsonObject
  extra : JsonObject
  forceJWT : Bool
  chainID : String
  deriving DecidableEq

structure IssuedUnderGrant where
  grantID : String
  issuedAt : Time
  accessToken : String
  refreshToken : String
  deriving DecidableEq

/-- Whether a grant is closed to issuance, if the substore can tell. -/
inductive Closure where
  | notClosed
  | closed
  | unknown
  deriving DecidableEq

inductive SubjectLookup where
  | live
  | deprovisioned
  | failed
  deriving DecidableEq

/-- What the handler learns from the grants, the users, the access tokens, the
grant revocations and the signing keys. A lookup that fails is absent. -/
structure Lookups where
  requestedDetails : Except Refusal (List JsonObject)
  effectiveDetails : Option RefreshToken → List JsonObject → Except Refusal (List JsonObject)
  revalidateDetails : Exchanged → Except Refusal Unit
  liveSubject : Exchanged → SubjectLookup
  authContext : Exchanged → Option AuthContext
  retirePriorOpaqueAccessTokens : Exchanged → Bool
  closedBeforeMint : Exchanged → Closure
  mintAccessToken : AccessTokenInput → Option String
  mintIDToken : Exchanged → AuthContext → Option String
  sealRetryResponse : String → SuccessResponse → Option (List UInt8)
  closedAfterwards : IssuedUnderGrant → Closure

structure Request where
  deps : Deps
  client : Client
  token : String
  requestedScope : List String
  proof : Option DPoPProof
  certificate : Except MTLSError String
  fresh : Fresh
  freshChainID : String
  lookups : Lookups

/-- `authenticateWithDPoP`: without a verifier no proof is looked at. -/
def Request.dpopOut (x : Request) : DPoPOutcome :=
  newDPoPOutcome (if x.deps.dpop then x.proof else none)

def newRefreshExchanger (deps : Deps) : Exchanger :=
  newExchanger ⟨deps.refreshTokenGraceTTL, true, deps.refreshTokenRotationDisabled⟩

def Request.exchangeInput (x : Request) : ExchangeInput := ⟨x.token, x.client.id, x.requestedScope⟩

inductive Written where
  | refused (refusal : Refusal)
  | issued (minted : AccessTokenInput) (response : SuccessResponse)
  | graceRetry (exchanged : Exchanged) (binding : TokenBinding)
  deriving DecidableEq

def Written.status : Written → ℕ
  | .refused refusal => refusal.status
  | _ => 200

/-- What a replay or a vanished subject is to be followed by. -/
structure Cascade where
  token : String := ""
  deprovisioned : Option String := none
  deriving DecidableEq

structure Completion where
  written : Written
  rollback : Bool := false
  cascade : Cascade := {}
  issued : Option IssuedUnderGrant := none
  deriving DecidableEq

def refuse (refusal : Refusal) : Completion := { written := .refused refusal }

/-! ### Before the exchange -/

def preflightRefreshScope (granted requested : List String) : Except Refusal (List String) :=
  if requested = [] then .ok granted
  else if requested.all (· ∈ granted) then .ok requested
  else .error (badRequest .invalidScope "requested scope exceeds the original grant")

def rejected : Refusal := badRequest .invalidGrant "refresh token rejected"

namespace Request
variable (x : Request)

def preflightRefreshSenderConstraint (rec : RefreshToken) : Except Refusal Unit := do
  enforceDPoPRefreshBinding x.deps x.dpopOut rec.dpopJKT
  requireMTLSMatch x.deps x.certificate rec.mtlsCertThumbprint
  enforceSenderConstraint x.deps ⟨x.dpopOut.jkt, rec.mtlsCertThumbprint⟩

/-- The checks the preflight makes of a live record. -/
def preflightRecord (rec : RefreshToken) (now : Time) : Except Refusal Unit := do
  require (decide (rec.clientID = x.client.id)) rejected
  require (decide (rec.expiresAt = 0 ∨ now ≤ rec.expiresAt)) rejected
  let scope ← preflightRefreshScope rec.scope x.requestedScope
  checkTokenScopeAllowlist x.deps x.client.id scope
  requireRegisteredScopes x.client scope
  enforceStrictOfflineAccess x.deps rec.scope rec.origin
  x.preflightRefreshSenderConstraint rec

/-- `preflightRefreshBeforeConsume`: the record, if there is a live one. -/
def preflightRefreshBeforeConsume : Program (Except Refusal (Option RefreshToken)) := do
  match ← ask (.find x.token) with
  | .error .notFound => pure (.ok none)
  | .error _ => pure (.error serverError)
  | .ok rec =>
    if rec.consumedAt ≠ none then pure (.ok none)
    else do
      let now ← ask .now
      match x.preflightRecord rec now with
      | .error refusal => pure (.error refusal)
      | .ok () => pure (.ok (some rec))

/-! ### After the exchange -/

def writeRefreshExchangeError : RefreshError → Refusal
  | .tokenMissing => rejected
  | .tokenExpired => rejected
  | .tokenReplayed => rejected
  | .clientMismatch => rejected
  | .scopeWidening => badRequest .invalidScope "requested scope exceeds the original grant"
  | _ => serverError

/-- The checks `completeRefreshToken` makes of what was exchanged, and the
binding of what it will issue. -/
def acceptExchanged (ex : Exchanged) : Except Refusal TokenBinding := do
  checkTokenScopeAllowlist x.deps x.client.id ex.scope
  requireRegisteredScopes x.client ex.scope
  enforceStrictOfflineAccess x.deps ex.boundScope ex.origin
  enforceDPoPRefreshBinding x.deps x.dpopOut ex.dpopJKT
  requireMTLSMatch x.deps x.certificate ex.mtlsCertThumbprint
  enforceSenderConstraint x.deps ⟨x.dpopOut.jkt, ex.mtlsCertThumbprint⟩
  pure ⟨x.dpopOut.jkt, ex.mtlsCertThumbprint⟩

def withChainID (ex : Exchanged) : Exchanged :=
  if ex.chainID ≠ "" then ex else { ex with chainID := x.freshChainID }

def refreshIssuanceChain (ex : Exchanged) : Exchanged :=
  if x.deps.refreshTokenRotationDisabled then ex else x.withChainID ex

end Request

def timeFromUnix (sec : ℤ) : Time := if sec = 0 then 0 else sec * Time.second

/-- `refreshExchangedForRotation`: the successor records the authorization that
was resolved for it. -/
def refreshExchangedForRotation (ex : Exchanged) (authCtx : AuthContext)
    (details : List JsonObject) : Exchanged :=
  { ex with
    authTime := timeFromUnix authCtx.authTime, acr := authCtx.acr, amr := authCtx.amr,
    authorizationDetails := details, claims := authCtx.encodedClaims,
    authorizationRecorded := true }

def requireAuthTimeForIDToken (client : Client) (scope : List String) (authTime : ℤ) :
    Except Refusal Unit :=
  require (!client.requireAuthTime || decide (scopeOpenID ∉ scope) || decide (authTime ≠ 0))
    ⟨500, .serverError, "required auth_time is unavailable"⟩

def grantIsOwnConsent (origin : RefreshTokenOrigin) : Bool := decide (origin ≠ .customGrant)

def chainGrantIDForResponse (deps : Deps) (ex : Exchanged) : String :=
  if grantIsOwnConsent ex.origin && deps.grantManagementEnabled then ex.grantID else ""

def refreshIssuedUnderGrant (ex : Exchanged) : IssuedUnderGrant := ⟨ex.grantID, ex.issuedAt, "", ""⟩

/-- `IssuedCredentials` teardown: the refresh rung retires the chain from the
issued token on. -/
def retireIssued (issued : IssuedUnderGrant) : Program Unit :=
  if issued.refreshToken = "" then pure ()
  else do
    let _ ← ask (.revokeChain issued.refreshToken)
    pure ()

/-- `refuseIssuanceUnderClosedGrant`: nothing when the exit may proceed. -/
def refuseIssuanceUnderClosedGrant (closure : Closure) (issued : IssuedUnderGrant) :
    Program (Option Refusal) :=
  if issued.grantID = "" then pure none
  else
    match closure with
    | .notClosed => pure none
    | .closed => do
        retireIssued issued
        pure (some rejected)
    | .unknown => do
        retireIssued issued
        pure (some serverError)

namespace Request
variable (x : Request)

/-- The input of the successor `rotateRefreshToken` has issued. -/
def rotationInput (ex : Exchanged) (binding : TokenBinding) : IssueInput :=
  { ex with
    clientID := x.client.id
    scope := ex.boundScope
    parentID := some ex.consumedID
    dpopJKT := if ex.dpopJKT = "" then refreshDPoPJKT x.client binding.dpopJKT else binding.dpopJKT
    mtlsCertThumbprint := binding.mtlsThumbprint }

/-- `rotateRefreshToken`: the response with its refresh token. The caller
answers every error alike, so an error is absence. -/
def rotateRefreshToken (ex : Exchanged) (binding : TokenBinding) (response : SuccessResponse) :
    Program (Option SuccessResponse) :=
  if !refreshIssuanceEnabled x.deps x.client then pure (some response)
  else
    let issuer := newIssuer ⟨pickRefreshTokenTTL x.deps ex.boundScope⟩
    if !x.deps.refreshRetryEncryption then do
      match ← issuer.issue x.fresh (x.rotationInput ex binding) with
      | .error _ => pure none
      | .ok token => pure (some { response with refreshToken := token })
    else do
      match ← issuer.prepare x.fresh (x.rotationInput ex binding) with
      | .error _ => pure none
      | .ok successor =>
        let response := { response with refreshToken := successor.id }
        match x.lookups.sealRetryResponse ex.consumedID response with
        | none => pure none
        | some contents =>
          match ← ask (.saveRotationWithRetry successor contents) with
          | .error _ => pure none
          | .ok () => pure (some response)

def rotateOrKeepRefreshToken (ex : Exchanged) (authCtx : AuthContext) (details : List JsonObject)
    (binding : TokenBinding) (response : SuccessResponse) : Program (Option SuccessResponse) :=
  if x.deps.refreshTokenRotationDisabled then pure (some response)
  else x.rotateRefreshToken (refreshExchangedForRotation ex authCtx details) binding response

/-- `mintRefreshAccessToken`: what is minted for the exchanged record. -/
def accessTokenInput (ex : Exchanged) (authCtx : AuthContext) (binding : TokenBinding)
    (details : List JsonObject) (now : Time) : AccessTokenInput where
  rawSubject := ex.subject
  subjectPublic := ex.subjectPublic
  clientID := x.client.id
  grantID := ex.grantID
  scope := ex.scope
  resource := ex.resource
  now := now
  authContext := authCtx
  binding := binding
  authorizationDetails := details
  extra := ex.accessTokenExtra
  forceJWT := ex.subjectPublic
  chainID := ex.chainID

/-- The second half of `issueRefreshResponse`: mint, then rotate. -/
def mintAndRotate (ex : Exchanged) (authCtx : AuthContext) (binding : TokenBinding)
    (details : List JsonObject) (now : Time) : Program Completion :=
  let minted := x.accessTokenInput ex authCtx binding details now
  match x.lookups.mintAccessToken minted, x.lookups.mintIDToken ex authCtx with
  | some accessToken, some idToken => do
      let response : SuccessResponse :=
        { accessToken := accessToken, tokenType := binding.tokenTypeFor,
          expiresIn := x.deps.accessTokenTTL / Time.second, refreshToken := "",
          idToken := idToken, scope := " ".intercalate ex.scope, authorizationDetails := details,
          grantID := chainGrantIDForResponse x.deps ex }
      match ← x.rotateOrKeepRefreshToken ex authCtx details binding response with
      | none => pure (refuse serverError)
      | some response =>
        let issued := refreshIssuedUnderGrant ex
        let issued :=
          { issued with accessToken := accessToken, refreshToken := response.refreshToken }
        pure { written := .issued minted response, issued := some issued }
  | _, _ => pure (refuse serverError)

def issueRefreshResponse (ex : Exchanged) (binding : TokenBinding) (details : List JsonObject) :
    Program Completion :=
  if ex.inGrace then pure { written := .graceRetry ex binding }
  else do
    let now ← ask .now
    match x.lookups.authContext ex with
    | none => pure (refuse serverError)
    | some authCtx =>
      match requireAuthTimeForIDToken x.client ex.scope authCtx.authTime with
      | .error refusal => pure (refuse refusal)
      | .ok () =>
        if !x.lookups.retirePriorOpaqueAccessTokens ex then pure (refuse serverError)
        else do
          match ← refuseIssuanceUnderClosedGrant (x.lookups.closedBeforeMint ex)
              (refreshIssuedUnderGrant ex) with
          | some refusal => pure (refuse refusal)
          | none => x.mintAndRotate (x.refreshIssuanceChain ex) authCtx binding details now

/-- What follows a successful exchange. Only a failed revalidation asks for the
transaction to be rolled back. -/
def finishExchanged (transactional : Bool) (details : List JsonObject) (ex : Exchanged) :
    Program Completion :=
  match if transactional then x.lookups.revalidateDetails ex else .ok () with
  | .error refusal => pure { refuse refusal with rollback := true }
  | .ok () =>
    match x.acceptExchanged ex with
    | .error refusal => pure (refuse refusal)
    | .ok binding =>
      match x.lookups.liveSubject ex with
      | .failed => pure (refuse serverError)
      | .deprovisioned =>
        pure { refuse (badRequest .invalidGrant "grant subject no longer exists") with
          cascade := { deprovisioned := some ex.grantID } }
      | .live => x.issueRefreshResponse ex binding details

def completeRefreshToken (transactional : Bool) (details : List JsonObject) :
    Program Completion := do
  let answer ← (newRefreshExchanger x.deps).exchange x.exchangeInput
  match answer.result with
  | .error err =>
    pure { refuse (writeRefreshExchangeError err) with
      cascade := { token := if err = .tokenReplayed then x.token else "" } }
  | .ok ex => x.finishExchanged transactional details ex

/-- `rotationOutcome.confirm`: a grant closed in the meantime is honoured. -/
def confirm (c : Completion) : Program Written :=
  match c.issued with
  | none => pure c.written
  | some issued => do
      match ← refuseIssuanceUnderClosedGrant (x.lookups.closedAfterwards issued) issued with
      | none => pure c.written
      | some refusal => pure (.refused refusal)

end Request

/-- `replayCascade.run` on the refresh tokens. The teardown of a vanished
subject's grant reaches them by the grant. -/
def Cascade.run (c : Cascade) : Program Unit := do
  match c.deprovisioned with
  | some grantID =>
    if grantID = "" then pure ()
    else do
      let _ ← ask (.revokeByGrant grantID)
      pure ()
  | none => pure ()
  let _ ← revokeReplayedChain c.token
  pure ()

/-! ### Transactions -/

/-- The calls of the handler: those of the store, and a whole transaction. The
in-memory transaction holds the locks of the store from its begin to its end. -/
inductive EndpointCall where
  | store (o : StoreCall)
  | transact (p : Program Completion)

@[reducible] def EndpointCall.Reply : EndpointCall → Type
  | store o => o.Reply
  | transact _ => Completion

abbrev EndpointProgram (A : Type) := Prog EndpointCall EndpointCall.Reply A

def transact (p : Program Completion) : EndpointProgram Completion :=
  Prog.perform (EndpointCall.transact p)

def onStore {A : Type} : Program A → EndpointProgram A
  | .ret a => .ret a
  | .call o k => .call (.store o) fun r => onStore (k r)

/-- What a call in a transaction leaves open: the order Go ranges in, and the
time since the call before. -/
structure Instant where
  order : KeyOrder
  elapsed : ℕ

structure TxWorld where
  tx : RefreshTx
  clock : Time

def stagedHandle (D : KeyDigest) (i : Instant) : (o : StoreCall) → TxWorld → TxWorld × o.Reply
  | .find id, w => (⟨w.tx, w.clock + i.elapsed⟩, RefreshTx.find D (w.clock + i.elapsed) w.tx id)
  | .consume id, w =>
    let r := RefreshTx.consume D (w.clock + i.elapsed) w.tx id
    (⟨r.1, w.clock + i.elapsed⟩, r.2)
  | .save token, w =>
    let r := w.tx.save D (some token)
    (⟨r.1, w.clock + i.elapsed⟩, r.2)
  | .saveRotationWithRetry token contents, w =>
    let r := w.tx.saveRotationWithRetry D (some token) contents
    (⟨r.1, w.clock + i.elapsed⟩, r.2)
  | .revokeChain rootID, w =>
    let r := RefreshTx.revokeChain D i.order (w.clock + i.elapsed) w.tx rootID
    (⟨r.1, w.clock + i.elapsed⟩, r.2)
  | .revokeByGrant grantID, w =>
    (⟨RefreshTx.revokeByGrant i.order (w.clock + i.elapsed) w.tx grantID, w.clock + i.elapsed⟩,
      .ok ())
  | .now, w => (⟨w.tx, w.clock + i.elapsed⟩, w.clock + i.elapsed)

/-- `runRefreshTokenTransaction` commits unless a rollback was asked for or the
staged response is a server error. -/
def commits (c : Completion) : Bool := !c.rollback && decide (c.written.status < 500)

structure Choices where
  order : KeyOrder
  instants : ℕ → Instant

def handleEndpoint (D : KeyDigest) (e : Choices) : (o : EndpointCall) → World → World × o.Reply
  | .store o, w => ChainRetirement.handle D e.order o w
  | .transact p, w =>
    let r := p.runAlone (stagedHandle D) e.instants ⟨RefreshTx.openOn w.store, w.clock⟩
    if commits r.2 then (⟨r.1.tx.commit D e.order r.1.clock, r.1.clock⟩, r.2)
    else (⟨r.1.tx.rollback, r.1.clock⟩, r.2)

/-! ### The handler -/

structure Handled where
  request : Request
  written : Written

/-- The two ways through the exchange and what follows it. -/
def Request.redeem (x : Request) (details : List JsonObject) : EndpointProgram Written :=
  if x.deps.transactions && !x.deps.refreshTokenRotationDisabled then do
    let c ← transact (x.completeRefreshToken true details)
    let written ← if commits c then onStore (x.confirm c) else pure c.written
    onStore c.cascade.run
    pure written
  else do
    let c ← onStore (x.completeRefreshToken false details)
    let written ← onStore (x.confirm c)
    onStore c.cascade.run
    pure written

/-- `handleRefreshToken`, once the client has authenticated. -/
def Request.handleRefreshToken (x : Request) : EndpointProgram Handled :=
  if x.token = "" then
    pure ⟨x, .refused (badRequest .invalidRequest "refresh_token is required")⟩
  else
    match checkTokenScopeAllowlist x.deps x.client.id x.requestedScope with
    | .error refusal => pure ⟨x, .refused refusal⟩
    | .ok () =>
      match x.lookups.requestedDetails with
      | .error refusal => pure ⟨x, .refused refusal⟩
      | .ok requested => do
          match ← onStore x.preflightRefreshBeforeConsume with
          | .error refusal => pure ⟨x, .refused refusal⟩
          | .ok presented =>
            match x.lookups.effectiveDetails presented requested with
            | .error refusal => pure ⟨x, .refused refusal⟩
            | .ok details => do
                let written ← x.redeem details
                pure ⟨x, written⟩

def refreshEndpoint (D : KeyDigest) :
    System World EndpointCall EndpointCall.Reply Handled Choices Surroundings Request where
  handle := handleEndpoint D
  ambient := Surroundings.apply D
  program := Request.handleRefreshToken

def idle (clock : Time) : Config World EndpointCall EndpointCall.Reply Handled :=
  ⟨⟨newRefreshStore, clock⟩, []⟩

end OidcProvider.RefreshEndpoint
